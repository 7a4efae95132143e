import DocStore.Json.Decode
import DocStore.Json.Encode
import DocStore.Operator
import DocStore.Text.Encoding
import DocStore.Value.Access
import DocStore.Value.Display

/-!
# Stored documents

A document is stored as JSON text.  Reading a stored column accepts text, the
UTF-8 bytes of text, and values that the engine has decoded already.  The module
also holds the operations that keep or drop fields of a document.
-/

namespace DocStore

namespace Value

/-- Adds one pair, given as a value that walks over a key and its value. -/
def addPair (members : Members) (pair : Value) : Except Fault Members := do
  match ← pair.walk with
  | [key, value] => do
      let key ← key.asKey
      pure (members.set key value)
  | _ => .error .malformedValue

/-- The object that a value stands for: itself, or a sequence of pairs. -/
def toMembers : Value → Except Fault Members
  | .object members => .ok members
  | value => do
      let pairs ← value.walk
      pairs.foldlM addPair []

end Value

namespace Document

/-- Writes a document as it is stored. -/
def encode (document : Value) : Except Fault String := Json.encode document

/-- Reads a stored document. -/
def decode : Value → Except Fault Value
  | .bytes content =>
      match Utf8.decode? content with
      | some characters => Json.decode (String.ofList characters)
      | none => .error .malformedUtf8
  | .text content => Json.decode content
  | value => do
      let members ← value.toMembers
      pure (.object members)

def column (row : Value) (name : String) : Except Fault Value :=
  match row with
  | .object members => (Members.get? name members).elim (.error .missingEntry) .ok
  | _ => .error .unsuitableKind

/-- The field of a document at a key.  A value that is no object has no fields,
and only some such values can be asked. -/
def field? (document : Value) (key : Key) : Except Fault (Option Value) := do
  let present ← document.holds key.toValue
  if present then (document.fetch key).map some else pure none

/-- Keeps the fields that are flagged, in the order of the flags. -/
def keepFlagged (document : Value) : Members → Except Fault Members
  | [] => .ok []
  | (key, flag) :: flags => do
      let kept ← if flag.isTruthy then field? document key else pure none
      let rest ← keepFlagged document flags
      pure (match kept with
        | some value => (key, value) :: rest
        | none => rest)

/-- Applies the projection of a search.  A flag that is set makes it keep the
flagged fields; otherwise the named fields are dropped. -/
def project (document projection : Value) : Except Fault Members :=
  if !projection.isTruthy then document.toMembers
  else do
    let flags ← projection.asObject
    if flags.any fun flag => flag.2.isTruthy then keepFlagged document flags
    else do
      let members ← document.asObject
      pure (members.filter fun member => !(Members.contains flags member.1))

def projectFields (document specification : Value) : Except Fault Members := do
  let flags ← specification.asObject
  keepFlagged document flags

def unwindField (specification : Value) : Except Fault String :=
  let path := match specification with
    | .object members => ((Members.get? "path" members).getD (.text ""))
    | value => value
  path.plainWording.map fieldOfReference

/-- One document per element of the list at a field; other documents pass
unchanged. -/
def unwindOne (field : String) (document : Value) : Except Fault (List Value) := do
  let members ← document.asObject
  match members.get? field with
  | some (.list items) => pure (items.map fun item => .object (members.set field item))
  | _ => pure [document]

def unwind (documents : List Value) (specification : Value) : Except Fault (List Value) := do
  let field ← unwindField specification
  let unwound ← documents.mapM (unwindOne field)
  pure unwound.flatten

def holdsOperator : Value → Bool
  | .object members => members.any fun member => hasDollar member.1.shown
  | _ => false

/-- The plain equalities of a filter, which seed the document that an update
inserts when nothing matches. -/
def equalityFields (filter : Value) : Except Fault Members :=
  if !filter.isTruthy then .ok []
  else do
    let entries ← filter.asObject
    pure (entries.filter fun entry =>
      !(hasDollar entry.1.shown || (Combinator.ofKey? entry.1.shown).isSome
        || holdsOperator entry.2))

end Document

end DocStore
