import DocStore.Json.Decode
import DocStore.Schema.Draft
import DocStore.Text.Encoding

/-!
# Schemas as resources

A schema together with the draft by which its parts are found: its own address, the
anchors it declares, and the schemas inside of it.
-/

namespace DocStore

structure SchemaResource where
  draft : Draft
  contents : Value

/-- The keywords of a draft that hold schemas: one schema, a list of them, or a table of
them. -/
structure SchemaPlaces where
  single : List String
  lists : List String
  tables : List String

namespace Draft

def places : Draft → SchemaPlaces
  | three =>
      { single := []
        lists := ["extends"]
        tables := ["definitions", "patternProperties", "properties"] }
  | four =>
      { single := ["not"]
        lists := ["allOf", "anyOf", "oneOf"]
        tables := ["definitions", "patternProperties", "properties"] }
  | six =>
      { single :=
          ["additionalItems", "additionalProperties", "contains", "not", "propertyNames"]
        lists := ["allOf", "anyOf", "oneOf"]
        tables := ["definitions", "patternProperties", "properties"] }
  | seven =>
      { single :=
          [ "additionalItems", "additionalProperties", "contains", "else", "if", "not",
            "propertyNames", "then" ]
        lists := ["allOf", "anyOf", "oneOf"]
        tables := ["definitions", "patternProperties", "properties"] }
  | of2019 =>
      { single :=
          [ "additionalItems", "additionalProperties", "contains", "contentSchema", "else", "if",
            "not", "propertyNames", "then", "unevaluatedItems", "unevaluatedProperties" ]
        lists := ["allOf", "anyOf", "oneOf"]
        tables :=
          ["$defs", "definitions", "dependentSchemas", "patternProperties", "properties"] }
  | of2020 =>
      { single :=
          [ "additionalProperties", "contains", "contentSchema", "else", "if", "items", "not",
            "propertyNames", "then", "unevaluatedItems", "unevaluatedProperties" ]
        lists := ["allOf", "anyOf", "oneOf", "prefixItems"]
        tables :=
          ["$defs", "definitions", "dependentSchemas", "patternProperties", "properties"] }

/-- Keywords that hold a schema unless they hold a truth value. -/
def looseSingles : Draft → List String
  | three => ["additionalItems", "additionalProperties"]
  | four => ["additionalItems", "additionalProperties"]
  | _ => []

/-- Whether the schemas of elements are one schema or a list of them. -/
def hasItemLists : Draft → Bool
  | of2020 => false
  | _ => true

/-- Whether dependencies are schemas or lists of names. -/
def hasDependencies : Draft → Bool
  | of2019 => false
  | of2020 => false
  | _ => true

def addressKeyword : Draft → String
  | three => "id"
  | four => "id"
  | _ => "$id"

end Draft

namespace SchemaResource

/-- The text of an address, a part of which is asked for. -/
def addressText : Value → Except Fault String
  | .text address => .ok address
  | .bytes _ => .error .unsuitableKind
  | _ => .error .notAnObject

/-- The address that a schema gives itself, without number signs at its end.  In the
earlier drafts a reference hides it, and a fragment is none. -/
def address? (resource : SchemaResource) : Except Fault (Option String) := do
  let keyword := resource.draft.addressKeyword
  let isFlag := resource.contents.kind = .bool && keyword = "$id"
  if isFlag then pure none
  else
    let refers ←
      if resource.draft.hidesSiblings then resource.contents.holds (.text "$ref") else pure false
    if refers then pure none
    else
      match ← resource.contents.member? keyword with
      | none => pure none
      | some .null => pure none
      | some given => do
          let given ← addressText given
          if resource.draft.hidesSiblings && given.toList.head? == some '#' then pure none
          else pure (some (Address.withoutTrailingSigns given))

/-! ## Anchors -/

/-- A name of a place in a schema.  A dynamic one may be overridden by the schemas that
refer to it. -/
structure Anchor where
  name : Key
  resource : SchemaResource
  isDynamic : Bool

def anchorAt (resource : SchemaResource) (keyword : String) (isDynamic : Bool) :
    Except Fault (List Anchor) := do
  match ← resource.contents.member? keyword with
  | none => pure []
  | some .null => pure []
  | some name => do
      let name ← name.asKey
      pure [{ name, resource, isDynamic }]

/-- The anchor in the address of a schema: an address that is a fragment. -/
def anchorInAddress (resource : SchemaResource) : Except Fault (List Anchor) := do
  let given ← resource.contents.member? resource.draft.addressKeyword
  let given ← addressText (given.getD (.text ""))
  match given.toList with
  | '#' :: name => pure [{ name := .text (String.ofList name), resource, isDynamic := false }]
  | _ => pure []

def anchors (resource : SchemaResource) : Except Fault (List Anchor) :=
  match resource.draft, resource.contents with
  | .three, _ => resource.anchorInAddress
  | .four, _ => resource.anchorInAddress
  | _, .bool _ => .ok []
  | .six, _ => resource.anchorInAddress
  | .seven, _ => resource.anchorInAddress
  | .of2019, _ => resource.anchorAt "$anchor" false
  | .of2020, _ => do
      let plain ← resource.anchorAt "$anchor" false
      let dynamic ← resource.anchorAt "$dynamicAnchor" true
      pure (plain ++ dynamic)

/-! ## Parts -/

/-- What a keyword of a value holds, if the value has the keyword. -/
def held (contents : Value) (keyword : String) : Except Fault (Option Value) := do
  let present ← contents.holds (.text keyword)
  if present then (contents.fetch keyword).map some else pure none

/-- The schemas at a keyword with one schema. -/
def singlePart (contents : Value) (keyword : String) : Except Fault (List Value) :=
  (held contents keyword).map Option.toList

/-- The schemas at a keyword with a list of schemas. -/
def listParts (contents : Value) (keyword : String) : Except Fault (List Value) := do
  match ← held contents keyword with
  | some schemas => schemas.walk
  | none => pure []

/-- The schemas at a keyword with a table of schemas. -/
def tableParts (contents : Value) (keyword : String) : Except Fault (List Value) := do
  match ← held contents keyword with
  | some schemas => schemas.asObject.map fun members => members.map Prod.snd
  | none => pure []

/-- The schemas of elements: those of a list, or one. -/
def itemParts (contents : Value) : Except Fault (List Value) := do
  match ← contents.member? "items" with
  | none => pure []
  | some .null => pure []
  | some (.text content) => (Value.text content).walk
  | some items => pure (items.sequence?.getD [items])

/-- The schemas of dependencies, if the first dependency is one. -/
def dependencyParts (contents : Value) : Except Fault (List Value) := do
  match ← contents.member? "dependencies" with
  | none => pure []
  | some .null => pure []
  | some dependencies => do
      let members ← dependencies.asObject
      match members with
      | (_, .object _) :: _ => pure (members.map Prod.snd)
      | _ => pure []

/-- The schema at a keyword, if it holds an object. -/
def loosePart (contents : Value) (keyword : String) : Except Fault (List Value) := do
  match ← contents.member? keyword with
  | some (.object members) => pure [.object members]
  | _ => pure []

def partValues (resource : SchemaResource) : Except Fault (List Value) := do
  let draft := resource.draft
  let contents := resource.contents
  if contents.kind = .bool && draft.looseSingles.isEmpty then pure []
  else
    let single ← draft.places.single.mapM (singlePart contents)
    let lists ← draft.places.lists.mapM (listParts contents)
    let tables ← draft.places.tables.mapM (tableParts contents)
    let items ← if draft.hasItemLists then itemParts contents else pure []
    let dependencies ← if draft.hasDependencies then dependencyParts contents else pure []
    let loose ← draft.looseSingles.mapM (loosePart contents)
    pure (single.flatten ++ lists.flatten ++ tables.flatten ++ items ++ dependencies
      ++ loose.flatten)

/-- The schemas inside of a schema, each with its draft. -/
def parts (resource : SchemaResource) : Except Fault (List SchemaResource) := do
  let values ← resource.partValues
  values.mapM fun contents => do
    let draft ← resource.draft.ofParts contents
    pure { draft, contents }

/-- Whether the end of a path of keys is a schema, `contents` being the value there. -/
def leadsToSchema (draft : Draft) (contents : Value) : List Key → Bool
  | [] => true
  | key :: keys =>
      let within (names : List String) : Bool := (names.map Key.text).contains key
      if contents.isObject && ((draft.hasItemLists && within ["items"])
          || (draft.hasDependencies && within ["dependencies"])) then true
      else if within (draft.places.single ++ draft.looseSingles) then
        leadsToSchema draft contents keys
      else if within (draft.places.lists ++ draft.places.tables) then
        match keys with
        | [] => false
        | _ :: keys => leadsToSchema draft contents keys
      else false

end SchemaResource

/-! ## Addresses that hold a schema

An address of the scheme `data` holds what it names: a media type, a comma, and a text with
percent escapes, or its bytes in base 64.
-/

namespace SchemaResource

/-- An address without blanks around it and without the marks that may enclose it. -/
def unwrapped (address : List Char) : List Char :=
  let bare := trimBlanks address
  let bare :=
    if bare.head? = some '<' && bare.getLast? = some '>' then
      trimBlanks ((bare.drop 1).dropLast)
    else bare
  if bare.take 4 = "URL:".toList then trimBlanks (bare.drop 4) else bare

/-- The bytes of a text, its percent escapes decoded. -/
def unescapedBytes (text : List Char) : List UInt8 :=
  Address.unescape ((String.ofList text).toUTF8.toList.map fun byte => Char.ofNat byte.toNat)

def heldBytes? (address : String) : Option (List UInt8) :=
  let (scheme, rest) := cutFirst ':' (unwrapped address.toList)
  if scheme.map Char.toLower ≠ "data".toList || !rest.contains ',' then none
  else
    let (mediaType, content) := cutFirst ',' rest
    let bytes := unescapedBytes content
    if ";base64".toList.isSuffixOf mediaType then Base64.decode? bytes else some bytes

/-- The mark that may stand in front of UTF-8 bytes. -/
def byteOrderMark : List UInt8 := [0xef, 0xbb, 0xbf]

/-- A text from bytes, without a mark in front. -/
def textOfBytes? (bytes : List UInt8) : Option String :=
  let content := if byteOrderMark.isPrefixOf bytes then bytes.drop 3 else bytes
  (Utf8.decode? content).map String.ofList

/-- The schema that an address holds; it is of the last draft unless it names another. -/
def embedded? (address : String) : Option SchemaResource := do
  let bytes ← heldBytes? address
  let text ← textOfBytes? bytes
  let contents ← (Json.decode text).toOption
  let draft ← (Draft.ofParts .of2020 contents).toOption
  pure { draft, contents }

end SchemaResource

end DocStore
