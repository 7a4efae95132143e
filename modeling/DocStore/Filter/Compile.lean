import DocStore.Filter.Meaning
import DocStore.Log

/-!
# Compiling filters

A filter compiles to the text of its condition and the values bound in it.
Entries that contribute nothing are reported; in strict mode the first unknown
operator ends the compilation instead.  Values bound before the end stay bound.
-/

namespace DocStore

namespace FilterNote

/-- The report of an entry that contributes nothing. -/
def text : FilterNote → String
  | unsupported operator => "Skipping unsupported filter operator '" ++ operator ++ "'"
  | notSequence operator path =>
      "Ignoring " ++ operator ++ " on '" ++ path ++ "': operand is not a sequence"

def entry (note : FilterNote) : LogEntry :=
  { level := .debug, component := .filter, text := note.text }

/-- The error that a strict compilation raises for a note, if it raises one. -/
def refusal? : FilterNote → Option StoreError
  | unsupported operator => some (.unsupported operator "filter")
  | notSequence _ _ => none

end FilterNote

namespace Filter

/-- What the events of a compilation amount to. -/
structure Trail where
  bound : List Value
  log : List LogEntry
  failure : Option Failure

/-- Follows events up to the one that ends the compilation. -/
def follow (strict : Bool) : List FilterEvent → Trail
  | [] => { bound := [], log := [], failure := none }
  | .bind value :: events =>
      let trail := follow strict events
      { trail with bound := value :: trail.bound }
  | .unwritable fault :: _ => { bound := [], log := [], failure := some (.fault fault) }
  | .note note :: events =>
      match strict, note.refusal? with
      | true, some error => { bound := [], log := [], failure := some (.store error) }
      | _, _ =>
          let trail := follow strict events
          { trail with log := note.entry :: trail.log }

def trail (strict : Bool) (filter : Value) : Trail :=
  follow strict (condition filter).events

/-- Compiles a filter to the fragment of its condition; a filter to which nothing
contributes has none. -/
def compile (dialect : Dialect) (strict : Bool) (filter : Value) :
    Logged (Option Sql.Fragment) := fun entries =>
  let trail := trail strict filter
  match trail.failure with
  | some failure => (.error failure, entries ++ trail.log)
  | none => (.ok ((condition filter).fragment? dialect), entries ++ trail.log)

/-- Compiles a filter of a statement whose filters share the values bound so far.  What is
bound before an error stays bound. -/
def build (dialect : Dialect) (strict : Bool) (filter : Value) :
    StateM (List Value) (Logged (Option Sql.Fragment)) := fun values =>
  (compile dialect strict filter, values ++ (trail strict filter).bound)

end Filter

end DocStore
