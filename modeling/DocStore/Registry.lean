import DocStore.Error
import DocStore.Sql.Fragment
import DocStore.Value.Equality
import DocStore.Value.Display

/-!
# Registries of names

A registry maps names to implementations.  Creation by name fails for unknown
names and tells the known ones; resolution of a dialect never fails, unknown
names getting the fallback.
-/

namespace DocStore

/-- A table from names to implementations, without repeated names.  Any key may be a
name. -/
abbrev Registry (α : Type) := List (Key × α)

namespace Registry

variable {α : Type}

def get? (name : Key) : Registry α → Option α
  | [] => none
  | (known, implementation) :: registry =>
      if known.same name then some implementation else get? name registry

/-- Registers an implementation, replacing an earlier one of that name. -/
def register (name : Key) (implementation : α) : Registry α → Registry α
  | [] => [(name, implementation)]
  | (known, old) :: registry =>
      if known.same name then (known, implementation) :: registry
      else (known, old) :: register name implementation registry

def names (registry : Registry α) : Except Fault (List Key) :=
  sortKeys (registry.map Prod.fst)

/-- The message about a name that is not among the registered ones. -/
def unknownName (noun : String) (known : List Key) (name : Key) : Wording :=
  "Unsupported " ++ noun ++ ": '" ++ name.toValue.plainWording ++ "'. Registered " ++ noun
    ++ "s: " ++ (Value.list (known.map Key.toValue)).wording ++ "."

/-- The implementation of a name, or an error that tells the known names. -/
def create (registry : Registry α) (noun : String) (name : Key) : Except Failure α :=
  match registry.get? name with
  | some implementation => .ok implementation
  | none =>
      match registry.names.bind fun known => unknownName noun known name with
      | .ok message => .error (.store (.configuration message none))
      | .error fault => .error (.fault fault)

end Registry

def knownDialects : Registry Dialect := [("postgres", .postgres), ("mysql", .mysql)]

/-- The name whose dialect serves unknown names. -/
def fallbackDialect : Key := "mysql"

def Registry.resolve (registry : Registry Dialect) (name : Key) : Dialect :=
  ((registry.get? name).orElse fun _ => registry.get? fallbackDialect).getD .mysql

end DocStore
