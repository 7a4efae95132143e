import DocStore.Registry
import DocStore.Value.Access

/-!
# Registries by name

Compilers and drivers are registered for dialects under names.  Both registries can be used
by a verb with positional arguments of any kind.
-/

namespace DocStore

/-- The dialects that compilers and drivers are registered for. -/
structure Registries where
  compilers : Registry Dialect := knownDialects
  drivers : Registry Dialect := knownDialects

/-- A dialect as it is written in the names of what implements it. -/
def Dialect.brand : Dialect → String
  | .postgres => "Postgres"
  | .mysql => "MySQL"

namespace Registries

/-- A dialect that is known from the start. -/
def builtin (name : Value) : Except Fault Dialect := do
  let name ← name.asKey
  (knownDialects.get? name).elim (throw .missingEntry) pure

def add (registry : Registry Dialect) (name implementation : Value) :
    Except Fault (Dialect × Registry Dialect) := do
  let dialect ← builtin implementation
  let name ← name.asKey
  pure (dialect, registry.register name dialect)

def created (registry : Registry Dialect) (noun : String) (name : Value) :
    Except Failure Value := do
  let name ← name.asKey
  let dialect ← registry.create noun name
  pure (.text dialect.name)

def nameList (registry : Registry Dialect) : Except Fault Value :=
  registry.names.map fun names => .list (names.map Key.toValue)

/-- Answers a verb, and changes the registries if it registers a name. -/
def call (registries : Registries) (verb : String) (arguments : List Value) :
    Except Failure (Value × Registries) :=
  match verb, arguments with
  | "register_compiler", [name, implementation] => do
      let (_, compilers) ← add registries.compilers name implementation
      pure (.null, { registries with compilers })
  | "register_driver", [name, implementation] => do
      let (_, drivers) ← add registries.drivers name implementation
      pure (.null, { registries with drivers })
  | "decorate_compiler", [name, implementation] => do
      let (dialect, compilers) ← add registries.compilers name implementation
      pure (.text (dialect.brand ++ "Compiler"), { registries with compilers })
  | "decorate_driver", [name, implementation] => do
      let (dialect, drivers) ← add registries.drivers name implementation
      pure (.text (dialect.brand ++ "Driver"), { registries with drivers })
  | "create_compiler", [name] => do
      let answer ← created registries.compilers "dialect" name
      pure (answer, registries)
  | "create_driver", [name] => do
      let answer ← created registries.drivers "driver" name
      pure (answer, registries)
  | "resolve_compiler", [name] => do
      let name ← name.asKey
      pure (.text (registries.compilers.resolve name).name, registries)
  | "resolve_instance", [implementation] => do
      let dialect ← builtin implementation
      pure (.text dialect.name, registries)
  | "compilers", [] => do
      let names ← nameList registries.compilers
      pure (names, registries)
  | "drivers", [] => do
      let names ← nameList registries.drivers
      pure (names, registries)
  | _, _ => throw (.fault .unsuitableKind)

end Registries

end DocStore
