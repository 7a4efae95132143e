import DocStore.Fault
import DocStore.Options.Issue

/-!
# Errors of the store

All errors that the library raises itself are `StoreError`s.  Each has a
message, a code, a category and a text that is safe to show to an end user; some
carry the failure they were raised for.
-/

namespace DocStore

/-- The kinds of failure that an engine's native layer raises. -/
inductive EngineFailureKind where
  /-- A failure that the engine itself reports. -/
  | engine
  /-- What the engine's native layer was given makes no sense to it. -/
  | misuse
  /-- A failure of the operating system, such as a refused connection. -/
  | system
  | timeout
  /-- Any other failure. -/
  | other
deriving DecidableEq

/-- Whether failures of a kind come from an engine's own layer. -/
def EngineFailureKind.isNative : EngineFailureKind → Bool
  | engine => true
  | misuse => true
  | _ => false

/-- A failure of the native layer, with its own text. -/
structure EngineFailure where
  kind : EngineFailureKind
  text : String
deriving DecidableEq

/-- What an error was raised for. -/
inductive Origin where
  | engine (failure : EngineFailure)
  | fault (fault : Fault)
  | options (report : IssueReport)
  | schema
deriving DecidableEq

inductive StoreError where
  | general (message code : String) (ownCategory userText : Option String)
      (origin : Option Origin)
  /-- The reason is what another library has against the data. -/
  | configuration (message : String) (origin : Option Origin) (reason : Option String := none)
  | connection (message code : String) (origin : Option Origin)
  | query (message code : String) (origin : Option Origin) (sql : Option String)
  | unsupported (operator kind : String)
  | invalidUpdate (message field : String) (origin : Option Origin)
  | documentInvalid (collection : Key) (errors : List String)
  | transaction (message code : String)
deriving DecidableEq

namespace StoreError

/-- Description for developers, in one line. -/
def message : StoreError → String
  | general message .. => message
  | configuration message .. => message
  | connection message .. => message
  | query message .. => message
  | unsupported operator kind =>
      "Unsupported " ++ kind ++ " operator: '" ++ operator ++ "'."
  | invalidUpdate message .. => message
  | documentInvalid collection errors =>
      "Document rejected by schema of collection '" ++ collection.shown ++ "': "
        ++ (if errors.isEmpty then "schema mismatch" else String.intercalate "; " errors)
  | transaction message _ => message

/-- The whole description: the message, and the reason if there is one. -/
def description (error : StoreError) : String :=
  match error with
  | configuration message _ (some reason) => message ++ ": " ++ reason
  | error => error.message

/-- Machine-readable code. -/
def code : StoreError → String
  | general _ code .. => code
  | configuration .. => "CONFIG"
  | connection _ code _ => code
  | query _ code .. => code
  | unsupported .. => "UNSUPPORTED_OPERATOR"
  | invalidUpdate .. => "INVALID_UPDATE"
  | documentInvalid .. => "DOCUMENT_INVALID"
  | transaction _ code => code

/-- The part of the system that an error belongs to. -/
def category : StoreError → String
  | general _ _ ownCategory .. => ownCategory.getD "General"
  | configuration .. => "Configuration"
  | connection .. => "Connection"
  | query .. => "Query"
  | unsupported .. => "Query"
  | invalidUpdate .. => "Query"
  | documentInvalid .. => "Validation"
  | transaction .. => "Transaction"

/-- Text that is safe to show to end users. -/
def userMessage : StoreError → String
  | general _ _ _ userText _ =>
      match userText with
      | some text => if text.isEmpty then "An unexpected error occurred." else text
      | none => "An unexpected error occurred."
  | configuration .. => "The database client is misconfigured."
  | connection .. => "Could not connect to the database."
  | query .. => "The database query failed."
  | unsupported .. => "The query uses an unsupported operator."
  | invalidUpdate .. => "The update could not be applied."
  | documentInvalid .. => "The document does not match the collection schema."
  | transaction .. => "The transaction could not be completed."

/-- What an error was raised for, if it was raised for another failure. -/
def origin : StoreError → Option Origin
  | general _ _ _ _ origin => origin
  | configuration _ origin _ => origin
  | connection _ _ origin => origin
  | query _ _ origin _ => origin
  | invalidUpdate _ _ origin => origin
  | _ => none

/-- The collection and the messages of a rejected document. -/
def details : StoreError → Option Members
  | documentInvalid collection errors =>
      some [("collection", collection.toValue), ("errors", .list (errors.map .text))]
  | _ => none

/-- What an error says besides its message: the operator, the field or the statement
it is about, or the issues of rejected options. -/
def attributes : StoreError → Members
  | query _ _ _ sql => [("sql", .optional .text sql)]
  | unsupported operator kind => [("operator", .text operator), ("kind", .text kind)]
  | invalidUpdate _ field _ => [("field", .text field)]
  | configuration _ (some (.options report)) _ => [("issues", report.toValue)]
  | _ => []

/-- The structured answer for an interface layer. -/
def response (error : StoreError) : Members :=
  let told : Members :=
    [ ("error", .text error.code), ("category", .text error.category),
      ("message", .text error.message), ("user_message", .text error.userMessage) ]
  match error.details with
  | some details => told ++ ([("details", .object details)] : Members)
  | none => told

/-- An operation was called before the pool was opened. -/
def notConnected (label : String) : StoreError :=
  .connection (label ++ " driver is not connected; call connect() first") "NOT_CONNECTED" none

end StoreError

/-- Everything that can end an operation early. -/
inductive Failure where
  | store (error : StoreError)
  | engine (failure : EngineFailure)
  | fault (fault : Fault)
  | options (report : IssueReport)
  /-- An error of the caller's own code inside a scope. -/
  | caller (message : String)
  /-- The operation was cancelled; no ordinary handler takes this. -/
  | cancelled
deriving DecidableEq

/-- A fault ends a larger operation as a failure. -/
instance : MonadLift (Except Fault) (Except Failure) :=
  ⟨fun outcome => outcome.mapError .fault⟩

namespace Failure

/-- Whether an ordinary handler takes the failure. -/
def isOrdinary : Failure → Bool
  | cancelled => false
  | _ => true

def text : Failure → String
  | store error => error.description
  | engine failure => failure.text
  | options report => report.summary
  | caller message => message
  | _ => ""

end Failure

end DocStore
