import DocStore.Engine.Interface
import DocStore.Options.Call
import DocStore.Pipeline.Plan
import DocStore.Schema.Catalog
import DocStore.Schema.Validity
import DocStore.Sql.Catalog

/-!
# The interface below the client

The verbs of the client ask for tables, for statements on documents, for the time
and for randomness.  A request carries both the command on documents and the
statement that it was compiled to: the engine needs the statement, and the
command says what the statement is for.
-/

namespace DocStore

/-- What is to be done with the documents of a collection. -/
inductive Command where
  | select (collection : String) (filter : Value) (options : FindOptions)
  | count (collection : String) (filter : Value)
  | aggregate (collection : String) (pipeline : Value)
  | insert (collection : String) (documents : List Members)
  | update (collection : String) (id : Value) (document : Members)
  | delete (collection : String) (id : Value)

/-- A command with its statement. -/
structure Request where
  command : Command
  statement : Statement

namespace Command

def compile (settings : CompileSettings) : Command → Logged Statement
  | select collection filter options =>
      Query.select settings collection filter (.optional SortOrder.toValue options.sort)
        (.optional .natural options.limit) (.optional .natural options.skip)
  | count collection filter => Query.count settings collection filter
  | aggregate collection pipeline => do
      let plan ← PipelinePlan.compile settings collection pipeline
      pure plan.statement
  | insert collection documents =>
      Query.insert settings collection (documents.map .object)
  | update collection id document => Query.update settings collection id (.object document)
  | delete collection id => Query.delete settings collection id

def request (settings : CompileSettings) (command : Command) : Logged Request := do
  let statement ← command.compile settings
  pure { command, statement }

end Command

inductive StoreCall where
  | tableExists (collection : String)
  | createTable (collection : String)
  | dropTable (collection : String)
  | listTables
  /-- Runs a statement text as it is. -/
  | direct (sql : String)
  /-- Runs a request and yields its rows. -/
  | run (request : Request) (session : Option SessionId)
  /-- Runs the request of an insertion and yields the generated row ids. -/
  | insert (request : Request) (count : Nat) (session : Option SessionId)
  | createIndex (collection : String) (keys : Members) (options : IndexOptions)
  | dropIndex (collection name : String)
  | listIndexes (collection : String)
  | seconds
  | randomBytes (count : Nat)

namespace StoreCall

/-- The reply to a call: randomness is always known, and all else may fail. -/
abbrev Reply : StoreCall → Type
  | tableExists _ => Except Failure Bool
  | listTables => Except Failure (List String)
  | run .. => Except Failure (List Value)
  | insert .. => Except Failure (List Value)
  | createIndex .. => Except Failure String
  | listIndexes _ => Except Failure (List IndexDescription)
  | seconds => Except Failure Int
  | randomBytes _ => List UInt8
  | _ => Except Failure Unit

end StoreCall

abbrev storeInterface : Interface := { Call := StoreCall, Reply := StoreCall.Reply }

/-- What a client is set up with: what its statements depend on, and the libraries that check
its documents and read its data. -/
structure ClientSettings extends CompileSettings where
  schemas : SchemaLibrary := .draft7
  scalars : ScalarReader := .lenient

instance : Coe ClientSettings CompileSettings := ⟨ClientSettings.toCompileSettings⟩

/-- A program of the client.  It keeps the validators of collections. -/
abbrev ClientAction := Action storeInterface SchemaCatalog

namespace ClientAction

def tableExists (collection : String) : ClientAction Bool :=
  Action.perform (.tableExists collection) fun reply => reply

def createTable (collection : String) : ClientAction Unit :=
  Action.perform (.createTable collection) fun reply => reply

def dropTable (collection : String) : ClientAction Unit :=
  Action.perform (.dropTable collection) fun reply => reply

def listTables : ClientAction (List String) :=
  Action.perform .listTables fun reply => reply

def direct (sql : String) : ClientAction Unit :=
  Action.perform (.direct sql) fun reply => reply

def rowsOf (request : Request) (session : Option SessionId) : ClientAction (List Value) :=
  Action.perform (.run request session) fun reply => reply

def insert (request : Request) (count : Nat) (session : Option SessionId) :
    ClientAction (List Value) :=
  Action.perform (.insert request count session) fun reply => reply

def createIndex (collection : String) (keys : Members) (options : IndexOptions) :
    ClientAction String :=
  Action.perform (.createIndex collection keys options) fun reply => reply

def dropIndex (collection name : String) : ClientAction Unit :=
  Action.perform (.dropIndex collection name) fun reply => reply

def listIndexes (collection : String) : ClientAction (List IndexDescription) :=
  Action.perform (.listIndexes collection) fun reply => reply

def seconds : ClientAction Int := Action.perform .seconds fun reply => reply

def randomBytes (count : Nat) : ClientAction (List UInt8) :=
  Action.perform (.randomBytes count) .ok

def request (settings : CompileSettings) (command : Command) : ClientAction Request :=
  Action.ofLogged (command.request settings)

/-- Fails for a document that the schema of its collection does not accept. -/
def validate (collection : String) (document : Members) : ClientAction Unit := do
  let catalog ← get
  Action.ofOutcome (catalog.validate collection (.object document))

def report (level : LogLevel) (text : String) : ClientAction Unit :=
  Action.note { level, component := .client, text }

end ClientAction

end DocStore
