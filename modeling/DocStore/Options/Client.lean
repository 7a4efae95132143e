import DocStore.Error
import DocStore.Options.Check
import DocStore.Sql.Fragment

/-!
# Options of a client

The connection parameters and the switches of a client.  Some parameters have a
default that depends on the dialect.
-/

namespace DocStore

/-- Parameters of the connection to an engine. -/
structure ConnectionConfig where
  host : String := "localhost"
  user : String
  password : String := ""
  database : String
  port : Option Int := none
  /-- Greatest number of pooled connections. -/
  poolSize : Int := 10
  /-- Number of connections that are opened at once. -/
  minPoolSize : Int := 1
  connectRetries : Option Nat := none
  /-- Seconds between two attempts to connect. -/
  retryDelay : Float := 1.0
  /-- Seconds to wait for the pool. -/
  connectTimeout : Float := 30.0

namespace ConnectionConfig

open FieldCheck

def fieldNames : List String :=
  [ "host", "user", "password", "database", "port", "pool_size", "min_pool_size",
    "connect_retries", "retry_delay", "connect_timeout" ]

def fields : FieldCheck ConnectionConfig := fun scalars place members =>
  ConnectionConfig.mk
    <$> withDefault "host" "localhost" .text scalars place members
    <*> required "user" .text scalars place members
    <*> withDefault "password" "" .text scalars place members
    <*> required "database" .text scalars place members
    <*> withDefault "port" none (.nullable .integer) scalars place members
    <*> withDefault "pool_size" 10 (.integerFrom 1) scalars place members
    <*> withDefault "min_pool_size" 1 (.integerFrom 0) scalars place members
    <*> withDefault "connect_retries" none (.nullable (.naturalFrom 1)) scalars place members
    <*> withDefault "retry_delay" 1.0 (.numberFrom 0) scalars place members
    <*> withDefault "connect_timeout" 30.0 (.numberAbove 0) scalars place members

/-- Reads the parameters from data. -/
def check : Check ConnectionConfig :=
  toCheck "ConnectionConfig" (closed fieldNames fields)

/-- The parameters as data. -/
def toValue (config : ConnectionConfig) : Value :=
  .object
    [ ("host", .text config.host), ("user", .text config.user),
      ("password", .text config.password), ("database", .text config.database),
      ("port", .optional .int config.port), ("pool_size", .int config.poolSize),
      ("min_pool_size", .int config.minPoolSize),
      ("connect_retries", .optional .natural config.connectRetries),
      ("retry_delay", .float config.retryDelay),
      ("connect_timeout", .float config.connectTimeout) ]

/-- The port for a dialect name: the given one, or the usual one of the dialect.
-/
def portFor (config : ConnectionConfig) (dialectName : String) : Int :=
  config.port.getD
    (if dialectName = "postgres" then 5432 else if dialectName = "mysql" then 3306 else 0)

/-- The number of attempts to connect for a dialect name. -/
def retriesFor (config : ConnectionConfig) (dialectName : String) : Nat :=
  config.connectRetries.getD (if dialectName = "postgres" then 3 else 1)

end ConnectionConfig

structure ClientOptions where
  dialect : Dialect
  config : ConnectionConfig
  /-- Statements that take longer are reported, in milliseconds. -/
  slowQueryThreshold : Float := 500.0
  profileQueries : Bool := true
  logQueries : Bool := false
  /-- Whether unknown operators are errors. -/
  strictOperators : Bool := false

namespace ClientOptions

open FieldCheck

def fieldNames : List String :=
  [ "driver", "config", "slow_query_threshold_ms", "profile_queries", "log_queries",
    "strict_operators" ]

def fields : FieldCheck ClientOptions := fun scalars place members =>
  ClientOptions.mk
    <$> required "driver" (.choice [("mysql", .mysql), ("postgres", .postgres)]) scalars place
      members
    <*> required "config" ConnectionConfig.check scalars place members
    <*> withDefault "slow_query_threshold_ms" 500.0 (.numberFrom 0) scalars place members
    <*> withDefault "profile_queries" true .truth scalars place members
    <*> withDefault "log_queries" false .truth scalars place members
    <*> withDefault "strict_operators" false .truth scalars place members

/-- Reads the options from data. -/
def check : Check ClientOptions := toCheck "ClientOptions" (closed fieldNames fields)

def toValue (options : ClientOptions) : Value :=
  .object
    [ ("driver", .text options.dialect.name), ("config", options.config.toValue),
      ("slow_query_threshold_ms", .float options.slowQueryThreshold),
      ("profile_queries", .bool options.profileQueries),
      ("log_queries", .bool options.logQueries),
      ("strict_operators", .bool options.strictOperators) ]

def parse (data : Value) (scalars : ScalarReader := .lenient) :
    Except StoreError ClientOptions :=
  match (check scalars [] data).report "ClientOptions" with
  | .ok options => .ok options
  | .error report =>
      .error (.configuration ("Invalid client options: " ++ report.summary)
        (some (.options report)))

end ClientOptions

end DocStore
