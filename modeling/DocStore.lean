import DocStore.Client.Service
import DocStore.Client.Verb
import DocStore.Engine.Verb
import DocStore.Function
import DocStore.Number.Reading
import DocStore.Options.Record
import DocStore.Pool.MySql
import DocStore.Pool.Postgres
import DocStore.Proofs.UpdateMany
import DocStore.Query.Verb
import DocStore.Registry.Verb
import DocStore.Schema.Verb
import DocStore.Sql.Verb
import DocStore.Transaction.Scope
import DocStore.Proofs.Database
import DocStore.Proofs.TextKeys
import DocStore.Proofs.Insertion
import DocStore.Proofs.SingleWrite
import DocStore.Proofs.Sorting
import DocStore.Proofs.PageFilter
import DocStore.Proofs.PageRun
import DocStore.Proofs.Pagination
import DocStore.Proofs.PageBoundary
import DocStore.Proofs.Json.Text
import DocStore.Proofs.Double.Bits
import DocStore.Proofs.Json.Number
import DocStore.Proofs.Double.Shortest
import DocStore.Proofs.Json.FloatText
import DocStore.Proofs.Json.RoundTrip
import DocStore.Proofs.UpdateKeys
import DocStore.Proofs.WrittenDocuments
import DocStore.Proofs.AcceptedWrites
import DocStore.Proofs.TransactionEnd
import DocStore.Proofs.ScopeTree
import DocStore.Proofs.SessionConnections
import DocStore.Proofs.ConcurrentWrites
import DocStore.Proofs.SessionRouting
import DocStore.Proofs.OperandValues
import DocStore.Proofs.QuotedNames
import DocStore.Proofs.FilterLeaves
import DocStore.Proofs.ParameterOrder
import DocStore.Proofs.StrictMode
import DocStore.Proofs.UpsertSeed
import DocStore.Proofs.FieldPaths
import DocStore.Proofs.PathReaders
import DocStore.Proofs.IgnoredEntries
import DocStore.Proofs.Path.Literal
import DocStore.Proofs.Path.ArrayText
import DocStore.Proofs.Path.KeyText
import DocStore.Proofs.Path.Agreement
import DocStore.Proofs.KeySpelling
import DocStore.Proofs.BindableParameters
import DocStore.Proofs.Json.Values
import DocStore.Proofs.StoredDocument
import DocStore.Proofs.UpdateOutcome
import DocStore.Proofs.FieldwiseUpdate
import DocStore.Proofs.Executions
import DocStore.Proofs.WriteCourse
import DocStore.Proofs.InsertionCourse
import DocStore.Proofs.RepeatedUpdate
import DocStore.Proofs.JsonEquality
import DocStore.Proofs.PulledItems
import DocStore.Proofs.UpdateFailures
import DocStore.Proofs.PipelineFailures
import DocStore.Proofs.UnwoundDocuments
import DocStore.Proofs.GroupedStatement
import DocStore.Proofs.GroupKeys
import DocStore.Proofs.SavepointEnd
import DocStore.Proofs.ConnectAttempts
import DocStore.Proofs.FailureReports
import DocStore.Proofs.EngineInvariants
import DocStore.Proofs.IsolationLevels
import DocStore.Proofs.OpenPools
import DocStore.Proofs.KeptSchemas
import DocStore.Proofs.IndexNames
import DocStore.Proofs.IndexCatalog
import DocStore.Proofs.ListedPaths
import DocStore.Proofs.ListedKeys
import DocStore.Proofs.GeneratedIds
import DocStore.Proofs.Projections
import DocStore.Proofs.ViolationPlaces
import DocStore.Proofs.SchemaAcceptance
import DocStore.Proofs.InferredSchemas
