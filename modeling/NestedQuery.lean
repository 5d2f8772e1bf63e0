import NestedQuery.Command.Run
import NestedQuery.Http.Listening
import NestedQuery.Log.Recorder
import NestedQuery.Main
import NestedQuery.Query.AnswerTable
import NestedQuery.Session
import NestedQuery.Address.Ipv4
import NestedQuery.Address.Ipv6
import NestedQuery.Proofs.Filter.Tree
import NestedQuery.Proofs.Filter.Nesting
import NestedQuery.Proofs.Gathering
import NestedQuery.Proofs.Merging
import NestedQuery.Proofs.FirstMention
import NestedQuery.Proofs.MergeOrder
import NestedQuery.Proofs.Planning
import NestedQuery.Proofs.Evaluation
import NestedQuery.Proofs.Resolution.Step
import NestedQuery.Proofs.Resolution.Preservation
import NestedQuery.Proofs.Resolution.Waking
import NestedQuery.Proofs.Resolution.Polling
import NestedQuery.Proofs.Resolution.Progress
import NestedQuery.Proofs.Resolution.Service
import NestedQuery.Proofs.Recombination
import NestedQuery.Proofs.LimitIndependence
import NestedQuery.Proofs.Optimality
import NestedQuery.Proofs.Replanning
import NestedQuery.Proofs.Resolution.Settling
import NestedQuery.Proofs.Resolution.Launching
import NestedQuery.Proofs.FanOut
import NestedQuery.Proofs.RequestLog
import NestedQuery.Proofs.Decomposition
import NestedQuery.Proofs.Filter.Walk
import NestedQuery.Proofs.Filter.Verdict
import NestedQuery.Proofs.SchemaBuilding
import NestedQuery.Proofs.Filter.Reading
import NestedQuery.Proofs.Filter.Violations
import NestedQuery.Proofs.Filter.Rendering
import NestedQuery.Proofs.Flattening
import NestedQuery.Proofs.Explanation
import NestedQuery.Proofs.Json.Settled
import NestedQuery.Proofs.Filter.Grammar
import NestedQuery.Proofs.Resolution.Transcript
import NestedQuery.Proofs.Resolution.Narrow
import NestedQuery.Proofs.Resolution.Logging
import NestedQuery.Proofs.Resolution.Dropping
import NestedQuery.Proofs.Resolution.Spreading
import NestedQuery.Proofs.Accounting
import NestedQuery.Proofs.Ledger
import NestedQuery.Proofs.Independence
import NestedQuery.Proofs.Requests
import NestedQuery.Proofs.ResolutionLog
import NestedQuery.Proofs.Json.Texts
import NestedQuery.Proofs.Frontends
import NestedQuery.Proofs.Json.Grammar
import NestedQuery.Proofs.Text.ByteOrder
import NestedQuery.Proofs.Json.Recognition
import NestedQuery.Proofs.LogLines
import NestedQuery.Proofs.Json.Structures
import NestedQuery.Proofs.Loading.Faults
import NestedQuery.Proofs.Startup
import NestedQuery.Proofs.RequestForm
import NestedQuery.Proofs.Json.Writing
import NestedQuery.Proofs.Json.Nesting
import NestedQuery.Proofs.RecordForm
import NestedQuery.Proofs.SalesRows
import NestedQuery.Proofs.LineReading
import NestedQuery.Proofs.Scopes
import NestedQuery.Proofs.Observation
