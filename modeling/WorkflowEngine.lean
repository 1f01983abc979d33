import WorkflowEngine.Action.Config
import WorkflowEngine.Action.Handler
import WorkflowEngine.Action.Method
import WorkflowEngine.Action.Outbound
import WorkflowEngine.Action.Output
import WorkflowEngine.Awaited
import WorkflowEngine.Cli.Arguments
import WorkflowEngine.Cli.Failure
import WorkflowEngine.Cli.Help
import WorkflowEngine.Cli.Program
import WorkflowEngine.Condition.Comparison
import WorkflowEngine.Condition.Expression
import WorkflowEngine.Condition.Operand
import WorkflowEngine.Context
import WorkflowEngine.Execution.Error
import WorkflowEngine.Execution.Executor
import WorkflowEngine.Execution.Lifecycle
import WorkflowEngine.Execution.Output
import WorkflowEngine.Execution.Record
import WorkflowEngine.Execution.Status
import WorkflowEngine.Http.Listening
import WorkflowEngine.Http.MediaType
import WorkflowEngine.Http.Message
import WorkflowEngine.Http.Route
import WorkflowEngine.Http.Service
import WorkflowEngine.Instant
import WorkflowEngine.Json.Decoder
import WorkflowEngine.Json.Fault
import WorkflowEngine.Json.Reader
import WorkflowEngine.Json.Value
import WorkflowEngine.Json.Writer
import WorkflowEngine.Main
import WorkflowEngine.Network.Ipv4
import WorkflowEngine.Network.Ipv6
import WorkflowEngine.Network.Name.Ascii
import WorkflowEngine.Network.Name.Mapping
import WorkflowEngine.Network.Name.Punycode
import WorkflowEngine.Network.Percent
import WorkflowEngine.Network.Screening
import WorkflowEngine.Network.Url.Basic
import WorkflowEngine.Network.Url.Fault
import WorkflowEngine.Network.Url.Query
import WorkflowEngine.Network.Url.Reader
import WorkflowEngine.Number.Binary64
import WorkflowEngine.Number.Decimal
import WorkflowEngine.Number.Hexadecimal
import WorkflowEngine.Number.Shortest
import WorkflowEngine.Process
import WorkflowEngine.Proofs.Abandonment
import WorkflowEngine.Proofs.Abreast
import WorkflowEngine.Proofs.Accomplishment
import WorkflowEngine.Proofs.Account
import WorkflowEngine.Proofs.AddressScreening
import WorkflowEngine.Proofs.AddressText
import WorkflowEngine.Proofs.Books
import WorkflowEngine.Proofs.BoundedTime
import WorkflowEngine.Proofs.BreadthFirst
import WorkflowEngine.Proofs.CanonicalIds
import WorkflowEngine.Proofs.ConditionGrammar
import WorkflowEngine.Proofs.ConditionText
import WorkflowEngine.Proofs.Conduct
import WorkflowEngine.Proofs.Consistency
import WorkflowEngine.Proofs.Course
import WorkflowEngine.Proofs.DecimalText
import WorkflowEngine.Proofs.DecimalValue
import WorkflowEngine.Proofs.Dialogue
import WorkflowEngine.Proofs.Discretion
import WorkflowEngine.Proofs.DoubleStart
import WorkflowEngine.Proofs.EdgeNumbering
import WorkflowEngine.Proofs.ErrorBodies
import WorkflowEngine.Proofs.GivenPayload
import WorkflowEngine.Proofs.GraphIndex
import WorkflowEngine.Proofs.IntegerConditions
import WorkflowEngine.Proofs.Interleaving
import WorkflowEngine.Proofs.JoinedConditions
import WorkflowEngine.Proofs.KeyOrder
import WorkflowEngine.Proofs.LegalWalk
import WorkflowEngine.Proofs.Likeness
import WorkflowEngine.Proofs.ListOrder
import WorkflowEngine.Proofs.Lives
import WorkflowEngine.Proofs.LongerPauses
import WorkflowEngine.Proofs.LostAcknowledgement
import WorkflowEngine.Proofs.MissingOperand
import WorkflowEngine.Proofs.NumberText
import WorkflowEngine.Proofs.Numerals
import WorkflowEngine.Proofs.OperatorLaws
import WorkflowEngine.Proofs.PauseRanges
import WorkflowEngine.Proofs.Pauses
import WorkflowEngine.Proofs.QuotedConditions
import WorkflowEngine.Proofs.Reachability
import WorkflowEngine.Proofs.RefusedRequests
import WorkflowEngine.Proofs.RefusedStarts
import WorkflowEngine.Proofs.Rewiring
import WorkflowEngine.Proofs.Rounding
import WorkflowEngine.Proofs.Running
import WorkflowEngine.Proofs.Saving
import WorkflowEngine.Proofs.Separation
import WorkflowEngine.Proofs.ServiceAnswers
import WorkflowEngine.Proofs.Serving
import WorkflowEngine.Proofs.SkippedJson
import WorkflowEngine.Proofs.Statements
import WorkflowEngine.Proofs.StepInputs
import WorkflowEngine.Proofs.StepLimit
import WorkflowEngine.Proofs.StoreAgreement
import WorkflowEngine.Proofs.StoreFaults
import WorkflowEngine.Proofs.StoreLives
import WorkflowEngine.Proofs.Trail
import WorkflowEngine.Proofs.Turns
import WorkflowEngine.Proofs.UuidSpellings
import WorkflowEngine.Proofs.UuidText
import WorkflowEngine.Proofs.ValidRuns
import WorkflowEngine.Proofs.Validity
import WorkflowEngine.Proofs.VisibleKeys
import WorkflowEngine.Proofs.WebAddresses
import WorkflowEngine.Proofs.WebhookCalls
import WorkflowEngine.Proofs.WildcardNames
import WorkflowEngine.Proofs.WorkflowFiles
import WorkflowEngine.Proofs.WrittenJson
import WorkflowEngine.Scheduler
import WorkflowEngine.Store.Backend
import WorkflowEngine.Store.Call
import WorkflowEngine.Store.Fault
import WorkflowEngine.Store.Memory
import WorkflowEngine.Store.Relational.Address
import WorkflowEngine.Store.Relational.Journal
import WorkflowEngine.Store.Relational.Loading
import WorkflowEngine.Store.Relational.Migration
import WorkflowEngine.Store.Relational.Server
import WorkflowEngine.Store.Relational.Tables
import WorkflowEngine.Store.Table
import WorkflowEngine.Text.Blank
import WorkflowEngine.Text.CodePoints
import WorkflowEngine.Text.Composition
import WorkflowEngine.Text.Direction
import WorkflowEngine.Text.Joining
import WorkflowEngine.Text.Printable
import WorkflowEngine.Text.Quoted
import WorkflowEngine.Text.Utf8
import WorkflowEngine.Uuid
import WorkflowEngine.Workflow.Basic
import WorkflowEngine.Workflow.Definition
import WorkflowEngine.Workflow.Graph
import WorkflowEngine.Workflow.Validation
import WorkflowEngine.World
