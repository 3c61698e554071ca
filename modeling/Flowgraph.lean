import Flowgraph.Action.Basic
import Flowgraph.Action.Data
import Flowgraph.Action.Types
import Flowgraph.CommandLine.Arguments
import Flowgraph.CommandLine.Execution
import Flowgraph.Comparison
import Flowgraph.Condition
import Flowgraph.Config.Basic
import Flowgraph.Config.Load
import Flowgraph.Config.Path
import Flowgraph.Context
import Flowgraph.Endpoint.Basic
import Flowgraph.Endpoint.PathTemplate
import Flowgraph.Endpoint.Policy
import Flowgraph.Endpoint.Principal
import Flowgraph.Endpoint.Types
import Flowgraph.Keyed
import Flowgraph.Main
import Flowgraph.Method
import Flowgraph.Model.ActionResult
import Flowgraph.Model.Basic
import Flowgraph.Model.Environment
import Flowgraph.Model.Loader
import Flowgraph.Model.Node
import Flowgraph.Number.Binary64
import Flowgraph.Number.Decimal
import Flowgraph.Number.Digits
import Flowgraph.Number.Shortest
import Flowgraph.Outbound.Body
import Flowgraph.Outbound.Call
import Flowgraph.Outbound.ClientPool
import Flowgraph.Outbound.Redaction
import Flowgraph.Proofs.Keyed
import Flowgraph.Query.Compiled
import Flowgraph.Query.Predicate
import Flowgraph.Query.Rule
import Flowgraph.Query.Scalar
import Flowgraph.Registry.Basic
import Flowgraph.Registry.Catalog
import Flowgraph.Registry.FieldBag
import Flowgraph.Registry.Populate
import Flowgraph.Registry.PropertyTypes
import Flowgraph.Registry.PropertyValue
import Flowgraph.Registry.TypeInfo
import Flowgraph.Run.Chain
import Flowgraph.Run.Invocation
import Flowgraph.Run.Routing
import Flowgraph.Run.Task
import Flowgraph.Run.World
import Flowgraph.Schema.FieldDescriptor
import Flowgraph.Schema.FieldKind
import Flowgraph.Schema.RecordSchema
import Flowgraph.Store.Collection
import Flowgraph.Store.Memory
import Flowgraph.Store.Provider
import Flowgraph.Store.Shared
import Flowgraph.Template
import Flowgraph.Text.Blank
import Flowgraph.Text.CodePoints
import Flowgraph.Text.CombiningClass
import Flowgraph.Text.Composition
import Flowgraph.Text.Direction
import Flowgraph.Text.Joining
import Flowgraph.Text.Mark
import Flowgraph.Text.Normal
import Flowgraph.Text.Octets
import Flowgraph.Text.Search
import Flowgraph.Text.Word
import Flowgraph.Time.Calendar
import Flowgraph.Time.Instant
import Flowgraph.Time.Reader
import Flowgraph.Url.Basic
import Flowgraph.Url.Domain
import Flowgraph.Url.Domain.Code
import Flowgraph.Url.Domain.Label
import Flowgraph.Url.Domain.Mapping
import Flowgraph.Url.Domain.Mapping.Alphabets
import Flowgraph.Url.Domain.Mapping.Shapes
import Flowgraph.Url.Domain.Mapping.Squares
import Flowgraph.Url.Domain.Mapping.Supplement
import Flowgraph.Url.Host
import Flowgraph.Url.Percent
import Flowgraph.Url.Reader
import Flowgraph.Value.Basic
import Flowgraph.Value.Coerce
import Flowgraph.Value.Decode
import Flowgraph.Value.Merge
import Flowgraph.Value.Printer
import Flowgraph.Value.Reader
import Flowgraph.Value.Shape
import Flowgraph.Value.Written
import Flowgraph.Yaml.Flow
import Flowgraph.Yaml.Line
import Flowgraph.Yaml.Node
import Flowgraph.Yaml.Reader
import Flowgraph.Yaml.Scalar
import Flowgraph.Proofs.Store.Sharing
import Flowgraph.Proofs.Store.LostUpdate
import Flowgraph.Proofs.Template.Span
import Flowgraph.Proofs.Template.Filling
import Flowgraph.Proofs.Endpoint.Admission
import Flowgraph.Proofs.Run.Gate
import Flowgraph.Proofs.Registry.ConditionLinks
import Flowgraph.Proofs.Run.AccessCondition
import Flowgraph.Proofs.Store.Snapshot
import Flowgraph.Proofs.Action.Tables
import Flowgraph.Proofs.Run.RecordTasks
import Flowgraph.Proofs.Query.Places
import Flowgraph.Proofs.Action.WriteBack
import Flowgraph.Proofs.Query.ByKey
import Flowgraph.Proofs.Action.Identity
import Flowgraph.Proofs.Registry.Entities
import Flowgraph.Proofs.Run.RecordIdentity
import Flowgraph.Proofs.Registry.Override
import Flowgraph.Proofs.Registry.Subtypes
import Flowgraph.Proofs.Template.Frames
import Flowgraph.Proofs.Template.OnePass
import Flowgraph.Proofs.Number.Padded
import Flowgraph.Proofs.Time.ReadBack
import Flowgraph.Proofs.Query.Coercion
import Flowgraph.Proofs.Run.Failure
import Flowgraph.Proofs.Run.Frame
import Flowgraph.Proofs.Model.Ids
import Flowgraph.Proofs.Model.References
import Flowgraph.Proofs.Run.Dispatch
import Flowgraph.Proofs.Outbound.Overrides
import Flowgraph.Proofs.Outbound.AddressShape
import Flowgraph.Proofs.Query.Result
import Flowgraph.Proofs.Query.Membership
import Flowgraph.Proofs.Registry.RuleDocuments
import Flowgraph.Proofs.Time.Order
import Flowgraph.Proofs.Comparison.Coherence
import Flowgraph.Proofs.Query.Operators
import Flowgraph.Proofs.Store.GeneratedKeys
import Flowgraph.Proofs.Run.Reading
import Flowgraph.Proofs.Run.Alike
import Flowgraph.Proofs.Run.Rounds
import Flowgraph.Proofs.Number.Nearest
import Flowgraph.Proofs.Comparison.Integers
import Flowgraph.Proofs.Template.Cursor
import Flowgraph.Proofs.Template.Lone
import Flowgraph.Proofs.Endpoint.PathMatching
import Flowgraph.Proofs.Run.BestRoute
import Flowgraph.Proofs.Registry.Repopulation
import Flowgraph.Proofs.Registry.Independence
import Flowgraph.Proofs.Value.Merging
import Flowgraph.Proofs.Outbound.QueryParameters
import Flowgraph.Proofs.Outbound.HiddenHeaders
import Flowgraph.Proofs.Model.Documents
import Flowgraph.Proofs.Registry.Derivation
