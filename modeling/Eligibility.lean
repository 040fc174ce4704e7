import Eligibility.Engine
import Eligibility.Expr.Build
import Eligibility.Proofs.Evaluation.Layer
import Eligibility.Proofs.Evaluation.Failures
import Eligibility.Proofs.Evaluation.Guard
import Eligibility.Proofs.Context.Profile
import Eligibility.Proofs.Context.LastWrite
import Eligibility.Proofs.Program.Accounting
import Eligibility.Proofs.Program.Buckets
import Eligibility.Proofs.Engine.Placement
import Eligibility.Proofs.Context.Nested
import Eligibility.Proofs.Context.OpenPaths
import Eligibility.Proofs.Expr.Folding
import Eligibility.Proofs.Expr.RoundTrip
import Eligibility.Proofs.Evaluation.EntryPoints
import Eligibility.Proofs.Program.Reordering
import Eligibility.Proofs.Engine.Rearrangement
import Eligibility.Proofs.Program.Aggregation
import Eligibility.Proofs.Engine.Agreement
import Eligibility.Proofs.Context.Frame
import Eligibility.Proofs.Evaluation.Asked
import Eligibility.Proofs.Engine.Unasked
import Eligibility.Proofs.Evaluation.Stages
import Eligibility.Proofs.Evaluation.Resolution
import Eligibility.Proofs.Program.MorePasses
import Eligibility.Proofs.Engine.HardStops
import Eligibility.Proofs.Number.Finite
import Eligibility.Proofs.Json.Ordered
import Eligibility.Proofs.Json.Decoder
import Eligibility.Proofs.Expr.Reread
import Eligibility.Proofs.Rule.Package
import Eligibility.Proofs.Context.Flatten
import Eligibility.Proofs.Operator.Sessions
import Eligibility.Proofs.Evaluation.Batch
import Eligibility.Proofs.Program.Exactness
import Eligibility.Proofs.Expr.Acceptance
import Eligibility.Proofs.Engine.Loading
import Eligibility.Proofs.Evaluation.ShortCircuit
import Eligibility.Proofs.Value.Order
import Eligibility.Proofs.Value.Equality
import Eligibility.Proofs.Evaluation.Joining
import Eligibility.Proofs.Expr.Lookup
import Eligibility.Proofs.Evaluation.NullOperands
import Eligibility.Proofs.Evaluation.FieldTests
import Eligibility.Proofs.Program.Explanation
import Eligibility.Proofs.Calendar.Age
import Eligibility.Proofs.Operator.ListTests
import Eligibility.Proofs.Context.Slots
import Eligibility.Proofs.Value.Codecs
import Eligibility.Proofs.Number.Numeral
import Eligibility.Proofs.Rule.Versions
import Eligibility.Proofs.Program.Attachments
import Eligibility.Proofs.Program.FirstLimit
import Eligibility.Proofs.Program.Money
