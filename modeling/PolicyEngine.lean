import PolicyEngine.Main
import PolicyEngine.Proofs.Policy.Commutation
import PolicyEngine.Proofs.Schema.Decision
import PolicyEngine.Proofs.Number.Bits
import PolicyEngine.Proofs.Number.Rounding
import PolicyEngine.Proofs.Number.Display
import PolicyEngine.Proofs.Rule.Characters
import PolicyEngine.Proofs.Path.RoundTrip
import PolicyEngine.Proofs.Rule.Lexed
import PolicyEngine.Proofs.Rule.Canonical
import PolicyEngine.Proofs.Rule.Spelling
import PolicyEngine.Proofs.Rule.RoundTrip
import PolicyEngine.Proofs.Json.Numeral
import PolicyEngine.Proofs.Json.Spelling
import PolicyEngine.Proofs.Json.Reading
import PolicyEngine.Proofs.Document.Ordered
import PolicyEngine.Proofs.Document.Equality
import PolicyEngine.Proofs.Schema.Equality
import PolicyEngine.Proofs.Document.Reread
import PolicyEngine.Proofs.Policy.Invariant
import PolicyEngine.Proofs.Engine.Response
import PolicyEngine.Proofs.Path.Steps
import PolicyEngine.Proofs.Path.Blocked
import PolicyEngine.Proofs.Path.Frame
import PolicyEngine.Proofs.Policy.Frame
import PolicyEngine.Proofs.Policy.Halting
import PolicyEngine.Proofs.Policy.Action
import PolicyEngine.Proofs.Rule.Lookahead
import PolicyEngine.Proofs.Rule.Skeleton
import PolicyEngine.Proofs.Rule.Requoted
import PolicyEngine.Proofs.Engine.Pipeline
import PolicyEngine.Proofs.Rule.Placement
import PolicyEngine.Proofs.Rule.Composition
import PolicyEngine.Proofs.Rule.Elements
import PolicyEngine.Proofs.Rule.Membership
import PolicyEngine.Proofs.Path.InPlace
import PolicyEngine.Proofs.Path.Update
import PolicyEngine.Proofs.Policy.Effect
import PolicyEngine.Proofs.Command.Loading
import PolicyEngine.Proofs.Command.Status
import PolicyEngine.Proofs.Path.Order
import PolicyEngine.Proofs.Schema.Lookup
import PolicyEngine.Proofs.Schema.Composition
import PolicyEngine.Proofs.Schema.Location
import PolicyEngine.Proofs.Path.Grammar
import PolicyEngine.Proofs.Path.Fault
import PolicyEngine.Proofs.Rule.Fallback
import PolicyEngine.Proofs.Rule.WellFormed
import PolicyEngine.Proofs.Rule.Tiling
import PolicyEngine.Proofs.Rule.Verbatim
import PolicyEngine.Proofs.Rule.Spacing
import PolicyEngine.Proofs.Rule.BareLiteral
import PolicyEngine.Proofs.Rule.Alternatives
import PolicyEngine.Proofs.Document.Finite
import PolicyEngine.Proofs.Rule.Overflow
import PolicyEngine.Proofs.Policy.StoredOverflow
import PolicyEngine.Proofs.Rule.Aggregate
import PolicyEngine.Proofs.Rule.Mirror
import PolicyEngine.Proofs.Document.Tree
import PolicyEngine.Proofs.Document.RoundTrip
import PolicyEngine.Proofs.Policy.Definitions
import PolicyEngine.Proofs.Command.Flags
import PolicyEngine.Proofs.Command.Quiet
import PolicyEngine.Proofs.Rule.Position
import PolicyEngine.Proofs.Number.Range
import PolicyEngine.Proofs.Number.Grammar
import PolicyEngine.Proofs.Rule.Munch
