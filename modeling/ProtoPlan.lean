import ProtoPlan.Conformance.Decode
import ProtoPlan.Conformance.Schema
import ProtoPlan.Dynamic.Decode
import ProtoPlan.Proofs.Conformance.Groups
import ProtoPlan.Proofs.Conformance.Limit
import ProtoPlan.Proofs.Conformance.Relaxing
import ProtoPlan.Proofs.Dynamic.Closed
import ProtoPlan.Proofs.Dynamic.Concatenation
import ProtoPlan.Proofs.Dynamic.Consistency
import ProtoPlan.Proofs.Dynamic.Hints
import ProtoPlan.Proofs.Dynamic.LastWins
import ProtoPlan.Proofs.Dynamic.MapEntries
import ProtoPlan.Proofs.Dynamic.Narrower
import ProtoPlan.Proofs.Dynamic.Options
import ProtoPlan.Proofs.Dynamic.Packed
import ProtoPlan.Proofs.Dynamic.Reordering
import ProtoPlan.Proofs.Dynamic.Required
import ProtoPlan.Proofs.Dynamic.RequiredBits
import ProtoPlan.Proofs.Dynamic.RoundTrip
import ProtoPlan.Proofs.Dynamic.Shape
import ProtoPlan.Proofs.Plan.Boxing
import ProtoPlan.Proofs.Plan.Causes
import ProtoPlan.Proofs.Plan.TypeNames
import ProtoPlan.Proofs.Plan.WellFormed
import ProtoPlan.Proofs.Source.Item
import ProtoPlan.Proofs.Source.Oneofs
import ProtoPlan.Proofs.Source.Resolution
import ProtoPlan.Proofs.Source.Spelling
import ProtoPlan.Proofs.Wire.CursorRun
import ProtoPlan.Proofs.Wire.Grammar
import ProtoPlan.Proofs.Wire.Key
import ProtoPlan.Proofs.Wire.Locality
import ProtoPlan.Proofs.Wire.Varint
import ProtoPlan.Source.Module
import ProtoPlan.Wire.Scalar
