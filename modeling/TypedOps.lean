import TypedOps.Session
import TypedOps.Ty.Registry
import TypedOps.Value.Slot
import TypedOps.Proofs.Value.Conversion
import TypedOps.Proofs.Operator.Typing
import TypedOps.Proofs.Operator.Consistency
import TypedOps.Proofs.Integer.Residue
import TypedOps.Proofs.Operator.Expression
import TypedOps.Proofs.Operator.Equality
import TypedOps.Proofs.Ieee.Exact
import TypedOps.Proofs.Operator.ConstantEquality
import TypedOps.Proofs.Operator.ResultType
import TypedOps.Proofs.Value.Standing
import TypedOps.Proofs.Operator.TotalOrder
import TypedOps.Proofs.Operator.Phases
import TypedOps.Proofs.Operator.Recoverable
import TypedOps.Proofs.Value.Pinned
import TypedOps.Proofs.Operator.Pinned
import TypedOps.Proofs.Operator.FixedWidth
import TypedOps.Proofs.Operator.MachineWord
import TypedOps.Proofs.Operator.Truncation
import TypedOps.Proofs.Operator.Assignment
import TypedOps.Proofs.Ty.Interning
import TypedOps.Proofs.Operator.EventLog
import TypedOps.Proofs.Value.ExactValue
import TypedOps.Proofs.Operator.Integers
import TypedOps.Proofs.Operator.Definedness
import TypedOps.Proofs.Integer.Division
import TypedOps.Proofs.Operator.Division
import TypedOps.Proofs.Integer.Shift
import TypedOps.Proofs.Operator.Shift
import TypedOps.Proofs.Operator.Narrowing
import TypedOps.Proofs.Ieee.Nearest
import TypedOps.Proofs.Ieee.RoundingTwice
import TypedOps.Proofs.Operator.NarrowFloats
import TypedOps.Proofs.Operator.Admission
import TypedOps.Proofs.Ty.Nominal
import TypedOps.Proofs.Operator.ConstantTyping
import TypedOps.Proofs.Ieee.LeadingBits
import TypedOps.Proofs.Operator.ConstantForm
import TypedOps.Proofs.Operator.TypedAhead
import TypedOps.Proofs.Operator.ComparisonTruth
import TypedOps.Proofs.Value.ConversionLaws
import TypedOps.Proofs.Text.CodePointOrder
import TypedOps.Proofs.Operator.Texts
import TypedOps.Proofs.Value.Writes
import TypedOps.Proofs.Ty.UniqueText
import TypedOps.Proofs.Ieee.Widening
import TypedOps.Proofs.Value.Slots
import TypedOps.Proofs.Operator.Slots
import TypedOps.Proofs.Operator.Faults
