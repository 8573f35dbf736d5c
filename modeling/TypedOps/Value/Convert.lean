import TypedOps.Value.Basic

/-!
Conversion of a value to another kind. Numbers other than complex ones convert among each other;
every other class converts within itself, and references only to their own kind.
-/
namespace TypedOps.Value

open Ieee (Binary)

/-- The integer to narrow to an integer kind: the one that is kept, or a floating-point number
without its fraction, clamped to 64 bits of the kind's signedness. -/
def integerFor? (k : IntKind) : Value → Option Int
  | integer i => some i.val
  | float _ x => some (x.truncate ⟨k.signed, .w64⟩)
  | _ => none

/-- The number of a floating-point kind: the one that is kept, rounded. An integer is rounded to
the wide format first. -/
def binaryFor? (f : Ieee.Format) : Value → Option (Binary f)
  | integer i => some (Binary.ofRat i.val : Binary .binary64).convert
  | float _ x => some x.convert
  | _ => none

/-- The value as one of another kind, where there is a conversion. -/
def convert? (word : WordSize) (v : Value) (kind : Kind) : Option Value :=
  match kind.storage with
  | .integer k => (v.integerFor? k).map fun x => integer (.narrow word k x)
  | .float f => (v.binaryFor? f).map (float f)
  | .complex f => (v.toComplex? f).map (complex f)
  | .string => v.toText?.map text
  | .bool => v.toBool?.map bool
  | .reference r => if v.kind? = some (.reference r) then some v else none
  | .rune => none
  | .untyped _ => none

end TypedOps.Value
