import TypedOps.Constant
import TypedOps.Ieee.Complex
import TypedOps.Integer.Stored

/-!
Values. A value is kept in exactly one way, which its kind names (`Value.kind?`); an untyped
constant is a value too, but has no kind. Each reader (`toInt?`, `toBinary?`, …) reads one class
of values and no other. Equality of values is that of the language (`Value.equals`): floating-point
parts are compared as numbers, all else as it is kept.
-/
namespace TypedOps

open Ieee (Binary Complex)

/-- What a reference refers to. Handles are only ever compared. -/
structure Handle where
  id : Nat
  deriving DecidableEq

/-- A value. The handle of a nil reference is none. -/
inductive Value
  | bool (b : Bool)
  | integer (i : StoredInt)
  | float (f : Ieee.Format) (x : Binary f)
  | complex (f : Ieee.Format) (z : Complex f)
  | text (s : String)
  | reference (kind : Kind) (handle : Option Handle)
  | constant (c : Constant)
  deriving DecidableEq

namespace Value

/-- The kind that the value is kept as. -/
def kind? : Value → Option Kind
  | bool _ => some .bool
  | integer i => some (.integer i.kind)
  | float f _ => some (.float f)
  | complex f _ => some (.complex f)
  | text _ => some .string
  | reference kind _ => some kind
  | constant _ => none

/-- The zero value of a kind. Runes and untyped constants are not kept as themselves. -/
def zero? : Kind → Option Value
  | .bool => some (bool false)
  | .integer k => some (integer (.ofInt k 0))
  | .float f => some (float f (.zero false))
  | .complex f => some (complex f ⟨.zero false, .zero false⟩)
  | .string => some (text "")
  | .reference r => some (reference (.reference r) none)
  | .rune => none
  | .untyped _ => none

/-! ## Readers -/

/-- The integer that is kept. -/
def toInt? : Value → Option Int
  | integer i => some i.val
  | _ => none

/-- The 64 bits of the integer that is kept. -/
def toBits? : Value → Option (BitVec 64)
  | integer i => some i.bits
  | _ => none

/-- The floating-point number that is kept, rounded to a format. -/
def toBinary? (f : Ieee.Format) : Value → Option (Binary f)
  | float _ x => some x.convert
  | _ => none

/-- The complex number that is kept, with its parts rounded to a format. -/
def toComplex? (f : Ieee.Format) : Value → Option (Complex f)
  | complex _ z => some z.convert
  | _ => none

/-- The text that is kept. -/
def toText? : Value → Option String
  | text s => some s
  | _ => none

/-- The truth value that is kept. -/
def toBool? : Value → Option Bool
  | bool b => some b
  | _ => none

/-- The constant that is kept. -/
def toConstant? : Value → Option Constant
  | constant c => some c
  | _ => none

/-- Whether a reference is nil. -/
def isNil? : Value → Option Bool
  | reference _ handle => some handle.isNone
  | _ => none

/-! ## Equality -/

/-- Whether two values are kept alike and are equal. -/
def equals : Value → Value → Bool
  | float f x, float g y => if h : f = g then x.equals (h ▸ y) else false
  | complex f x, complex g y => if h : f = g then x.equals (h ▸ y) else false
  | x, y => decide (x = y)

end Value

end TypedOps
