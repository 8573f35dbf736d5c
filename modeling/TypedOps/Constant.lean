import TypedOps.Ieee.Binary
import TypedOps.Text.Quoted

/-!
Untyped constants, which are exact: integers of any size, rationals, and complex numbers with
rational parts. A constant has an integer value when it is integral, whatever its form
(`toInteger?`), and every number of it is rounded to a floating-point format only on the way out.
-/
namespace TypedOps

/-- The exact value of an untyped constant. -/
inductive Constant
  | bool (b : Bool)
  | integer (n : Int)
  | rational (q : Rat)
  | complex (re im : Rat)
  | text (s : String)
  | nil
  deriving DecidableEq

namespace Constant

open Ieee (Binary)

/-! ## Making constants -/

/-- The rational `n / d`; there is none with denominator zero. -/
def ratio? (n d : Int) : Option Constant :=
  if d = 0 then none else some (rational (Rat.divInt n d))

/-- The exact value of a finite floating-point number. -/
def ofBinary? {f : Ieee.Format} (x : Binary f) : Option Constant :=
  x.toRat?.map rational

/-- The exact complex value of two finite floating-point numbers. -/
def ofParts? {f : Ieee.Format} (re im : Binary f) : Option Constant :=
  match re.toRat?, im.toRat? with
  | some p, some q => some (complex p q)
  | _, _ => none

/-! ## Reading constants -/

/-- The truth value. -/
def toBool? : Constant → Option Bool
  | bool b => some b
  | _ => none

/-- The text. -/
def toText? : Constant → Option String
  | text s => some s
  | _ => none

/-- The rational value: that of a number without an imaginary part. -/
def toRat? : Constant → Option Rat
  | integer n => some n
  | rational q => some q
  | complex re im => if im = 0 then some re else none
  | _ => none

/-- The integer value: that of an integral number. -/
def toInteger? (c : Constant) : Option Int :=
  match c.toRat? with
  | some q => if q.den = 1 then some q.num else none
  | none => none

/-- The nearest floating-point number to the rational value. An integer that is kept as one is
rounded from its leading bits. -/
def toBinary? (f : Ieee.Format) : Constant → Option (Binary f)
  | integer n => some (Binary.ofInt n)
  | c => c.toRat?.map Binary.ofRat

/-- The nearest floating-point numbers to the real and the imaginary part of a number. Here too
an integer that is kept as one is rounded from its leading bits. -/
def toParts? (f : Ieee.Format) : Constant → Option (Binary f × Binary f)
  | integer n => some (Binary.ofInt n, Binary.zero false)
  | rational q => some (Binary.ofRat q, Binary.zero false)
  | complex re im => some (Binary.ofRat re, Binary.ofRat im)
  | _ => none

/-- Whether an integer has 64 bits, signed. -/
def fitsSigned (n : Int) : Bool :=
  decide ((Shape.mk true .w64).Contains n)

/-- Whether an integer has 64 bits, unsigned. -/
def fitsUnsigned (n : Int) : Bool :=
  decide ((Shape.mk false .w64).Contains n)

/-- The integer value in 64 signed bits, and whether nothing of it was lost. -/
def toSigned? (c : Constant) : Option (Int × Bool) :=
  c.toInteger?.map fun n => ((Shape.mk true .w64).wrap n, fitsSigned n)

/-- The integer value as a number of places to shift by: none is negative, and those past 64 bits
count as the greatest of 64 bits, which already moves every bit out. -/
def toShiftCount? (c : Constant) : Option Nat :=
  match c.toInteger? with
  | some n => if n < 0 then none else some (min n.toNat (Width.w64.modulus - 1))
  | none => none

/-! ## Text -/

/-- A rational in lowest terms, as an integer where it is one. -/
def rationalText (q : Rat) : String :=
  if q.den = 1 then toString q.num else toString q.num ++ "/" ++ toString q.den

/-- The exact value, written out: complex numbers by their two parts, text quoted. -/
def toText : Constant → String
  | bool b => if b then "true" else "false"
  | integer n => toString n
  | rational q => rationalText q
  | complex re im => "(" ++ rationalText re ++ " + " ++ rationalText im ++ "i)"
  | text s => Text.quoted s
  | nil => "nil"

end Constant

end TypedOps
