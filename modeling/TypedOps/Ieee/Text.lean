import TypedOps.Ieee.Complex
import TypedOps.Decimal.Shortest

/-!
The text of floating-point numbers: the shortest decimal that reads back as the number, always
positional and without a point on whole numbers.
-/
namespace TypedOps.Ieee

/-- The magnitudes that round to the one with the given code: up to halfway to its neighbours,
and including halfway where the code is even. All is counted in half units. -/
def Format.gap (f : Format) (code : Nat) : Gap where
  below := f.units (code - 1) + f.units code
  value := 2 * f.units code
  above := f.units code + f.units (code + 1)
  closed := code % 2 == 0
  scale := 2 * f.unitsPerOne

/-- The text of a magnitude. -/
def Format.magnitudeText (f : Format) (code : Nat) : String :=
  if code = 0 then "0"
  else if code = f.infinity then "inf"
  else (f.gap code).shortest.text

namespace Binary

variable {f : Format}

/-- The text of a number. A negative number has a sign, negative zero too. -/
def text : Binary f → String
  | nan => "NaN"
  | number negative code => (if negative then "-" else "") ++ f.magnitudeText code

/-- The text of a number with its sign, also where that is positive; not-a-number has none. -/
def signedText : Binary f → String
  | nan => "NaN"
  | number negative code => (if negative then "-" else "+") ++ f.magnitudeText code

end Binary

/-- The text of a complex number: its real part, its signed imaginary part and `i`. -/
def Complex.text {f : Format} (z : Complex f) : String :=
  "(" ++ z.re.text ++ z.im.signedText ++ "i)"

end TypedOps.Ieee
