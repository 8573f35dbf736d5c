/-!
The two binary interchange formats for floating-point numbers, and what a bit pattern without
its sign (a *code*) stands for. Codes grow with the magnitude they stand for, and every magnitude
is a multiple of the least positive one, so it is measured in that unit (`Format.units`).
-/
namespace TypedOps.Ieee

/-- The formats in use. -/
inductive Format
  | binary32
  | binary64
  deriving DecidableEq

namespace Format

/-- The number of bits of an encoding. -/
def bits : Format → Nat
  | binary32 => 32
  | binary64 => 64

/-- The number of bits of the fraction field. -/
def fractionBits : Format → Nat
  | binary32 => 23
  | binary64 => 52

/-- The least positive number is `2 ^ -unitPlaces`. -/
def unitPlaces : Format → Nat
  | binary32 => 149
  | binary64 => 1074

/-- The code of infinity: an exponent field of ones over an empty fraction. -/
def infinity : Format → Nat
  | binary32 => 255 <<< 23
  | binary64 => 2047 <<< 52

/-- The magnitude that a code stands for, in units of the least positive number. With an empty
exponent field it is the fraction itself; else the fraction has a leading one and is scaled. -/
def units (f : Format) (code : Nat) : Nat :=
  let leading := 1 <<< f.fractionBits
  let exponent := code / leading
  let fraction := code % leading
  if exponent = 0 then fraction else (leading + fraction) <<< (exponent - 1)

/-- The number of units in one. -/
def unitsPerOne (f : Format) : Nat :=
  1 <<< f.unitPlaces

end Format

end TypedOps.Ieee
