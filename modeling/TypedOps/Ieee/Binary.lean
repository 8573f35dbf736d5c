import TypedOps.Ieee.Rounding
import TypedOps.Integer.Leading
import TypedOps.Integer.Shape

/-!
Floating-point numbers of a format: a sign with the code of a magnitude, or not a number. There
is one not-a-number. Finite numbers have an exact rational value (`toRat?`), and every rational
rounds to a number (`ofRat`), an integer of any size by way of its leading bits (`ofInt`).
Comparison is that of the signed codes (`key?`), under which the two zeros are equal and
not-a-number is unordered. Main statements: a number converted to its own format is left alone
(`convert_self`), and an integer of up to 64 bits rounds as a rational does (`ofInt_eq_ofRat`).
-/
namespace TypedOps.Ieee

/-- A floating-point number of a format. -/
inductive Binary (f : Format)
  | nan
  | number (negative : Bool) (code : Fin (f.infinity + 1))
  deriving DecidableEq

namespace Binary

variable {f g : Format}

/-- The number with a given sign and code; a code past infinity counts as infinity. -/
def ofCode (negative : Bool) (code : Nat) : Binary f :=
  number negative ⟨min code f.infinity, Nat.lt_succ_of_le (Nat.min_le_right ..)⟩

/-- The zero of a sign. -/
def zero (negative : Bool) : Binary f :=
  ofCode negative 0

/-- The infinity of a sign. -/
def infinity (negative : Bool) : Binary f :=
  ofCode negative f.infinity

/-- The number nearest to a magnitude, under a given sign. -/
def round (negative : Bool) (magnitude : Rat) : Binary f :=
  ofCode negative (f.codeOf magnitude.num.natAbs magnitude.den)

/-- The number nearest to a rational, ties to the even code. Zero is positive. -/
def ofRat (q : Rat) : Binary f :=
  round (decide (q < 0)) q

/-- The number nearest to the leading bits of an integer, under its sign. -/
def ofInt (n : Int) : Binary f :=
  round (decide (n < 0)) (Leading.shorten n.natAbs : Nat)

/-- The exact value of a finite number. -/
def toRat? : Binary f → Option Rat
  | nan => none
  | number negative code =>
    if code.val = f.infinity then none
    else
      let magnitude := mkRat (f.units code) f.unitsPerOne
      some (if negative then -magnitude else magnitude)

/-- The signed code, by which numbers are ordered. -/
def key? : Binary f → Option Int
  | nan => none
  | number negative code => some (if negative then -code else code)

/-- Whether two numbers are equal: zeros are, and not-a-number differs from everything. -/
def equals (x y : Binary f) : Bool :=
  match x.key?, y.key? with
  | some a, some b => a == b
  | _, _ => false

/-- Whether the first number is below the second. -/
def less (x y : Binary f) : Bool :=
  match x.key?, y.key? with
  | some a, some b => decide (a < b)
  | _, _ => false

/-- The nearest number of another format. -/
def convert : Binary f → Binary g
  | nan => nan
  | number negative code =>
    if code.val = f.infinity then infinity negative
    else round negative (mkRat (f.units code) f.unitsPerOne)

/-- The integer part, clamped to a shape; not-a-number gives zero. -/
def truncate (s : Shape) : Binary f → Int
  | nan => 0
  | x@(number negative _) =>
    match x.toRat? with
    | some q => s.clamp (q.num.tdiv q.den)
    | none => if negative then s.least else s.limit - 1

/-- An integer of up to 64 bits rounds as the rational that it is. -/
theorem ofInt_eq_ofRat {n : Int} (h : n.natAbs.log2 < 64) : (ofInt n : Binary f) = ofRat n := by
  have hsign : (n : Rat) < 0 ↔ n < 0 := by
    exact_mod_cast Iff.rfl
  simp only [ofInt, ofRat, round, Leading.shorten_eq_self h, hsign, Rat.num_natCast,
    Rat.den_natCast, Rat.num_intCast, Rat.den_intCast, Int.natAbs_natCast]

/-! ## Numbers of the format are left alone -/

/-- Under its own sign, a magnitude of the format rounds to itself. -/
theorem round_units (negative : Bool) (code : Fin (f.infinity + 1)) :
    round negative (mkRat (f.units code) f.unitsPerOne) = number negative code := by
  have hunit : f.unitsPerOne ≠ 0 := by
    cases f <;> decide
  have hgcd : 0 < f.unitsPerOne.gcd (f.units code) :=
    Nat.gcd_pos_of_pos_left _ (Nat.pos_of_ne_zero hunit)
  have hcode : f.codeOf (mkRat (f.units code) f.unitsPerOne).num.natAbs
      (mkRat (f.units code) f.unitsPerOne).den = code := by
    rw [Rat.num_mkRat, Rat.den_mkRat, if_neg hunit, if_neg hunit, Int.natAbs_natCast,
      ← Int.natCast_ediv, Int.natAbs_natCast, ← f.codeOf_mul_left hgcd,
      Nat.mul_div_cancel' (Nat.gcd_dvd_right ..), Nat.mul_div_cancel' (Nat.gcd_dvd_left ..)]
    exact f.codeOf_units (Nat.le_of_lt_succ code.isLt)
  simp only [round, hcode, ofCode, Nat.min_eq_left (Nat.le_of_lt_succ code.isLt)]

/-- Converting a number to its own format leaves it alone. -/
@[simp] theorem convert_self (x : Binary f) : (x.convert : Binary f) = x := by
  cases x with
  | nan => rfl
  | number negative code =>
    by_cases h : code.val = f.infinity
    · simp only [convert, h, ↓reduceIte, infinity, ofCode, Nat.min_self, number.injEq, true_and]
      exact Fin.ext h.symm
    · simp only [convert, h, ↓reduceIte, round_units]

/-! ## Encodings -/

/-- The number that a bit pattern encodes. -/
def ofBits (bits : Nat) : Binary f :=
  let signPlace := f.bits - 1
  let code := bits % (1 <<< signPlace)
  if code > f.infinity then nan else ofCode (bits.testBit signPlace) code

/-- The bit pattern of a number. -/
def toBits? : Binary f → Option Nat
  | nan => none
  | number negative code => some (if negative then (1 <<< (f.bits - 1)) + code else code)

end Binary

end TypedOps.Ieee
