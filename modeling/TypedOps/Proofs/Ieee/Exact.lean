import Mathlib.Algebra.Order.Ring.Unbundled.Rat
import TypedOps.Ieee.Binary

/-!
Exact values of floating-point numbers. The exact value of a number rounds to the number
(`ofRat_equals`), and an exact value that is an integer of a shape is what truncation to the shape
gives (`truncate_exact`): neither conversion between integers and floating-point numbers loses
anything of a number that both of them have.
-/
namespace TypedOps.Ieee

/-- Only code zero stands for nothing. -/
theorem Format.units_pos (f : Format) {code : Nat} (positive : 0 < code) : 0 < f.units code := by
  have leading : 0 < 1 <<< f.fractionBits := by
    rw [Nat.one_shiftLeft]
    exact Nat.two_pow_pos _
  simp only [units]
  split
  · next empty =>
    have fields := Nat.div_add_mod code (1 <<< f.fractionBits)
    rw [empty, Nat.mul_zero] at fields
    omega
  · rw [Nat.shiftLeft_eq]
    exact Nat.mul_pos (Nat.add_pos_left leading _) (Nat.two_pow_pos _)

namespace Binary

variable {f : Format} {x : Binary f}

/-- The exact value of a number rounds to it, up to the sign of zero. -/
theorem ofRat_equals {q : Rat} (exact : x.toRat? = some q) : (ofRat q).equals x = true := by
  cases x with
  | nan => cases exact
  | number negative code =>
    have finite : code.val ≠ f.infinity := by
      intro infinite
      simp [toRat?, infinite] at exact
    simp only [toRat?, finite, ↓reduceIte, Option.some.injEq] at exact
    have rounded : ofRat q = number (decide (q < 0)) code := by
      rw [← round_units, ofRat, round, round, ← exact]
      split <;> simp only [Rat.neg_num, Int.natAbs_neg, Rat.neg_den]
    rw [rounded]
    by_cases zero : code.val = 0
    · -- The sign of zero is lost, and does not count.
      simp [equals, key?, zero]
    · have unit : f.unitsPerOne ≠ 0 := by
        cases f <;> decide
      have units : 0 < f.units code := f.units_pos (Nat.pos_of_ne_zero zero)
      have magnitude : 0 < mkRat (f.units code) f.unitsPerOne :=
        Rat.mkRat_pos (Int.natCast_pos.mpr units) unit
      have sign : decide (q < 0) = negative := by
        rw [← exact]
        cases negative with
        | true => simpa using magnitude
        | false => simp
      simp [equals, key?, sign]

/-- An integer of a shape is what truncation to the shape gives. -/
theorem truncate_exact {s : Shape} {n : Int} (exact : x.toRat? = some (n : Rat))
    (contained : s.Contains n) : x.truncate s = n := by
  cases x with
  | nan => cases exact
  | number negative code =>
    simp only [truncate, exact, Rat.num_intCast, Rat.den_intCast, Int.natCast_one, Int.tdiv_one,
      Shape.clamp, not_lt.mpr contained.1, contained.2, ↓reduceIte]

end Binary

end TypedOps.Ieee
