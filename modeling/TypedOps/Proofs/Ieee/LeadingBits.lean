import Mathlib.Tactic.Positivity
import Mathlib.Tactic.Ring
import Mathlib.Tactic.SplitIfs
import TypedOps.Ieee.Binary

/-!
Rounding an integer from its leading bits. Off the middles a quotient rounds to the only integer
that is less than half away (`divNearestEven_eq`), and what ends in a mark is off the middles as
long as two more bits are dropped (`divNearestEven_marked`). Main statement: an integer of up to 128
bits rounds from its leading bits as the rational that it is (`Binary.ofInt_eq_ofRat_of_short`);
beyond, the mark may miss bits.
-/
namespace TypedOps

namespace Ieee

variable {n d q : Nat}

/-! ## Quotients -/

/-- The nearest quotient is at most half a divisor away. -/
theorem divNearestEven_half (positive : 0 < d) (n : Nat) :
    2 * (divNearestEven n d * d) ≤ 2 * n + d ∧ 2 * n ≤ 2 * (divNearestEven n d * d) + d := by
  have split := Nat.div_add_mod' n d
  have rest := Nat.mod_lt n positive
  have next : (n / d + 1) * d = n / d * d + d := Nat.succ_mul ..
  simp only [divNearestEven]
  split_ifs <;> omega

/-- A quotient that is less than half a divisor away is the nearest one. -/
theorem divNearestEven_eq (below : 2 * (q * d) < 2 * n + d) (above : 2 * n < 2 * (q * d) + d) :
    divNearestEven n d = q := by
  have positive : 0 < d := by omega
  obtain ⟨atMost, atLeast⟩ := divNearestEven_half positive n
  have less : divNearestEven n d * d < (q + 1) * d := by
    rw [Nat.succ_mul]
    omega
  have greater : q * d < (divNearestEven n d + 1) * d := by
    rw [Nat.succ_mul]
    omega
  have upper := Nat.lt_of_mul_lt_mul_right less
  have lower := Nat.lt_of_mul_lt_mul_right greater
  omega

/-- What is cut off behind a mark makes no difference where two more bits are dropped: neither the
number nor what is kept of it lies on the middle of two neighbours. -/
theorem divNearestEven_marked {step k rest : Nat} (kept : Nat) (some : 0 < rest)
    (less : rest < step) (positive : 0 < k) :
    divNearestEven (step * kept + rest) (step * (4 * k)) =
      divNearestEven (2 * (kept / 2) + 1) (4 * k) := by
  obtain ⟨atMost, atLeast⟩ := divNearestEven_half (show 0 < 4 * k by omega) (2 * (kept / 2) + 1)
  generalize divNearestEven (2 * (kept / 2) + 1) (4 * k) = q at *
  have quarter : q * (4 * k) = 4 * (q * k) := Nat.mul_left_comm ..
  have whole : q * (step * (4 * k)) = step * (4 * (q * k)) := by ring
  have width : step * (4 * k) = 2 * (step * (2 * k)) := by ring
  -- The middles are even numbers, and the mark is odd.
  have lower : step * (4 * (q * k)) ≤ step * kept + step * (2 * k) := by
    rw [← Nat.mul_add]
    exact Nat.mul_le_mul_left step (by omega)
  have upper : step * kept + step ≤ step * (4 * (q * k)) + step * (2 * k) := by
    rw [← Nat.mul_add, ← Nat.mul_succ]
    exact Nat.mul_le_mul_left step (by omega)
  apply divNearestEven_eq <;> omega

end Ieee

/-! ## Leading bits -/

namespace Leading

/-- Up to 128 bits an integer is shortened to itself, or to its leading bits with the last of them
set where something else is cut off. -/
theorem shorten_eq_or_marked {n : Nat} (short : n.log2 < 128) :
    shorten n = n ∨ ∃ kept rest, 0 < rest ∧ rest < 2 ^ excess n ∧ n = 2 ^ excess n * kept + rest ∧
      shorten n = 2 ^ excess n * (2 * (kept / 2) + 1) := by
  have split := Nat.div_add_mod n (2 ^ excess n)
  have less := Nat.mod_lt n (Nat.two_pow_pos (excess n))
  simp only [shorten, mark_eq short, Nat.shiftRight_eq_div_pow, Nat.shiftLeft_eq, Nat.one_mul]
  by_cases exact : n % 2 ^ excess n = 0
  · left
    simp only [exact, bne_self_eq_false, Bool.toNat_false, Nat.or_zero]
    rw [Nat.mul_comm]
    omega
  · right
    have mark : n / 2 ^ excess n ||| 1 = 2 * (n / 2 ^ excess n / 2) + 1 := by
      have upper : (n / 2 ^ excess n ||| 1) / 2 = n / 2 ^ excess n / 2 := by
        rw [Nat.or_div_two]
        exact Nat.or_zero _
      have odd : (n / 2 ^ excess n ||| 1) % 2 = 1 := Nat.or_mod_two_eq_one.mpr (.inr rfl)
      omega
    refine ⟨n / 2 ^ excess n, n % 2 ^ excess n, Nat.pos_of_ne_zero exact, less, split.symm, ?_⟩
    have set : (n % 2 ^ excess n != 0) = true := bne_iff_ne.mpr exact
    rw [set, Bool.toNat_true, mark, Nat.mul_comm]

/-- Something is cut off only of an integer of more than 64 bits. -/
theorem log2_eq_excess {n rest : Nat} (some : 0 < rest) (less : rest < 2 ^ excess n) :
    n.log2 = excess n + 63 := by
  by_contra other
  have whole : excess n = 0 := by
    simp only [excess] at other ⊢
    omega
  rw [whole] at less
  omega

/-- What an integer is shortened to has as many bits. -/
theorem log2_shorten {n : Nat} (short : n.log2 < 128) : (shorten n).log2 = n.log2 := by
  rcases shorten_eq_or_marked short with same | ⟨kept, rest, some, less, split, marked⟩
  · rw [same]
  · have long := log2_eq_excess some less
    have nonzero : n ≠ 0 := by omega
    obtain ⟨low, high⟩ := (Nat.log2_eq_iff nonzero).mp long
    have kept_ne : 2 ^ excess n * (2 * (kept / 2) + 1) ≠ 0 :=
      Nat.mul_ne_zero (Nat.two_pow_pos _).ne' (Nat.succ_ne_zero _)
    rw [long, marked, Nat.log2_eq_iff kept_ne]
    rw [Nat.add_assoc, Nat.pow_add] at high
    rw [Nat.pow_add] at low
    rw [Nat.add_assoc, Nat.pow_add, Nat.pow_add]
    have atLeast : 2 ^ 63 < kept + 1 := by
      apply Nat.lt_of_mul_lt_mul_left (a := 2 ^ excess n)
      rw [Nat.mul_succ]
      omega
    have below : kept < 2 ^ 64 := by
      apply Nat.lt_of_mul_lt_mul_left (a := 2 ^ excess n)
      omega
    exact ⟨Nat.mul_le_mul_left _ (by omega),
      Nat.mul_lt_mul_of_pos_left (by omega) (Nat.two_pow_pos _)⟩

end Leading

namespace Ieee

theorem log2_mul_two_pow {n : Nat} (nonzero : n ≠ 0) (p : Nat) : (n * 2 ^ p).log2 = n.log2 + p := by
  rw [Nat.log2_eq_iff (by positivity), Nat.add_right_comm, Nat.pow_add, Nat.pow_add _ (_ + 1)]
  exact ⟨Nat.mul_le_mul_right _ (Nat.log2_self_le nonzero),
    Nat.mul_lt_mul_of_pos_right Nat.lt_log2_self (Nat.two_pow_pos p)⟩

/-- An integer with at least as many bits as a magnitude keeps is rounded on the grid of what it has
more. -/
theorem Format.codeOf_integer (f : Format) {n e : Nat} (nonzero : n ≠ 0)
    (long : n.log2 = f.fractionBits + e) :
    f.codeOf n 1 =
      min (((f.unitPlaces + e) <<< f.fractionBits) + divNearestEven n (2 ^ e)) f.infinity := by
  have spacing : f.spacing (n <<< f.unitPlaces) 1 = f.unitPlaces + e := by
    rw [Format.spacing, Nat.div_one, Nat.shiftLeft_eq, log2_mul_two_pow nonzero, long]
    omega
  simp only [codeOf, spacing]
  rw [Nat.shiftLeft_eq n, Nat.one_shiftLeft, Nat.pow_add, Nat.mul_comm n,
    divNearestEven_mul_left (Nat.two_pow_pos _)]

/-- Up to 128 bits an integer has the code of its leading bits. -/
theorem Format.codeOf_shorten (f : Format) {n : Nat} (short : n.log2 < 128) :
    f.codeOf (Leading.shorten n) 1 = f.codeOf n 1 := by
  rcases Leading.shorten_eq_or_marked short with same | ⟨kept, rest, some, less, split, marked⟩
  · rw [same]
  · have long := Leading.log2_eq_excess some less
    -- Both formats drop more than one of the leading 64 bits.
    obtain ⟨j, dropped⟩ : ∃ j, 63 = f.fractionBits + (j + 2) := by
      cases f with
      | binary32 => exact ⟨38, rfl⟩
      | binary64 => exact ⟨9, rfl⟩
    have bits : n.log2 = f.fractionBits + (Leading.excess n + (j + 2)) := by omega
    have step : 2 ^ (Leading.excess n + (j + 2)) = 2 ^ Leading.excess n * (4 * 2 ^ j) := by ring
    rw [f.codeOf_integer (by omega) bits,
      f.codeOf_integer (by rw [marked]; positivity) ((Leading.log2_shorten short).trans bits),
      marked, step, divNearestEven_mul_left (Nat.two_pow_pos _),
      ← divNearestEven_marked kept some less (Nat.two_pow_pos j), ← split]

/-- An integer of up to 128 bits rounds as the rational that it is. -/
theorem Binary.ofInt_eq_ofRat_of_short {f : Format} {n : Int} (short : n.natAbs.log2 < 128) :
    (Binary.ofInt n : Binary f) = .ofRat n := by
  have sign : (n : Rat) < 0 ↔ n < 0 := by exact_mod_cast Iff.rfl
  simp only [ofInt, ofRat, round, sign, Rat.num_natCast, Rat.den_natCast, Rat.num_intCast,
    Rat.den_intCast, Int.natAbs_natCast, f.codeOf_shorten short]

/-- With one bit more it need not: just above the middle of two neighbours, by a bit that the mark
misses. -/
example : (Binary.ofInt 340282366920938501242306470388929921026 : Binary .binary64) ≠
    .ofRat 340282366920938501242306470388929921026 := by
  decide +kernel

end Ieee

end TypedOps
