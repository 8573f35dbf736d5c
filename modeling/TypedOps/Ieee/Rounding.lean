import TypedOps.Ieee.Format

/-!
Rounding to the nearest number of a format. `Format.codeOf f n d` is the code of the magnitude
nearest to `n / d`; of two equally near it is the even code, and past the largest finite magnitude
it is the code of infinity. Main statement: a magnitude of the format rounds to its own code
(`codeOf_units`).
-/
namespace TypedOps.Ieee

/-- The integer nearest to `n / d`, and the even one of two equally near. -/
def divNearestEven (n d : Nat) : Nat :=
  let quotient := n / d
  let rest := n % d
  if 2 * rest < d ∨ (2 * rest = d ∧ quotient % 2 = 0) then quotient else quotient + 1

theorem divNearestEven_mul_left {k : Nat} (hk : 0 < k) (n d : Nat) :
    divNearestEven (k * n) (k * d) = divNearestEven n d := by
  have hrest : 2 * (k * (n % d)) < k * d ↔ 2 * (n % d) < d := by
    rw [Nat.mul_left_comm]
    exact Nat.mul_lt_mul_left hk
  have htie : 2 * (k * (n % d)) = k * d ↔ 2 * (n % d) = d := by
    rw [Nat.mul_left_comm]
    exact Nat.mul_right_inj (Nat.pos_iff_ne_zero.mp hk)
  simp only [divNearestEven, Nat.mul_div_mul_left _ _ hk, Nat.mul_mod_mul_left, hrest, htie]

theorem divNearestEven_mul_self {d : Nat} (hd : 0 < d) (n : Nat) :
    divNearestEven (n * d) d = n := by
  simp only [divNearestEven, Nat.mul_div_cancel n hd, Nat.mul_mod_left]
  exact if_pos (Or.inl hd)

namespace Format

/-- The number of binary places by which the grid at the magnitude `n / d`, in units, is coarser
than the unit: the magnitudes of a format keep one bit more than their fraction. -/
def spacing (f : Format) (n d : Nat) : Nat :=
  (n / d).log2 - f.fractionBits

/-- The code of the magnitude nearest to `n / d`. On the grid of spacing `e` the code is the
multiple of the spacing plus `e` full fraction fields, and a magnitude that rounds up to the next
grid carries into the exponent field by itself. -/
def codeOf (f : Format) (n d : Nat) : Nat :=
  let units := n <<< f.unitPlaces
  let e := f.spacing units d
  min ((e <<< f.fractionBits) + divNearestEven units (d <<< e)) f.infinity

theorem codeOf_le_infinity (f : Format) (n d : Nat) : f.codeOf n d ≤ f.infinity :=
  Nat.min_le_right ..

/-- Rounding depends on the quotient only. -/
theorem codeOf_mul_left (f : Format) {k : Nat} (hk : 0 < k) (n d : Nat) :
    f.codeOf (k * n) (k * d) = f.codeOf n d := by
  have hn : (k * n) <<< f.unitPlaces = k * (n <<< f.unitPlaces) := by
    rw [Nat.shiftLeft_eq, Nat.shiftLeft_eq, Nat.mul_assoc]
  have hd : ∀ e, (k * d) <<< e = k * (d <<< e) := fun e => by
    rw [Nat.shiftLeft_eq, Nat.shiftLeft_eq, Nat.mul_assoc]
  simp only [codeOf, spacing, hn, hd, Nat.mul_div_mul_left _ _ hk, divNearestEven_mul_left hk]

/-- A magnitude of the format rounds to itself. -/
theorem codeOf_units (f : Format) {code : Nat} (h : code ≤ f.infinity) :
    f.codeOf (f.units code) f.unitsPerOne = code := by
  have hlead : 0 < 1 <<< f.fractionBits := by
    rw [Nat.shiftLeft_eq, Nat.one_mul]
    exact Nat.two_pow_pos _
  have hsplit := Nat.div_add_mod code (1 <<< f.fractionBits)
  have hfrac := Nat.mod_lt code hlead
  have hexact : ∀ e m, f.units code = m <<< e → f.spacing (f.units code) 1 = e →
      f.codeOf (f.units code) f.unitsPerOne = min ((e <<< f.fractionBits) + m) f.infinity := by
    intro e m hm he
    have hscaled : f.units code <<< f.unitPlaces / f.unitsPerOne = f.units code / 1 := by
      rw [Nat.shiftLeft_eq, unitsPerOne, Nat.shiftLeft_eq, Nat.one_mul, Nat.div_one]
      exact Nat.mul_div_cancel _ (Nat.two_pow_pos _)
    have hspacing : f.spacing (f.units code <<< f.unitPlaces) f.unitsPerOne = e := by
      rw [spacing, hscaled]
      exact he
    have hquotient : divNearestEven (f.units code <<< f.unitPlaces) (f.unitsPerOne <<< e) = m := by
      rw [hm, unitsPerOne, Nat.shiftLeft_eq, Nat.shiftLeft_eq, Nat.shiftLeft_eq, Nat.shiftLeft_eq,
        Nat.one_mul, Nat.mul_assoc, Nat.mul_comm (2 ^ e)]
      exact divNearestEven_mul_self (Nat.mul_pos (Nat.two_pow_pos _) (Nat.two_pow_pos _)) m
    simp only [codeOf, hspacing, hquotient]
  by_cases hexp : code / 1 <<< f.fractionBits = 0
  · have hunits : f.units code = code := by
      rw [hexp, Nat.mul_zero, Nat.zero_add] at hsplit
      simp only [units, hexp, ↓reduceIte, hsplit]
    have hlow : f.spacing (f.units code) 1 = 0 := by
      rw [hunits, spacing, Nat.div_one]
      rcases Nat.eq_zero_or_pos code with rfl | hpos
      · simp
      · have : code < 2 ^ f.fractionBits := by
          rw [Nat.shiftLeft_eq, Nat.one_mul] at hexp
          exact (Nat.div_eq_zero_iff_lt (Nat.two_pow_pos _)).mp hexp
        have := (Nat.log2_lt (Nat.pos_iff_ne_zero.mp hpos)).mpr this
        omega
    rw [hexact 0 code (by rw [hunits, Nat.shiftLeft_zero]) hlow, Nat.zero_shiftLeft, Nat.zero_add]
    exact Nat.min_eq_left h
  · obtain ⟨e, he⟩ := Nat.exists_eq_succ_of_ne_zero hexp
    have hunits : f.units code
        = (1 <<< f.fractionBits + code % 1 <<< f.fractionBits) <<< e := by
      simp only [units, he, Nat.succ_ne_zero, ↓reduceIte, Nat.succ_sub_one]
    have hhigh : f.spacing (f.units code) 1 = e := by
      have hlog : (f.units code).log2 = f.fractionBits + e := by
        rw [hunits, Nat.log2_eq_iff]
        · simp only [Nat.shiftLeft_eq, Nat.one_mul] at hfrac ⊢
          constructor
          · rw [Nat.pow_add]
            exact Nat.mul_le_mul_right _ (by omega)
          · rw [Nat.add_right_comm, Nat.pow_add]
            exact Nat.mul_lt_mul_of_pos_right (by rw [Nat.pow_succ]; omega) (Nat.two_pow_pos _)
        · rw [Nat.shiftLeft_eq]
          exact Nat.mul_ne_zero (by omega) (Nat.pos_iff_ne_zero.mp (Nat.two_pow_pos _))
      rw [spacing, Nat.div_one, hlog]
      omega
    rw [hexact e _ hunits hhigh, Nat.shiftLeft_eq e]
    rw [Nat.shiftLeft_eq, Nat.one_mul] at hsplit he ⊢
    rw [he, Nat.mul_succ, Nat.mul_comm] at hsplit
    rw [← Nat.add_assoc, hsplit]
    exact Nat.min_eq_left h

end Format

end TypedOps.Ieee
