import TypedOps.Proofs.Integer.Residue

/-!
Division of machine integers. The quotient goes toward zero and stays in the range of the shape,
but for the least signed integer divided by `-1` (`contains_tdiv`); the remainder always stays in it
(`contains_tmod`). Main statements: quotient and remainder are the exact ones, but for the one
quotient that wraps (`division`), and together they give the dividend back (`quo_mul_add_rem`).
-/
namespace TypedOps.Shape

/-- The quotient `q` and the remainder `r` of `m` by `n` among the integers of a shape. The quotient
is the exact one without its fraction, wrapped; the least signed integer divided by `-1` is the only
one that wraps, to itself. The remainder is what the exact quotient leaves: it is smaller than the
divisor, and has the sign of the dividend unless it is zero. -/
structure Division (s : Shape) (m n q r : Int) : Prop where
  wrapped : q = s.wrap (m.tdiv n)
  exact : ¬ (s.signed = true ∧ m = s.least ∧ n = -1) → q = m.tdiv n
  least : s.signed = true → m = s.least → n = -1 → q = s.least
  remainder : r = m - n * m.tdiv n
  smaller : r.natAbs < n.natAbs
  sign : r = 0 ∨ r.sign = m.sign

variable {s : Shape} {m n x : Int}

/-! ## The range -/

theorem least_signed (signed : s.signed = true) : s.least = -s.limit := by
  simp only [least, limit, signed, ↓reduceIte]

theorem least_unsigned (unsigned : s.signed = false) : s.least = 0 := by
  simp only [least, unsigned, Bool.false_eq_true, ↓reduceIte]

/-- Between zero and an integer of the shape there are only integers of the shape. -/
theorem contains_of_between (inside : s.Contains m) (between : 0 ≤ x ∧ x ≤ m ∨ m ≤ x ∧ x ≤ 0) :
    s.Contains x := by
  obtain ⟨below, above⟩ := inside
  obtain ⟨leastNonpos, limitPos⟩ := s.contains_zero
  constructor <;> omega

/-- A remainder lies between zero and the dividend. -/
theorem contains_tmod (inside : s.Contains m) : s.Contains (m.tmod n) := by
  have size : (m.tmod n).natAbs ≤ m.natAbs := by
    rw [Int.natAbs_tmod]
    exact Nat.mod_le ..
  apply contains_of_between inside
  rcases le_total 0 m with nonneg | nonpos
  · have sign := Int.tmod_nonneg n nonneg
    omega
  · have sign := Int.tmod_nonneg n (neg_nonneg.mpr nonpos)
    rw [Int.neg_tmod] at sign
    omega

/-- A quotient lies in the range, unless it is the least signed integer divided by `-1`. -/
theorem contains_tdiv (inside : s.Contains m) (divisor : s.Contains n)
    (plain : ¬ (s.signed = true ∧ m = s.least ∧ n = -1)) : s.Contains (m.tdiv n) := by
  have size : (m.tdiv n).natAbs = m.natAbs / n.natAbs := Int.natAbs_tdiv m n
  cases signed : s.signed with
  | false =>
    -- Nothing is negative here.
    have nonneg : 0 ≤ m := least_unsigned signed ▸ inside.1
    have divisorNonneg : 0 ≤ n := least_unsigned signed ▸ divisor.1
    have quotientNonneg := Int.tdiv_nonneg nonneg divisorNonneg
    have smaller : m.natAbs / n.natAbs ≤ m.natAbs := Nat.div_le_self ..
    exact contains_of_between inside (by omega)
  | true =>
    have least := least_signed signed
    obtain ⟨below, above⟩ := inside
    by_cases minusOne : n = -1
    · subst minusOne
      have other : m ≠ s.least := fun same => plain ⟨signed, same, rfl⟩
      rw [Int.tdiv_neg, Int.tdiv_one]
      constructor <;> omega
    · by_cases one : n = 1
      · rw [one, Int.tdiv_one]
        exact ⟨below, above⟩
      · -- Every other divisor at least halves the dividend, or is zero.
        have halved : m.natAbs / n.natAbs ≤ m.natAbs / 2 := by
          by_cases zero : n = 0
          · simp [zero]
          · exact Nat.div_le_div_left (by omega) (by decide)
        constructor <;> omega

/-! ## Quotient and remainder -/

theorem quo_eq_wrap (inside : s.Contains m) (divisor : s.Contains n) :
    s.quo m n = s.wrap (m.tdiv n) := by
  rw [quo, wrap_eq_self inside, wrap_eq_self divisor]

theorem rem_eq_tmod (inside : s.Contains m) (divisor : s.Contains n) :
    s.rem m n = m.tmod n := by
  rw [rem, wrap_eq_self inside, wrap_eq_self divisor, wrap_eq_self (contains_tmod inside)]

/-- The one quotient that is past the range wraps to the dividend. -/
theorem quo_least_neg_one (signed : s.signed = true) : s.quo s.least (-1) = s.least := by
  obtain ⟨_, width⟩ := s
  subst signed
  cases width <;> decide

theorem sign_tmod_eq : m.tmod n = 0 ∨ (m.tmod n).sign = m.sign := by
  rw [Int.sign_tmod]
  by_cases divides : n ∣ m
  · exact .inl (Int.tmod_eq_zero_of_dvd divides)
  · exact .inr (if_neg divides)

/-- Quotients and remainders of a shape are those of the integers, but for the one that wraps. -/
theorem division (inside : s.Contains m) (divisor : s.Contains n) (nonzero : n ≠ 0) :
    s.Division m n (s.quo m n) (s.rem m n) where
  wrapped := quo_eq_wrap inside divisor
  exact plain := by
    rw [quo_eq_wrap inside divisor]
    exact wrap_eq_self (contains_tdiv inside divisor plain)
  least signed dividend minusOne := by
    rw [dividend, minusOne]
    exact quo_least_neg_one signed
  remainder := by
    rw [rem_eq_tmod inside divisor]
    exact Int.tmod_def m n
  smaller := by
    rw [rem_eq_tmod inside divisor, Int.natAbs_tmod]
    exact Nat.mod_lt _ (Int.natAbs_pos.mpr nonzero)
  sign := by
    rw [rem_eq_tmod inside divisor]
    exact sign_tmod_eq

/-- The quotient times the divisor and the remainder make up the dividend again, even where the
quotient has wrapped. -/
theorem quo_mul_add_rem (inside : s.Contains m) (divisor : s.Contains n) :
    s.add (s.mul (s.quo m n) n) (s.rem m n) = m := by
  have product : s.mul (s.quo m n) n ≡ m.tdiv n * n [ZMOD s.width.modulus] := by
    rw [mul_eq_wrap, quo_eq_wrap inside divisor]
    exact (s.wrap_modEq _).trans ((s.wrap_modEq _).mul_right n)
  calc s.add (s.mul (s.quo m n) n) (s.rem m n)
      = s.wrap (s.mul (s.quo m n) n + m.tmod n) := by
        rw [add_eq_wrap, rem_eq_tmod inside divisor]
    _ = s.wrap (m.tdiv n * n + m.tmod n) := wrap_eq_of_modEq (product.add_right _)
    _ = s.wrap m := by rw [mul_comm, Int.mul_tdiv_add_tmod]
    _ = m := wrap_eq_self inside

end TypedOps.Shape
