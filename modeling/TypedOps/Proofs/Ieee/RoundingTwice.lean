import TypedOps.Proofs.Ieee.Nearest

/-!
Rounding to the narrow format by way of the wide one. The middle of two neighbouring narrow
magnitudes is a magnitude of the wide format (`Format.exists_middle`), so the first rounding may end
in a middle but never on its other side. There the second rounding goes to the even neighbour, also
where the odd one was nearer before (`Format.Strays`). Main statement: nothing else goes wrong; the
number that a rational comes to is the nearest narrow one exactly unless the rational strays in this
way (`convert_ofRat_isNearest_iff`), which no number of the wide format does (`not_strays_exact`).
-/
namespace TypedOps.Ieee

namespace Format

variable {f g : Format} {m y : Rat} {c d p code : Nat}

/-! ## Middles -/

/-- The middle between the magnitude of a code and the next one. -/
def middle (f : Format) (code : Nat) : Rat :=
  (f.magnitude code + f.magnitude (code + 1)) / 2

theorem strictMono_middle (f : Format) : StrictMono f.middle := by
  intro c d less
  have lower := f.strictMono_magnitude less
  have upper := f.strictMono_magnitude (Nat.succ_lt_succ less)
  simp only [middle]
  linarith

/-- What rounds to a code is at most at the middle above it. -/
theorem Nearest.le_middle (nearest : f.Nearest m c) (finite : c < f.infinity) :
    m ≤ f.middle c :=
  (abs_sub_lower_le_iff (f.strictMono_magnitude (Nat.lt_succ_self c))).mp
    (nearest.le (c + 1) finite)

/-- What rounds to a code is at least at the middle below it. -/
theorem Nearest.middle_le (nearest : f.Nearest m (c + 1)) : f.middle c ≤ m :=
  (abs_sub_upper_le_iff (f.strictMono_magnitude (Nat.lt_succ_self c))).mp
    (nearest.le c (Nat.le_of_succ_le nearest.le_infinity))

/-- A middle is as far from either side, and goes to the even one. -/
theorem Nearest.of_middle (nearest : f.Nearest (f.middle c) d) (finite : c < f.infinity) :
    (d = c ∨ d = c + 1) ∧ d % 2 = 0 := by
  have equal : |f.middle c - f.magnitude (c + 1)| = |f.middle c - f.magnitude c| := by
    have opposite : f.middle c - f.magnitude (c + 1) = -(f.middle c - f.magnitude c) := by
      simp only [middle]
      ring
    rw [opposite, abs_neg]
  have lower : c ≤ d := by
    by_contra below
    have inside : d < c := Nat.lt_of_not_le below
    exact absurd (nearest.le_middle (inside.trans finite)) (f.strictMono_middle inside).not_ge
  have upper : d ≤ c + 1 := by
    by_contra above
    obtain ⟨k, rfl⟩ : ∃ k, d = k + 1 := ⟨d - 1, by omega⟩
    exact absurd nearest.middle_le (f.strictMono_middle (by omega)).not_ge
  obtain rfl | rfl : d = c ∨ d = c + 1 := by omega
  · exact ⟨.inl rfl, nearest.even (d + 1) finite (by omega) equal⟩
  · exact ⟨.inr rfl, nearest.even c finite.le (by omega) equal.symm⟩

/-- Rounding does not cross a magnitude of the format, from below. -/
theorem Nearest.le_of_le (nearest : g.Nearest m d) (point : p ≤ g.infinity)
    (below : m ≤ g.magnitude p) : g.magnitude d ≤ g.magnitude p := by
  by_contra crossed
  have less := lt_of_not_ge crossed
  have middle := (abs_sub_upper_le_iff less).mp (nearest.le p point)
  linarith

/-- Rounding does not cross a magnitude of the format, from above. -/
theorem Nearest.ge_of_ge (nearest : g.Nearest m d) (point : p ≤ g.infinity)
    (above : g.magnitude p ≤ m) : g.magnitude p ≤ g.magnitude d := by
  by_contra crossed
  have less := lt_of_not_ge crossed
  have middle := (abs_sub_lower_le_iff less).mp (nearest.le p point)
  linarith

/-! ## Straying -/

/-- `y` is in the middle of two neighbours, of which the one with the odd code is nearer to `m`. -/
def Strays (f : Format) (m y : Rat) : Prop :=
  ∃ code < f.infinity, y = f.middle code ∧ if code % 2 = 0 then y < m else m < y

/-- What strays comes to another code than the nearest one. -/
theorem Strays.apart (strays : f.Strays m y) (direct : f.Nearest m c) (twice : f.Nearest y d) :
    c ≠ d := by
  rintro rfl
  obtain ⟨code, finite, rfl, side⟩ := strays
  obtain ⟨neighbour, even⟩ := twice.of_middle finite
  split at side
  case isTrue codeEven =>
    obtain rfl : c = code := by omega
    exact absurd (direct.le_middle finite) side.not_ge
  case isFalse codeOdd =>
    obtain rfl : c = code + 1 := by omega
    exact absurd direct.middle_le side.not_ge

/-- What comes to a middle strays if it ends at the other neighbour than the nearest one. -/
theorem strays_of_apart (direct : f.Nearest m c) (twice : f.Nearest (f.middle code) d)
    (finite : code < f.infinity) (neighbour : c = code ∨ c = code + 1) (apart : c ≠ d) :
    f.Strays m (f.middle code) := by
  obtain ⟨other, even⟩ := twice.of_middle finite
  have different : m ≠ f.middle code := by
    rintro rfl
    exact apart (direct.unique twice)
  refine ⟨code, finite, rfl, ?_⟩
  split
  case isTrue codeEven =>
    obtain rfl : c = code + 1 := by omega
    exact lt_of_le_of_ne direct.middle_le different.symm
  case isFalse codeOdd =>
    obtain rfl : c = code := by omega
    exact lt_of_le_of_ne (direct.le_middle finite) different

/-- Where the middles are magnitudes of a finer format, rounding to that format first ends at
another code exactly for what strays. -/
theorem nearest_twice_iff
    (middles : ∀ c < f.infinity, ∃ p ≤ g.infinity, g.magnitude p = f.middle c)
    (fine : g.Nearest m p) (direct : f.Nearest m c) (twice : f.Nearest (g.magnitude p) d) :
    f.Nearest m d ↔ ¬ f.Strays m (g.magnitude p) := by
  refine ⟨fun nearest strays => strays.apart nearest twice rfl, fun kept => ?_⟩
  -- A middle between the two codes is crossed by neither rounding, so the finer one ends there.
  rcases Nat.lt_trichotomy c d with below | rfl | above
  · exfalso
    apply kept
    obtain ⟨k, rfl⟩ : ∃ k, d = k + 1 := ⟨d - 1, by omega⟩
    have finite : c < f.infinity := below.trans_le twice.le_infinity
    obtain ⟨point, inside, same⟩ := middles c finite
    have atMost : g.magnitude p ≤ f.middle c :=
      same ▸ fine.le_of_le inside (same ▸ direct.le_middle finite)
    have atLeast : f.middle k ≤ g.magnitude p := twice.middle_le
    obtain rfl : k = c := by
      have := f.strictMono_middle.le_iff_le.mp (atLeast.trans atMost)
      omega
    have ends : g.magnitude p = f.middle k := le_antisymm atMost atLeast
    rw [ends] at twice ⊢
    exact strays_of_apart direct twice finite (.inl rfl) below.ne
  · exact direct
  · exfalso
    apply kept
    obtain ⟨k, rfl⟩ : ∃ k, c = k + 1 := ⟨c - 1, by omega⟩
    have finite : d < f.infinity := above.trans_le direct.le_infinity
    obtain ⟨point, inside, same⟩ := middles k (Nat.lt_of_succ_le direct.le_infinity)
    have atLeast : f.middle k ≤ g.magnitude p :=
      same ▸ fine.ge_of_ge inside (same ▸ direct.middle_le)
    have atMost : g.magnitude p ≤ f.middle d := twice.le_middle finite
    obtain rfl : k = d := by
      have := f.strictMono_middle.le_iff_le.mp (atLeast.trans atMost)
      omega
    have ends : g.magnitude p = f.middle k := le_antisymm atMost atLeast
    rw [ends] at twice ⊢
    exact strays_of_apart direct twice finite (.inr rfl) above.ne'

/-! ## The two formats -/

/-- Every number of few enough bits is in units what some code stands for, whatever its scale. -/
theorem exists_units (g : Format) (e : Nat) {n : Nat} (short : n ≤ 2 ^ (g.fractionBits + 1)) :
    ∃ code, g.units code = n * 2 ^ e := by
  induction e generalizing n with
  | zero => exact ⟨n, by simpa using g.units_grid (.inl rfl) short⟩
  | succ e ih =>
    by_cases normal : 2 ^ g.fractionBits ≤ n
    · exact ⟨_, g.units_grid (.inr normal) short⟩
    · obtain ⟨code, units⟩ := @ih (2 * n) (by rw [Nat.pow_succ']; omega)
      exact ⟨code, by rw [units, Nat.pow_succ]; ring⟩

theorem units_infinity : binary64.units binary64.infinity = 2 ^ 52 * 2 ^ 2046 := by
  have places : binary64.infinity = 2046 * 2 ^ binary64.fractionBits + 2 ^ 52 := by decide
  rw [places, binary64.units_grid (.inr (by decide)) (by decide)]

/-- The middles of the narrow format are magnitudes of the wide one. -/
theorem exists_middle (code : Nat) (finite : code < binary32.infinity) :
    ∃ p ≤ binary64.infinity, binary64.magnitude p = binary32.middle code := by
  obtain ⟨e, r, normal, short, rfl⟩ := binary32.exists_grid code
  -- Of the two neighbours `r` and `r + 1` on a grid, the middle is an odd multiple of its half.
  obtain ⟨p, units⟩ := binary64.exists_units (e + 924) (n := 2 * r + 1) (by
    simp only [fractionBits] at short ⊢
    omega)
  refine ⟨p, ?_, ?_⟩
  · rw [← binary64.strictMono_units.le_iff_le, units, units_infinity]
    apply Nat.mul_le_mul
    · simp only [fractionBits] at short
      omega
    · apply Nat.pow_le_pow_right (by decide)
      simp only [fractionBits, infinity] at normal short finite
      omega
  · have places : binary64.unitPlaces = 1 + 924 + binary32.unitPlaces := rfl
    rw [middle, magnitude_eq, magnitude_eq, magnitude_eq, units, Nat.add_assoc,
      binary32.units_grid normal short.le, binary32.units_grid (by omega) short, unitsPerOne_eq,
      unitsPerOne_eq, places, Nat.pow_add]
    generalize 924 = k
    push_cast
    rw [pow_add, pow_add]
    field_simp
    ring

/-- Infinity counts for more in the wide format. -/
theorem infinity_le :
    binary32.magnitude binary32.infinity ≤ binary64.magnitude binary64.infinity := by
  decide +kernel

/-- There is no middle past the wide numbers. -/
theorem not_strays_infinity : ¬ binary32.Strays m (binary64.magnitude binary64.infinity) := by
  rintro ⟨code, finite, middle, _⟩
  have lower := binary32.strictMono_magnitude finite
  have upper := binary32.strictMono_magnitude.monotone (Nat.succ_le_of_lt finite)
  have past := infinity_le
  rw [middle, Format.middle] at past
  linarith

end Format

open Format (binary32 binary64)

/-- The rational comes to the middle of two narrow neighbours when it is rounded to the wide format,
and is nearer to the odd one. -/
def Strays (q : Rat) : Prop :=
  ∃ y : Rat, (Binary.ofRat q : Binary .binary64).toRat? = some y ∧ Format.binary32.Strays |q| |y|

namespace Binary

variable {f : Format} {x : Binary .binary64} {q y : Rat}

theorem abs_of_toRat {negative : Bool} {code : Fin (f.infinity + 1)}
    (exact : (number negative code).toRat? = some y) : |y| = f.magnitude code := by
  by_cases infinite : code.val = f.infinity
  · simp [toRat?, infinite] at exact
  · simp only [toRat?, infinite, ↓reduceIte, Option.some.injEq] at exact
    have positive := f.magnitude_nonneg code
    rw [← exact, Format.magnitude] at *
    split
    · rw [abs_neg, abs_of_nonneg positive]
    · rw [abs_of_nonneg positive]

/-- A number becomes the narrow number nearest to its magnitude, under its sign. -/
theorem exists_convert (negative : Bool) (code : Fin (binary64.infinity + 1)) :
    ∃ c, (number negative code).convert = (ofCode negative c : Binary .binary32) ∧
      binary32.Nearest (binary64.magnitude code) c := by
  by_cases infinite : code.val = binary64.infinity
  · refine ⟨binary32.infinity, by simp only [convert, infinite, ↓reduceIte, infinity], ?_⟩
    rw [infinite]
    exact Format.nearest_infinity Format.infinity_le
  · have nearest := binary32.nearest_codeOf_abs (binary64.magnitude code)
    rw [abs_of_nonneg (binary64.magnitude_nonneg _)] at nearest
    refine ⟨_, ?_, nearest⟩
    simp only [convert, infinite, ↓reduceIte, round, Format.magnitude]

theorem strays_iff {negative : Bool} {code : Fin (binary64.infinity + 1)}
    (rounded : ofRat q = number negative code) :
    Strays q ↔ binary32.Strays |q| (binary64.magnitude code) := by
  simp only [Strays, rounded]
  constructor
  · rintro ⟨y, exact, strays⟩
    rwa [abs_of_toRat exact] at strays
  · intro strays
    have finite : code.val ≠ binary64.infinity := by
      intro infinite
      rw [infinite] at strays
      exact Format.not_strays_infinity strays
    obtain ⟨y, exact⟩ : ∃ y, (number negative code).toRat? = some y := by
      simp only [toRat?, finite, ↓reduceIte, Option.some.injEq, exists_eq']
    exact ⟨y, exact, by rwa [abs_of_toRat exact]⟩

/-- A rational that is rounded to the wide format and from there to the narrow one comes to the
nearest narrow number exactly unless it strays. -/
theorem convert_ofRat_isNearest_iff (q : Rat) :
    ((ofRat q : Binary .binary64).convert : Binary .binary32).IsNearest q ↔ ¬ Strays q := by
  have fine := ofRat_isNearest (f := .binary64) q
  cases rounded : (ofRat q : Binary .binary64) with
  | nan =>
    rw [rounded] at fine
    exact fine.elim
  | number negative code =>
    rw [rounded] at fine
    obtain ⟨sign, fine⟩ := fine
    obtain ⟨c, converted, twice⟩ := exists_convert negative code
    have direct := binary32.nearest_codeOf_abs q
    rw [converted, isNearest_ofCode twice.le_infinity, strays_iff rounded,
      ← Format.nearest_twice_iff Format.exists_middle fine direct twice]
    exact and_iff_right sign

/-- A number of the wide format does not stray. -/
theorem not_strays_exact (exact : (ofRat q : Binary .binary64).toRat? = some q) : ¬ Strays q := by
  rintro ⟨y, rounded, code, _, _, side⟩
  cases exact.symm.trans rounded
  split at side <;> exact lt_irrefl _ side

end Binary

end TypedOps.Ieee
