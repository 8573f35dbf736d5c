import Mathlib.Algebra.Order.Field.Basic
import Mathlib.Algebra.Order.Field.Rat
import Mathlib.Algebra.Order.Group.Unbundled.Int
import Mathlib.Algebra.Ring.Parity
import Mathlib.Order.Monotone.Basic
import Mathlib.Tactic.FieldSimp
import Mathlib.Tactic.Linarith
import Mathlib.Tactic.Positivity
import Mathlib.Tactic.Ring
import TypedOps.Ieee.Binary

/-!
Rounding to the nearest number, as a rule on magnitudes. Codes lie on grids: within one of them the
magnitudes are the multiples of a power of two (`Format.units_grid`, `Format.exists_grid`), and
magnitudes grow with their codes (`Format.strictMono_units`). A code is the nearest one to a
magnitude when none is nearer and it is even where another one is as near (`Format.Nearest`). There
is at most one (`Nearest.unique`), and rounding finds it: the number that a rational rounds to is
the nearest one, and no other number is (`Binary.isNearest_iff`).
-/
namespace TypedOps.Ieee

/-! ## Quotients -/

/-- No multiple of the divisor is nearer than the nearest quotient, and one that is as near leaves
an even quotient. -/
theorem divNearestEven_nearest {d : Nat} (positive : 0 < d) (n s : Nat) :
    ((n : Int) - (divNearestEven n d * d : Nat)).natAbs ≤ ((n : Int) - (s * d : Nat)).natAbs ∧
      (s ≠ divNearestEven n d →
        ((n : Int) - (s * d : Nat)).natAbs = ((n : Int) - (divNearestEven n d * d : Nat)).natAbs →
          divNearestEven n d % 2 = 0) := by
  have split := Nat.div_add_mod' n d
  have rest := Nat.mod_lt n positive
  have next : (n / d + 1) * d = n / d * d + d := Nat.succ_mul ..
  -- Every other multiple is at or below the quotient's, at the next one, or above that.
  rcases Nat.lt_trichotomy s (n / d + 1) with below | rfl | above
  · have multiples : s * d ≤ n / d * d := Nat.mul_le_mul_right d (by omega)
    have apart : s ≠ n / d → s * d + d ≤ n / d * d := by
      intro other
      rw [← Nat.succ_mul]
      exact Nat.mul_le_mul_right d (by omega)
    simp only [divNearestEven]
    split_ifs <;> omega
  · simp only [divNearestEven]
    split_ifs <;> omega
  · have multiples : (n / d + 1) * d + d ≤ s * d := by
      rw [← Nat.succ_mul]
      exact Nat.mul_le_mul_right d above
    simp only [divNearestEven]
    split_ifs <;> omega

namespace Format

variable {f : Format} {c d code e r : Nat} {m : Rat}

/-! ## Grids -/

/-- On the grid of spacing `2 ^ e` a code stands for a multiple of the spacing. -/
theorem units_grid (f : Format) (normal : e = 0 ∨ 2 ^ f.fractionBits ≤ r)
    (short : r ≤ 2 ^ (f.fractionBits + 1)) :
    f.units (e * 2 ^ f.fractionBits + r) = r * 2 ^ e := by
  have twice : (2 : Nat) ^ (f.fractionBits + 1) = 2 * 2 ^ f.fractionBits := Nat.pow_succ' ..
  have leading : 0 < 2 ^ f.fractionBits := Nat.two_pow_pos _
  simp only [units, Nat.shiftLeft_eq, Nat.one_mul]
  generalize 2 ^ f.fractionBits = L at *
  -- A fraction without a leading one, one with it, and the first number of the next grid.
  rcases Nat.lt_or_ge r L with subnormal | normal'
  · obtain rfl : e = 0 := by omega
    simp [Nat.div_eq_of_lt subnormal, Nat.mod_eq_of_lt subnormal]
  · rcases Nat.lt_or_ge r (2 * L) with inside | edge
    · have fields : e * L + r = (r - L) + L * (e + 1) := by
        rw [Nat.mul_comm L, Nat.succ_mul]
        omega
      rw [fields, Nat.add_mul_div_left _ _ leading, Nat.add_mul_mod_self_left,
        Nat.div_eq_of_lt (by omega), Nat.mod_eq_of_lt (by omega)]
      simp [Nat.add_sub_cancel' normal']
    · obtain rfl : r = 2 * L := by omega
      have fields : e * L + 2 * L = L * (e + 2) := by
        rw [Nat.mul_comm L, Nat.add_mul]
      rw [fields, Nat.mul_div_cancel_left _ leading, Nat.mul_mod_right]
      simp [Nat.pow_succ]
      ring

/-- Each code lies on a grid, short of its end. -/
theorem exists_grid (f : Format) (code : Nat) :
    ∃ e r, (e = 0 ∨ 2 ^ f.fractionBits ≤ r) ∧ r < 2 ^ (f.fractionBits + 1) ∧
      code = e * 2 ^ f.fractionBits + r := by
  have twice : (2 : Nat) ^ (f.fractionBits + 1) = 2 * 2 ^ f.fractionBits := Nat.pow_succ' ..
  have leading : 0 < 2 ^ f.fractionBits := Nat.two_pow_pos _
  have fields := Nat.div_add_mod' code (2 ^ f.fractionBits)
  have fraction := Nat.mod_lt code leading
  rcases Nat.eq_zero_or_pos (code / 2 ^ f.fractionBits) with subnormal | normal
  · rw [subnormal] at fields
    exact ⟨0, code, .inl rfl, by omega, by omega⟩
  · obtain ⟨e, exponent⟩ := Nat.exists_eq_succ_of_ne_zero normal.ne'
    rw [exponent, Nat.succ_mul] at fields
    exact ⟨e, 2 ^ f.fractionBits + code % 2 ^ f.fractionBits, .inr (by omega), by omega, by omega⟩

/-- Magnitudes grow with their codes. -/
theorem strictMono_units (f : Format) : StrictMono f.units := by
  apply strictMono_nat_of_lt_succ
  intro code
  obtain ⟨e, r, normal, short, rfl⟩ := f.exists_grid code
  rw [Nat.add_assoc, f.units_grid normal short.le, f.units_grid (by omega) short]
  exact Nat.mul_lt_mul_of_pos_right (Nat.lt_succ_self r) (Nat.two_pow_pos e)

theorem units_inj : f.units c = f.units d ↔ c = d :=
  f.strictMono_units.injective.eq_iff

/-! ## Where rounding ends up -/

/-- How far the magnitude of a code is from `n / d`, counted so that one unit is `d`. -/
def deviation (f : Format) (n d code : Nat) : Nat :=
  ((n <<< f.unitPlaces : Nat) - (f.units code * d : Nat) : Int).natAbs

/-- The spacing at a magnitude is that of a grid which begins at or below it and ends above it. -/
theorem spacing_bounds (f : Format) (n : Nat) (positive : 0 < d) :
    (f.spacing n d = 0 ∨ 2 ^ f.fractionBits * (d * 2 ^ f.spacing n d) ≤ n) ∧
      n < 2 ^ (f.fractionBits + 1) * (d * 2 ^ f.spacing n d) := by
  have below : 2 ^ f.fractionBits * (d * 2 ^ f.spacing n d)
      = 2 ^ (f.fractionBits + f.spacing n d) * d := by
    rw [Nat.pow_add]
    ring
  have above : 2 ^ (f.fractionBits + 1) * (d * 2 ^ f.spacing n d)
      = 2 ^ (f.fractionBits + f.spacing n d + 1) * d := by
    rw [Nat.add_right_comm, Nat.pow_add _ (_ + 1)]
    ring
  rw [below, above, ← Nat.le_div_iff_mul_le positive, ← Nat.div_lt_iff_lt_mul positive]
  constructor
  · by_cases least : f.spacing n d = 0
    · exact .inl least
    · right
      have top : f.fractionBits + f.spacing n d = (n / d).log2 := by
        simp only [spacing] at least ⊢
        omega
      have nonzero : n / d ≠ 0 := by
        intro zero
        simp [spacing, zero] at least
      rw [top]
      exact Nat.log2_self_le nonzero
  · apply Nat.lt_log2_self.trans_le
    apply Nat.pow_le_pow_right (by decide)
    simp only [spacing]
    omega

/-- The nearest multiple of a spacing belongs to the grid of the spacing, if what is rounded
does. -/
theorem divNearestEven_grid {L n step : Nat} (positive : 0 < step)
    (starts : e = 0 ∨ L * step ≤ n) (ends : n < 2 * L * step) :
    (e = 0 ∨ L ≤ divNearestEven n step) ∧ divNearestEven n step ≤ 2 * L := by
  have nearest := fun s => (divNearestEven_nearest positive n s).1
  constructor
  · refine starts.imp_right fun start => ?_
    by_contra below
    have multiples := Nat.mul_lt_mul_of_pos_right (Nat.lt_of_not_le below) positive
    have nearer := nearest L
    omega
  · by_contra above
    have multiples := Nat.mul_lt_mul_of_pos_right (Nat.lt_of_not_le above) positive
    have nearer := nearest (2 * L)
    omega

/-- Rounding finds the code of a nearest magnitude, an even one if another is as near; only past
infinity it stops there. -/
theorem exists_codeOf (f : Format) (n : Nat) (positive : 0 < d) :
    ∃ code, f.codeOf n d = min code f.infinity ∧ ∀ c,
      f.deviation n d code ≤ f.deviation n d c ∧
        (c ≠ code → f.deviation n d c = f.deviation n d code → code % 2 = 0) := by
  have even : 2 ^ f.fractionBits % 2 = 0 := by
    cases f <;> decide
  have twice : (2 : Nat) ^ (f.fractionBits + 1) = 2 * 2 ^ f.fractionBits := Nat.pow_succ' ..
  obtain ⟨starts, ends⟩ := f.spacing_bounds (n <<< f.unitPlaces) positive
  simp only [codeOf, deviation]
  generalize n <<< f.unitPlaces = N at *
  generalize f.spacing N d = e at *
  have step : 0 < d * 2 ^ e := Nat.mul_pos positive (Nat.two_pow_pos e)
  have nearest := divNearestEven_nearest step N
  obtain ⟨normal, short⟩ := divNearestEven_grid step starts (twice ▸ ends)
  refine ⟨_, rfl, ?_⟩
  intro c
  simp only [Nat.shiftLeft_eq] at *
  generalize divNearestEven N (d * 2 ^ e) = r at *
  have found := f.units_grid normal (twice ▸ short)
  have foundMultiple : r * 2 ^ e * d = r * (d * 2 ^ e) := by ring
  obtain ⟨e', s, _, otherShort, rfl⟩ := f.exists_grid c
  have other := f.units_grid ‹_› otherShort.le
  rw [found, other, foundMultiple]
  rcases Nat.lt_or_ge e' e with finer | coarser
  · -- All of a finer grid is below the start of this one.
    have start : 2 ^ f.fractionBits * (d * 2 ^ e) ≤ N := starts.resolve_left (by omega)
    have below : s * 2 ^ e' * d < 2 ^ f.fractionBits * (d * 2 ^ e) := by
      calc s * 2 ^ e' * d = s * (2 ^ e' * d) := by ring
        _ < 2 * 2 ^ f.fractionBits * (2 ^ e' * d) :=
          Nat.mul_lt_mul_of_pos_right (twice ▸ otherShort)
            (Nat.mul_pos (Nat.two_pow_pos e') positive)
        _ = 2 ^ f.fractionBits * (d * 2 ^ (e' + 1)) := by ring
        _ ≤ 2 ^ f.fractionBits * (d * 2 ^ e) := by gcongr <;> omega
    have nearer := (nearest (2 ^ f.fractionBits)).1
    omega
  · -- A coarser grid has multiples of the same spacing.
    obtain ⟨k, rfl⟩ := Nat.exists_eq_add_of_le coarser
    have otherMultiple : s * 2 ^ (e + k) * d = s * 2 ^ k * (d * 2 ^ e) := by
      rw [Nat.pow_add]
      ring
    rw [otherMultiple]
    obtain ⟨le, tie⟩ := nearest (s * 2 ^ k)
    refine ⟨le, fun apart equal => ?_⟩
    have quotientEven : r % 2 = 0 := by
      refine tie ?_ equal
      rintro rfl
      apply apart
      rw [← f.units_inj, found, other, Nat.pow_add]
      ring
    rw [Nat.add_mod, Nat.mul_mod, even, quotientEven, Nat.mul_zero]

/-! ## Magnitudes -/

/-- The magnitude that a code stands for. Infinity counts as what its code would stand for if it
were that of a number, the power of two that comes after the finite numbers. -/
def magnitude (f : Format) (code : Nat) : Rat :=
  mkRat (f.units code) f.unitsPerOne

/-- The code of the magnitude nearest to `m`: no other is nearer, and where another one is as near
the code is even. -/
structure Nearest (f : Format) (m : Rat) (code : Nat) : Prop where
  le_infinity : code ≤ f.infinity
  le : ∀ c ≤ f.infinity, |m - f.magnitude code| ≤ |m - f.magnitude c|
  even : ∀ c ≤ f.infinity, c ≠ code → |m - f.magnitude c| = |m - f.magnitude code| →
    code % 2 = 0

theorem unitsPerOne_eq (f : Format) : (f.unitsPerOne : Rat) = 2 ^ f.unitPlaces := by
  rw [unitsPerOne, Nat.one_shiftLeft, Nat.cast_pow, Nat.cast_ofNat]

theorem unitsPerOne_pos (f : Format) : (0 : Rat) < f.unitsPerOne := by
  rw [unitsPerOne_eq]
  positivity

theorem magnitude_eq (f : Format) (code : Nat) :
    f.magnitude code = f.units code / f.unitsPerOne := by
  rw [magnitude, Rat.mkRat_eq_div, Int.cast_natCast]

theorem magnitude_nonneg (f : Format) (code : Nat) : 0 ≤ f.magnitude code := by
  have positive := f.unitsPerOne_pos
  rw [magnitude_eq]
  positivity

theorem strictMono_magnitude (f : Format) : StrictMono f.magnitude := by
  intro c d less
  have positive := f.unitsPerOne_pos
  rw [magnitude_eq, magnitude_eq]
  gcongr
  exact f.strictMono_units less

theorem abs_sub_magnitude (f : Format) (n : Nat) (positive : 0 < d) (code : Nat) :
    |(n : Rat) / d - f.magnitude code| = f.deviation n d code / (d * f.unitsPerOne) := by
  have unit := f.unitsPerOne_pos
  have denominator : (0 : Rat) < d := Nat.cast_pos.mpr positive
  have scaled : ((n <<< f.unitPlaces : Nat) : Rat) = n * f.unitsPerOne := by
    rw [unitsPerOne, Nat.shiftLeft_eq, Nat.shiftLeft_eq, Nat.one_mul, Nat.cast_mul]
  have quotient : (n : Rat) / d - f.magnitude code
      = (n * f.unitsPerOne - f.units code * d) / (d * f.unitsPerOne) := by
    rw [magnitude_eq]
    field_simp
  rw [quotient, abs_div, abs_of_pos (mul_pos denominator unit), deviation, Nat.cast_natAbs,
    Int.cast_abs, Int.cast_sub, Int.cast_natCast, Int.cast_natCast, scaled, Nat.cast_mul]

/-- The lower of two is as near as the upper one up to the middle between them. -/
theorem abs_sub_lower_le_iff {a b : Rat} (less : a < b) :
    |m - a| ≤ |m - b| ↔ m ≤ (a + b) / 2 := by
  constructor
  · intro near
    rcases abs_cases (m - a) with ⟨lower, _⟩ | ⟨lower, _⟩ <;>
      rcases abs_cases (m - b) with ⟨upper, _⟩ | ⟨upper, _⟩ <;> linarith
  · intro below
    rw [abs_of_nonpos (show m - b ≤ 0 by linarith)]
    exact abs_le.mpr ⟨by linarith, by linarith⟩

/-- The upper of two is as near as the lower one from the middle between them. -/
theorem abs_sub_upper_le_iff {a b : Rat} (less : a < b) :
    |m - b| ≤ |m - a| ↔ (a + b) / 2 ≤ m := by
  constructor
  · intro near
    rcases abs_cases (m - a) with ⟨lower, _⟩ | ⟨lower, _⟩ <;>
      rcases abs_cases (m - b) with ⟨upper, _⟩ | ⟨upper, _⟩ <;> linarith
  · intro above
    rw [abs_of_nonneg (show 0 ≤ m - a by linarith)]
    exact abs_le.mpr ⟨by linarith, by linarith⟩

/-- Infinity is nearest to all that is not below its magnitude. -/
theorem nearest_infinity (past : f.magnitude f.infinity ≤ m) : f.Nearest m f.infinity where
  le_infinity := Nat.le_refl _
  le c inside := by
    have below := f.strictMono_magnitude.monotone inside
    rw [abs_of_nonneg (by linarith), abs_of_nonneg (by linarith)]
    linarith
  even _ _ _ _ := by
    cases f <;> decide

/-- Rounding finds the nearest code. -/
theorem nearest_codeOf (f : Format) (n : Nat) (positive : 0 < d) :
    f.Nearest (n / d) (f.codeOf n d) := by
  obtain ⟨code, rounded, nearest⟩ := f.exists_codeOf n positive
  have scale : (0 : Rat) < d * f.unitsPerOne :=
    mul_pos (Nat.cast_pos.mpr positive) f.unitsPerOne_pos
  have le : ∀ c, |(n : Rat) / d - f.magnitude code| ≤ |(n : Rat) / d - f.magnitude c| := by
    intro c
    rw [f.abs_sub_magnitude n positive, f.abs_sub_magnitude n positive,
      div_le_div_iff_of_pos_right scale, Nat.cast_le]
    exact (nearest c).1
  have even : ∀ c ≠ code, |(n : Rat) / d - f.magnitude c| = |(n : Rat) / d - f.magnitude code| →
      code % 2 = 0 := by
    intro c other equal
    rw [f.abs_sub_magnitude n positive, f.abs_sub_magnitude n positive,
      div_left_inj' scale.ne', Nat.cast_inj] at equal
    exact (nearest c).2 other equal
  rcases Nat.lt_or_ge f.infinity code with past | finite
  · rw [rounded, Nat.min_eq_right past.le]
    apply nearest_infinity
    have above := f.strictMono_magnitude past
    have beyond := (abs_sub_upper_le_iff above).mp (le f.infinity)
    linarith
  · rw [rounded, Nat.min_eq_left finite]
    exact ⟨finite, fun c _ => le c, fun c _ => even c⟩

theorem nearest_codeOf_abs (f : Format) (q : Rat) :
    f.Nearest |q| (f.codeOf q.num.natAbs q.den) := by
  have magnitude : (q.num.natAbs : Rat) / q.den = |q| := by
    rw [Nat.cast_natAbs, Int.cast_abs, ← abs_of_nonneg (show (0 : Rat) ≤ q.den by positivity),
      ← abs_div, Rat.num_div_den]
  rw [← magnitude]
  exact f.nearest_codeOf _ q.den_pos

/-- Only one code is nearest. -/
theorem Nearest.unique (first : f.Nearest m c) (second : f.Nearest m d) : c = d := by
  wlog less : c ≤ d generalizing c d
  · exact (this second first (Nat.le_of_not_le less)).symm
  by_contra different
  have apart := f.strictMono_magnitude (Nat.lt_of_le_of_ne less different)
  have equal := le_antisymm (first.le d second.le_infinity) (second.le c first.le_infinity)
  -- What is as near to both is in the middle, where only neighbours meet.
  have middle := (abs_sub_upper_le_iff apart).mp equal.ge
  have neighbours : d = c + 1 := by
    by_contra farther
    have next : c + 1 < d := by omega
    have between := f.strictMono_magnitude (Nat.lt_succ_self c)
    have nearer := first.le (c + 1) (next.le.trans second.le_infinity)
    have lower := (abs_sub_lower_le_iff between).mp nearer
    have upper := f.strictMono_magnitude next
    linarith
  have even := first.even d second.le_infinity (Ne.symm different) equal.symm
  have evenNext := second.even c first.le_infinity different equal
  omega

end Format

namespace Binary

variable {f : Format} {x : Binary f} {q : Rat}

/-- The number that is nearest to a rational: with the sign of the rational, which is positive for
zero, and the nearest magnitude to that of the rational. -/
def IsNearest (q : Rat) : Binary f → Prop
  | nan => False
  | number negative code => negative = decide (q < 0) ∧ f.Nearest |q| code

theorem isNearest_ofCode {negative : Bool} {code : Nat} (inside : code ≤ f.infinity) :
    (ofCode negative code : Binary f).IsNearest q ↔
      negative = decide (q < 0) ∧ f.Nearest |q| code := by
  simp only [ofCode, IsNearest, Nat.min_eq_left inside]

theorem ofRat_isNearest (q : Rat) : (ofRat q : Binary f).IsNearest q := by
  rw [ofRat, round, isNearest_ofCode (f.codeOf_le_infinity ..)]
  exact ⟨rfl, f.nearest_codeOf_abs q⟩

/-- The number that a rational rounds to is the nearest one, and the only one. -/
theorem isNearest_iff : x.IsNearest q ↔ x = ofRat q := by
  constructor
  · intro nearest
    have rounded := ofRat_isNearest (f := f) q
    generalize (ofRat q : Binary f) = y at rounded ⊢
    cases x with
    | nan => exact nearest.elim
    | number negative code =>
      cases y with
      | nan => exact rounded.elim
      | number _ _ =>
        obtain ⟨rfl, nearest⟩ := nearest
        obtain ⟨rfl, rounded⟩ := rounded
        rw [Fin.ext (nearest.unique rounded)]
  · rintro rfl
    exact ofRat_isNearest q

end Binary

end TypedOps.Ieee
