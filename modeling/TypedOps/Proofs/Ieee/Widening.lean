import TypedOps.Ieee.Complex
import TypedOps.Proofs.Ieee.RoundingTwice

/-!
Narrow numbers in the wide format. Every finite narrow number is one of the wide format, with the
same magnitude (`Format.exists_wide`), so a widened number has the same integer part
(`truncate_widen`) and is narrowed back to what it was (`narrow_widen`), and a conversion may as
well go by way of the wide format (`convert_widened`).
-/
namespace TypedOps.Ieee

namespace Format

/-- The magnitude of a finite narrow number is that of a finite wide one. -/
theorem exists_wide {code : Nat} (finite : code < binary32.infinity) :
    ∃ p < binary64.infinity, binary64.magnitude p = binary32.magnitude code := by
  obtain ⟨e, r, normal, short, rfl⟩ := binary32.exists_grid code
  simp only [fractionBits, infinity] at normal short finite
  -- A unit of the narrow format is `2 ^ 925` units of the wide one.
  obtain ⟨p, units⟩ := binary64.exists_units (e + 925) (n := r) (by
    simp only [fractionBits]
    omega)
  refine ⟨p, ?_, ?_⟩
  · rw [← binary64.strictMono_units.lt_iff_lt, units, units_infinity]
    apply Nat.mul_lt_mul_of_lt_of_le'
    · exact short.trans_le (by decide)
    · apply Nat.pow_le_pow_right (by decide)
      omega
    · exact Nat.two_pow_pos _
  · have places : binary64.unitPlaces = 925 + binary32.unitPlaces := rfl
    rw [magnitude_eq, magnitude_eq, units, binary32.units_grid normal short.le, unitsPerOne_eq,
      unitsPerOne_eq, places, Nat.pow_add]
    generalize 925 = k
    push_cast
    rw [pow_add]
    field_simp

end Format

open Format (binary32 binary64)

namespace Binary

theorem convert_finite {f g : Format} (negative : Bool) {code : Fin (f.infinity + 1)}
    (finite : code.val ≠ f.infinity) :
    ((number negative code : Binary f).convert : Binary g) = round negative (f.magnitude code) := by
  simp only [convert, if_neg finite, Format.magnitude]

theorem round_magnitude {f : Format} (negative : Bool) (code : Fin (f.infinity + 1)) :
    round negative (f.magnitude code) = number negative code :=
  round_units negative code

/-- A finite narrow number becomes the wide one of its sign and magnitude. -/
theorem exists_widen (negative : Bool) {code : Fin (binary32.infinity + 1)}
    (finite : code.val ≠ binary32.infinity) :
    ∃ wide : Fin (binary64.infinity + 1), wide.val ≠ binary64.infinity ∧
      binary64.magnitude wide = binary32.magnitude code ∧
      ((number negative code : Binary .binary32).convert : Binary .binary64) =
        number negative wide := by
  obtain ⟨p, below, same⟩ := Format.exists_wide
    (Nat.lt_of_le_of_ne (Nat.le_of_lt_succ code.isLt) finite)
  obtain ⟨wide, rfl⟩ : ∃ wide : Fin (binary64.infinity + 1), wide.val = p :=
    ⟨⟨p, Nat.lt_succ_of_lt below⟩, rfl⟩
  exact ⟨wide, below.ne, same, by rw [convert_finite negative finite, ← same, round_magnitude]⟩

theorem convert_infinite {f g : Format} (negative : Bool) {code : Fin (f.infinity + 1)}
    (infinite : code.val = f.infinity) :
    ((number negative code : Binary f).convert : Binary g) = infinity negative := by
  simp only [convert, if_pos infinite]

/-- Widening a narrow number and narrowing it again leaves it alone. -/
theorem narrow_widen (x : Binary .binary32) :
    ((x.convert : Binary .binary64).convert : Binary .binary32) = x := by
  cases x with
  | nan => rfl
  | number negative code =>
    by_cases infinite : code.val = binary32.infinity
    · simp only [convert, infinity, ofCode, infinite, Nat.min_self, ↓reduceIte, number.injEq,
        true_and]
      exact Fin.ext infinite.symm
    · obtain ⟨wide, finite, same, widened⟩ := exists_widen negative infinite
      rw [widened, convert_finite negative finite, same, round_magnitude]

/-- A widened number has the same integer part. -/
theorem truncate_widen (s : Shape) (x : Binary .binary32) :
    (x.convert : Binary .binary64).truncate s = x.truncate s := by
  cases x with
  | nan => rfl
  | number negative code =>
    by_cases infinite : code.val = binary32.infinity
    · rw [convert_infinite negative infinite]
      simp only [infinity, ofCode, truncate, toRat?, infinite, Nat.min_self, ↓reduceIte]
    · obtain ⟨wide, finite, same, widened⟩ := exists_widen negative infinite
      rw [widened]
      simp only [truncate, toRat?, if_neg infinite, if_neg finite]
      unfold Format.magnitude at same
      rw [same]

/-- A conversion may go by way of the wide format. -/
theorem convert_widened {f g : Format} (x : Binary f) :
    ((x.convert : Binary .binary64).convert : Binary g) = x.convert := by
  cases f with
  | binary64 => rw [convert_self]
  | binary32 =>
    cases g with
    | binary32 => rw [narrow_widen, convert_self]
    | binary64 => rw [convert_self]

end Binary

@[simp] theorem Complex.convert_self {f : Format} (z : Complex f) :
    (z.convert : Complex f) = z := by
  simp only [convert, Binary.convert_self]

theorem Complex.narrow_widen (z : Complex .binary32) :
    ((z.convert : Complex .binary64).convert : Complex .binary32) = z := by
  simp only [convert, Binary.narrow_widen]

theorem Complex.convert_widened {f g : Format} (z : Complex f) :
    ((z.convert : Complex .binary64).convert : Complex g) = z.convert := by
  simp only [convert, Binary.convert_widened]

end TypedOps.Ieee
