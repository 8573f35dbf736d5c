import TypedOps.Proofs.Ieee.Exact
import TypedOps.Proofs.Integer.Residue
import TypedOps.Proofs.Value.Conversion

/-!
Values that conversion makes equal in one direction only (`Value.EqualsOneWay`). Of an integer and
a rune, converting the integer may drop the bits that make them differ; of an integer and a
floating-point number, either conversion may lose what the other one keeps. Main statements: such
values are of different kinds that convert (`EqualsOneWay.kind_ne`, `EqualsOneWay.converts`), an
integer and a floating-point number among them are not the same number (`EqualsOneWay.inexact`), and
an integer and a rune among them take a word of 64 bits (`EqualsOneWay.wide_word`).
-/
namespace TypedOps

open Ieee (Binary)

/-! ## Narrowing -/

namespace StoredInt

variable {word : WordSize} {i j : StoredInt}

/-- An integer within the word is what every integer of its residue is narrowed to. -/
theorem narrow_eq_iff (fits : i.FitsWord word) (n : Int) :
    narrow word i.kind n = i ↔ i.val ≡ n [ZMOD (i.kind.width word).modulus] := by
  constructor
  · intro narrowed
    have value : (i.kind.shape word).wrap n = i.val := by rw [← narrow_val, narrowed]
    rw [← value]
    exact Shape.wrap_modEq _ _
  · intro same
    have value : i.val = (i.kind.shape word).wrap n := Shape.eq_wrap_of_modEq fits same
    rw [← narrow_wrap, ← value, narrow_self fits]

/-- A rune is within every word, so that it stays the same number as an integer. -/
theorem narrow_rune_eq_iff (fits : i.FitsWord word) (otherFits : j.FitsWord word)
    (int : i.kind = .int) (rune : j.kind = .int32) :
    narrow word i.kind j.val = i ↔ i.val = j.val := by
  have contained : (i.kind.shape word).Contains j.val := by
    simp only [FitsWord, rune] at otherFits
    rw [int]
    revert otherFits
    cases word <;> simp only [IntKind.shape, IntKind.signed, IntKind.width, WordSize.width,
      Shape.Contains, Shape.least, Shape.limit, Width.modulus, ↓reduceIte] <;> omega
  constructor
  · intro narrowed
    rw [← Shape.wrap_eq_self contained, ← narrow_val, narrowed]
  · intro same
    rw [← same, narrow_self fits]

end StoredInt

/-! ## Values that are equal one way -/

namespace Value

/-- Whether a value kept as a kind equals another one converted to the kind. -/
def admits? (word : WordSize) (kind : Kind) (v w : Value) : Option Bool :=
  (w.convert? word kind).map (·.equals v)

/-- Values of different default types that are equal with the first one on the left and different
with it on the right: a rune and an integer that share their low bits only; an integer and a
floating-point number that is cut to it, which is to lose its fraction, be clamped to 64 bits and
be narrowed, but that it does not round to; and a floating-point number and an integer that rounds
to it, but that it is not cut to. -/
inductive EqualsOneWay (word : WordSize) : Value → Value → Prop
  | low {i j : StoredInt} (rune : i.kind = .int32) (int : j.kind = .int)
      (same : i.val ≡ j.val [ZMOD 2 ^ 32]) (apart : i.val ≠ j.val) :
    EqualsOneWay word (.integer i) (.integer j)
  | cut {i : StoredInt} {x : Binary .binary64}
      (same : .narrow word i.kind (x.truncate ⟨i.kind.signed, .w64⟩) = i)
      (apart : (Binary.ofRat i.val).equals x = false) :
    EqualsOneWay word (.integer i) (.float .binary64 x)
  | rounded {i : StoredInt} {x : Binary .binary64}
      (same : (Binary.ofRat i.val).equals x = true)
      (apart : .narrow word i.kind (x.truncate ⟨i.kind.signed, .w64⟩) ≠ i) :
    EqualsOneWay word (.float .binary64 x) (.integer i)

variable {word : WordSize} {kind other : Kind} {v w : Value} {i j : StoredInt}
  {x : Binary .binary64}

/-- Whether there is an answer depends on the kinds alone. -/
theorem admits_isSome (kept : v.KeptAs word kind) (otherKept : w.KeptAs word other) :
    (v.admits? word kind w).isSome = kind.convertsTo other := by
  rw [admits?, Option.isSome_map, convert_isSome otherKept, kept.storage_eq, Kind.convertsTo_comm]

theorem admits_integer (word : WordSize) (i j : StoredInt) :
    admits? word (.integer i.kind) (.integer i) (.integer j) =
      some (decide (StoredInt.narrow word i.kind j.val = i)) := by
  simp [admits?, convert?, Kind.storage, integerFor?, equals]

theorem admits_cut (word : WordSize) (i : StoredInt) (x : Binary .binary64) :
    admits? word (.integer i.kind) (.integer i) (.float .binary64 x) =
      some (decide (StoredInt.narrow word i.kind (x.truncate ⟨i.kind.signed, .w64⟩) = i)) := by
  simp [admits?, convert?, Kind.storage, integerFor?, equals]

theorem admits_rounded (word : WordSize) (i : StoredInt) (x : Binary .binary64) :
    admits? word (.float .binary64) (.float .binary64 x) (.integer i) =
      some ((Binary.ofRat i.val).equals x) := by
  simp [admits?, convert?, Kind.storage, binaryFor?, equals]

theorem equalsOneWay_integer_rune (fits : i.FitsWord word) (otherFits : j.FitsWord word)
    (int : i.kind = .int) (rune : j.kind = .int32) :
    EqualsOneWay word (.integer i) (.integer j) ↔
      admits? word (.integer i.kind) (.integer i) (.integer j) = some true ∧
        admits? word (.integer j.kind) (.integer j) (.integer i) = some false := by
  simp only [admits_integer, Option.some.injEq, decide_eq_true_eq, decide_eq_false_iff_not]
  rw [StoredInt.narrow_rune_eq_iff fits otherFits int rune]
  constructor
  · intro oneWay
    cases oneWay with
    | low swapped => cases int.symm.trans swapped
  · rintro ⟨same, apart⟩
    rw [same, StoredInt.narrow_self otherFits] at apart
    exact absurd rfl apart

theorem equalsOneWay_rune_integer (fits : i.FitsWord word) (otherFits : j.FitsWord word)
    (rune : i.kind = .int32) (int : j.kind = .int) :
    EqualsOneWay word (.integer i) (.integer j) ↔
      admits? word (.integer i.kind) (.integer i) (.integer j) = some true ∧
        admits? word (.integer j.kind) (.integer j) (.integer i) = some false := by
  simp only [admits_integer, Option.some.injEq, decide_eq_true_eq, decide_eq_false_iff_not]
  rw [StoredInt.narrow_rune_eq_iff otherFits fits int rune, StoredInt.narrow_eq_iff fits, rune]
  constructor
  · intro oneWay
    cases oneWay with
    | low _ _ same apart => exact ⟨same, Ne.symm apart⟩
  · rintro ⟨same, apart⟩
    exact .low rune int same (Ne.symm apart)

theorem equalsOneWay_integer_float :
    EqualsOneWay word (.integer i) (.float .binary64 x) ↔
      admits? word (.integer i.kind) (.integer i) (.float .binary64 x) = some true ∧
        admits? word (.float .binary64) (.float .binary64 x) (.integer i) = some false := by
  simp only [admits_cut, admits_rounded, Option.some.injEq, decide_eq_true_eq]
  constructor
  · intro oneWay
    cases oneWay with
    | cut same apart => exact ⟨same, apart⟩
  · rintro ⟨same, apart⟩
    exact .cut same apart

theorem equalsOneWay_float_integer :
    EqualsOneWay word (.float .binary64 x) (.integer i) ↔
      admits? word (.float .binary64) (.float .binary64 x) (.integer i) = some true ∧
        admits? word (.integer i.kind) (.integer i) (.float .binary64 x) = some false := by
  simp only [admits_cut, admits_rounded, Option.some.injEq, decide_eq_false_iff_not]
  constructor
  · intro oneWay
    cases oneWay with
    | rounded same apart => exact ⟨same, apart⟩
  · rintro ⟨same, apart⟩
    exact .rounded same apart

/-- Only values of kinds that convert are equal one way. -/
theorem EqualsOneWay.converts (oneWay : v.EqualsOneWay word w) (kept : v.KeptAs word kind)
    (otherKept : w.KeptAs word other) : kind.convertsTo other = true := by
  have kindEq := kept.kind_eq
  have otherEq := otherKept.kind_eq
  cases oneWay <;> cases kindEq <;> cases otherEq <;> rfl

/-- Values that are equal one way are kept differently. -/
theorem EqualsOneWay.kind_ne (oneWay : v.EqualsOneWay word w) : v.kind? ≠ w.kind? := by
  cases oneWay with
  | low rune int => simp [kind?, rune, int]
  | _ => simp [kind?]

/-- An integer and a rune that are equal one way take a word of 64 bits. -/
theorem EqualsOneWay.wide_word (oneWay : EqualsOneWay word (.integer i) (.integer j))
    (fits : i.FitsWord word) (otherFits : j.FitsWord word) : word = .w64 := by
  cases oneWay with
  | low rune int same apart =>
    cases word with
    | w64 => rfl
    | w32 =>
      simp only [StoredInt.FitsWord, rune, int, IntKind.shape, IntKind.signed, IntKind.width,
        WordSize.width, Shape.Contains, Shape.least, Shape.limit, Width.modulus,
        ↓reduceIte] at fits otherFits
      simp only [Int.ModEq] at same
      omega

/-- An integer and a floating-point number that are equal one way are not the same number. -/
theorem EqualsOneWay.inexact (fits : i.FitsWord word)
    (oneWay : EqualsOneWay word (.integer i) (.float .binary64 x) ∨
      EqualsOneWay word (.float .binary64 x) (.integer i)) :
    x.toRat? ≠ some (i.val : Rat) := by
  intro exact
  rcases oneWay with oneWay | oneWay
  · cases oneWay with
    | cut _ apart =>
      rw [Binary.ofRat_equals exact] at apart
      cases apart
  · cases oneWay with
    | rounded _ apart =>
      rw [Binary.truncate_exact exact i.contains_w64, StoredInt.narrow_self fits] at apart
      exact apart rfl

end Value

end TypedOps
