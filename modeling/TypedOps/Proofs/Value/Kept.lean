import TypedOps.Object.Checked
import TypedOps.Proofs.Ty.Assignability
import TypedOps.Value.Slot

/-!
Values as a kind keeps them. A value is kept as a kind when it looks like a fresh slot of the kind
and, where the kind follows the machine, lies within the word (`keptAs_iff_like_slot`). An object
is well formed when its value is kept as its type is stored; such an object is typed, and the
check of objects accepts it (`WellFormed.accepted`).
-/
namespace TypedOps

/-- The values kept as a kind on a machine with the given word. Runes and untyped constants are
not kept as themselves, and a reference is one of its own kind. -/
inductive Value.KeptAs (word : WordSize) : Kind → Value → Prop
  | bool (b : Bool) : KeptAs word .bool (.bool b)
  | integer {i : StoredInt} (fits : i.FitsWord word) : KeptAs word (.integer i.kind) (.integer i)
  | float {f : Ieee.Format} (x : Ieee.Binary f) : KeptAs word (.float f) (.float f x)
  | complex {f : Ieee.Format} (z : Ieee.Complex f) : KeptAs word (.complex f) (.complex f z)
  | text (s : String) : KeptAs word .string (.text s)
  | reference (r : RefKind) (handle : Option Handle) :
    KeptAs word (.reference r) (.reference (.reference r) handle)

/-- Two values of one variant; references agree in their kind too. -/
def Value.Alike : Value → Value → Prop
  | .bool _, .bool _ => True
  | .integer i, .integer j => i.kind = j.kind
  | .float f _, .float g _ => f = g
  | .complex f _, .complex g _ => f = g
  | .text _, .text _ => True
  | .reference k _, .reference l _ => k = l
  | .constant _, .constant _ => True
  | _, _ => False

/-- An object whose value is kept as its type is stored. -/
def Object.WellFormed (word : WordSize) (x : Object) : Prop :=
  x.value.KeptAs word x.ty.storage

/-- A well-formed object of a type that is stored as a given kind. -/
structure Object.OfKind (word : WordSize) (kind : Kind) (x : Object) : Prop where
  formed : x.WellFormed word
  storage : x.ty.storage = kind

/-- Two integers are kept alike when they are the same number of the same kind. -/
theorem StoredInt.eq_iff {i j : StoredInt} : i = j ↔ i.kind = j.kind ∧ i.val = j.val := by
  cases i
  cases j
  simp only [mk.injEq]

namespace Value

variable {word : WordSize} {kind : Kind} {v : Value}

/-- Values that are alike name the same kind. -/
theorem Alike.kind_eq {w : Value} (alike : v.Alike w) : v.kind? = w.kind? := by
  unfold Alike at alike
  split at alike
  case h_8 => exact alike.elim
  all_goals simp [kind?, alike]

theorem KeptAs.kind_eq (kept : v.KeptAs word kind) : v.kind? = some kind := by
  cases kept <;> rfl

theorem KeptAs.no_constant (kept : v.KeptAs word kind) : v.toConstant? = none := by
  cases kept <;> rfl

/-- A kind that values are kept as is its own storage. -/
theorem KeptAs.storage_eq (kept : v.KeptAs word kind) : kind.storage = kind := by
  cases kept <;> rfl

theorem KeptAs.not_untyped (kept : v.KeptAs word kind) : kind.isUntyped = false := by
  cases kept <;> rfl

theorem KeptAs.fitsWord (kept : v.KeptAs word kind) {i : StoredInt} (same : v = .integer i) :
    i.FitsWord word := by
  cases kept with
  | integer fits => cases same; exact fits
  | _ => cases same

/-- What an integer kind keeps are the integers of the kind within the word. -/
theorem keptAs_integer_iff {k : IntKind} :
    v.KeptAs word (.integer k) ↔
      ∃ i : StoredInt, i.kind = k ∧ i.FitsWord word ∧ v = .integer i := by
  constructor
  · intro kept
    cases kept with
    | integer fits => exact ⟨_, rfl, fits, rfl⟩
  · rintro ⟨i, rfl, fits, rfl⟩
    exact .integer fits

theorem keptAs_narrow (word : WordSize) (k : IntKind) (n : Int) :
    (Value.integer (.narrow word k n)).KeptAs word (.integer k) :=
  .integer (StoredInt.narrow_fitsWord word k n)

/-- The zero value of a kind is kept as the kind. -/
theorem keptAs_zero (zero : zero? kind = some v) : v.KeptAs word kind := by
  cases kind <;> cases zero
  case integer k =>
    refine keptAs_integer_iff.mpr ⟨_, rfl, ?_, rfl⟩
    have stored : (StoredInt.ofInt k 0).val = 0 := Shape.wrap_eq_self (Shape.contains_zero _)
    simp only [StoredInt.FitsWord, stored, Shape.contains_zero]
  all_goals constructor

/-- A kind keeps exactly the values like its fresh slots, with integers within the word. -/
theorem keptAs_iff_like_slot :
    v.KeptAs word kind ↔ (∃ slot, zero? kind = some slot ∧ v.Alike slot) ∧
      ∀ i, v = .integer i → i.FitsWord word := by
  constructor
  · intro kept
    refine ⟨?_, fun i same => kept.fitsWord same⟩
    cases kept <;> exact ⟨_, rfl, by simp [Alike, StoredInt.ofInt]⟩
  · rintro ⟨⟨slot, zero, alike⟩, fits⟩
    have keptSlot : slot.KeptAs word kind := keptAs_zero zero
    cases keptSlot <;> cases v <;> simp only [Alike] at alike
    case integer.integer i =>
      rw [← alike]
      exact .integer (fits i rfl)
    all_goals
      subst_vars
      constructor

end Value

namespace Object

variable {word : WordSize} {x : Object}

/-- The type of a well-formed object is not one of untyped constants. -/
theorem WellFormed.typed (formed : x.WellFormed word) : x.isUntyped = false :=
  Ty.typed_of_storage (Value.KeptAs.not_untyped formed)

theorem WellFormed.kind_eq (formed : x.WellFormed word) : x.value.kind? = some x.ty.storage :=
  Value.KeptAs.kind_eq formed

theorem OfKind.kept {kind : Kind} (ofKind : x.OfKind word kind) : x.value.KeptAs word kind :=
  ofKind.storage ▸ ofKind.formed

theorem OfKind.typed {kind : Kind} (ofKind : x.OfKind word kind) : x.isUntyped = false :=
  ofKind.formed.typed

/-- A well-formed object passes the check of objects. -/
theorem WellFormed.accepted (formed : x.WellFormed word) : checked x.ty x.value = .ok x := by
  obtain ⟨value, ty⟩ := x
  have kind := formed.kind_eq
  have constant := Value.KeptAs.no_constant formed
  cases value with
  | constant c => cases constant
  | _ => simp_all [checked, isRepresented]

/-- An object of a type stored as an integer is well formed when its value is an integer of that
kind within the word. -/
theorem wellFormed_integer_iff {k : IntKind} (storage : x.ty.storage = .integer k) :
    x.WellFormed word ↔
      ∃ i : StoredInt, i.kind = k ∧ i.FitsWord word ∧ x = ⟨.integer i, x.ty⟩ := by
  obtain ⟨value, ty⟩ := x
  simp only [WellFormed] at storage ⊢
  rw [storage, Value.keptAs_integer_iff]
  simp

end Object

end TypedOps
