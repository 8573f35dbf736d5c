import TypedOps.Proofs.Integer.Residue
import TypedOps.Proofs.Value.Conversion

/-!
Laws of conversion. What a value is converted to is kept as the kind asks (`keptAs_of_convert`), and
of the low bits that an integer is converted by, a kind at least as wide keeps all
(`narrow_narrow`). Main statements: a conversion gives a value that it leaves alone from then on,
and there is one exactly for the values of a class that the kind takes (`conversion_lands`); from
integer to integer, a conversion by way of a kind at least as wide is the direct one
(`conversions_compose`).
-/
namespace TypedOps

/-! ## Integer kinds -/

/-- An integer kind is stored as an integer of its width. -/
theorem Kind.exists_storage_integer {kind : Kind} (integer : kind.isInteger = true)
    (word : WordSize) :
    ∃ k, kind.storage = .integer k ∧ kind.bitWidth word = some (k.width word).bits := by
  cases kind with
  | integer k => exact ⟨k, rfl, rfl⟩
  | rune => exact ⟨.int32, rfl, rfl⟩
  | _ => cases integer

/-- Narrowing by way of a kind at least as wide makes no difference. -/
theorem StoredInt.narrow_narrow {word : WordSize} {k l : IntKind}
    (wide : (l.width word).bits ≤ (k.width word).bits) (n : Int) :
    narrow word l (narrow word k n).val = narrow word l n := by
  have wrapped : (l.shape word).wrap ((k.shape word).wrap n) = (l.shape word).wrap n :=
    Shape.wrap_wrap_of_le wide n
  rw [narrow_val, narrow, wrapped, narrow]

namespace Value

variable {word : WordSize} {kind : Kind} {v u : Value}

/-! ## What a value is converted to -/

/-- A kind without storage of its own takes nothing. -/
theorem convertsTo_of_no_storage (none : zero? kind.storage = none) :
    v.convertsTo kind = false := by
  cases kind with
  | untyped u => cases v <;> rfl
  | _ => cases none

/-- A value is converted to a kind as to what the kind is kept as. -/
theorem convert_storage : v.convert? word kind.storage = v.convert? word kind := by
  simp only [convert?, kind.storage_storage]

/-- The references that carry a kind of references are the only values of that kind. -/
theorem kind_eq_reference {r : RefKind} (named : v.kind? = some (.reference r)) :
    ∃ handle, v = .reference (.reference r) handle := by
  cases v with
  | reference carried handle =>
    cases named
    exact ⟨handle, rfl⟩
  | _ => cases named

/-- What a value is converted to is kept as the kind asks, and within the word. -/
theorem keptAs_of_convert (converts : v.convert? word kind = some u) :
    u.KeptAs word kind.storage := by
  cases storage : kind.storage with
  | rune | untyped => simp [convert?, storage] at converts
  | reference r =>
    simp only [convert?, storage, Option.ite_none_right_eq_some, Option.some.injEq] at converts
    obtain ⟨named, rfl⟩ := converts
    obtain ⟨handle, rfl⟩ := kind_eq_reference named
    exact .reference r handle
  | integer k =>
    simp only [convert?, storage, Option.map_eq_some_iff] at converts
    obtain ⟨n, _, rfl⟩ := converts
    exact keptAs_narrow word k n
  | _ =>
    simp only [convert?, storage, Option.map_eq_some_iff] at converts
    obtain ⟨_, _, rfl⟩ := converts
    constructor

/-- A value that is kept as the kind asks is left alone. -/
theorem convert_of_keptAs (kept : v.KeptAs word kind.storage) : v.convert? word kind = some v :=
  convert_storage.symm.trans (convert_kept kept)

/-! ## Main statements -/

/-- Conversion lands in the storage that is asked for and stays there. A converted value is of the
kind's storage and, if it is an integer, within the word, and converting it again changes nothing.
A value like a fresh slot of the kind's storage, within the word if it is an integer, is left alone.
There is no conversion for constants, for kinds without storage, and where the class of the value is
not one that the kind takes, and for no other reason. -/
theorem conversion_lands (word : WordSize) (v : Value) (kind : Kind) :
    (∀ u, v.convert? word kind = some u →
      u.kind? = some kind.storage ∧ (∀ i, u = .integer i → i.FitsWord word) ∧
        u.convert? word kind = some u) ∧
    (∀ slot, zero? kind.storage = some slot → v.Alike slot →
      (∀ i, v = .integer i → i.FitsWord word) → v.convert? word kind = some v) ∧
    (v.convert? word kind = none ↔
      (∃ c, v = .constant c) ∨ zero? kind.storage = none ∨ v.convertsTo kind = false) := by
  refine ⟨?_, ?_, ?_⟩
  · intro u converts
    have kept := keptAs_of_convert converts
    exact ⟨kept.kind_eq, fun i same => kept.fitsWord same, convert_of_keptAs kept⟩
  · intro slot zero alike fits
    exact convert_of_keptAs (keptAs_iff_like_slot.mpr ⟨⟨slot, zero, alike⟩, fits⟩)
  · rw [← Option.isNone_iff_eq_none, ← Option.not_isSome, Bool.not_eq_true', convert_isSome_eq]
    constructor
    · exact fun apart => .inr (.inr apart)
    · rintro (⟨c, rfl⟩ | noStorage | apart)
      · rfl
      · exact convertsTo_of_no_storage noStorage
      · exact apart

/-- With a word of 32 bits: an `int` wider than the word is cut to it once and for all, an `int32`
is left alone as a rune, a reference that carries the kind of bytes is no byte, and constants and
untyped kinds have no part in conversions. -/
theorem conversion_lands_narrow_word :
    let int : Kind := .integer .int
    let wide : Value := .integer (.ofInt .int 1099511627781)
    let five : Value := .integer (.ofInt .int 5)
    let rune : Value := .integer (.ofInt .int32 8364)
    let labelled : Value := .reference (.integer .uint8) none
    (wide.convert? .w32 int = some five ∧ five.kind? = some int ∧
        five.convert? .w32 int = some five) ∧
      rune.convert? .w32 .rune = some rune ∧
      labelled.convert? .w32 (.integer .uint8) = none ∧
      (Value.constant (.integer 5)).convert? .w32 int = none ∧
      five.convert? .w32 (.untyped .int) = none := by
  intro int wide five rune labelled
  obtain ⟨lands, _⟩ := conversion_lands .w32 wide int
  obtain ⟨_, stays, _⟩ := conversion_lands .w32 rune .rune
  obtain ⟨_, _, noByte⟩ := conversion_lands .w32 labelled (.integer .uint8)
  obtain ⟨_, _, noConstant⟩ := conversion_lands .w32 (.constant (.integer 5)) int
  obtain ⟨_, _, noStorage⟩ := conversion_lands .w32 five (.untyped .int)
  have cut : wide.convert? .w32 int = some five := by decide +kernel
  obtain ⟨kind, _, again⟩ := lands five cut
  refine ⟨⟨cut, kind, again⟩, stays (.integer (.ofInt .int32 0)) rfl rfl ?_, ?_, ?_, ?_⟩
  · intro i same
    cases Value.integer.inj same
    decide
  · exact noByte.mpr (.inr (.inr rfl))
  · exact noConstant.mpr (.inl ⟨_, rfl⟩)
  · exact noStorage.mpr (.inr (.inl rfl))

/-- Integer conversions compose by truncation. Whatever the integer, and also where it is wider than
the word, converting it to an integer kind and the result to another one that is not wider gives
what converting it to that one does, which keeps its residue. So a value of an integer kind comes
back from every integer kind at least as wide, of whatever signedness. -/
theorem conversions_compose (word : WordSize) {k l : Kind} (integer : k.isInteger = true)
    (otherInteger : l.isInteger = true) {m n : Nat} (width : k.bitWidth word = some m)
    (otherWidth : l.bitWidth word = some n) (wide : n ≤ m) :
    (∀ i : StoredInt, ∃ u j, (Value.integer i).convert? word k = some u ∧
      u.convert? word l = some (.integer j) ∧
      (Value.integer i).convert? word l = some (.integer j) ∧ j.val ≡ i.val [ZMOD 2 ^ n]) ∧
    ∀ v : Value, v.KeptAs word l.storage →
      ∃ u, v.convert? word k = some u ∧ u.convert? word l = some v := by
  obtain ⟨p, storage, bits⟩ := k.exists_storage_integer integer word
  obtain ⟨q, otherStorage, otherBits⟩ := l.exists_storage_integer otherInteger word
  obtain rfl : m = (p.width word).bits := Option.some.inj (width.symm.trans bits)
  obtain rfl : n = (q.width word).bits := Option.some.inj (otherWidth.symm.trans otherBits)
  have compose (i : StoredInt) : (Value.integer (.narrow word p i.val)).convert? word l =
      some (.integer (.narrow word q i.val)) := by
    rw [convert_integer otherStorage, StoredInt.narrow_narrow wide]
  constructor
  · intro i
    refine ⟨_, _, convert_integer storage i, compose i, convert_integer otherStorage i, ?_⟩
    have residue := (q.shape word).wrap_modEq i.val
    rw [Width.modulus_eq_two_pow] at residue
    rw [StoredInt.narrow_val]
    exact_mod_cast residue
  · intro v kept
    rw [otherStorage] at kept
    obtain ⟨i, rfl, fits, rfl⟩ := keptAs_integer_iff.mp kept
    refine ⟨_, convert_integer storage i, ?_⟩
    rw [compose i, StoredInt.narrow_self fits]

/-- With a word of 32 bits: an `int` wider than the word becomes the same `int8` by way of a `uint`,
and the greatest `uintptr` comes back from a rune, which is negative. -/
theorem conversions_compose_narrow_word :
    let uint : Kind := .integer .uint
    let int8 : Kind := .integer .int8
    let wide : Value := .integer (.ofInt .int 1099511627976)
    let low : Value := .integer (.ofInt .int8 (-56))
    let greatest : Value := .integer (.ofInt .uintptr 4294967295)
    (∃ u, wide.convert? .w32 uint = some u ∧ u.convert? .w32 int8 = some low) ∧
      ∃ u, greatest.convert? .w32 .rune = some u ∧
        u.convert? .w32 (.integer .uintptr) = some greatest := by
  intro uint int8 wide low greatest
  obtain ⟨composes, _⟩ := conversions_compose .w32 (k := uint) (l := int8) rfl rfl rfl rfl
    (by decide)
  obtain ⟨_, restores⟩ := conversions_compose .w32 (k := .rune) (l := .integer .uintptr) rfl rfl
    rfl rfl (by decide)
  obtain ⟨u, j, first, second, direct, _⟩ := composes (.ofInt .int 1099511627976)
  have cut : wide.convert? .w32 int8 = some low := by decide +kernel
  refine ⟨⟨u, first, second.trans (direct.symm.trans cut)⟩, restores greatest ?_⟩
  exact .integer (i := .ofInt .uintptr 4294967295) (by decide)

end Value

end TypedOps
