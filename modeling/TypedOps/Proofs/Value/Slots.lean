import TypedOps.Proofs.Ieee.Widening
import TypedOps.Proofs.Integer.Residue
import TypedOps.Proofs.Value.Kept
import TypedOps.Value.Convert

/-!
Values by words and slots. An integer is a word of 64 bits on its way into a fresh slot of a kind,
and comes out of it narrowed to the kind (`Value.stored_integer`, `Value.stored_wordBits`). Main
statement: a conversion done in this way is the conversion (`Value.convertInSlots_eq`), so no write
of it is refused.
-/
namespace TypedOps

open Ieee (Binary Complex)

/-! ## Words, tables and slots -/

/-- The integer of the shape that the low bits of a word stand for. -/
def Shape.ofWord (s : Shape) (b : BitVec 64) : Int :=
  s.ofBits (b.setWidth s.width.bits)

/-- The shape that operators compute a kind in, if it is one of integers. -/
def Kind.shape? (word : WordSize) : Kind → Option Shape
  | .integer k => some (k.shape word)
  | .rune => some (IntKind.int32.shape word)
  | _ => none

/-- The bits that a kind is written with: those of a machine-word kind are cut down to the word
first. -/
def Kind.wordBits (word : WordSize) (kind : Kind) (b : BitVec 64) : BitVec 64 :=
  match kind with
  | .integer .int => .ofInt 64 ((IntKind.int.shape word).ofWord b)
  | .integer .uint | .integer .uintptr => .ofInt 64 ((IntKind.uint.shape word).ofWord b)
  | _ => b

namespace Value

/-- A fresh slot for values of a kind. -/
def fresh (kind : Kind) : Except Fault Value :=
  (allocate kind).mapError .internal

/-- The slot after a write. -/
def put (slot : Value) (w : Write) : Except Fault Value :=
  (slot.write w).mapError .internal

/-- A fresh slot of a kind after one write. -/
def stored (kind : Kind) (w : Write) : Except Fault Value := do
  (← fresh kind).put w

/-- The word that an integer slot is written with: the integer that is kept, or a floating-point
number without its fraction, clamped to 64 bits. -/
def wordFor? (signed : Bool) (v : Value) : Option (BitVec 64) :=
  match v.toBits?, v.toBinary? .binary64 with
  | some b, _ => some b
  | none, some x => some (.ofInt 64 (x.truncate ⟨signed, .w64⟩))
  | none, none => none

/-- The number that a floating-point slot is written with: the one that is kept, or an integer,
whose word is read with the signedness of its kind. -/
def wideFor? (signed : Bool) (v : Value) : Option (Binary .binary64) :=
  match v.toBinary? .binary64, v.toBits? with
  | some x, _ => some x
  | none, some b => some (.ofRat (if signed then b.toInt else b.toNat : Int))
  | none, none => none

/-- The value as one of another kind, by way of a slot; there is none without a slot, or after a
refused write. -/
def convertInSlots? (word : WordSize) (v : Value) (kind : Kind) : Option Value := do
  let source ← v.kind?
  let kind := kind.storage
  let slot ← zero? kind
  if kind.isInteger then
    (slot.write (.bits (kind.wordBits word (← v.wordFor? kind.isSigned)))).toOption
  else if kind.isFloat then
    (slot.write (.float (← v.wideFor? source.isSigned))).toOption
  else if kind.isComplex then
    (slot.write (.complex (← v.toComplex? .binary64))).toOption
  else if kind = .string then
    (slot.write (.text (← v.toText?))).toOption
  else if kind = .bool then
    (slot.write (.bool (← v.toBool?))).toOption
  else if kind.isReference then
    if source = kind then some v else none
  else none

end Value

/-! ## What is written is kept -/

theorem Shape.ofWord_ofInt (s : Shape) (n : Int) : s.ofWord (.ofInt 64 n) = s.wrap n := by
  have low : (BitVec.ofInt 64 n).setWidth s.width.bits = s.bitsOf n := by
    obtain ⟨signed, width⟩ := s
    apply BitVec.eq_of_toNat_eq
    cases width <;> simp [bitsOf, Width.bits] <;> omega
  rw [ofWord, low, ofBits_bitsOf]

namespace StoredInt

variable {word : WordSize} {k : IntKind} {n : Int}

theorem ofWord_bits (s : Shape) (i : StoredInt) : s.ofWord i.bits = s.wrap i.val :=
  s.ofWord_ofInt i.val

/-- A cell keeps of 64 bits what it keeps of the integer. -/
theorem ofInt_toInt (k : IntKind) (n : Int) : ofInt k (BitVec.ofInt 64 n).toInt = ofInt k n := by
  have wide : (BitVec.ofInt 64 n).toInt = (Shape.mk true .w64).wrap n :=
    Shape.ofBits_bitsOf ⟨true, .w64⟩ n
  have inside : k.cell.width.bits ≤ 64 := by
    cases k <;> decide
  rw [eq_iff, wide]
  exact ⟨rfl, Shape.wrap_wrap_of_le inside n⟩

theorem narrow_of_contains (inside : (k.shape word).Contains n) : narrow word k n = ofInt k n := by
  rw [narrow, Shape.wrap_eq_self inside]

end StoredInt

/-- A slot of an integer kind keeps an integer of the kind's shape. -/
theorem Value.stored_integer {word : WordSize} {k : IntKind} {n : Int}
    (inside : (k.shape word).Contains n) :
    stored (.integer k) (.bits (.ofInt 64 n)) = .ok (.integer (.narrow word k n)) := by
  rw [StoredInt.narrow_of_contains inside, ← StoredInt.ofInt_toInt]
  rfl

/-- The bits that an integer kind is written with leave the integer, narrowed to the kind. -/
theorem Value.stored_wordBits (word : WordSize) (k : IntKind) (n : Int) :
    stored (.integer k) (.bits ((Kind.integer k).wordBits word (.ofInt 64 n))) =
      .ok (.integer (.narrow word k n)) := by
  by_cases machine : k = .int ∨ k = .uint ∨ k = .uintptr
  · have cut : (Kind.integer k).wordBits word (.ofInt 64 n) =
        .ofInt 64 ((k.shape word).wrap n) := by
      rcases machine with rfl | rfl | rfl <;> rw [← Shape.ofWord_ofInt] <;> rfl
    rw [cut, stored_integer (Shape.contains_wrap ..), StoredInt.narrow_wrap]
  · have whole : (Kind.integer k).wordBits word (.ofInt 64 n) = .ofInt 64 n := by
      cases k <;> simp [Kind.wordBits] at machine ⊢
    have cell : k.shape word = k.cell := by
      cases k <;> simp at machine <;> rfl
    have low : StoredInt.narrow word k n = .ofInt k n := by
      rw [StoredInt.eq_iff, StoredInt.narrow_val, cell]
      exact ⟨rfl, rfl⟩
    rw [whole, low, ← StoredInt.ofInt_toInt]
    rfl

/-! ## Conversion -/

theorem Kind.isInteger_integer (k : IntKind) : (Kind.integer k).isInteger = true := by
  cases k <;> rfl

/-- A number has the same integer part in the wide format. -/
theorem Ieee.Binary.truncate_wide {f : Ieee.Format} (s : Shape) (x : Binary f) :
    (x.convert : Binary .binary64).truncate s = x.truncate s := by
  cases f with
  | binary32 => exact x.truncate_widen s
  | binary64 => rw [Binary.convert_self]

/-- Read with the signedness of its kind, a word stands for its integer. -/
theorem StoredInt.read_bits (i : StoredInt) :
    (if (Kind.integer i.kind).isSigned then i.bits.toInt else i.bits.toNat : Int) = i.val := by
  have read := Shape.ofBits_bitsOf ⟨i.kind.signed, .w64⟩ i.val
  rw [Shape.wrap_eq_self i.contains_w64] at read
  exact read

namespace Value

variable {word : WordSize} {v : Value}

/-- What is written into a slot of an integer kind is the integer, narrowed. -/
theorem write_wordBits (word : WordSize) (k : IntKind) (n : Int) :
    ((integer (.ofInt k 0)).write (.bits ((Kind.integer k).wordBits word (.ofInt 64 n)))).toOption =
      some (integer (.narrow word k n)) :=
  congrArg some (Except.ok.inj (stored_wordBits word k n))

theorem convertInSlots_integer {kind : Kind} {k : IntKind} (storage : kind.storage = .integer k) :
    v.convertInSlots? word kind = v.convert? word kind := by
  simp only [convertInSlots?, convert?, storage, Kind.isInteger_integer, ↓reduceIte]
  cases v with
  | integer i => exact write_wordBits word k i.val
  | float f x =>
    show ((integer (.ofInt k 0)).write (.bits ((Kind.integer k).wordBits word
      (.ofInt 64 ((x.convert : Binary .binary64).truncate ⟨k.signed, .w64⟩))))).toOption = _
    rw [x.truncate_wide]
    exact write_wordBits word k _
  | _ => rfl

theorem convertInSlots_float {kind : Kind} {f : Ieee.Format} (storage : kind.storage = .float f) :
    v.convertInSlots? word kind = v.convert? word kind := by
  simp only [convertInSlots?, convert?, storage]
  cases v with
  | integer i =>
    show some (float f (Binary.ofRat (if (Kind.integer i.kind).isSigned then i.bits.toInt
      else i.bits.toNat : Int)).convert) = _
    rw [i.read_bits]
    rfl
  | float g x =>
    show some (float f (x.convert : Binary .binary64).convert) = some (float f x.convert)
    rw [x.convert_widened]
  | _ => rfl

theorem convertInSlots_complex {kind : Kind} {f : Ieee.Format}
    (storage : kind.storage = .complex f) :
    v.convertInSlots? word kind = v.convert? word kind := by
  simp only [convertInSlots?, convert?, storage]
  cases v with
  | complex g z =>
    show some (complex f (z.convert : Complex .binary64).convert) = some (complex f z.convert)
    rw [z.convert_widened]
  | _ => rfl

theorem convertInSlots_reference {kind : Kind} {r : RefKind}
    (storage : kind.storage = .reference r) :
    v.convertInSlots? word kind = v.convert? word kind := by
  simp only [convertInSlots?, convert?, storage]
  cases source : v.kind? with
  | none => rfl
  | some k =>
    by_cases same : k = .reference r
    · rw [if_pos (congrArg some same)]
      exact if_pos same
    · rw [if_neg fun equal => same (Option.some.inj equal)]
      exact if_neg same

/-- A conversion by way of a slot is the conversion. -/
theorem convertInSlots_eq (word : WordSize) (v : Value) (kind : Kind) :
    v.convertInSlots? word kind = v.convert? word kind := by
  have kept := kind.storage_storage
  cases storage : kind.storage with
  | integer k => exact convertInSlots_integer storage
  | float f => exact convertInSlots_float storage
  | complex f => exact convertInSlots_complex storage
  | reference r => exact convertInSlots_reference storage
  | rune =>
    rw [storage] at kept
    cases kept
  | _ =>
    simp only [convertInSlots?, convert?, storage]
    cases v <;> rfl

end Value

end TypedOps
