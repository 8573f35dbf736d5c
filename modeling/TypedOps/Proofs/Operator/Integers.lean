import TypedOps.Proofs.Integer.Residue
import TypedOps.Proofs.Operator.Phases

/-!
The binary operators on integers of one type. The result is the operator of the type's shape on the
two integers, except that nothing is divided by an integer that is zero in the width
(`arithmetic_integers`, `bitwise_integers`); operands that were narrowed to the type first count as
the integers that they were (`apply_arithmetic`, `apply_bitwise`). A shift reads its count on its
own first (`shift_integers`); a typed count is the number that it is, unless it is negative
(`shiftCount_integer`).
-/
namespace TypedOps

/-- Objects of a type that is stored as an integer are typed. -/
theorem Object.typed_of_integer {ty : Ty} {k : IntKind} (storage : ty.storage = .integer k)
    (v : Value) : (Object.mk v ty).isUntyped = false :=
  Ty.typed_of_storage (by rw [storage]; rfl)

theorem ArithmeticOp.onIntegers_wrap (s : Shape) (op : ArithmeticOp) (m n : Int) :
    op.onIntegers s (s.wrap m) (s.wrap n) = op.onIntegers s m n := by
  cases op <;> simp only [onIntegers, Shape.add, Shape.sub, Shape.mul, Shape.quo, Shape.rem,
    Shape.wrap_wrap]

theorem BitOp.onIntegers_wrap (s : Shape) (op : BitOp) (m n : Int) :
    op.onIntegers s (s.wrap m) (s.wrap n) = op.onIntegers s m n := by
  cases op <;> simp only [onIntegers, Shape.and, Shape.or, Shape.xor, Shape.andNot,
    Shape.bitsOf_wrap]

/-- Only signed kinds keep negative integers. -/
theorem StoredInt.signed_of_neg {i : StoredInt} (negative : i.val < 0) :
    i.kind.signed = true := by
  cases signed : i.kind.signed with
  | true => rfl
  | false =>
    have contained := i.contains_w64
    rw [signed] at contained
    have nonneg : 0 ≤ i.val := contained.1
    omega

/-- A typed count is as many places as the number that it is; there are no negative ones. -/
theorem Object.shiftCount_integer {i : StoredInt} {ty : Ty}
    (storage : ty.storage = .integer i.kind) :
    shiftCount ⟨.integer i, ty⟩ =
      if i.val < 0 then .error (.runtime (.negativeShiftCount i.val)) else .ok i.val.toNat := by
  have typed := typed_of_integer storage (.integer i)
  simp only [shiftCount, typed, Bool.false_eq_true, ↓reduceIte, storage, Value.toBits?]
  by_cases negative : i.val < 0
  · have signed := StoredInt.signed_of_neg negative
    have read := StoredInt.toInt_bits signed
    rw [if_pos negative, if_pos ⟨signed, by rwa [read]⟩, read]
  · obtain ⟨n, value⟩ := Int.eq_ofNat_of_zero_le (not_lt.mp negative)
    have notBelow : ¬ (i.kind.signed = true ∧ i.bits.toInt < 0) := by
      rintro ⟨signed, below⟩
      rw [StoredInt.toInt_bits signed] at below
      exact negative below
    rw [if_neg negative, if_neg notBelow, StoredInt.toNat_bits value, value, Int.toNat_natCast]

namespace Engine

variable {e : Engine} {left right : Object} {ty : Ty} {k : IntKind} {m n : Int}

theorem arithmetic_integers (storage : ty.storage = .integer k) (op : ArithmeticOp)
    (i j : StoredInt) :
    (e.arithmetic op ⟨.integer i, ty⟩ ⟨.integer j, ty⟩).result =
      if op.divides = true ∧ (k.shape e.word).wrap j.val = 0 then
        .error (.runtime (.divisionByZero op))
      else .ok ⟨.integer (.narrow e.word k (op.onIntegers (k.shape e.word) i.val j.val)), ty⟩ := by
  have typed := Object.typed_of_integer storage
  rw [arithmetic_typed (typed _) (typed _)]
  simp only [storage, ArithmeticOp.onValues, Value.toInt?]
  split <;> rfl

theorem bitwise_integers (storage : ty.storage = .integer k) (op : BitOp) (i j : StoredInt) :
    (e.bitwise op ⟨.integer i, ty⟩ ⟨.integer j, ty⟩).result =
      .ok ⟨.integer (.narrow e.word k (op.onIntegers (k.shape e.word) i.val j.val)), ty⟩ := by
  have typed := Object.typed_of_integer storage
  rw [bitwise_typed (typed _) (typed _)]
  simp only [storage, Value.toInt?]

section

variable (storage : ty.storage = .integer k)
  (operands : (e.operands left right).result =
    .ok (⟨.integer (.narrow e.word k m), ty⟩, ⟨.integer (.narrow e.word k n), ty⟩))

include storage operands

/-- Arithmetic on operands that were narrowed to the type. -/
theorem apply_arithmetic (op : ArithmeticOp) :
    (e.apply (.arithmetic op) left right).result =
      if op.divides = true ∧ (k.shape e.word).wrap n = 0 then
        .error (.runtime (.divisionByZero op))
      else .ok ⟨.integer (.narrow e.word k (op.onIntegers (k.shape e.word) m n)), ty⟩ := by
  have plain : (BinaryOp.arithmetic op).IsPlain := nofun
  rw [apply_eq_bind plain, operands]
  show (e.arithmetic op _ _).result = _
  rw [arithmetic_integers storage]
  simp only [StoredInt.narrow_val, Shape.wrap_wrap, ArithmeticOp.onIntegers_wrap]

/-- A bit operator on operands that were narrowed to the type. -/
theorem apply_bitwise (op : BitOp) :
    (e.apply (.bit op) left right).result =
      .ok ⟨.integer (.narrow e.word k (op.onIntegers (k.shape e.word) m n)), ty⟩ := by
  have plain : (BinaryOp.bit op).IsPlain := nofun
  rw [apply_eq_bind plain, operands]
  show (e.bitwise op _ _).result = _
  rw [bitwise_integers storage]
  simp only [StoredInt.narrow_val, BitOp.onIntegers_wrap]

end

/-- A shift of an integer fails only as its count does. -/
theorem shift_integers (storage : ty.storage = .integer k) (op : ShiftOp) (i : StoredInt)
    (count : Object) :
    (e.shift op ⟨.integer i, ty⟩ count).result = count.shiftCount.map fun n =>
      ⟨.integer (.narrow e.word k (op.onInteger (k.shape e.word) i.val n)), ty⟩ := by
  have typed := Object.typed_of_integer storage
  simp only [shift, normalize_typed (typed _), Logged.bind_result, Logged.pure_result, Except.bind,
    Value.toInt?, storage, Logged.ofExcept_result]
  cases count.shiftCount <;> rfl

end Engine

end TypedOps
