import TypedOps.Operator.Evaluate
import TypedOps.Proofs.Integer.Residue
import TypedOps.Proofs.Operator.Typing

/-!
Which failures a program may recover from. Typing operands, converting, comparing and finding the
type of a truth value only fail by broken promises (`Logged.Internal`); what is left are the zero
test of a division and the sign test of a shift count. Main statement: these two fail exactly on
the operands that the language gives no result for, and everything else that fails is internal
(`recoverable_exactly`).
-/
namespace TypedOps

/-! ## Computations that only fail by broken promises -/

namespace Logged

variable {α β : Type} {m : Logged α} {f : α → Logged β}

/-- A computation that leaves a program nothing to recover from. -/
def Internal (m : Logged α) : Prop :=
  ∀ error, m.result ≠ .error (.runtime error)

theorem internal_pure (a : α) : (pure a : Logged α).Internal :=
  nofun

theorem internal_fail (fault : InternalFault) : (fail fault : Logged α).Internal :=
  nofun

theorem internal_of_ok {a : α} (succeeds : m.result = .ok a) : m.Internal := by
  intro error
  rw [succeeds]
  exact nofun

/-- A sequence fails as its first part does, or as the second one does on the value of the
first. -/
theorem bind_result_error_iff {fault : Fault} :
    (m >>= f).result = .error fault ↔
      m.result = .error fault ∨ ∃ a, m.result = .ok a ∧ (f a).result = .error fault := by
  rw [bind_result]
  cases m.result <;> simp [Except.bind]

theorem Internal.bind (first : m.Internal) (second : ∀ a, (f a).Internal) :
    (m >>= f).Internal := by
  intro error fails
  rcases bind_result_error_iff.mp fails with fails | ⟨a, _, fails⟩
  · exact first error fails
  · exact second a error fails

/-- After a part with nothing to recover from, only the rest matters. -/
theorem Internal.bind_runtime_iff (first : m.Internal) {error : RuntimeError} :
    (m >>= f).result = .error (.runtime error) ↔
      ∃ a, m.result = .ok a ∧ (f a).result = .error (.runtime error) := by
  rw [bind_result_error_iff, or_iff_right (first error)]

end Logged

/-- An integer of a shape is zero exactly when it is a multiple of the modulus. -/
theorem Shape.wrap_eq_zero_iff {s : Shape} {x : Int} :
    s.wrap x = 0 ↔ (2 ^ s.width.bits : Int) ∣ x := by
  have modulus : (s.width.modulus : Int) = 2 ^ s.width.bits := by
    rw [Width.modulus_eq_two_pow]
    push_cast
    rfl
  rw [← modulus, Int.dvd_iff_emod_eq_zero]
  nth_rewrite 1 [← wrap_eq_self s.contains_zero]
  rw [wrap_eq_wrap_iff, Int.zero_emod]

namespace Engine

variable {e : Engine} {left right count x : Object} {ty : Ty} {error : RuntimeError}

theorem normalize_internal : (e.normalize x).Internal := by
  unfold normalize
  split
  · exact Logged.internal_pure x
  · split
    · exact Logged.internal_fail _
    · exact Logged.internal_fail _
    · split
      · exact Logged.internal_fail _
      · dsimp only
        split
        · exact (Logged.internal_of_ok (warnOfInt_result ..)).bind fun _ => Logged.internal_pure _
        · exact Logged.internal_pure _

theorem represent_internal : (e.represent x ty).Internal := by
  unfold represent
  split
  · exact Logged.internal_pure x
  · split
    · exact normalize_internal
    · split
      · exact Logged.internal_fail _
      · split
        · exact Logged.internal_fail _
        · split
          · split
            · exact Logged.internal_fail _
            · exact (Logged.internal_of_ok (warnOfNumber_result ..)).bind fun _ =>
                Logged.internal_pure _
          · exact normalize_internal

theorem operands_internal : (e.operands left right).Internal := by
  unfold operands
  split
  · exact represent_internal.bind fun _ => Logged.internal_pure _
  · exact represent_internal.bind fun _ => Logged.internal_pure _
  · exact normalize_internal.bind fun _ => normalize_internal.bind fun _ => Logged.internal_pure _

/-! ## Comparisons -/

theorem ordered_internal {op : OrderOp} : (e.ordered op left right).Internal := by
  refine operands_internal.bind ?_
  rintro ⟨l, r⟩
  dsimp only
  split
  · exact Logged.internal_pure _
  · exact Logged.internal_fail _

theorem isNil_internal : (e.isNil x).Internal := by
  refine normalize_internal.bind fun o => ?_
  split
  · exact Logged.internal_pure _
  · exact Logged.internal_fail _

theorem equalConverted_internal : (e.equalConverted left right).Internal := by
  refine (Logged.internal_of_ok (Logged.tell_result _)).bind fun _ => ?_
  split
  · exact Logged.internal_pure _
  · exact Logged.internal_fail _

theorem equality_internal : (e.equality left right).Internal := by
  unfold equality
  split
  · exact Logged.internal_pure _
  · exact isNil_internal
  · exact isNil_internal
  · refine operands_internal.bind ?_
    rintro ⟨l, r⟩
    dsimp only
    unfold equalTyped
    split
    · exact Logged.internal_pure _
    · split
      · exact equalConverted_internal
      · exact equalConverted_internal

theorem compare_internal {op : ComparisonOp} {result : Ty} :
    (e.compare op left right result).Internal := by
  refine Logged.Internal.bind ?_ fun b => ?_
  · cases op with
    | order op => exact ordered_internal
    | equal => exact equality_internal
    | notEqual => exact equality_internal.bind fun _ => Logged.internal_pure _
  · intro error
    simp only [Logged.ofExcept_result, Object.ofTruth]
    split
    · split <;> exact nofun
    all_goals exact nofun

end Engine

/-! ## Divisions -/

/-- Of all arithmetic on values, only a division of an integer by one that is zero in the width
fails for the program. -/
theorem ArithmeticOp.onValues_runtime_iff {word : WordSize} {op : ArithmeticOp} {kind : Kind}
    {invalid : InternalFault} {x y : Value} {error : RuntimeError} :
    op.onValues word kind invalid x y = .error (.runtime error) ↔
      error = .divisionByZero op ∧ op.divides = true ∧ ∃ k m n, kind = .integer k ∧
        x.toInt? = some m ∧ y.toInt? = some n ∧ (k.shape word).wrap n = 0 := by
  constructor
  · intro fails
    cases kind with
    | integer k =>
      simp only [onValues] at fails
      split at fails
      · next m n readLeft readRight =>
        split at fails
        · next zero =>
          cases fails
          exact ⟨rfl, zero.1, k, m, n, rfl, readLeft, readRight, zero.2⟩
        · cases fails
      · cases fails
    | float f =>
      simp only [onValues] at fails
      split at fails
      · split at fails <;> cases fails
      · cases fails
    | complex f =>
      simp only [onValues] at fails
      split at fails
      · split at fails <;> cases fails
      · cases fails
    | string =>
      simp only [onValues] at fails
      split at fails <;> cases fails
    | _ => cases fails
  · rintro ⟨rfl, divides, k, m, n, rfl, readLeft, readRight, zero⟩
    simp only [onValues, readLeft, readRight, divides, zero, and_self, ↓reduceIte]

theorem ArithmeticOp.divides_iff {op : ArithmeticOp} :
    op.divides = true ↔ op = .quo ∨ op = .rem := by
  cases op <;> simp [divides]

namespace Engine

variable {e : Engine} {left right count : Object} {error : RuntimeError}

/-- The operands that a division has no result for: once they are typed, the left one is of an
integer type, both are integers, and the right one is zero in the width of that type. -/
def DividesByZero (e : Engine) (op : ArithmeticOp) (left right : Object) : Prop :=
  (op = .quo ∨ op = .rem) ∧ ∃ l r k m n, (e.operands left right).result = .ok (l, r) ∧
    l.ty.storage = .integer k ∧ l.value.toInt? = some m ∧ r.value.toInt? = some n ∧
    (2 ^ (k.width e.word).bits : Int) ∣ n

theorem arithmetic_runtime_iff {op : ArithmeticOp} :
    (e.arithmetic op left right).result = .error (.runtime error) ↔
      error = .divisionByZero op ∧ e.DividesByZero op left right := by
  rw [arithmetic, operands_internal.bind_runtime_iff, DividesByZero, ← ArithmeticOp.divides_iff]
  constructor
  · rintro ⟨⟨l, r⟩, operands, fails⟩
    rcases Logged.bind_result_error_iff.mp fails with fails | ⟨_, _, succeeds⟩
    · obtain ⟨rfl, divides, k, m, n, storage, readLeft, readRight, zero⟩ :=
        ArithmeticOp.onValues_runtime_iff.mp fails
      exact ⟨rfl, divides, l, r, k, m, n, operands, storage, readLeft, readRight,
        Shape.wrap_eq_zero_iff.mp zero⟩
    · cases succeeds
  · rintro ⟨rfl, divides, l, r, k, m, n, operands, storage, readLeft, readRight, zero⟩
    refine ⟨(l, r), operands, Logged.bind_result_error_iff.mpr (.inl ?_)⟩
    exact ArithmeticOp.onValues_runtime_iff.mpr
      ⟨rfl, divides, k, m, n, storage, readLeft, readRight, Shape.wrap_eq_zero_iff.mpr zero⟩

/-! ## Shifts -/

theorem bitwise_internal {op : BitOp} : (e.bitwise op left right).Internal := by
  refine operands_internal.bind ?_
  rintro ⟨l, r⟩
  dsimp only
  split
  · exact Logged.internal_pure _
  · exact Logged.internal_fail _

/-- The operands that a shift has no result for: once typed, the left one is an integer, and the
count is an integer of a signed type whose 64 bits are negative. -/
def ShiftsBelowZero (e : Engine) (left count : Object) (n : Int) : Prop :=
  n < 0 ∧ count.isUntyped = false ∧
    (∃ l m, (e.normalize left).result = .ok l ∧ l.value.toInt? = some m) ∧
    ∃ k i, count.ty.storage = .integer k ∧ k.signed = true ∧ count.value = .integer i ∧
      n = (Shape.mk true .w64).wrap i.val

/-- A count fails for the program exactly when it is of a signed type and negative. -/
theorem shiftCount_runtime_iff :
    count.shiftCount = .error (.runtime error) ↔
      ∃ n, error = .negativeShiftCount n ∧ n < 0 ∧ count.isUntyped = false ∧
        ∃ k i, count.ty.storage = .integer k ∧ k.signed = true ∧ count.value = .integer i ∧
          n = (Shape.mk true .w64).wrap i.val := by
  have readSigned (i : StoredInt) : i.bits.toInt = (Shape.mk true .w64).wrap i.val :=
    Shape.ofBits_bitsOf ⟨true, .w64⟩ i.val
  constructor
  · intro fails
    unfold Object.shiftCount at fails
    split at fails
    · split at fails <;> cases fails
    · next typed =>
      split at fails
      · next k bits storage read =>
        split at fails
        · next negative =>
          cases fails
          cases value : count.value with
          | integer i =>
            rw [value] at read
            cases read
            exact ⟨_, rfl, negative.2, Bool.not_eq_true _ ▸ typed, k, i, storage, negative.1, rfl,
              readSigned i⟩
          | _ =>
            rw [value] at read
            cases read
        · cases fails
      · cases fails
  · rintro ⟨n, rfl, negative, typed, k, i, storage, signed, value, rfl⟩
    simp only [Object.shiftCount, typed, Bool.false_eq_true, ↓reduceIte, storage, value,
      Value.toBits?, signed, readSigned, negative, and_self]

theorem shift_runtime_iff {op : ShiftOp} :
    (e.shift op left count).result = .error (.runtime error) ↔
      ∃ n, error = .negativeShiftCount n ∧ e.ShiftsBelowZero left count n := by
  rw [shift, normalize_internal.bind_runtime_iff]
  constructor
  · rintro ⟨l, normal, fails⟩
    dsimp only at fails
    split at fails
    · cases fails
    · next m read =>
      rcases Logged.bind_result_error_iff.mp fails with fails | ⟨_, _, shifted⟩
      · obtain ⟨n, rfl, negative, typed, signed⟩ := shiftCount_runtime_iff.mp fails
        exact ⟨n, rfl, negative, typed, ⟨l, m, normal, read⟩, signed⟩
      · split at shifted <;> cases shifted
  · rintro ⟨n, rfl, negative, typed, ⟨l, m, normal, read⟩, signed⟩
    refine ⟨l, normal, ?_⟩
    simp only [read]
    exact Logged.bind_result_error_iff.mpr
      (.inl (shiftCount_runtime_iff.mpr ⟨n, rfl, negative, typed, signed⟩))

/-! ## Every operator -/

/-- A token fails for the program as a division by zero or as a shift below zero, and in no other
way. -/
theorem evaluateBinary_runtime_iff {token : Token} :
    (e.evaluateBinary left right token).result = .error (.runtime error) ↔
      (∃ op, error = .divisionByZero op ∧ token = .binary (.arithmetic op) ∧
        e.DividesByZero op left right) ∨
      ∃ n, error = .negativeShiftCount n ∧ (∃ op, token = .binary (.shift op)) ∧
        e.ShiftsBelowZero left right n := by
  rw [evaluateBinary_result]
  cases token with
  | binary op =>
    cases op with
    | arithmetic op =>
      show (e.arithmetic op left right).result = _ ↔ _
      rw [arithmetic_runtime_iff]
      constructor
      · rintro ⟨same, divides⟩
        exact .inl ⟨op, same, rfl, divides⟩
      · rintro (⟨_, same, ⟨⟩, divides⟩ | ⟨_, _, ⟨_, ⟨⟩⟩, _⟩)
        exact ⟨same, divides⟩
    | bit op =>
      refine iff_of_false (bitwise_internal error) ?_
      rintro (⟨_, _, ⟨⟩, _⟩ | ⟨_, _, ⟨_, ⟨⟩⟩, _⟩)
    | shift op =>
      show (e.shift op left right).result = _ ↔ _
      rw [shift_runtime_iff]
      constructor
      · rintro ⟨n, same, below⟩
        exact .inr ⟨n, same, ⟨op, rfl⟩, below⟩
      · rintro (⟨_, _, ⟨⟩, _⟩ | ⟨n, same, _, below⟩)
        exact ⟨n, same, below⟩
  | _ =>
    refine iff_of_false nofun ?_
    rintro (⟨_, _, ⟨⟩, _⟩ | ⟨_, _, ⟨_, ⟨⟩⟩, _⟩)

theorem evaluateComparison_internal {token : Token} {result : Ty} :
    (e.evaluateComparison left right token result).Internal := by
  intro error
  rw [evaluateComparison_result]
  cases token with
  | comparison op => exact compare_internal error
  | _ => exact nofun

/-- A program may recover from a division by zero and from a negative shift count, which come from
exactly the operands that there is no result for. Every other failure of a binary operator is
internal, and so is every failure of a comparison. -/
theorem recoverable_exactly (e : Engine) (left right : Object) (token : Token) :
    (∀ op, (e.evaluateBinary left right token).result = .error (.runtime (.divisionByZero op)) ↔
      token = .binary (.arithmetic op) ∧ e.DividesByZero op left right) ∧
    (∀ n, (e.evaluateBinary left right token).result =
        .error (.runtime (.negativeShiftCount n)) ↔
      (∃ op, token = .binary (.shift op)) ∧ e.ShiftsBelowZero left right n) ∧
    (∀ fault, (e.evaluateBinary left right token).result = .error fault →
      (fault.isRecoverable = true ↔
        (∃ op, fault = .runtime (.divisionByZero op)) ∨
          ∃ n, fault = .runtime (.negativeShiftCount n))) ∧
    ∀ result fault, (e.evaluateComparison left right token result).result = .error fault →
      fault.isRecoverable = false := by
  refine ⟨?_, ?_, ?_, ?_⟩
  · intro op
    simp [evaluateBinary_runtime_iff]
  · intro n
    simp [evaluateBinary_runtime_iff]
  · rintro (error | fault) _
    · cases error <;> simp [Fault.isRecoverable]
    · simp [Fault.isRecoverable]
  · rintro result (error | fault) fails
    · exact absurd fails (evaluateComparison_internal error)
    · rfl

/-- The remainder by a page, which is zero in the width of a byte; a constant shifted by a negative
count; and a text facing a byte, which no program recovers from. -/
theorem recoverable_exactly_byte :
    let e : Engine := { word := .w32 }
    let byte : Object := ⟨.integer (.ofInt .int8 (-7)), .basic (.integer .int8)⟩
    let page : Object := ⟨.integer (.ofInt .int16 256), .basic (.integer .int16)⟩
    let one : Object := .constant .int (.integer 1)
    let text : Object := ⟨.text "7", .basic .string⟩
    (e.evaluateBinary byte page (.binary (.arithmetic .rem))).result =
        .error (.runtime (.divisionByZero .rem)) ∧
      (e.evaluateBinary one byte (.binary (.shift .right))).result =
        .error (.runtime (.negativeShiftCount (-7))) ∧
      ∃ fault, (e.evaluateComparison text byte (.comparison .equal) (.basic .bool)).result =
        .error fault ∧ fault.isRecoverable = false := by
  intro e byte page one text
  refine ⟨?_, ?_, _, rfl, ?_⟩
  · exact ((recoverable_exactly e byte page _).1 .rem).mpr
      ⟨rfl, .inr rfl, byte, page, .int8, -7, 256, rfl, rfl, rfl, rfl, by decide⟩
  · exact ((recoverable_exactly e one byte _).2.1 (-7)).mpr ⟨⟨.right, rfl⟩, by decide, rfl,
      ⟨_, _, rfl, rfl⟩, .int8, .ofInt .int8 (-7), rfl, rfl, rfl, by decide⟩
  · exact (recoverable_exactly e text byte (.comparison .equal)).2.2.2 (.basic .bool) _ rfl

end Engine

end TypedOps
