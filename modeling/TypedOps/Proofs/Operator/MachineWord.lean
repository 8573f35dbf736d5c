import TypedOps.Proofs.Operator.FixedWidth
import TypedOps.Proofs.Operator.Pinned

/-!
The kinds that follow the word. On a machine with a given word, each of them computes as the kind
of fixed width with its shape: `int` as `int32` or `int64`, `uint` and `uintptr` as `uint32` or
`uint64`. The shift of an untyped constant is apart, since the count leaves its type alone. Without
such kinds the word does not matter. Main statement: `word_kinds_as_fixed`.
-/
namespace TypedOps

variable {word : WordSize} {k : IntKind} {left right : Object}

theorem Object.Facing.pin (facing : left.Facing word k right) :
    (left.pin word k).Facing word (k.fixed word) (right.pin word k) := by
  cases facing with
  | typed leftKind rightKind => exact .typed leftKind.pin rightKind.pin
  | constantLeft number rightKind =>
    rw [constant_pin]
    exact .constantLeft number rightKind.pin
  | constantRight leftKind number =>
    rw [constant_pin]
    exact .constantRight leftKind.pin number

/-- A class of constants is one of integers by default, or has a default kind that pinning leaves
alone. -/
theorem UntypedKind.default_integer_or_pinned (u : UntypedKind) {kind : Kind}
    (default : u.default? = some kind) :
    (∃ j, kind.storage = .integer j) ∨ ∀ word k, kind.pin word k = kind := by
  cases u <;> cases default
  case int => exact .inl ⟨.int, rfl⟩
  all_goals exact .inr fun _ _ => rfl

theorem Object.Facing.notNil (facing : left.Facing word k right) :
    left.isUntypedNil = false ∧ right.isUntypedNil = false := by
  cases facing with
  | typed leftKind rightKind =>
    exact ⟨not_untypedNil leftKind.typed, not_untypedNil rightKind.typed⟩
  | constantLeft number rightKind =>
    exact ⟨constant_not_untypedNil (UntypedKind.ne_nil number), not_untypedNil rightKind.typed⟩
  | constantRight leftKind number =>
    exact ⟨not_untypedNil leftKind.typed, constant_not_untypedNil (UntypedKind.ne_nil number)⟩

/-- Truth values are given types without integers in them. -/
theorem Object.ofTruth_pin (word : WordSize) (k : IntKind) (b : Bool) (result : Ty) :
    Object.ofTruth b result = pinWith word k (Object.pin word k) (Object.ofTruth b result) := by
  unfold ofTruth
  split
  · split
    · next bool =>
      simp only [pinWith, pin, Value.pin, Ty.pin_of_bool word k _ bool]
    · rfl
  · rfl
  · rfl
  · rfl

namespace Engine

variable {e : Engine} {count : Object} {u : UntypedKind} {c : Constant} {token : Token}

theorem evaluateBinary_pin (facing : left.Facing e.word k right)
    (notShift : ∀ op, token ≠ .binary (.shift op)) :
    (e.evaluateBinary (left.pin e.word k) (right.pin e.word k) token).result =
      pinWith e.word k (Object.pin e.word k) (e.evaluateBinary left right token).result := by
  rw [evaluateBinary_result, evaluateBinary_result]
  cases token with
  | binary op =>
    have plain : op.IsPlain := BinaryOp.isPlain_of_token notShift
    dsimp only
    rw [apply_eq_bind plain, apply_eq_bind plain, operands_pin facing]
    refine pinWith_bind ?_
    rintro ⟨l, r⟩ given
    obtain ⟨leftKind, rightKind⟩ := operands_ofKind facing given
    exact apply_pin plain leftKind.typed rightKind.typed leftKind.storage
  | _ => rfl

theorem evaluateComparison_pin (facing : left.Facing e.word k right) (result : Ty) :
    (e.evaluateComparison (left.pin e.word k) (right.pin e.word k) token result).result =
      pinWith e.word k (Object.pin e.word k)
        (e.evaluateComparison left right token result).result := by
  rw [evaluateComparison_result, evaluateComparison_result]
  cases token with
  | comparison op =>
    have truth : (e.comparisonTruth op (left.pin e.word k) (right.pin e.word k)).result =
        pinWith e.word k id (e.comparisonTruth op left right).result := by
      rw [comparisonTruth_eq_bind op facing.pin.notNil.1 facing.pin.notNil.2,
        comparisonTruth_eq_bind op facing.notNil.1 facing.notNil.2, operands_pin facing]
      refine pinWith_bind ?_
      rintro ⟨l, r⟩ given
      obtain ⟨leftKind, rightKind⟩ := operands_ofKind facing given
      exact comparisonTruth_pin op leftKind rightKind
    dsimp only
    rw [compare_eq_bind, compare_eq_bind, truth]
    exact pinWith_bind fun b _ => Object.ofTruth_pin e.word k b result
  | _ => rfl

/-- A constant is shifted at its default type, whatever the type of the count. -/
theorem shift_constant_pin {op : ShiftOp} :
    (e.shift op (.constant u c) (count.pin e.word k)).result =
      pinWith e.word k id (e.shift op (.constant u c) count).result := by
  cases default : u.default? with
  | none =>
    simp only [shift, normalize, Object.constant, Ty.untyped?, default]
    rfl
  | some kind =>
    simp only [shift, Logged.bind_result, normalize_constant default]
    cases kept : c.asKind? e.word kind with
    | none => rfl
    | some v =>
      simp only [Except.bind]
      have formed : v.KeptAs e.word kind.storage := Constant.asKind_kept kept
      rcases u.default_integer_or_pinned default with ⟨j, storage⟩ | alone
      · rw [storage] at formed
        obtain ⟨i, _, _, rfl⟩ := Value.keptAs_integer_iff.mp formed
        simp only [Value.toInt?, Logged.bind_result, Logged.ofExcept_result, shiftCount_pin,
          Ty.storage, storage]
        exact pinWith_bind fun n _ => rfl
      · have typePinned : (Ty.basic kind).pin e.word k = .basic kind := by
          rw [Ty.pin, alone]
        cases v.toInt? with
        | none => simp only [Logged.fail_result, pinWith, Fault.pin, typePinned, Object.pin]
        | some a =>
          simp only [Logged.bind_result, Logged.ofExcept_result, shiftCount_pin]
          refine pinWith_bind fun n _ => ?_
          cases (Ty.basic kind).storage with
          | integer => rfl
          | _ => simp only [Logged.fail_result, pinWith, Fault.pin, typePinned, Object.pin]

/-- On a machine with a given word, integers of any kind, and numeric constants facing them, have
the outcomes that they have with the kind pinned: the same object pinned, or the same fault with
pinned types. So have shifts of such an integer by any count. A shift of a constant has one outcome
for a count and for the count pinned. Where no type follows the word, all machines agree. -/
theorem word_kinds_as_fixed (e other : Engine) (k : IntKind) :
    (∀ left right : Object, left.Facing e.word k right →
      (∀ token, (∀ op, token ≠ .binary (.shift op)) →
        (e.evaluateBinary (left.pin e.word k) (right.pin e.word k) token).result =
          pinWith e.word k (Object.pin e.word k) (e.evaluateBinary left right token).result) ∧
      ∀ token result,
        (e.evaluateComparison (left.pin e.word k) (right.pin e.word k) token result).result =
          pinWith e.word k (Object.pin e.word k)
            (e.evaluateComparison left right token result).result) ∧
    (∀ (left count : Object) (op : ShiftOp), left.OfKind e.word (.integer k) →
      (e.evaluateBinary (left.pin e.word k) (count.pin e.word k) (.binary (.shift op))).result =
        pinWith e.word k (Object.pin e.word k)
          (e.evaluateBinary left count (.binary (.shift op))).result) ∧
    (∀ (u : UntypedKind) (c : Constant) (count : Object) (op : ShiftOp),
      (e.evaluateBinary (.constant u c) (count.pin e.word k) (.binary (.shift op))).result =
        pinWith e.word k id
          (e.evaluateBinary (.constant u c) count (.binary (.shift op))).result) ∧
    (∀ left right : Object, left.FixedPair right →
      (∀ token, (∀ op, token ≠ .binary (.shift op)) →
        (e.evaluateBinary left right token).result =
          (other.evaluateBinary left right token).result) ∧
      ∀ token result, (e.evaluateComparison left right token result).result =
        (other.evaluateComparison left right token result).result) ∧
    ∀ (left count : Object) (op : ShiftOp), left.isUntyped = false → left.ty.FixedWidth →
      (e.evaluateBinary left count (.binary (.shift op))).result =
        (other.evaluateBinary left count (.binary (.shift op))).result := by
  refine ⟨?_, ?_, ?_, ?_, ?_⟩
  · intro left right facing
    exact ⟨fun token notShift => evaluateBinary_pin facing notShift,
      fun token result => evaluateComparison_pin facing result⟩
  · intro left count op ofKind
    simp only [evaluateBinary_result]
    exact shift_pin ofKind.typed ofKind.storage
  · intro u c count op
    simp only [evaluateBinary_result]
    exact shift_constant_pin
  · intro left right pair
    exact ⟨fun token notShift => evaluateBinary_fixed_pair pair notShift,
      fun token result => evaluateComparison_fixed_pair pair result⟩
  · intro left count op typed fixed
    simp only [evaluateBinary_result]
    exact shift_fixed typed fixed op

/-- With words of 32 and 64 bits: the greatest declared integer of 32 bits and one more, the order
of the two, the integer shifted by a count that follows the word, a constant shifted by it, a byte
and a constant beyond it, and a byte shifted. -/
theorem word_kinds_as_fixed_narrow_word :
    let e : Engine := { word := .w32 }
    let wide : Engine := {}
    let count (k : IntKind) : Ty := .named ⟨"Count", "main", 7⟩ (.basic (.integer k))
    let most (k : IntKind) : Object := ⟨.integer (.ofInt k 2147483647), count k⟩
    let three (k : IntKind) : Object := ⟨.integer (.ofInt k 3), .basic (.integer k)⟩
    let one : Object := .constant .int (.integer 1)
    let byte : Object := ⟨.integer (.ofInt .uint8 250), .basic (.integer .uint8)⟩
    let large : Object := .constant .int (.integer 4294967306)
    (most .int).pin .w32 .int = most .int32 ∧ (three .int).pin .w32 .int = three .int32 ∧
      (e.evaluateBinary (most .int32) one (.binary (.arithmetic .add))).result =
        .ok ⟨.integer (.ofInt .int32 (-2147483648)), count .int32⟩ ∧
      (e.evaluateComparison one (most .int32) (.comparison (.order .less)) (.basic .bool)).result =
        .ok ⟨.bool true, .basic .bool⟩ ∧
      (e.evaluateBinary (most .int32) (three .int32) (.binary (.shift .left))).result =
        .ok ⟨.integer (.ofInt .int32 (-8)), count .int32⟩ ∧
      (e.evaluateBinary one (three .int32) (.binary (.shift .left))).result =
        .ok ⟨.integer (.ofInt .int 8), .basic (.integer .int)⟩ ∧
      (e.evaluateBinary byte large (.binary (.arithmetic .add))).result =
        (wide.evaluateBinary byte large (.binary (.arithmetic .add))).result ∧
      (e.evaluateBinary byte (three .int) (.binary (.shift .right))).result =
        (wide.evaluateBinary byte (three .int) (.binary (.shift .right))).result := by
  intro e wide count most three one byte large
  obtain ⟨facing, shifts, constantShifts, fixed, fixedShifts⟩ := word_kinds_as_fixed e wide .int
  have mostPinned : (most .int).pin .w32 .int = most .int32 := by decide
  have threePinned : (three .int).pin .w32 .int = three .int32 := by decide
  have onePinned : one.pin .w32 .int = one := Object.constant_pin ..
  have mostKind : (most .int).OfKind .w32 (.integer .int) :=
    ⟨.integer (show StoredInt.FitsWord .w32 (.ofInt .int 2147483647) by decide), rfl⟩
  have byteFixed : byte.ty.FixedWidth := by
    intro k storage
    cases storage
    rfl
  have notShift (op : ArithmeticOp) (shift : ShiftOp) :
      Token.binary (.arithmetic op) ≠ .binary (.shift shift) := nofun
  have sum := (facing (most .int) one (.constantRight mostKind rfl)).1 _ (notShift .add)
  have order := (facing one (most .int) (.constantLeft rfl mostKind)).2
    (.comparison (.order .less)) (.basic .bool)
  have shifted := shifts (most .int) (three .int) .left mostKind
  have constantShifted := constantShifts .int (.integer 1) (three .int) .left
  rw [mostPinned, onePinned] at sum
  rw [mostPinned, onePinned] at order
  rw [mostPinned, threePinned] at shifted
  rw [threePinned] at constantShifted
  refine ⟨mostPinned, threePinned, sum.trans ?_, order.trans ?_, shifted.trans ?_,
    constantShifted.trans ?_, ?_, fixedShifts byte (three .int) .right rfl byteFixed⟩
  · exact Logged.ok_of_toOption (by decide +kernel)
  · exact Logged.ok_of_toOption (by decide +kernel)
  · exact Logged.ok_of_toOption (by decide +kernel)
  · exact Logged.ok_of_toOption (by decide +kernel)
  · exact (fixed byte large (.untypedRight ⟨rfl, byteFixed, nofun⟩ rfl)).1 _ (notShift .add)

/-- The count leaves the type of a shifted constant alone, so that the outcome has no kind to
replace when the count has. A value that is not of its own type's kind may be read as an integer
next to an `int`, which is as wide as the word. -/
theorem word_kinds_not_as_fixed :
    let e : Engine := { word := .w32 }
    let wide : Engine := {}
    let one : Object := .constant .int (.integer 1)
    let three (k : IntKind) : Object := ⟨.integer (.ofInt k 3), .basic (.integer k)⟩
    let large : Object := .constant .int (.integer 4294967301)
    let mixed : Object := ⟨.integer (.ofInt .int32 5), .basic .bool⟩
    (e.evaluateBinary one (three .int) (.binary (.shift .left))).result =
        .ok ⟨.integer (.ofInt .int 8), .basic (.integer .int)⟩ ∧
      (e.evaluateBinary one (three .int32) (.binary (.shift .left))).result =
        .ok ⟨.integer (.ofInt .int 8), .basic (.integer .int)⟩ ∧
      Object.pin .w32 .int ⟨.integer (.ofInt .int 8), .basic (.integer .int)⟩ =
        ⟨.integer (.ofInt .int32 8), .basic (.integer .int32)⟩ ∧
      (e.evaluateBinary large mixed (.binary (.arithmetic .sub))).result =
        .ok ⟨.integer (.ofInt .int 0), .basic (.integer .int)⟩ ∧
      (wide.evaluateBinary large mixed (.binary (.arithmetic .sub))).result =
        .ok ⟨.integer (.ofInt .int 4294967296), .basic (.integer .int)⟩ := by
  intro e wide one three large mixed
  refine ⟨?_, ?_, by decide, ?_, ?_⟩
  all_goals exact Logged.ok_of_toOption (by decide +kernel)

end Engine

end TypedOps
