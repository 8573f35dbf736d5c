import TypedOps.Proofs.Operator.Equality

/-!
The two phases of an operator. All operators but the shifts, and all comparisons but those with
nil, first type their operands, and then do with them what they do with typed operands
(`apply_eq_bind`, `comparisonTruth_eq_bind`). What an operator does with typed operands is told by
their values and the storage of the left one (`arithmetic_typed`, `bitwise_typed`,
`ordered_typed`).
-/
namespace TypedOps

/-- A binary operator other than the shifts. -/
def BinaryOp.IsPlain (op : BinaryOp) : Prop :=
  ∀ shift, op ≠ .shift shift

theorem BinaryOp.isPlain_of_token {op : BinaryOp}
    (notShift : ∀ shift, Token.binary op ≠ .binary (.shift shift)) : op.IsPlain :=
  fun shift same => notShift shift (by rw [same])

namespace Engine

variable {e : Engine} {left right l r x o : Object}

/-! ## Operands are typed first -/

theorem normalize_ok_typed (given : (e.normalize x).result = .ok o) : o.isUntyped = false := by
  by_cases untyped : x.isUntyped = true
  · exact (normalize_wellFormed untyped given).typed
  · rcases normalize_ok given with ⟨typed, rfl⟩ | ⟨_, _, _, _, rfl, _⟩
    · exact typed
    · exact absurd rfl untyped

theorem operands_ok_typed (given : (e.operands left right).result = .ok (l, r)) :
    l.isUntyped = false ∧ r.isUntyped = false := by
  unfold operands at given
  split at given
  · next untyped typed =>
    obtain ⟨_, represented, result⟩ := Logged.bind_result_ok_iff.mp given
    cases result
    exact ⟨(represent_wellFormed untyped represented).typed, typed⟩
  · next typed untyped =>
    obtain ⟨_, represented, result⟩ := Logged.bind_result_ok_iff.mp given
    cases result
    exact ⟨typed, (represent_wellFormed untyped represented).typed⟩
  · obtain ⟨_, normal, rest⟩ := Logged.bind_result_ok_iff.mp given
    obtain ⟨_, otherNormal, result⟩ := Logged.bind_result_ok_iff.mp rest
    cases result
    exact ⟨normalize_ok_typed normal, normalize_ok_typed otherNormal⟩

/-- A computation that types its operands first does with them what it does with typed ones. -/
theorem bind_operands {α : Type} {f : Object × Object → Logged α} :
    (e.operands left right >>= f).result = (e.operands left right).result.bind fun (l, r) =>
      (e.operands l r >>= f).result := by
  rw [Logged.bind_result]
  cases given : (e.operands left right).result with
  | error => rfl
  | ok pair =>
    obtain ⟨l, r⟩ := pair
    obtain ⟨leftTyped, rightTyped⟩ := operands_ok_typed given
    simp only [Except.bind, Logged.bind_result, operands_typed leftTyped rightTyped]

theorem apply_eq_bind {op : BinaryOp} (plain : op.IsPlain) :
    (e.apply op left right).result =
      (e.operands left right).result.bind fun (l, r) => (e.apply op l r).result := by
  cases op with
  | arithmetic op => exact bind_operands
  | bit op => exact bind_operands
  | shift op => exact absurd rfl (plain op)

theorem ordered_eq_bind {op : OrderOp} :
    (e.ordered op left right).result =
      (e.operands left right).result.bind fun (l, r) => (e.ordered op l r).result :=
  bind_operands

theorem equality_eq_bind (leftNotNil : left.isUntypedNil = false)
    (rightNotNil : right.isUntypedNil = false) :
    (e.equality left right).result =
      (e.operands left right).result.bind fun (l, r) => (e.equality l r).result := by
  simp only [equality, leftNotNil, rightNotNil, Logged.bind_result]
  cases given : (e.operands left right).result with
  | error => rfl
  | ok pair =>
    obtain ⟨l, r⟩ := pair
    obtain ⟨leftTyped, rightTyped⟩ := operands_ok_typed given
    exact (equality_typed leftTyped rightTyped).symm

theorem comparisonTruth_eq_bind (op : ComparisonOp) (leftNotNil : left.isUntypedNil = false)
    (rightNotNil : right.isUntypedNil = false) :
    (e.comparisonTruth op left right).result =
      (e.operands left right).result.bind fun (l, r) => (e.comparisonTruth op l r).result := by
  have equality := equality_eq_bind (e := e) leftNotNil rightNotNil
  cases op with
  | order op => exact ordered_eq_bind
  | equal => exact equality
  | notEqual =>
    simp only [comparisonTruth, Logged.bind_result, equality]
    cases (e.operands left right).result <;> rfl

theorem compare_eq_bind {op : ComparisonOp} {result : Ty} :
    (e.compare op left right result).result =
      (e.comparisonTruth op left right).result.bind fun b => Object.ofTruth b result := by
  simp only [compare, Logged.bind_result, Logged.ofExcept_result]

/-! ## Typed operands -/

section

variable (leftTyped : l.isUntyped = false) (rightTyped : r.isUntyped = false)

include leftTyped rightTyped

theorem arithmetic_typed (op : ArithmeticOp) :
    (e.arithmetic op l r).result =
      (op.onValues e.word l.ty.storage (.invalidOperands (.binary (.arithmetic op)) l.ty r.ty)
        l.value r.value).map (⟨·, l.ty⟩) := by
  simp only [arithmetic, Logged.bind_result, operands_typed leftTyped rightTyped, Except.bind]
  rfl

theorem bitwise_typed (op : BitOp) :
    (e.bitwise op l r).result =
      match l.ty.storage, l.value.toInt?, r.value.toInt? with
      | .integer k, some a, some b =>
        .ok ⟨.integer (.narrow e.word k (op.onIntegers (k.shape e.word) a b)), l.ty⟩
      | _, _, _ => .error (.internal (.invalidOperands (.binary (.bit op)) l.ty r.ty)) := by
  simp only [bitwise, Logged.bind_result, operands_typed leftTyped rightTyped, Except.bind]
  cases l.ty.storage <;> cases l.value.toInt? <;> cases r.value.toInt? <;> rfl

theorem ordered_typed (op : OrderOp) :
    (e.ordered op l r).result =
      match op.onValues? e.word l.ty.storage l.value r.value with
      | some b => .ok b
      | none => .error (.internal (.invalidOperands (.comparison (.order op)) l.ty r.ty)) := by
  simp only [ordered, Logged.bind_result, operands_typed leftTyped rightTyped, Except.bind]
  cases op.onValues? e.word l.ty.storage l.value r.value <;> rfl

end

end Engine

end TypedOps
