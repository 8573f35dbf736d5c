import TypedOps.Proofs.Operator.Definedness
import TypedOps.Proofs.Operator.Recoverable
import TypedOps.Proofs.Operator.Slots

/-!
Where internal faults come from. Every internal fault of an evaluation is due to the token, to an
operand or to the type that is asked for (`InternalFault.Located`). A refused write has no place at
all, since a result is only ever written into a slot of its own class, and a kind without storage is
met only at a declared type over untyped constants. One lemma for each step says which faults it
leaves. Main statement: all internal faults are located, also when operators work by slots and
tables, and a token is unsupported exactly if it is none of the family (`faults_located`).
-/
namespace TypedOps

/-- An object of a declared type that is stored as a class of untyped constants, although it is not
one of them. -/
structure Object.StoredUntyped (u : UntypedKind) (x : Object) : Prop where
  typed : x.isUntyped = false
  declared : x.ty.isNamed = true
  storage : x.ty.storage = .untyped u

/-- The tokens of a family: eleven binary operators, or six comparisons. -/
def OperatorClass.tokens : OperatorClass → List Token
  | binary => BinaryOp.all.map .binary
  | comparison => ComparisonOp.all.map .comparison

theorem ComparisonOp.mem_all (op : ComparisonOp) : op ∈ all := by
  cases op with
  | order op => cases op <;> decide
  | _ => decide

/-- Where an internal fault of the evaluation of a token comes from. -/
def InternalFault.Located (family : OperatorClass) (token : Token) (left right : Object) :
    InternalFault → Prop
  | slotMismatch _ _ => False
  | representationMismatch _ _ => False
  | unsupportedOperator op cls => op = token ∧ cls = family ∧ token ∉ family.tokens
  | invalidOperands op _ _ => op = token
  | noStorage kind => ∃ u, kind = .untyped u ∧ (left.StoredUntyped u ∨ right.StoredUntyped u)
  | invalidShiftCount count => count = right ∧ ∃ op, token = .binary (.shift op)
  | notNillable _ => (token = .comparison .equal ∨ token = .comparison .notEqual) ∧
      (left.isUntypedNil = true ∨ right.isUntypedNil = true)
  | nonBooleanResult _ => family = .comparison
  | untypedNil | constantMismatch _ _ | notConvertible _ _ => True

/-- Only a declared type is stored as untyped constants without being one of them. -/
theorem Object.storedUntyped_of {x : Object} {u : UntypedKind} (typed : x.isUntyped = false)
    (storage : x.ty.storage = .untyped u) : x.StoredUntyped u := by
  refine ⟨typed, ?_, storage⟩
  obtain ⟨value, ty⟩ := x
  cases ty with
  | named => rfl
  | basic kind =>
    cases kind with
    | untyped => cases typed
    | _ => cases storage
  | _ => cases storage

/-! ## Computations with faults of one sort -/

namespace Logged

variable {α β : Type} {P : InternalFault → Prop} {m : Logged α} {f : α → Logged β}

/-- A computation all of whose internal faults satisfy a predicate. -/
def FaultsIn (P : InternalFault → Prop) (m : Logged α) : Prop :=
  ∀ fault, m.result = .error (.internal fault) → P fault

theorem faultsIn_pure (a : α) : (pure a : Logged α).FaultsIn P := by
  intro fault fails
  cases fails

theorem faultsIn_fail {fault : InternalFault} (holds : P fault) :
    (fail fault : Logged α).FaultsIn P := by
  intro other fails
  cases fails
  exact holds

/-- The second part matters only on what the first one gives. -/
theorem FaultsIn.bind (first : m.FaultsIn P) (second : ∀ a, m.result = .ok a → (f a).FaultsIn P) :
    (m >>= f).FaultsIn P := by
  intro fault fails
  rcases bind_result_error_iff.mp fails with fails | ⟨a, given, fails⟩
  · exact first fault fails
  · exact second a given fault fails

end Logged

/-! ## Faults of values -/

/-- Arithmetic on values is invalid, or is of a kind without storage. -/
theorem ArithmeticOp.onValues_internal {word : WordSize} {op : ArithmeticOp} {kind : Kind}
    {invalid fault : InternalFault} {x y : Value}
    (fails : op.onValues word kind invalid x y = .error (.internal fault)) :
    fault = invalid ∨ ∃ u, kind = .untyped u ∧ fault = .noStorage (.untyped u) := by
  cases kind with
  | integer k =>
    simp only [onValues] at fails
    split at fails
    · split at fails <;> cases fails
    · cases fails
      exact .inl rfl
  | float f | complex f =>
    simp only [onValues] at fails
    split at fails
    · split at fails
      · cases fails
      · cases fails
        exact .inl rfl
    · cases fails
      exact .inl rfl
  | string =>
    simp only [onValues] at fails
    split at fails
    · cases fails
    · cases fails
      exact .inl rfl
  | untyped u =>
    cases fails
    exact .inr ⟨u, rfl, rfl⟩
  | _ =>
    cases fails
    exact .inl rfl

theorem Object.shiftCount_internal {count : Object} {fault : InternalFault}
    (fails : count.shiftCount = .error (.internal fault)) : fault = .invalidShiftCount count := by
  unfold shiftCount at fails
  split at fails
  · split at fails
    · cases fails
    · cases fails
      rfl
  · split at fails
    · split at fails <;> cases fails
    · cases fails
      rfl

theorem Object.ofTruth_internal {b : Bool} {ty : Ty} {fault : InternalFault}
    (fails : ofTruth b ty = .error (.internal fault)) : fault = .nonBooleanResult ty := by
  unfold ofTruth at fails
  split at fails
  · split at fails
    · cases fails
    · cases fails
      rfl
  · cases fails
  · cases fails
  · cases fails
    rfl

namespace Engine

open InternalFault (Located)

variable {e : Engine} {family : OperatorClass} {token : Token} {left right l r x : Object}
  {ty : Ty}

/-! ## Typing the operands -/

theorem normalize_located : (e.normalize x).FaultsIn (Located family token left right) := by
  intro fault fails
  obtain ⟨u, _, same⟩ := normalize_error fails
  cases same
  split <;> trivial

/-- A constant finds no storage only at a type that is stored as untyped constants. -/
theorem represent_located
    (facing : ∀ u, ty.storage = .untyped u →
      Located family token left right (.noStorage (.untyped u))) :
    (e.represent x ty).FaultsIn (Located family token left right) := by
  unfold represent
  split
  · exact Logged.faultsIn_pure x
  · split
    · exact normalize_located
    · split
      · exact Logged.faultsIn_fail trivial
      · split
        · next u storage => exact Logged.faultsIn_fail (facing u storage)
        · split
          · split
            · exact Logged.faultsIn_fail trivial
            · refine Logged.FaultsIn.bind ?_ fun _ _ => Logged.faultsIn_pure _
              intro fault fails
              cases (warnOfNumber_result ..).symm.trans fails
          · exact normalize_located

theorem operands_located : (e.operands left right).FaultsIn (Located family token left right) := by
  unfold operands
  split
  · next leftUntyped rightTyped =>
    refine (represent_located fun u storage => ?_).bind fun _ _ => Logged.faultsIn_pure _
    exact ⟨u, rfl, .inr (Object.storedUntyped_of rightTyped storage)⟩
  · next leftTyped rightUntyped =>
    refine (represent_located fun u storage => ?_).bind fun _ _ => Logged.faultsIn_pure _
    exact ⟨u, rfl, .inl (Object.storedUntyped_of leftTyped storage)⟩
  · exact normalize_located.bind fun _ _ => normalize_located.bind fun _ _ =>
      Logged.faultsIn_pure _

theorem normalize_storedUntyped {u : UntypedKind} (given : (e.normalize x).result = .ok l)
    (storage : l.ty.storage = .untyped u) : x.StoredUntyped u := by
  by_cases untyped : x.isUntyped = true
  · have kept := Value.KeptAs.not_untyped (normalize_wellFormed untyped given)
    rw [storage] at kept
    cases kept
  · rw [Bool.not_eq_true] at untyped
    rw [normalize_typed untyped] at given
    cases given
    exact Object.storedUntyped_of untyped storage

/-- Once typed, the left operand is stored as untyped constants only if it came so. -/
theorem operands_storedUntyped {u : UntypedKind}
    (given : (e.operands left right).result = .ok (l, r)) (storage : l.ty.storage = .untyped u) :
    left.StoredUntyped u := by
  unfold operands at given
  split at given
  · next untyped typed =>
    obtain ⟨o, represented, result⟩ := Logged.bind_result_ok_iff.mp given
    cases result
    have kept := Value.KeptAs.not_untyped (represent_wellFormed untyped represented)
    rw [storage] at kept
    cases kept
  · next typed untyped =>
    obtain ⟨o, represented, result⟩ := Logged.bind_result_ok_iff.mp given
    cases result
    exact Object.storedUntyped_of typed storage
  · obtain ⟨o, normal, rest⟩ := Logged.bind_result_ok_iff.mp given
    obtain ⟨_, _, result⟩ := Logged.bind_result_ok_iff.mp rest
    cases result
    exact normalize_storedUntyped normal storage

/-! ## Operators -/

theorem arithmetic_located {op : ArithmeticOp} :
    (e.arithmetic op left right).FaultsIn
      (Located family (.binary (.arithmetic op)) left right) := by
  refine operands_located.bind ?_
  rintro ⟨l, r⟩ given
  refine Logged.FaultsIn.bind ?_ fun _ _ => Logged.faultsIn_pure _
  intro fault fails
  -- The slot is allocated for the left operand's type, before any value is read.
  rcases ArithmeticOp.onValues_internal fails with rfl | ⟨u, storage, rfl⟩
  · rfl
  · exact ⟨u, rfl, .inl (operands_storedUntyped given storage)⟩

theorem bitwise_located {op : BitOp} :
    (e.bitwise op left right).FaultsIn (Located family (.binary (.bit op)) left right) := by
  refine operands_located.bind ?_
  rintro ⟨l, r⟩ _
  dsimp only
  split
  · exact Logged.faultsIn_pure _
  · exact Logged.faultsIn_fail rfl

theorem shift_located {op : ShiftOp} :
    (e.shift op left right).FaultsIn (Located family (.binary (.shift op)) left right) := by
  refine normalize_located.bind fun l _ => ?_
  dsimp only
  split
  · exact Logged.faultsIn_fail rfl
  · refine Logged.FaultsIn.bind ?_ fun n _ => ?_
    · intro fault fails
      cases Object.shiftCount_internal fails
      exact ⟨rfl, op, rfl⟩
    · split
      · exact Logged.faultsIn_pure _
      · exact Logged.faultsIn_fail rfl

theorem apply_located {op : BinaryOp} :
    (e.apply op left right).FaultsIn (Located family (.binary op) left right) := by
  cases op with
  | arithmetic op => exact arithmetic_located
  | bit op => exact bitwise_located
  | shift op => exact shift_located

/-! ## Comparisons -/

theorem ordered_located {op : OrderOp} :
    (e.ordered op left right).FaultsIn (Located family (.comparison (.order op)) left right) := by
  refine operands_located.bind ?_
  rintro ⟨l, r⟩ _
  dsimp only
  split
  · exact Logged.faultsIn_pure _
  · exact Logged.faultsIn_fail rfl

theorem isNil_located (equality : token = .comparison .equal ∨ token = .comparison .notEqual)
    (nil : left.isUntypedNil = true ∨ right.isUntypedNil = true) :
    (e.isNil x).FaultsIn (Located family token left right) := by
  refine normalize_located.bind fun o _ => ?_
  split
  · exact Logged.faultsIn_pure _
  · exact Logged.faultsIn_fail ⟨equality, nil⟩

theorem equalConverted_located :
    (e.equalConverted l r).FaultsIn (Located family token left right) := by
  refine Logged.FaultsIn.bind ?_ fun _ _ => ?_
  · intro fault fails
    cases fails
  · split
    · exact Logged.faultsIn_pure _
    · exact Logged.faultsIn_fail trivial

theorem equality_located (equality : token = .comparison .equal ∨ token = .comparison .notEqual) :
    (e.equality left right).FaultsIn (Located family token left right) := by
  unfold Engine.equality
  split
  · exact Logged.faultsIn_pure _
  · next leftNil _ => exact isNil_located equality (.inl leftNil)
  · next _ rightNil => exact isNil_located equality (.inr rightNil)
  · refine operands_located.bind ?_
    rintro ⟨l, r⟩ _
    dsimp only
    unfold equalTyped
    split
    · exact Logged.faultsIn_pure _
    · split
      · exact equalConverted_located
      · exact equalConverted_located

theorem comparisonTruth_located {op : ComparisonOp} :
    (e.comparisonTruth op left right).FaultsIn (Located family (.comparison op) left right) := by
  cases op with
  | order op => exact ordered_located
  | equal => exact equality_located (.inl rfl)
  | notEqual => exact (equality_located (.inr rfl)).bind fun _ _ => Logged.faultsIn_pure _

theorem compare_located {op : ComparisonOp} {result : Ty} :
    (e.compare op left right result).FaultsIn
      (Located .comparison (.comparison op) left right) := by
  refine comparisonTruth_located.bind fun b _ => ?_
  intro fault fails
  cases Object.ofTruth_internal fails
  rfl

/-! ## Evaluation -/

/-- A token of another family is refused, whatever the operands. -/
theorem evaluateBinary_of_not_mem (outside : token ∉ OperatorClass.binary.tokens) :
    (e.evaluateBinary left right token).result =
      .error (.internal (.unsupportedOperator token .binary)) := by
  rw [evaluateBinary_result]
  cases token with
  | binary op => exact absurd (List.mem_map_of_mem op.mem_all) outside
  | _ => rfl

theorem evaluateComparison_of_not_mem {result : Ty}
    (outside : token ∉ OperatorClass.comparison.tokens) :
    (e.evaluateComparison left right token result).result =
      .error (.internal (.unsupportedOperator token .comparison)) := by
  rw [evaluateComparison_result]
  cases token with
  | comparison op => exact absurd (List.mem_map_of_mem op.mem_all) outside
  | _ => rfl

theorem evaluateBinary_located :
    (e.evaluateBinary left right token).FaultsIn (Located .binary token left right) := by
  intro fault fails
  by_cases inside : token ∈ OperatorClass.binary.tokens
  · obtain ⟨op, _, rfl⟩ := List.mem_map.mp inside
    rw [evaluateBinary_result] at fails
    exact apply_located fault fails
  · rw [evaluateBinary_of_not_mem inside] at fails
    cases fails
    exact ⟨rfl, rfl, inside⟩

theorem evaluateComparison_located {result : Ty} :
    (e.evaluateComparison left right token result).FaultsIn
      (Located .comparison token left right) := by
  intro fault fails
  by_cases inside : token ∈ OperatorClass.comparison.tokens
  · obtain ⟨op, _, rfl⟩ := List.mem_map.mp inside
    rw [evaluateComparison_result] at fails
    exact compare_located fault fails
  · rw [evaluateComparison_of_not_mem inside] at fails
    cases fails
    exact ⟨rfl, rfl, inside⟩

/-- Evaluation by slots and tables is evaluation, and its internal faults are all due to the token,
the operands or the type that is asked for: no write is refused, a token is unsupported exactly if
it is none of the family, and a kind lacks storage only if an operand is of a declared type over an
untyped one. -/
theorem faults_located (e : Engine) (left right : Object) (token : Token) (result : Ty) :
    (e.evaluateBinaryInSlots left right token = e.evaluateBinary left right token ∧
      e.evaluateComparisonInSlots left right token result =
        e.evaluateComparison left right token result) ∧
    (∀ fault, (e.evaluateBinary left right token).result = .error (.internal fault) →
      Located .binary token left right fault) ∧
    (∀ fault, (e.evaluateComparison left right token result).result = .error (.internal fault) →
      Located .comparison token left right fault) ∧
    ((∃ op cls, (e.evaluateBinary left right token).result =
        .error (.internal (.unsupportedOperator op cls))) ↔
      token ∉ OperatorClass.binary.tokens) ∧
    ((∃ op cls, (e.evaluateComparison left right token result).result =
        .error (.internal (.unsupportedOperator op cls))) ↔
      token ∉ OperatorClass.comparison.tokens) := by
  refine ⟨⟨?_, ?_⟩, evaluateBinary_located, evaluateComparison_located, ?_, ?_⟩
  · exact e.evaluateBinaryInSlots_eq left right token
  · exact e.evaluateComparisonInSlots_eq left right token result
  · constructor
    · rintro ⟨op, cls, fails⟩
      exact (evaluateBinary_located _ fails).2.2
    · intro outside
      exact ⟨_, _, evaluateBinary_of_not_mem outside⟩
  · constructor
    · rintro ⟨op, cls, fails⟩
      exact (evaluateComparison_located _ fails).2.2
    · intro outside
      exact ⟨_, _, evaluateComparison_of_not_mem outside⟩

/-- A constant facing a declared untyped type, a text as a shift count, a text compared with nil,
and an assignment as an operator. -/
theorem faults_located_offset :
    let e : Engine := { word := .w32 }
    let one : Object := .constant .int (.integer 1)
    let offset : Object :=
      ⟨.integer (.ofInt .int8 7), .named ⟨"Offset", "main", 12⟩ (.basic (.untyped .int))⟩
    let text : Object := ⟨.text "7", .basic .string⟩
    let nil : Object := .constant .nil .nil
    offset.StoredUntyped .int ∧
      (e.evaluateBinary one offset (.binary (.arithmetic .add))).result =
        .error (.internal (.noStorage (.untyped .int))) ∧
      (e.evaluateBinary one text (.binary (.shift .left))).result =
        .error (.internal (.invalidShiftCount text)) ∧
      (e.evaluateComparison text nil (.comparison .equal) (.basic .bool)).result =
        .error (.internal (.notNillable (.basic .string))) ∧
      ∃ op cls, (e.evaluateBinary one text .assign).result =
        .error (.internal (.unsupportedOperator op cls)) := by
  intro e one offset text nil
  have noStorage : (e.evaluateBinary one offset (.binary (.arithmetic .add))).result =
      .error (.internal (.noStorage (.untyped .int))) := by
    decide +kernel
  obtain ⟨u, same, stored⟩ := (faults_located e one offset _ (.basic .bool)).2.1 _ noStorage
  cases same
  refine ⟨?_, noStorage, ?_, ?_, ?_⟩
  · rcases stored with stored | stored
    · exact absurd stored.typed (by decide)
    · exact stored
  · decide +kernel
  · decide +kernel
  · exact (faults_located e one text .assign (.basic .bool)).2.2.2.1.mpr (by decide)

end Engine

end TypedOps
