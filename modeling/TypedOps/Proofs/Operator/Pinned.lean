import TypedOps.Proofs.Operator.Phases
import TypedOps.Proofs.Value.Pinned

/-!
Pinning commutes with the operators. An operator that computes in an integer kind only depends on
the shape of the kind, so that operands with the kind pinned give the same outcome, pinned: typing
them does (`operands_pin`), and so does what follows (`apply_pin`, `comparisonTruth_pin`). A shift
reads its count as it is kept, of whatever type it is (`shift_pin`).
-/
namespace TypedOps

/-- A result with an integer kind pinned in its fault, and its value changed. -/
def pinWith {α β : Type} (word : WordSize) (k : IntKind) (f : α → β) :
    Except Fault α → Except Fault β
  | .ok a => .ok (f a)
  | .error fault => .error (fault.pin word k)

theorem pinWith_bind {α β γ δ : Type} {word : WordSize} {k : IntKind} {f : α → β} {g : γ → δ}
    {m : Except Fault α} {n : α → Except Fault γ} {n' : β → Except Fault δ}
    (rest : ∀ a, m = .ok a → n' (f a) = pinWith word k g (n a)) :
    (pinWith word k f m).bind n' = pinWith word k g (m.bind n) := by
  cases m with
  | error => rfl
  | ok a => exact rest a rfl

/-- Operands of an operator that computes in an integer kind: integers of the kind within the word,
or one of these facing a numeric constant. -/
inductive Object.Facing (word : WordSize) (k : IntKind) : Object → Object → Prop
  | typed {left right : Object} (leftKind : left.OfKind word (.integer k))
    (rightKind : right.OfKind word (.integer k)) : Facing word k left right
  | constantLeft {u : UntypedKind} {c : Constant} {right : Object} (number : u.isNumeric = true)
    (rightKind : right.OfKind word (.integer k)) : Facing word k (.constant u c) right
  | constantRight {left : Object} {u : UntypedKind} {c : Constant}
    (leftKind : left.OfKind word (.integer k)) (number : u.isNumeric = true) :
    Facing word k left (.constant u c)

theorem Ty.storage_pin_integer {word : WordSize} {k : IntKind} {t : Ty}
    (storage : t.storage = .integer k) : (t.pin word k).storage = .integer (k.fixed word) := by
  rw [storage_pin, storage, Kind.pin, IntKind.pin_self]

theorem Object.OfKind.pin {word : WordSize} {k : IntKind} {x : Object}
    (ofKind : x.OfKind word (.integer k)) :
    (x.pin word k).OfKind word (.integer (k.fixed word)) := by
  obtain ⟨formed, storage⟩ := ofKind
  have pinned : (x.pin word k).ty.storage = .integer (k.fixed word) :=
    Ty.storage_pin_integer storage
  obtain ⟨i, kind, fits, same⟩ := (wellFormed_integer_iff storage).mp formed
  obtain ⟨pinnedKind, pinnedFits⟩ := StoredInt.pin_of_fits kind fits
  refine ⟨(wellFormed_integer_iff pinned).mpr ⟨_, pinnedKind, pinnedFits, ?_⟩, pinned⟩
  rw [same]
  rfl

theorem Value.equals_pin {word : WordSize} {k : IntKind} {v w : Value}
    (left : v.KeptAs word (.integer k)) (right : w.KeptAs word (.integer k)) :
    (v.pin word k).equals (w.pin word k) = v.equals w := by
  obtain ⟨i, leftKind, leftFits, rfl⟩ := keptAs_integer_iff.mp left
  obtain ⟨j, rightKind, rightFits, rfl⟩ := keptAs_integer_iff.mp right
  have pinnedLeft := (StoredInt.pin_of_fits leftKind leftFits).1
  have pinnedRight := (StoredInt.pin_of_fits rightKind rightFits).1
  simp only [pin, equals, integer.injEq, StoredInt.eq_iff, pinnedLeft, pinnedRight, leftKind,
    rightKind, StoredInt.val_pin]

namespace Engine

variable {e : Engine} {k : IntKind} {l r left right count x : Object} {ty : Ty}

/-! ## Typed operands -/

theorem apply_pin {op : BinaryOp} (plain : op.IsPlain) (leftTyped : l.isUntyped = false)
    (rightTyped : r.isUntyped = false) (storage : l.ty.storage = .integer k) :
    (e.apply op (l.pin e.word k) (r.pin e.word k)).result =
      pinWith e.word k (Object.pin e.word k) (e.apply op l r).result := by
  have leftPinned : (l.pin e.word k).isUntyped = false := by rwa [Object.isUntyped_pin]
  have rightPinned : (r.pin e.word k).isUntyped = false := by rwa [Object.isUntyped_pin]
  have pinned : (l.pin e.word k).ty.storage = .integer (k.fixed e.word) :=
    Ty.storage_pin_integer storage
  have readLeft : (l.pin e.word k).value.toInt? = l.value.toInt? := Value.toInt_pin ..
  have readRight : (r.pin e.word k).value.toInt? = r.value.toInt? := Value.toInt_pin ..
  cases op with
  | arithmetic op =>
    simp only [apply, arithmetic_typed leftTyped rightTyped,
      arithmetic_typed leftPinned rightPinned, storage, pinned, ArithmeticOp.onValues, readLeft,
      readRight, IntKind.shape_fixed]
    split
    · split
      · rfl
      · simp only [Except.map, pinWith, Object.pin, Value.pin, StoredInt.pin_narrow]
    · rfl
  | bit op =>
    simp only [apply, bitwise_typed leftTyped rightTyped, bitwise_typed leftPinned rightPinned,
      storage, pinned, readLeft, readRight]
    cases l.value.toInt? <;> cases r.value.toInt?
    case some.some a b =>
      simp only [IntKind.shape_fixed, pinWith, Object.pin, Value.pin, StoredInt.pin_narrow]
    all_goals rfl
  | shift op => exact absurd rfl (plain op)

theorem comparisonTruth_pin (op : ComparisonOp) (leftKind : l.OfKind e.word (.integer k))
    (rightKind : r.OfKind e.word (.integer k)) :
    (e.comparisonTruth op (l.pin e.word k) (r.pin e.word k)).result =
      pinWith e.word k id (e.comparisonTruth op l r).result := by
  have readLeft : (l.pin e.word k).value.toInt? = l.value.toInt? := Value.toInt_pin ..
  have readRight : (r.pin e.word k).value.toInt? = r.value.toInt? := Value.toInt_pin ..
  have leftPinned := leftKind.pin
  have rightPinned := rightKind.pin
  have equality : (e.equality (l.pin e.word k) (r.pin e.word k)).result =
      pinWith e.word k id (e.equality l r).result := by
    -- The types may differ, but not the storage, so nothing is lost by a conversion on either side.
    rw [equality_typed leftPinned.typed rightPinned.typed,
      equality_typed leftKind.typed rightKind.typed,
      equalTyped_same_storage leftPinned.formed rightPinned.formed
        (leftPinned.storage.trans rightPinned.storage.symm),
      equalTyped_same_storage leftKind.formed rightKind.formed
        (leftKind.storage.trans rightKind.storage.symm)]
    exact congrArg Except.ok (Value.equals_pin leftKind.kept rightKind.kept)
  cases op with
  | order op =>
    simp only [comparisonTruth, ordered_typed leftKind.typed rightKind.typed,
      ordered_typed leftPinned.typed rightPinned.typed, leftKind.storage, leftPinned.storage,
      OrderOp.onValues?, readLeft, readRight, IntKind.shape_fixed]
    cases l.value.toInt? <;> cases r.value.toInt? <;> rfl
  | equal => exact equality
  | notEqual =>
    simp only [comparisonTruth, Logged.bind_result, equality]
    cases (e.equality l r).result <;> rfl

/-! ## Shifts -/

theorem shiftCount_pin (word : WordSize) (count : Object) :
    (count.pin word k).shiftCount = pinWith word k id count.shiftCount := by
  have untyped := count.isUntyped_pin word k
  have constant : (count.pin word k).value.toConstant? = count.value.toConstant? :=
    Value.toConstant_pin ..
  have bits : (count.pin word k).value.toBits? = count.value.toBits? := Value.toBits_pin ..
  have storage : (count.pin word k).ty.storage = count.ty.storage.pin word k := Ty.storage_pin ..
  unfold Object.shiftCount
  rw [untyped, constant, bits, storage]
  split
  · split <;> rfl
  · cases count.ty.storage <;> cases count.value.toBits?
    case integer.some j b =>
      simp only [Kind.pin, IntKind.signed_pin]
      split <;> rfl
    all_goals rfl

theorem shift_pin {op : ShiftOp} (typed : l.isUntyped = false)
    (storage : l.ty.storage = .integer k) :
    (e.shift op (l.pin e.word k) (count.pin e.word k)).result =
      pinWith e.word k (Object.pin e.word k) (e.shift op l count).result := by
  have pinned : (l.pin e.word k).ty.storage = .integer (k.fixed e.word) :=
    Ty.storage_pin_integer storage
  have read : (l.pin e.word k).value.toInt? = l.value.toInt? := Value.toInt_pin ..
  have typedPinned : (l.pin e.word k).isUntyped = false := by rwa [Object.isUntyped_pin]
  simp only [shift, normalize_typed typed, normalize_typed typedPinned, Logged.bind_result,
    Logged.pure_result, Except.bind, read]
  cases l.value.toInt? with
  | none => rfl
  | some a =>
    simp only [Logged.bind_result, Logged.ofExcept_result, shiftCount_pin, storage, pinned]
    refine pinWith_bind fun n _ => ?_
    simp only [id, Logged.pure_result, IntKind.shape_fixed, pinWith, Object.pin, Value.pin,
      StoredInt.pin_narrow]

/-! ## Typing the operands -/

theorem represent_pin {u : UntypedKind} {c : Constant} (number : u.isNumeric = true)
    (storage : ty.storage = .integer k) :
    (e.represent (.constant u c) (ty.pin e.word k)).result =
      pinWith e.word k (Object.pin e.word k) (e.represent (.constant u c) ty).result := by
  have pinned : (ty.pin e.word k).storage = .integer (k.fixed e.word) :=
    Ty.storage_pin_integer storage
  rw [represent_numeric number (by rw [pinned, Kind.isNumeric_integer]),
    represent_numeric number (by rw [storage, Kind.isNumeric_integer]), storage, pinned,
    Constant.asKind_low rfl, Constant.asKind_low rfl]
  cases c.toInteger? with
  | none => rfl
  | some n => simp only [Option.map, pinWith, Object.pin, Value.pin, StoredInt.pin_narrow]

theorem operands_pin (facing : left.Facing e.word k right) :
    (e.operands (left.pin e.word k) (right.pin e.word k)).result =
      pinWith e.word k (Prod.map (Object.pin e.word k) (Object.pin e.word k))
        (e.operands left right).result := by
  cases facing with
  | typed leftKind rightKind =>
    rw [operands_typed leftKind.pin.typed rightKind.pin.typed,
      operands_typed leftKind.typed rightKind.typed]
    rfl
  | @constantLeft u c right number rightKind =>
    rw [Object.constant_pin, operands_left rfl rightKind.pin.typed,
      operands_left rfl rightKind.typed]
    have represented := represent_pin (e := e) (c := c) number rightKind.storage
    simp only [Object.pin] at represented ⊢
    rw [represented]
    cases (e.represent (.constant u c) right.ty).result <;> rfl
  | @constantRight left u c leftKind number =>
    rw [Object.constant_pin, operands_right leftKind.pin.typed rfl,
      operands_right leftKind.typed rfl]
    have represented := represent_pin (e := e) (c := c) number leftKind.storage
    simp only [Object.pin] at represented ⊢
    rw [represented]
    cases (e.represent (.constant u c) left.ty).result <;> rfl

/-- Facing an integer of the kind, a constant becomes one. -/
theorem represent_ofKind {u : UntypedKind} {c : Constant} (number : u.isNumeric = true)
    (storage : ty.storage = .integer k)
    (given : (e.represent (.constant u c) ty).result = .ok x) : x.OfKind e.word (.integer k) := by
  have numeric : ty.storage.isNumeric = true := by
    rw [storage, Kind.isNumeric_integer]
  refine ⟨represent_wellFormed rfl given, ?_⟩
  rw [represent_numeric_ty number numeric given, storage]

theorem operands_ofKind (facing : left.Facing e.word k right)
    (given : (e.operands left right).result = .ok (l, r)) :
    l.OfKind e.word (.integer k) ∧ r.OfKind e.word (.integer k) := by
  cases facing with
  | typed leftKind rightKind =>
    rw [operands_typed leftKind.typed rightKind.typed] at given
    cases given
    exact ⟨leftKind, rightKind⟩
  | constantLeft number rightKind =>
    obtain ⟨represented, rfl⟩ := operands_left_ok rfl rightKind.typed given
    exact ⟨represent_ofKind number rightKind.storage represented, rightKind⟩
  | constantRight leftKind number =>
    obtain ⟨rfl, represented⟩ := operands_right_ok leftKind.typed rfl given
    exact ⟨leftKind, represent_ofKind number leftKind.storage represented⟩

end Engine

end TypedOps
