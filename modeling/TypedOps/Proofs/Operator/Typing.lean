import TypedOps.Operator.Operands
import TypedOps.Proofs.Value.Kept

/-!
How operands take their types, apart from the warnings on the way. A typed object stays as it is
(`normalize_typed`, `represent_typed`). A constant alone takes the default type of its class
(`normalize_constant`); facing a number, a numeric constant takes the type that it faces
(`represent_numeric`), and facing anything else stored, constants are on their own again
(`represent_eq_normalize`). What comes of a constant is well formed
(`normalize_wellFormed`, `represent_wellFormed`).
-/
namespace TypedOps

/-! ## Constants kept as a kind -/

/-- No kind holds more than 64 bits, so cutting an integer to them first makes no difference. -/
theorem StoredInt.narrow_low (word : WordSize) (k : IntKind) (n : Int) :
    narrow word k ((Shape.mk true .w64).wrap n) = narrow word k n := by
  have shorter : (k.shape word).width.bits ≤ Width.w64.bits := by
    cases word <;> cases k <;> decide
  rw [narrow, Shape.wrap_wrap_of_le shorter, narrow]

namespace Constant

variable {word : WordSize} {c : Constant} {kind : Kind} {k : IntKind} {v : Value}

/-- An integer kind keeps the integral constants, and of each the low bits. -/
theorem asKind_low (storage : kind.storage = .integer k) :
    c.asKind? word kind = c.toInteger?.map fun n => .integer (.narrow word k n) := by
  simp only [asKind?, storage, toSigned?, Option.map_map, Function.comp_def, StoredInt.narrow_low]

/-- An integral constant is kept as an integer kind by its low bits. -/
theorem asKind_integer {n : Int} (storage : kind.storage = .integer k)
    (value : c.toInteger? = some n) :
    c.asKind? word kind = some (.integer (.narrow word k n)) := by
  rw [asKind_low storage, value, Option.map_some]

/-- What a constant is kept as is a value of the kind's storage. -/
theorem asKind_kept (kept : c.asKind? word kind = some v) : v.KeptAs word kind.storage := by
  cases storage : kind.storage with
  | rune | untyped | reference => simp [asKind?, storage] at kept
  | integer k =>
    rw [asKind_low storage, Option.map_eq_some_iff] at kept
    obtain ⟨n, _, rfl⟩ := kept
    exact Value.keptAs_narrow word k n
  | _ =>
    simp only [asKind?, storage, Option.map_eq_some_iff] at kept
    obtain ⟨_, _, rfl⟩ := kept
    constructor

end Constant

/-- Numbers are numbers by default too. -/
theorem UntypedKind.default_isNumeric {u : UntypedKind} {kind : Kind}
    (default : u.default? = some kind) : kind.storage.isNumeric = u.isNumeric := by
  cases u <;> cases default <;> rfl

theorem UntypedKind.ne_nil_of_default {u : UntypedKind} {kind : Kind}
    (default : u.default? = some kind) : u ≠ .nil := by
  rintro rfl
  cases default

namespace Engine

variable {e : Engine} {x o l r left right : Object} {ty : Ty} {u : UntypedKind} {c : Constant}

@[simp] theorem warnOfInt_result (e : Engine) (c : Constant) :
    (e.warnOfInt c).result = .ok () := by
  unfold warnOfInt
  split <;> rfl

@[simp] theorem warnOfNumber_result (e : Engine) (c : Constant) (ty : Ty) :
    (e.warnOfNumber c ty).result = .ok () := by
  unfold warnOfNumber
  split <;> rfl

/-! ## Default types -/

theorem normalize_typed (typed : x.isUntyped = false) : e.normalize x = pure x := by
  simp only [normalize, Ty.untyped_eq_none_iff.mpr typed]

/-- A constant takes the default type of its class, if it has a value there. -/
theorem normalize_constant {kind : Kind} (default : u.default? = some kind) :
    (e.normalize (.constant u c)).result =
      match c.asKind? e.word kind with
      | some v => .ok ⟨v, .basic kind⟩
      | none => .error (.internal (.constantMismatch u (.constant c))) := by
  simp only [normalize, Object.constant, Ty.untyped?, default, Value.toConstant?]
  cases c.asKind? e.word kind with
  | none => rfl
  | some v => by_cases int : u = .int <;> simp [int, Logged.bind_result, Except.bind]

/-- What is normalized is typed already, or a constant that takes its default type. -/
theorem normalize_ok (given : (e.normalize x).result = .ok o) :
    (x.isUntyped = false ∧ o = x) ∨
      ∃ u c kind v, x = .constant u c ∧ u.default? = some kind ∧
        c.asKind? e.word kind = some v ∧ o = ⟨v, .basic kind⟩ := by
  by_cases untyped : x.isUntyped = true
  · right
    obtain ⟨value, ty⟩ := x
    obtain ⟨u, rfl⟩ := Ty.isUntyped_iff.mp untyped
    cases default : u.default? with
    | none => simp [normalize, Ty.untyped?, default] at given
    | some kind =>
      cases value with
      | constant c =>
        have result := normalize_constant (e := e) (c := c) default
        rw [Object.constant, given] at result
        cases kept : c.asKind? e.word kind with
        | none => simp [kept] at result
        | some v =>
          simp only [kept, Except.ok.injEq] at result
          exact ⟨u, c, kind, v, rfl, default, kept, result⟩
      | _ => simp [normalize, Ty.untyped?, default, Value.toConstant?] at given
  · left
    rw [Bool.not_eq_true] at untyped
    rw [normalize_typed untyped] at given
    exact ⟨untyped, (Except.ok.inj given).symm⟩

/-- What is refused is nil, or an object that holds nothing of its class. -/
theorem normalize_error {f : Fault} (given : (e.normalize x).result = .error f) :
    ∃ u, x.ty = .basic (.untyped u) ∧
      f = .internal (if u = .nil then .untypedNil else .constantMismatch u x.value) := by
  by_cases untyped : x.isUntyped = true
  · obtain ⟨value, ty⟩ := x
    obtain ⟨u, rfl⟩ := Ty.isUntyped_iff.mp untyped
    refine ⟨u, rfl, ?_⟩
    cases default : u.default? with
    | none =>
      simp only [normalize, Ty.untyped?, default] at given
      cases u <;> cases default
      cases given
      rfl
    | some kind =>
      rw [if_neg (UntypedKind.ne_nil_of_default default)]
      cases value with
      | constant c =>
        rw [← Object.constant, normalize_constant default] at given
        cases kept : c.asKind? e.word kind with
        | none =>
          rw [kept] at given
          exact (Except.error.inj given).symm
        | some v => simp [kept] at given
      | _ =>
        simp only [normalize, Ty.untyped?, default, Value.toConstant?] at given
        exact (Except.error.inj given).symm
  · rw [Bool.not_eq_true] at untyped
    rw [normalize_typed untyped] at given
    cases given

theorem normalize_wellFormed (untyped : x.isUntyped = true)
    (given : (e.normalize x).result = .ok o) : o.WellFormed e.word := by
  rcases normalize_ok given with ⟨typed, _⟩ | ⟨u, c, kind, v, _, _, kept, rfl⟩
  · rw [untyped] at typed
    cases typed
  · exact Constant.asKind_kept kept

/-! ## Types taken from the other operand -/

theorem represent_typed (typed : x.isUntyped = false) : e.represent x ty = pure x := by
  simp only [represent, Ty.untyped_eq_none_iff.mpr typed]

/-- A numeric constant facing a number takes its type, if it has a value there. -/
theorem represent_numeric (number : u.isNumeric = true) (stored : ty.storage.isNumeric = true) :
    (e.represent (.constant u c) ty).result =
      match c.asKind? e.word ty.storage with
      | some v => .ok ⟨v, ty⟩
      | none => .error (.internal (.notConvertible (.basic (.untyped u)) ty)) := by
  have typed : ty.storage.isUntyped = false := by
    cases storage : ty.storage with
    | untyped => simp [storage, Kind.isNumeric, Kind.isInteger, Kind.isSigned, Kind.isUnsigned,
        Kind.isFloat, Kind.isComplex] at stored
    | _ => rfl
  have assignable : (Ty.basic (.untyped u)).assignableTo ty = true :=
    (Ty.untyped_assignable_iff typed).mpr (.inr (by rw [Ty.constantFits_numeric stored, number]))
  simp only [represent, Object.constant, Ty.untyped?, Value.toConstant?, UntypedKind.ne_nil number,
    assignable, not_true_eq_false, or_self, ↓reduceIte]
  split
  · next storage => simp [storage, Kind.isUntyped] at typed
  · rw [if_pos stored]
    cases c.asKind? e.word ty.storage with
    | none => rfl
    | some v => simp [Logged.bind_result, Except.bind]

theorem represent_numeric_ty (number : u.isNumeric = true) (stored : ty.storage.isNumeric = true)
    (given : (e.represent (.constant u c) ty).result = .ok o) : o.ty = ty := by
  rw [represent_numeric number stored] at given
  cases kept : c.asKind? e.word ty.storage with
  | none => simp [kept] at given
  | some v =>
    simp only [kept, Except.ok.injEq] at given
    rw [← given]

/-- A constant that is not assignable to the type that it faces takes its default type. -/
theorem represent_not_assignable (apart : x.ty.assignableTo ty = false) :
    e.represent x ty = e.normalize x := by
  unfold represent
  split
  · next typed => rw [normalize_typed (Ty.untyped_eq_none_iff.mp typed)]
  · simp [apart]

/-- A constant facing what is stored as anything but a number takes its default type. -/
theorem represent_not_numeric (typed : ty.storage.isUntyped = false)
    (stored : ty.storage.isNumeric = false) : e.represent x ty = e.normalize x := by
  by_cases apart : x.ty.assignableTo ty = false
  · exact represent_not_assignable apart
  · unfold represent
    split
    · next none => rw [normalize_typed (Ty.untyped_eq_none_iff.mp none)]
    · next u some =>
      by_cases isNil : u = .nil
      · simp [isNil]
      · simp only [isNil, apart, not_true_eq_false, or_self, ↓reduceIte]
        cases value : x.value.toConstant? with
        | none => cases u <;> simp_all [normalize, UntypedKind.default?]
        | some c =>
          cases storage : ty.storage with
          | untyped => simp [storage, Kind.isUntyped] at typed
          | _ => simp_all

/-- Where not both the constant and the storage are numbers, a constant takes its default type. -/
theorem represent_eq_normalize (typed : ty.storage.isUntyped = false)
    (different : u.isNumeric = false ∨ ty.storage.isNumeric = false) :
    e.represent (.constant u c) ty = e.normalize (.constant u c) := by
  by_cases stored : ty.storage.isNumeric = true
  · have number : u.isNumeric = false := by simpa [stored] using different
    apply represent_not_assignable
    rw [Bool.eq_false_iff]
    intro assignable
    rcases (Ty.untyped_assignable_iff typed).mp assignable with interface | fits
    · rw [interface] at stored
      cases stored
    · rw [Ty.constantFits_numeric stored, number] at fits
      cases fits
  · exact represent_not_numeric typed (Bool.not_eq_true _ ▸ stored)

/-- What a constant becomes is its default, or a value at the type that it faces. -/
theorem represent_ok (untyped : x.isUntyped = true)
    (given : (e.represent x ty).result = .ok o) :
    (e.normalize x).result = .ok o ∨
      ∃ (c : Constant) (v : Value), c.asKind? e.word ty.storage = some v ∧ o = ⟨v, ty⟩ := by
  obtain ⟨value, source⟩ := x
  obtain ⟨u, rfl⟩ := Ty.isUntyped_iff.mp untyped
  simp only [represent, Ty.untyped?] at given
  split at given
  · exact .inl given
  · cases value with
    | constant c =>
      simp only [Value.toConstant?] at given
      split at given
      · cases given
      · split at given
        · cases kept : c.asKind? e.word ty.storage with
          | none => simp [kept] at given
          | some v =>
            simp only [kept, Logged.bind_result, warnOfNumber_result, Except.bind,
              Logged.pure_result, Except.ok.injEq] at given
            exact .inr ⟨c, v, kept, given.symm⟩
        · exact .inl given
    | _ => cases given

theorem represent_wellFormed (untyped : x.isUntyped = true)
    (given : (e.represent x ty).result = .ok o) : o.WellFormed e.word := by
  rcases represent_ok untyped given with normal | ⟨c, v, kept, rfl⟩
  · exact normalize_wellFormed untyped normal
  · have stored := Constant.asKind_kept kept
    rwa [Ty.storage_storage] at stored

/-! ## Both operands -/

theorem operands_typed (leftTyped : left.isUntyped = false) (rightTyped : right.isUntyped = false) :
    (e.operands left right).result = .ok (left, right) := by
  simp [operands, leftTyped, rightTyped, normalize_typed, Logged.bind_result, Except.bind]

theorem operands_left (untyped : left.isUntyped = true) (typed : right.isUntyped = false) :
    (e.operands left right).result = (e.represent left right.ty).result.map (·, right) := by
  simp only [operands, untyped, typed, Logged.bind_result]
  rfl

theorem operands_right (typed : left.isUntyped = false) (untyped : right.isUntyped = true) :
    (e.operands left right).result = (e.represent right left.ty).result.map (left, ·) := by
  simp only [operands, untyped, typed, Logged.bind_result]
  rfl

theorem operands_left_ok (untyped : left.isUntyped = true) (typed : right.isUntyped = false)
    (given : (e.operands left right).result = .ok (l, r)) :
    (e.represent left right.ty).result = .ok l ∧ r = right := by
  rw [operands_left untyped typed] at given
  cases represented : (e.represent left right.ty).result with
  | error => simp [represented, Except.map] at given
  | ok o =>
    rw [represented] at given
    cases given
    exact ⟨rfl, rfl⟩

theorem operands_right_ok (typed : left.isUntyped = false) (untyped : right.isUntyped = true)
    (given : (e.operands left right).result = .ok (l, r)) :
    l = left ∧ (e.represent right left.ty).result = .ok r := by
  rw [operands_right typed untyped] at given
  cases represented : (e.represent right left.ty).result with
  | error => simp [represented, Except.map] at given
  | ok o =>
    rw [represented] at given
    cases given
    exact ⟨rfl, rfl⟩

theorem operands_constants (leftUntyped : left.isUntyped = true)
    (rightUntyped : right.isUntyped = true) :
    (e.operands left right).result =
      (e.normalize left).result.bind fun l => (e.normalize right).result.map (l, ·) := by
  simp only [operands, leftUntyped, rightUntyped, Logged.bind_result]
  rfl

end Engine

end TypedOps
