import TypedOps.Proofs.Operator.Phases

/-!
The types of results. Apart from shifts, a binary operator gives its result the type that the left
operand has once both are typed, and computes only where the right operand is of the same class
(`apply_operands`). Facing a number, a constant is at the type of the number by then; everywhere
else it is at its default type, and there is nothing to compute but the text that two texts join to
(`represent_type`). Main statement: a constant takes the type of the typed operand that it meets on
either side, except that one on the left of a text makes the result a plain string
(`constant_takes_type`).
-/
namespace TypedOps

/-! ## What there is to compute -/

/-- An integer is only read from the kinds of integers. -/
theorem Value.kind_of_toInt {v : Value} {n : Int} (read : v.toInt? = some n) :
    ∃ k, v.kind? = some (.integer k) := by
  cases v with
  | integer i => exact ⟨i.kind, rfl⟩
  | _ => cases read

/-- Values of one kind only compute with values that convert to it: numbers, or two texts that are
joined. -/
theorem ArithmeticOp.onValues_converts {word : WordSize} {op : ArithmeticOp} {kind l : Kind}
    {invalid : InternalFault} {x y v : Value} (computed : op.onValues word kind invalid x y = .ok v)
    (stored : y.kind? = some l) :
    kind.convertsTo l = true ∧ (kind.isNumeric = true ∨ kind = .string ∧ op = .add) := by
  cases kind with
  | integer k =>
    simp only [onValues] at computed
    split at computed
    · next readLeft readRight =>
      obtain ⟨i, integer⟩ := Value.kind_of_toInt readRight
      rw [integer] at stored
      cases stored
      exact ⟨rfl, .inl (Kind.isNumeric_integer k)⟩
    · cases computed
  | float f =>
    simp only [onValues] at computed
    split at computed
    · next readLeft readRight =>
      cases y with
      | float g z => cases stored; exact ⟨rfl, .inl rfl⟩
      | _ => cases readRight
    · cases computed
  | complex f =>
    simp only [onValues] at computed
    split at computed
    · next readLeft readRight =>
      cases y with
      | complex g z => cases stored; exact ⟨rfl, .inl rfl⟩
      | _ => cases readRight
    · cases computed
  | string =>
    simp only [onValues] at computed
    split at computed
    · next readLeft readRight =>
      cases y with
      | text t => cases stored; exact ⟨rfl, .inr ⟨rfl, rfl⟩⟩
      | _ => cases readRight
    · cases computed
  | _ => cases computed

/-- Only texts are kept as texts by default. -/
theorem UntypedKind.default_string {u : UntypedKind} {kind : Kind}
    (default : u.default? = some kind) (text : kind.storage = .string) :
    u = .string ∧ kind = .string := by
  cases u <;> cases default <;> cases text
  exact ⟨rfl, rfl⟩

namespace Engine

variable {e : Engine} {left right x l o : Object} {ty : Ty} {u : UntypedKind} {c : Constant}

/-- Once the operands are typed, the result has the type of the left one, and the right one has a
value that converts to the storage of that type. -/
theorem apply_operands {op : BinaryOp} (plain : op.IsPlain)
    (given : (e.apply op left right).result = .ok o) :
    ∃ l r, (e.operands left right).result = .ok (l, r) ∧ o.ty = l.ty ∧
      ∀ kind, r.value.kind? = some kind → l.ty.storage.convertsTo kind = true ∧
        (l.ty.storage.isNumeric = true ∨
          l.ty.storage = .string ∧ op = .arithmetic .add) := by
  cases op with
  | arithmetic op =>
    obtain ⟨⟨l, r⟩, operands, computed⟩ := Logged.bind_result_ok_iff.mp given
    obtain ⟨v, onValues, result⟩ := Logged.bind_result_ok_iff.mp computed
    cases result
    refine ⟨l, r, operands, rfl, ?_⟩
    intro kind stored
    obtain ⟨converts, numeric | ⟨string, rfl⟩⟩ := ArithmeticOp.onValues_converts onValues stored
    · exact ⟨converts, .inl numeric⟩
    · exact ⟨converts, .inr ⟨string, rfl⟩⟩
  | bit op =>
    obtain ⟨⟨l, r⟩, operands, computed⟩ := Logged.bind_result_ok_iff.mp given
    simp only at computed
    split at computed
    · next k a b storage readLeft readRight =>
      cases computed
      refine ⟨l, r, operands, rfl, ?_⟩
      intro kind stored
      obtain ⟨i, integer⟩ := Value.kind_of_toInt readRight
      rw [integer] at stored
      cases stored
      rw [storage]
      exact ⟨rfl, .inl (Kind.isNumeric_integer k)⟩
    · cases computed
  | shift op => exact absurd rfl (plain op)

/-! ## Where a constant gets its type -/

/-- A constant facing a number is a number of the same type, if it is a number; facing anything
else, and where it is no number itself, it takes its default type. -/
theorem represent_type (given : (e.represent (.constant u c) ty).result = .ok l) :
    (ty.storage.isNumeric = true ∧ l.ty = ty) ∨
      (u.isNumeric = false ∨ ty.storage.isNumeric = false) ∧
        ∃ kind, u.default? = some kind ∧ l.ty = .basic kind := by
  by_cases numbers : u.isNumeric = true ∧ ty.storage.isNumeric = true
  · left
    exact ⟨numbers.2, represent_numeric_ty numbers.1 numbers.2 given⟩
  · right
    have different : u.isNumeric = false ∨ ty.storage.isNumeric = false := by
      rw [← Bool.not_eq_true, ← Bool.not_eq_true]
      exact Classical.not_and_iff_not_or_not.mp numbers
    refine ⟨different, ?_⟩
    have normal : (e.normalize (.constant u c)).result = .ok l := by
      by_cases typed : ty.storage.isUntyped = false
      · rwa [← represent_eq_normalize typed different]
      · rcases represent_ok rfl given with normal | ⟨d, v, kept, _⟩
        · exact normal
        · -- Nothing is kept as a kind of untyped constants.
          exact absurd (Constant.asKind_kept kept).not_untyped (by rwa [Ty.storage_storage])
    rcases normalize_ok normal with ⟨typed, _⟩ | ⟨_, _, kind, _, same, default, _, rfl⟩
    · cases typed
    · cases same
      exact ⟨kind, default, rfl⟩

/-- A constant on the right leaves the type of the left operand to the result. -/
theorem apply_constant_right {op : BinaryOp} (plain : op.IsPlain) (typed : x.isUntyped = false)
    (given : (e.apply op x (.constant u c)).result = .ok o) : o.ty = x.ty := by
  obtain ⟨l, r, operands, result, _⟩ := apply_operands plain given
  rw [result, (operands_right_ok typed rfl operands).1]

/-- A constant on the left takes the type of the right operand, unless the two are texts: then it
is a plain string, and so is what they join to. -/
theorem apply_constant_left {op : BinaryOp} (plain : op.IsPlain) (typed : x.isUntyped = false)
    (stored : x.value.kind? = some x.ty.storage)
    (given : (e.apply op (.constant u c) x).result = .ok o) :
    (x.ty.storage ≠ .string → o.ty = x.ty) ∧
      (x.ty.storage = .string →
        u = .string ∧ op = .arithmetic .add ∧ o.ty = .basic .string) := by
  obtain ⟨l, r, operands, result, computes⟩ := apply_operands plain given
  obtain ⟨represented, rfl⟩ := operands_left_ok rfl typed operands
  obtain ⟨converts, computable⟩ := computes _ stored
  rcases represent_type represented with ⟨numeric, same⟩ | ⟨different, kind, default, same⟩
  · refine ⟨fun _ => result.trans same, ?_⟩
    intro string
    rw [string] at numeric
    cases numeric
  · -- At its default type the constant is a number exactly if its class is one.
    have classes := UntypedKind.default_isNumeric default
    rw [same, Ty.storage] at converts computable
    have plainKinds : kind.storage = r.ty.storage :=
      Kind.eq_of_convertsTo converts (by rwa [classes])
    rcases computable with numeric | ⟨string, add⟩
    · rw [← plainKinds, ← classes, numeric] at different
      simp at different
    · obtain ⟨text, rfl⟩ := UntypedKind.default_string default string
      exact ⟨fun noText => absurd plainKinds.symm noText,
        fun _ => ⟨text, add, result.trans same⟩⟩

/-- Whichever side an untyped constant stands on, apart from shifts: on the right of a typed
operand the result has the type of the operand, and on the left too unless the operand is a text.
A constant on the left of a text is itself one, they are joined, and the result is a plain string
even where the operand has a declared type. -/
theorem constant_takes_type (e : Engine) (u : UntypedKind) (c : Constant) (x o : Object)
    (token : Token) (plain : ∀ shift, token ≠ .binary (.shift shift))
    (typed : x.isUntyped = false) (stored : x.value.kind? = some x.ty.storage) :
    ((e.evaluateBinary x (.constant u c) token).result = .ok o → o.ty = x.ty) ∧
      ((e.evaluateBinary (.constant u c) x token).result = .ok o →
        (x.ty.storage ≠ .string → o.ty = x.ty) ∧
          (x.ty.storage = .string →
            u = .string ∧ token = .binary (.arithmetic .add) ∧ o.ty = .basic .string)) := by
  simp only [evaluateBinary_result]
  cases token with
  | binary op =>
    have plainOp : op.IsPlain := BinaryOp.isPlain_of_token plain
    refine ⟨apply_constant_right plainOp typed, ?_⟩
    intro given
    simpa only [Token.binary.injEq] using apply_constant_left plainOp typed stored given
  | _ => exact ⟨nofun, nofun⟩

/-- With a word of 32 bits: a half and a declared number of single precision, divided either way,
and a text on the left of a declared text. -/
theorem constant_takes_type_narrow_word :
    let e : Engine := { word := .w32 }
    let degrees : Ty := .named ⟨"Degrees", "main", 7⟩ (.named ⟨"Real", "main", 3⟩
      (.basic (.float .binary32)))
    let label : Ty := .named ⟨"Label", "main", 60⟩ (.basic .string)
    let half : Object := .constant .float (.rational (1 / 2))
    let three : Object := ⟨.float .binary32 (.ofRat 3), degrees⟩
    let pher : Object := ⟨.text "pher", label⟩
    (∃ o, (e.evaluateBinary three half (.binary (.arithmetic .quo))).result = .ok o ∧
        o.ty = degrees) ∧
      (∃ o, (e.evaluateBinary half three (.binary (.arithmetic .quo))).result = .ok o ∧
        o.ty = degrees) ∧
      ∃ o, (e.evaluateBinary (.constant .string (.text "go")) pher
        (.binary (.arithmetic .add))).result = .ok o ∧ o.ty = .basic .string := by
  intro e degrees label half three pher
  have right : (e.evaluateBinary three half (.binary (.arithmetic .quo))).result =
      .ok ⟨.float .binary32 (.ofRat 6), degrees⟩ := Logged.ok_of_toOption (by decide +kernel)
  have left : (e.evaluateBinary half three (.binary (.arithmetic .quo))).result =
      .ok ⟨.float .binary32 (.ofRat (1 / 6)), degrees⟩ := Logged.ok_of_toOption (by decide +kernel)
  have joined : (e.evaluateBinary (.constant .string (.text "go")) pher
      (.binary (.arithmetic .add))).result = .ok ⟨.text "gopher", .basic .string⟩ := rfl
  have plain (op : ArithmeticOp) (shift : ShiftOp) :
      Token.binary (.arithmetic op) ≠ .binary (.shift shift) := nofun
  refine ⟨⟨_, right, ?_⟩, ⟨_, left, ?_⟩, _, joined, ?_⟩
  · exact (constant_takes_type e .float _ three _ _ (plain .quo) rfl rfl).1 right
  · exact ((constant_takes_type e .float _ three _ _ (plain .quo) rfl rfl).2 left).1 nofun
  · exact (((constant_takes_type e .string _ pher _ _ (plain .add) rfl rfl).2 joined).2 rfl).2.2

/-- A text on the left of a declared text: the declared type is lost. On the right it is kept. -/
theorem constant_left_of_declared_text :
    let e : Engine := {}
    let label : Ty := .named ⟨"Label", "main", 60⟩ (.basic .string)
    let go : Object := .constant .string (.text "go")
    let pher : Object := ⟨.text "pher", label⟩
    pher.WellFormed e.word ∧
      (e.evaluateBinary go pher (.binary (.arithmetic .add))).result =
        .ok ⟨.text "gopher", .basic .string⟩ ∧
      (e.evaluateBinary pher go (.binary (.arithmetic .add))).result =
        .ok ⟨.text "phergo", label⟩ ∧
      Ty.basic .string ≠ label := by
  intro e label go pher
  exact ⟨.text "pher", rfl, rfl, by decide⟩

end Engine

end TypedOps
