import TypedOps.Proofs.Operator.Phases

/-!
Independence of the word. Operators on typed operands of fixed width compute alike on all machines
(`apply_fixed`, `shift_fixed`, `ordered_fixed`, `equality_fixed`). A constant that faces such an
operand is typed alike too, unless it is an integer that faces no number (`represent_alike`): then
it becomes an `int`, which is as wide as the word, but no operator takes it together with the other
operand (`apply_defaulted`, `ordered_defaulted`, `equality_defaulted`). Main statements:
`evaluateBinary_fixed_pair`, `evaluateComparison_fixed_pair`.
-/
namespace TypedOps

/-- Whether integers of the kind are as wide as the word. -/
def IntKind.followsWord : IntKind → Bool
  | int | uint | uintptr => true
  | _ => false

/-- A kind whose values are as wide on every machine. -/
def Kind.FixedWidth (kind : Kind) : Prop :=
  ∀ k, kind.storage = .integer k → k.followsWord = false

/-- A type whose values are as wide on every machine. -/
def Ty.FixedWidth (t : Ty) : Prop :=
  t.storage.FixedWidth

/-- An integer as an `int`. -/
def Object.int (i : StoredInt) : Object :=
  ⟨.integer i, .basic (.integer .int)⟩

/-- An integer constant, which is an `int` by default. -/
def Object.DefaultsToInt (x : Object) : Prop :=
  ∃ c n, x = .constant .int c ∧ c.toInteger? = some n

/-- Typed operands that a constant may face: of fixed width, and with a value of the type's own
kind where the type is not one of numbers. -/
structure Object.Anchors (x : Object) : Prop where
  typed : x.isUntyped = false
  fixed : x.ty.FixedWidth
  held : x.ty.storage.isNumeric = false → x.value.kind? = some x.ty.storage

/-- Operands without a type that follows the word: two typed ones, or an untyped one facing a typed
one. -/
inductive Object.FixedPair : Object → Object → Prop
  | typed {left right : Object} (leftTyped : left.isUntyped = false)
    (rightTyped : right.isUntyped = false) (leftFixed : left.ty.FixedWidth)
    (rightFixed : right.ty.FixedWidth) : FixedPair left right
  | untypedLeft {left right : Object} (untyped : left.isUntyped = true) (faced : right.Anchors) :
    FixedPair left right
  | untypedRight {left right : Object} (faced : left.Anchors) (untyped : right.isUntyped = true) :
    FixedPair left right

namespace Object

variable {x left right : Object}

theorem untyped_of_nil (isNil : x.isUntypedNil = true) : x.isUntyped = true := by
  rw [isUntyped, Ty.isUntyped_iff]
  exact ⟨.nil, Ty.isUntypedNil_iff.mp isNil⟩

theorem FixedPair.right_typed (pair : left.FixedPair right) (untyped : left.isUntyped = true) :
    right.isUntyped = false := by
  cases pair with
  | typed _ rightTyped => exact rightTyped
  | untypedLeft _ faced => exact faced.typed
  | untypedRight faced => simp [faced.typed] at untyped

theorem FixedPair.left_typed (pair : left.FixedPair right) (untyped : right.isUntyped = true) :
    left.isUntyped = false := by
  cases pair with
  | typed leftTyped => exact leftTyped
  | untypedLeft _ faced => simp [faced.typed] at untyped
  | untypedRight faced => exact faced.typed

end Object

theorem IntKind.shape_eq {k : IntKind} (fixed : k.followsWord = false) (word other : WordSize) :
    k.shape word = k.shape other := by
  cases k <;> cases fixed <;> rfl

theorem StoredInt.narrow_eq {k : IntKind} (fixed : k.followsWord = false)
    (word other : WordSize) (n : Int) : narrow word k n = narrow other k n := by
  rw [eq_iff, narrow_val, narrow_val, IntKind.shape_eq fixed word other]
  exact ⟨rfl, rfl⟩

section

variable {kind : Kind} (fixed : kind.FixedWidth) (word other : WordSize)

include fixed

theorem Value.convert_fixed (v : Value) : v.convert? word kind = v.convert? other kind := by
  simp only [convert?]
  cases storage : kind.storage with
  | integer k => simp only [StoredInt.narrow_eq (fixed k storage) word other]
  | _ => rfl

theorem Constant.asKind_fixed (c : Constant) : c.asKind? word kind = c.asKind? other kind := by
  simp only [asKind?]
  cases storage : kind.storage with
  | integer k => simp only [StoredInt.narrow_eq (fixed k storage) word other]
  | _ => rfl

theorem ArithmeticOp.onValues_fixed (op : ArithmeticOp) (invalid : InternalFault) (v w : Value) :
    op.onValues word kind invalid v w = op.onValues other kind invalid v w := by
  cases kind with
  | integer k =>
    simp only [onValues, IntKind.shape_eq (fixed k rfl) word other,
      StoredInt.narrow_eq (fixed k rfl) word other]
  | _ => rfl

theorem OrderOp.onValues_fixed (op : OrderOp) (v w : Value) :
    op.onValues? word kind v w = op.onValues? other kind v w := by
  cases kind with
  | integer k => simp only [onValues?, IntKind.shape_eq (fixed k rfl) word other]
  | _ => rfl

end

theorem Ty.FixedWidth.kind {t : Ty} {k : IntKind} (fixed : t.FixedWidth)
    (storage : t.storage = .integer k) : k.followsWord = false :=
  fixed k (t.storage_storage.trans storage)

/-- Every class of constants but that of integers has a default kind of fixed width. -/
theorem UntypedKind.default_fixed {u : UntypedKind} {kind : Kind}
    (default : u.default? = some kind) (notInt : u ≠ .int) : kind.FixedWidth := by
  intro k storage
  cases u <;> cases default <;> cases storage
  · exact absurd rfl notInt
  · rfl

namespace Engine

variable {e other : Engine} {left right l r x o count : Object} {ty : Ty}

/-! ## Typed operands -/

section

variable (leftTyped : l.isUntyped = false) (leftFixed : l.ty.FixedWidth)

include leftTyped leftFixed

theorem apply_fixed {op : BinaryOp} (plain : op.IsPlain) (rightTyped : r.isUntyped = false) :
    (e.apply op l r).result = (other.apply op l r).result := by
  cases op with
  | arithmetic op =>
    simp only [apply, arithmetic_typed leftTyped rightTyped,
      ArithmeticOp.onValues_fixed leftFixed e.word other.word]
  | bit op =>
    simp only [apply, bitwise_typed leftTyped rightTyped]
    cases storage : l.ty.storage <;> cases l.value.toInt? <;> cases r.value.toInt?
    case integer.some.some k a b =>
      simp only [IntKind.shape_eq (leftFixed.kind storage) e.word other.word,
        StoredInt.narrow_eq (leftFixed.kind storage) e.word other.word]
    all_goals rfl
  | shift op => exact absurd rfl (plain op)

/-- The type of the count does not matter. -/
theorem shift_fixed (op : ShiftOp) :
    (e.shift op l count).result = (other.shift op l count).result := by
  simp only [shift, normalize_typed leftTyped, Logged.bind_result, Logged.pure_result, Except.bind]
  cases l.value.toInt? with
  | none => rfl
  | some a =>
    simp only [Logged.bind_result, Logged.ofExcept_result]
    congr 1
    funext n
    cases storage : l.ty.storage with
    | integer k =>
      simp only [IntKind.shape_eq (leftFixed.kind storage) e.word other.word,
        StoredInt.narrow_eq (leftFixed.kind storage) e.word other.word]
    | _ => rfl

theorem equality_fixed (rightTyped : r.isUntyped = false) (rightFixed : r.ty.FixedWidth) :
    (e.equality l r).result = (other.equality l r).result := by
  rw [equality_typed leftTyped rightTyped, equality_typed leftTyped rightTyped]
  unfold equalTyped
  split
  · rfl
  · split
    · rw [equalConverted_result, equalConverted_result,
        Value.convert_fixed rightFixed e.word other.word]
    · rw [equalConverted_result, equalConverted_result,
        Value.convert_fixed leftFixed e.word other.word]

theorem ordered_fixed {op : OrderOp} (rightTyped : r.isUntyped = false) :
    (e.ordered op l r).result = (other.ordered op l r).result := by
  simp only [ordered_typed leftTyped rightTyped,
    OrderOp.onValues_fixed leftFixed e.word other.word]

end

/-! ## Constants facing typed operands -/

theorem normalize_fixed (notInt : ¬ x.DefaultsToInt) :
    (e.normalize x).result = (other.normalize x).result := by
  by_cases typed : x.isUntyped = false
  · simp only [normalize_typed typed, Logged.pure_result]
  · obtain ⟨value, ty⟩ := x
    obtain ⟨u, rfl⟩ := Ty.isUntyped_iff.mp ((Bool.not_eq_false _).mp typed)
    cases value with
    | constant c =>
      cases default : u.default? with
      | none => simp only [normalize, Ty.untyped?, default]
      | some kind =>
        have kept : c.asKind? e.word kind = c.asKind? other.word kind := by
          by_cases int : u = .int
          · subst int
            cases default
            have none : c.toInteger? = none := Option.eq_none_iff_forall_ne_some.mpr
              fun n value => notInt ⟨c, n, rfl, value⟩
            rw [Constant.asKind_low rfl, Constant.asKind_low rfl, none, Option.map_none,
              Option.map_none]
          · exact Constant.asKind_fixed (UntypedKind.default_fixed default int) e.word other.word c
        rw [← Object.constant, normalize_constant default, normalize_constant default, kept]
    | _ =>
      simp only [normalize, Ty.untyped?, Value.toConstant?]
      cases u.default? <;> rfl

theorem normalize_ok_fixed (untyped : x.isUntyped = true)
    (notInt : ¬ x.DefaultsToInt)
    (given : (e.normalize x).result = .ok o) : o.ty.FixedWidth := by
  rcases normalize_ok given with ⟨typed, _⟩ | ⟨u, c, kind, v, rfl, default, kept, rfl⟩
  · rw [untyped] at typed
    cases typed
  · by_cases int : u = .int
    · subst int
      cases default
      cases value : c.toInteger? with
      | none => simp [Constant.asKind_low, Kind.storage, value] at kept
      | some n => exact absurd ⟨c, n, rfl, value⟩ notInt
    · rw [Ty.FixedWidth, Kind.FixedWidth, Ty.storage_storage]
      exact UntypedKind.default_fixed default int

theorem represent_fixed (fixed : ty.FixedWidth)
    (same : (e.normalize x).result = (other.normalize x).result) :
    (e.represent x ty).result = (other.represent x ty).result := by
  have kept (c : Constant) := Constant.asKind_fixed fixed e.word other.word c
  unfold represent
  split
  · rfl
  · split
    · exact same
    · split
      · rfl
      · split
        · rfl
        · split
          · rw [kept]
            split
            · rfl
            · simp only [Logged.bind_result, warnOfNumber_result, Except.bind, Logged.pure_result]
          · exact same

theorem normalize_int (c : Constant) {n : Int} (value : c.toInteger? = some n) :
    (e.normalize (.constant .int c)).result =
      .ok (.int (.narrow e.word .int n)) := by
  have default : UntypedKind.default? .int = some (.integer .int) := rfl
  rw [normalize_constant default, Constant.asKind_integer rfl value]
  rfl

/-- Facing what is no number, an integer constant becomes an `int`, unless nothing is stored as the
other type: then it fails. -/
theorem represent_int_plain (c : Constant) (stored : ty.storage.isNumeric = false) :
    (∀ e : Engine, e.represent (.constant .int c) ty = e.normalize (.constant .int c)) ∨
      ∃ fault, ∀ e : Engine, (e.represent (.constant .int c) ty).result = .error fault := by
  cases untyped : ty.storage with
  | untyped u =>
    by_cases assignable : (Ty.basic (.untyped .int)).assignableTo ty = true
    · refine .inr ⟨.internal (.noStorage (.untyped u)), fun e => ?_⟩
      simp only [represent, Object.constant, Ty.untyped?, Value.toConstant?, assignable, untyped,
        reduceCtorEq, not_true_eq_false, or_self, ↓reduceIte]
      rfl
    · exact .inl fun e => represent_not_assignable ((Bool.not_eq_true _).mp assignable)
  | _ => exact .inl fun e => represent_not_numeric (by rw [untyped]; rfl) stored

/-- Facing an operand of fixed width, an untyped one is typed alike on all machines, and to a type
of fixed width; or it becomes an `int`, facing what is no number. -/
theorem represent_alike (untyped : o.isUntyped = true) (faced : x.Anchors) (other : Engine) :
    ((e.represent o x.ty).result = (other.represent o x.ty).result ∧
      ∀ y, (e.represent o x.ty).result = .ok y → y.ty.FixedWidth) ∨
    x.ty.storage.isNumeric = false ∧ ∃ i j,
      (e.represent o x.ty).result = .ok (.int i) ∧
        (other.represent o x.ty).result = .ok (.int j) := by
  -- Of all constants only integers have a default type that follows the word, and they keep it only
  -- where what they face is no number.
  by_cases int : o.DefaultsToInt
  · obtain ⟨c, n, rfl, value⟩ := int
    cases numeric : x.ty.storage.isNumeric with
    | true =>
      have kept := Constant.asKind_fixed faced.fixed e.word other.word c
      have number : UntypedKind.isNumeric .int = true := rfl
      refine .inl ⟨?_, fun y given => ?_⟩
      · rw [represent_numeric number numeric, represent_numeric number numeric, kept]
      · rw [represent_numeric_ty number numeric given]
        exact faced.fixed
    | false =>
      rcases represent_int_plain c numeric with normal | ⟨fault, fails⟩
      · rw [normal, normal]
        exact .inr ⟨rfl, _, _, normalize_int c value, normalize_int c value⟩
      · rw [fails, fails]
        exact .inl ⟨rfl, fun y given => nomatch given⟩
  · refine .inl ⟨represent_fixed faced.fixed (normalize_fixed int), fun y given => ?_⟩
    rcases represent_ok untyped given with normal | ⟨_, _, _, rfl⟩
    · exact normalize_ok_fixed untyped int normal
    · exact faced.fixed

/-! ## What no operator takes -/

theorem Value.plain_unread {v : Value} {kind : Kind} (held : v.kind? = some kind)
    (plain : kind.isNumeric = false) :
    v.toInt? = none ∧ ∀ word k, v.convert? word (.integer k) = none := by
  cases v with
  | integer | float | complex =>
    cases held
    simp at plain
  | _ => exact ⟨rfl, fun word k => rfl⟩

theorem int_ty (i : StoredInt) : (Object.int i).ty = .basic (.integer .int) :=
  rfl

theorem int_typed (i : StoredInt) : (Object.int i).isUntyped = false :=
  rfl

section

variable (typed : x.isUntyped = false) (held : x.value.kind? = some x.ty.storage)
  (plain : x.ty.storage.isNumeric = false) (i j : StoredInt)

include typed held plain

theorem apply_defaulted {op : BinaryOp} (notShift : op.IsPlain) :
    (e.apply op (.int i) x).result = (other.apply op (.int j) x).result ∧
      (e.apply op x (.int i)).result = (other.apply op x (.int j)).result := by
  obtain ⟨noInt, _⟩ := Value.plain_unread held plain
  cases op with
  | arithmetic op =>
    simp only [apply, arithmetic_typed (int_typed _) typed, arithmetic_typed typed (int_typed _)]
    constructor
    · simp only [Object.int, Ty.storage, Kind.storage, ArithmeticOp.onValues, noInt]
      rfl
    · cases storage : x.ty.storage with
      | integer | float | complex => simp [storage] at plain
      | string => cases op <;> cases x.value.toText? <;> rfl
      | _ => rfl
  | bit op =>
    simp only [apply, bitwise_typed (int_typed _) typed, bitwise_typed typed (int_typed _), noInt]
    constructor
    · rfl
    · cases x.ty.storage <;> rfl
  | shift op => exact absurd rfl (notShift op)

theorem ordered_defaulted {op : OrderOp} :
    (e.ordered op (.int i) x).result = (other.ordered op (.int j) x).result ∧
      (e.ordered op x (.int i)).result = (other.ordered op x (.int j)).result := by
  obtain ⟨noInt, _⟩ := Value.plain_unread held plain
  simp only [ordered_typed (int_typed _) typed, ordered_typed typed (int_typed _)]
  constructor
  · simp only [Object.int, Ty.storage, Kind.storage, OrderOp.onValues?, noInt]
    rfl
  · cases storage : x.ty.storage with
    | integer | float | complex => simp [storage] at plain
    | string => cases op <;> cases x.value.toText? <;> rfl
    | _ => rfl

theorem equality_defaulted :
    (e.equality (.int i) x).result = (other.equality (.int j) x).result ∧
      (e.equality x (.int i)).result = (other.equality x (.int j)).result := by
  obtain ⟨_, noConversion⟩ := Value.plain_unread held plain
  have noTarget (i : StoredInt) (word : WordSize) :
      (Object.int i).value.convert? word x.ty.storage = none := by
    simp only [Value.convert?, Ty.storage_storage]
    cases storage : x.ty.storage with
    | integer | float | complex => simp [storage] at plain
    | _ => rfl
  have different : Ty.basic (.integer .int) ≠ x.ty := by
    intro same
    rw [← same] at plain
    cases plain
  have intStorage : (Ty.basic (.integer .int)).storage = .integer .int := rfl
  simp only [equality_typed (int_typed _) typed, equality_typed typed (int_typed _), equalTyped,
    int_ty, different, different.symm, ↓reduceIte]
  constructor
  · by_cases assignable : (Ty.basic (.integer .int)).assignableTo x.ty = true <;>
      simp only [assignable, ↓reduceIte, equalConverted_result, int_ty, noTarget, noConversion,
        intStorage, Bool.false_eq_true]
  · by_cases assignable : x.ty.assignableTo (Ty.basic (.integer .int)) = true <;>
      simp only [assignable, ↓reduceIte, equalConverted_result, int_ty, noTarget, noConversion,
        intStorage, Bool.false_eq_true]

end

/-! ## Pairs of fixed width -/

/-- What follows the typing of the operands is alike where it is so for typed operands of fixed
width, and for a default integer next to what is no number. -/
theorem bind_operands_alike {α : Type} {f g : Object × Object → Except Fault α}
    (pair : left.FixedPair right)
    (typed : ∀ l r : Object, l.isUntyped = false → r.isUntyped = false → l.ty.FixedWidth →
      r.ty.FixedWidth → f (l, r) = g (l, r))
    (defaulted : ∀ x : Object, x.isUntyped = false → x.value.kind? = some x.ty.storage →
      x.ty.storage.isNumeric = false → ∀ i j,
      f (.int i, x) = g (.int j, x) ∧ f (x, .int i) = g (x, .int j)) :
    (e.operands left right).result.bind f = (other.operands left right).result.bind g := by
  cases pair with
  | typed leftTyped rightTyped leftFixed rightFixed =>
    rw [operands_typed leftTyped rightTyped, operands_typed leftTyped rightTyped]
    exact typed left right leftTyped rightTyped leftFixed rightFixed
  | untypedLeft untyped faced =>
    rw [operands_left untyped faced.typed, operands_left untyped faced.typed]
    rcases represent_alike (e := e) untyped faced other with
      ⟨same, fixed⟩ | ⟨plain, i, j, given, otherGiven⟩
    · rw [← same]
      cases given : (e.represent left right.ty).result with
      | error => rfl
      | ok l =>
        exact typed l right (represent_wellFormed untyped given).typed faced.typed (fixed l given)
          faced.fixed
    · rw [given, otherGiven]
      exact (defaulted right faced.typed (faced.held plain) plain i j).1
  | untypedRight faced untyped =>
    rw [operands_right faced.typed untyped, operands_right faced.typed untyped]
    rcases represent_alike (e := e) untyped faced other with
      ⟨same, fixed⟩ | ⟨plain, i, j, given, otherGiven⟩
    · rw [← same]
      cases given : (e.represent right left.ty).result with
      | error => rfl
      | ok r =>
        exact typed left r faced.typed (represent_wellFormed untyped given).typed faced.fixed
          (fixed r given)
    · rw [given, otherGiven]
      exact (defaulted left faced.typed (faced.held plain) plain i j).2

theorem apply_fixed_pair {op : BinaryOp} (plain : op.IsPlain) (pair : left.FixedPair right) :
    (e.apply op left right).result = (other.apply op left right).result := by
  rw [apply_eq_bind plain, apply_eq_bind plain]
  exact bind_operands_alike pair
    (fun l r leftTyped rightTyped leftFixed _ => apply_fixed leftTyped leftFixed plain rightTyped)
    fun x typed held stored i j => apply_defaulted typed held stored i j plain

theorem equality_fixed_pair (pair : left.FixedPair right) :
    (e.equality left right).result = (other.equality left right).result := by
  cases leftNil : left.isUntypedNil with
  | true =>
    have typed := pair.right_typed (Object.untyped_of_nil leftNil)
    rw [(equality_nil leftNil typed).1, (equality_nil leftNil typed).1, isNil_typed typed,
      isNil_typed typed]
  | false =>
    cases rightNil : right.isUntypedNil with
    | true =>
      have typed := pair.left_typed (Object.untyped_of_nil rightNil)
      rw [(equality_nil rightNil typed).2, (equality_nil rightNil typed).2, isNil_typed typed,
        isNil_typed typed]
    | false =>
      rw [equality_eq_bind leftNil rightNil, equality_eq_bind leftNil rightNil]
      exact bind_operands_alike pair
        (fun l r leftTyped rightTyped leftFixed rightFixed =>
          equality_fixed leftTyped leftFixed rightTyped rightFixed)
        fun x typed held stored i j => equality_defaulted typed held stored i j

theorem comparisonTruth_fixed_pair (op : ComparisonOp) (pair : left.FixedPair right) :
    (e.comparisonTruth op left right).result = (other.comparisonTruth op left right).result := by
  have equality : (e.equality left right).result = (other.equality left right).result :=
    equality_fixed_pair pair
  cases op with
  | order op =>
    simp only [comparisonTruth]
    rw [ordered_eq_bind, ordered_eq_bind]
    exact bind_operands_alike pair
      (fun l r leftTyped rightTyped leftFixed _ => ordered_fixed leftTyped leftFixed rightTyped)
      fun x typed held stored i j => ordered_defaulted typed held stored i j
  | equal => exact equality
  | notEqual => simp only [comparisonTruth, Logged.bind_result, equality, Logged.pure_result]

theorem evaluateBinary_fixed_pair {token : Token} (pair : left.FixedPair right)
    (notShift : ∀ op, token ≠ .binary (.shift op)) :
    (e.evaluateBinary left right token).result =
      (other.evaluateBinary left right token).result := by
  rw [evaluateBinary_result, evaluateBinary_result]
  cases token with
  | binary op =>
    exact apply_fixed_pair (BinaryOp.isPlain_of_token notShift) pair
  | _ => rfl

theorem evaluateComparison_fixed_pair {token : Token} (pair : left.FixedPair right) (result : Ty) :
    (e.evaluateComparison left right token result).result =
      (other.evaluateComparison left right token result).result := by
  rw [evaluateComparison_result, evaluateComparison_result]
  cases token with
  | comparison op =>
    have truth : (e.comparisonTruth op left right).result =
        (other.comparisonTruth op left right).result :=
      comparisonTruth_fixed_pair op pair
    dsimp only
    rw [compare_eq_bind, compare_eq_bind, truth]
  | _ => rfl

end Engine

end TypedOps
