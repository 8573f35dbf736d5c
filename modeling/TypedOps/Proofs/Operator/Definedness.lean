import TypedOps.Proofs.Operator.Integers

/-!
Which operators are defined on two operands of one type. It depends on the kind that the type is
stored as and on nothing else: `Kind.binaryOps` and `Kind.comparisonOps` list them. An operator that
is defined gives a result, unless it is an integer operator and its right operand is one that there
is no result for (`BinaryOp.refusal?`); one that is not defined is refused by its token and the
types (`BinaryOp.Outcome`). Each family of operators has such an outcome (`arithmetic_outcome`,
`bitwise_outcome`, `shift_outcome`), and the comparisons by order have theirs (`ordered_outcome`).
Main statement: the operators that are defined are exactly the ones that the kind lists
(`defined_by_storage`).
-/
namespace TypedOps

/-! ## The operators of a kind -/

/-- The binary operators that are defined on values kept as a kind. -/
def Kind.binaryOps : Kind → List BinaryOp
  | .integer _ => BinaryOp.all
  | .float _ | .complex _ =>
    [.arithmetic .add, .arithmetic .sub, .arithmetic .mul, .arithmetic .quo]
  | .string => [.arithmetic .add]
  | .bool | .reference _ | .rune | .untyped _ => []

/-- The comparisons that are defined on values kept as a kind. -/
def Kind.comparisonOps : Kind → List ComparisonOp
  | .integer _ | .float _ | .string => ComparisonOp.all
  | .bool | .complex _ | .reference _ | .rune | .untyped _ => [.equal, .notEqual]

/-- The failure of the program that an operator is by its right operand: no integer is divided by
zero, and none is shifted by a negative count. -/
def BinaryOp.refusal? : BinaryOp → Value → Option RuntimeError
  | .arithmetic .quo, .integer i => if i.val = 0 then some (.divisionByZero .quo) else none
  | .arithmetic .rem, .integer i => if i.val = 0 then some (.divisionByZero .rem) else none
  | .shift _, .integer i => if i.val < 0 then some (.negativeShiftCount i.val) else none
  | _, _ => none

/-- What an operator comes to on operands of a kind, by the right one of them: a result, a failure
of the program, or an operator that the kind lacks. -/
def BinaryOp.Outcome {α : Type} (op : BinaryOp) (kind : Kind) (right : Value)
    (invalid : InternalFault) : Except Fault α → Prop
  | .ok _ => op ∈ kind.binaryOps ∧ op.refusal? right = none
  | .error (.runtime error) => op ∈ kind.binaryOps ∧ op.refusal? right = some error
  | .error (.internal fault) => op ∉ kind.binaryOps ∧ fault = invalid

theorem BinaryOp.mem_all (op : BinaryOp) : op ∈ all := by
  cases op with
  | arithmetic op => cases op <;> decide
  | bit op => cases op <;> decide
  | shift op => cases op <;> decide

theorem BinaryOp.refusal_arithmetic (op : ArithmeticOp) (i : StoredInt) :
    (arithmetic op).refusal? (.integer i) =
      if op.divides = true ∧ i.val = 0 then some (.divisionByZero op) else none := by
  cases op <;> simp [refusal?, ArithmeticOp.divides]

/-- Only integers have bit operators and shifts. -/
theorem Kind.binaryOps_arithmetic {kind : Kind} {op : BinaryOp} (integer : ∀ k, kind ≠ .integer k)
    (defined : op ∈ kind.binaryOps) : ∃ arithmetic, op = .arithmetic arithmetic := by
  cases kind with
  | integer k => exact absurd rfl (integer k)
  | _ =>
    cases op with
    | arithmetic op => exact ⟨op, rfl⟩
    | _ => simp [binaryOps] at defined

/-- Integers are only read from values kept as integers. -/
theorem Value.KeptAs.toInt_eq_none {word : WordSize} {kind : Kind} {v : Value}
    (kept : v.KeptAs word kind) (integer : ∀ k, kind ≠ .integer k) : v.toInt? = none := by
  cases kept with
  | integer fits => exact absurd rfl (integer _)
  | _ => rfl

namespace BinaryOp.Outcome

variable {α β : Type} {op : BinaryOp} {kind : Kind} {right : Value} {invalid : InternalFault}
  {result : Except Fault α}

theorem map (outcome : op.Outcome kind right invalid result) (f : α → β) :
    op.Outcome kind right invalid (result.map f) := by
  cases result with
  | ok a => exact outcome
  | error fault => cases fault <;> exact outcome

/-- There is a result exactly if the operator is defined and the right operand is not refused. -/
theorem ok_iff (outcome : op.Outcome kind right invalid result) :
    (∃ a, result = .ok a) ↔ op ∈ kind.binaryOps ∧ op.refusal? right = none := by
  cases result with
  | ok a => exact iff_of_true ⟨a, rfl⟩ outcome
  | error fault =>
    refine iff_of_false nofun ?_
    rintro ⟨defined, accepted⟩
    cases fault with
    | runtime error =>
      obtain ⟨_, refused⟩ := outcome
      rw [accepted] at refused
      cases refused
    | internal fault => exact outcome.1 defined

/-- The failures of the program are those of a right operand that is refused. -/
theorem runtime_iff (outcome : op.Outcome kind right invalid result) {error : RuntimeError} :
    result = .error (.runtime error) ↔ op ∈ kind.binaryOps ∧ op.refusal? right = some error := by
  constructor
  · rintro rfl
    exact outcome
  · rintro ⟨defined, refused⟩
    cases result with
    | ok a => exact absurd (outcome.2.symm.trans refused) nofun
    | error fault =>
      cases fault with
      | runtime other => rw [Option.some.inj (refused.symm.trans outcome.2)]
      | internal fault => exact absurd defined outcome.1

/-- Whatever is not defined is invalid. -/
theorem invalid_of_not_mem (outcome : op.Outcome kind right invalid result)
    (missing : op ∉ kind.binaryOps) : result = .error (.internal invalid) := by
  cases result with
  | ok a => exact absurd outcome.1 missing
  | error fault =>
    cases fault with
    | runtime error => exact absurd outcome.1 missing
    | internal fault => rw [outcome.2]

end BinaryOp.Outcome

/-! ## The families of binary operators -/

/-- Arithmetic on two values of one kind. -/
theorem ArithmeticOp.onValues_outcome {word : WordSize} {kind : Kind} {v w : Value}
    (op : ArithmeticOp) (invalid : InternalFault) (kept : v.KeptAs word kind)
    (otherKept : w.KeptAs word kind) :
    (BinaryOp.arithmetic op).Outcome kind w invalid (op.onValues word kind invalid v w) := by
  cases kept with
  | @integer i fits =>
    obtain ⟨j, same, otherFits, rfl⟩ := Value.keptAs_integer_iff.mp otherKept
    have divisor : (i.kind.shape word).wrap j.val = j.val := Shape.wrap_eq_self (same ▸ otherFits)
    have member := BinaryOp.mem_all (.arithmetic op)
    have refusal := BinaryOp.refusal_arithmetic op j
    simp only [onValues, Value.toInt?, divisor]
    by_cases refused : op.divides = true ∧ j.val = 0
    · rw [if_pos refused] at refusal ⊢
      exact ⟨member, refusal⟩
    · rw [if_neg refused] at refusal ⊢
      exact ⟨member, refusal⟩
  | float x =>
    cases otherKept with
    | float y => cases op <;> simp [onValues, Value.toBinary?, onBinary?, BinaryOp.Outcome,
        Kind.binaryOps, BinaryOp.refusal?]
  | complex z =>
    cases otherKept with
    | complex w => cases op <;> simp [onValues, Value.toComplex?, onComplex?, BinaryOp.Outcome,
        Kind.binaryOps, BinaryOp.refusal?]
  | text s =>
    cases otherKept with
    | text t => cases op <;> simp [onValues, Value.toText?, BinaryOp.Outcome, Kind.binaryOps,
        BinaryOp.refusal?]
  | _ => exact ⟨by simp [Kind.binaryOps], rfl⟩

/-- Equality is defined on every kind. -/
theorem Kind.equal_mem (kind : Kind) :
    ComparisonOp.equal ∈ kind.comparisonOps ∧ ComparisonOp.notEqual ∈ kind.comparisonOps := by
  cases kind <;> simp [comparisonOps, ComparisonOp.all]

/-- Two values of one kind are in an order or not exactly where the kind is ordered. -/
theorem OrderOp.onValues_isSome {word : WordSize} {kind : Kind} {v w : Value} (op : OrderOp)
    (kept : v.KeptAs word kind) (otherKept : w.KeptAs word kind) :
    (op.onValues? word kind v w).isSome = true ↔
      ComparisonOp.order op ∈ kind.comparisonOps := by
  have ordered : ComparisonOp.order op ∈ ComparisonOp.all := by cases op <;> decide
  cases kept with
  | integer fits =>
    obtain ⟨j, _, _, rfl⟩ := Value.keptAs_integer_iff.mp otherKept
    exact iff_of_true rfl ordered
  | float x =>
    cases otherKept with
    | float y => exact iff_of_true rfl ordered
  | text s =>
    cases otherKept with
    | text t => exact iff_of_true rfl ordered
  | _ => exact iff_of_false nofun (by simp [Kind.comparisonOps])

namespace Engine

variable {e : Engine} {x y : Object}

section

variable (left : x.WellFormed e.word) (right : y.WellFormed e.word) (same : x.ty = y.ty)

include left right same

theorem arithmetic_outcome (op : ArithmeticOp) :
    (BinaryOp.arithmetic op).Outcome x.ty.storage y.value
      (.invalidOperands (.binary (.arithmetic op)) x.ty x.ty) (e.arithmetic op x y).result := by
  rw [arithmetic_typed left.typed right.typed, ← same]
  exact (op.onValues_outcome _ left (same ▸ right)).map _

theorem bitwise_outcome (op : BitOp) :
    (BinaryOp.bit op).Outcome x.ty.storage y.value
      (.invalidOperands (.binary (.bit op)) x.ty x.ty) (e.bitwise op x y).result := by
  by_cases integer : ∃ k, x.ty.storage = .integer k
  · obtain ⟨k, storage⟩ := integer
    obtain ⟨i, _, _, isLeft⟩ := (Object.wellFormed_integer_iff storage).mp left
    obtain ⟨j, _, _, isRight⟩ := (Object.wellFormed_integer_iff (same ▸ storage)).mp right
    rw [isLeft, isRight, ← same, bitwise_integers storage, storage]
    exact ⟨BinaryOp.mem_all _, rfl⟩
  · rw [not_exists] at integer
    have fails : (e.bitwise op x y).result =
        .error (.internal (.invalidOperands (.binary (.bit op)) x.ty x.ty)) := by
      rw [bitwise_typed left.typed right.typed, Value.KeptAs.toInt_eq_none left integer, ← same]
      cases x.ty.storage <;> rfl
    rw [fails]
    refine ⟨fun defined => ?_, rfl⟩
    obtain ⟨_, ⟨⟩⟩ := Kind.binaryOps_arithmetic integer defined

theorem shift_outcome (op : ShiftOp) :
    (BinaryOp.shift op).Outcome x.ty.storage y.value
      (.invalidOperands (.binary (.shift op)) x.ty x.ty) (e.shift op x y).result := by
  by_cases integer : ∃ k, x.ty.storage = .integer k
  · obtain ⟨k, storage⟩ := integer
    obtain ⟨i, _, _, isLeft⟩ := (Object.wellFormed_integer_iff storage).mp left
    obtain ⟨j, kind, _, isRight⟩ := (Object.wellFormed_integer_iff (same ▸ storage)).mp right
    have counted := Object.shiftCount_integer (i := j) (kind ▸ same ▸ storage)
    rw [isLeft, isRight, shift_integers storage, counted, storage]
    have member := BinaryOp.mem_all (.shift op)
    by_cases negative : j.val < 0
    · rw [if_pos negative]
      exact ⟨member, by simp [BinaryOp.refusal?, negative]⟩
    · rw [if_neg negative]
      exact ⟨member, by simp [BinaryOp.refusal?, negative]⟩
  · rw [not_exists] at integer
    have unread := Value.KeptAs.toInt_eq_none left integer
    have fails : (e.shift op x y).result =
        .error (.internal (.invalidOperands (.binary (.shift op)) x.ty x.ty)) := by
      simp only [shift, normalize_typed left.typed, Logged.bind_result, Logged.pure_result,
        Except.bind, unread, Logged.fail_result, ← same]
    rw [fails]
    refine ⟨fun defined => ?_, rfl⟩
    obtain ⟨_, ⟨⟩⟩ := Kind.binaryOps_arithmetic integer defined

theorem apply_outcome (op : BinaryOp) :
    op.Outcome x.ty.storage y.value (.invalidOperands (.binary op) x.ty x.ty)
      (e.apply op x y).result := by
  cases op with
  | arithmetic op => exact arithmetic_outcome left right same op
  | bit op => exact bitwise_outcome left right same op
  | shift op => exact shift_outcome left right same op

/-! ## Comparisons -/

/-- Two objects of one type are always told equal or different. -/
theorem equality_one_type :
    (e.equality x y).result = .ok (x.value.equals y.value) := by
  rw [equality_typed left.typed right.typed]
  exact equalTyped_same_storage left right (by rw [same])

/-- An order holds or not where the kind has it, and is refused where it has not. -/
theorem ordered_outcome (op : OrderOp) :
    (ComparisonOp.order op ∈ x.ty.storage.comparisonOps →
        ∃ b, (e.ordered op x y).result = .ok b) ∧
      (ComparisonOp.order op ∉ x.ty.storage.comparisonOps →
        (e.ordered op x y).result =
          .error (.internal (.invalidOperands (.comparison (.order op)) x.ty x.ty))) := by
  have rightKept : y.value.KeptAs e.word x.ty.storage := by
    rw [same]
    exact right
  have compared := op.onValues_isSome left rightKept
  rw [ordered_typed left.typed right.typed, ← same]
  constructor
  · intro defined
    obtain ⟨b, holds⟩ := Option.isSome_iff_exists.mp (compared.mpr defined)
    exact ⟨b, by rw [holds]⟩
  · intro missing
    have unordered : op.onValues? e.word x.ty.storage x.value y.value = none := by
      rwa [← compared, Bool.not_eq_true, Option.isSome_eq_false_iff,
        Option.isNone_iff_eq_none] at missing
    rw [unordered]

theorem comparisonTruth_outcome (op : ComparisonOp) :
    (op ∈ x.ty.storage.comparisonOps → ∃ b, (e.comparisonTruth op x y).result = .ok b) ∧
      (op ∉ x.ty.storage.comparisonOps →
        (e.comparisonTruth op x y).result =
          .error (.internal (.invalidOperands (.comparison op) x.ty x.ty))) := by
  have equality := equality_one_type left right same
  cases op with
  | order op => exact ordered_outcome left right same op
  | equal => exact ⟨fun _ => ⟨_, equality⟩, fun missing => absurd (Kind.equal_mem _).1 missing⟩
  | notEqual =>
    refine ⟨fun _ => ⟨!x.value.equals y.value, ?_⟩,
      fun missing => absurd (Kind.equal_mem _).2 missing⟩
    simp only [comparisonTruth, Logged.bind_result, equality, Except.bind, Logged.pure_result]

end

/-! ## All operators -/

/-- Which operators are defined on two objects of a type that are kept as the type is stored. The
storage of the type tells it. A binary operator that is defined has a result, unless the right
operand is a zero divisor or a negative count, which the program may recover from; a comparison that
is defined has a truth value. Every other operator is refused with its token and the type of both
operands. -/
theorem defined_by_storage (e : Engine) (ty : Ty) (v w : Value)
    (left : Object.WellFormed e.word ⟨v, ty⟩) (right : Object.WellFormed e.word ⟨w, ty⟩) :
    (∀ op : BinaryOp,
      let result := (e.evaluateBinary ⟨v, ty⟩ ⟨w, ty⟩ (.binary op)).result
      ((∃ o, result = .ok o) ↔ op ∈ ty.storage.binaryOps ∧ op.refusal? w = none) ∧
      (∀ error, result = .error (.runtime error) ↔
        op ∈ ty.storage.binaryOps ∧ op.refusal? w = some error) ∧
      (op ∉ ty.storage.binaryOps →
        result = .error (.internal (.invalidOperands (.binary op) ty ty)))) ∧
    ∀ op : ComparisonOp,
      let result := (e.evaluateComparison ⟨v, ty⟩ ⟨w, ty⟩ (.comparison op) (.basic .bool)).result
      ((∃ b, result = .ok ⟨.bool b, .basic .bool⟩) ↔ op ∈ ty.storage.comparisonOps) ∧
      (op ∉ ty.storage.comparisonOps →
        result = .error (.internal (.invalidOperands (.comparison op) ty ty))) := by
  constructor
  · intro op result
    have outcome : op.Outcome ty.storage w (.invalidOperands (.binary op) ty ty) result := by
      simpa only [result, evaluateBinary_result] using apply_outcome left right rfl op
    exact ⟨outcome.ok_iff, fun _ => outcome.runtime_iff, outcome.invalid_of_not_mem⟩
  · intro op result
    have truth : result = (e.comparisonTruth op ⟨v, ty⟩ ⟨w, ty⟩).result.bind fun b =>
        Object.ofTruth b (.basic .bool) := by
      simp only [result, evaluateComparison_result, compare_eq_bind]
    obtain ⟨answers, refuses⟩ := comparisonTruth_outcome left right rfl op
    have refused : op ∉ ty.storage.comparisonOps →
        result = .error (.internal (.invalidOperands (.comparison op) ty ty)) := by
      intro missing
      rw [truth, refuses missing]
      rfl
    refine ⟨⟨?_, ?_⟩, refused⟩
    · rintro ⟨b, given⟩
      by_contra missing
      rw [refused missing] at given
      cases given
    · intro defined
      obtain ⟨b, holds⟩ := answers defined
      refine ⟨b, ?_⟩
      rw [truth, holds]
      rfl

/-- With a word of 32 bits: a declared integer with the least one, which is no count to shift by,
and two lists, which are compared but neither joined nor ordered. -/
theorem defined_by_storage_narrow_word :
    let e : Engine := { word := .w32 }
    let count : Ty := .named ⟨"Count", "main", 7⟩ (.basic (.integer .int))
    let list : Ty := .named ⟨"List", "main", 30⟩ (.slice count)
    let seven : Object := ⟨.integer (.ofInt .int 7), count⟩
    let least : Object := ⟨.integer (.ofInt .int (-2147483648)), count⟩
    let full : Object := ⟨.reference (.reference .slice) (some ⟨7⟩), list⟩
    let empty : Object := ⟨.reference (.reference .slice) none, list⟩
    (∃ o, (e.evaluateBinary seven least (.binary (.bit .andNot))).result = .ok o) ∧
      (e.evaluateBinary seven least (.binary (.shift .left))).result =
        .error (.runtime (.negativeShiftCount (-2147483648))) ∧
      (e.evaluateBinary full empty (.binary (.arithmetic .add))).result =
        .error (.internal (.invalidOperands (.binary (.arithmetic .add)) list list)) ∧
      (∃ b, (e.evaluateComparison full empty (.comparison .notEqual) (.basic .bool)).result =
        .ok ⟨.bool b, .basic .bool⟩) ∧
      (e.evaluateComparison full empty (.comparison (.order .less)) (.basic .bool)).result =
        .error (.internal (.invalidOperands (.comparison (.order .less)) list list)) := by
  intro e count list seven least full empty
  have sevenFormed : seven.WellFormed .w32 := .integer (i := .ofInt .int 7) (by decide)
  have leastFormed : least.WellFormed .w32 := .integer (i := .ofInt .int (-2147483648)) (by decide)
  have fullFormed : full.WellFormed .w32 := .reference .slice (some ⟨7⟩)
  have emptyFormed : empty.WellFormed .w32 := .reference .slice none
  obtain ⟨integers, _⟩ := defined_by_storage e count _ _ sevenFormed leastFormed
  obtain ⟨lists, comparisons⟩ := defined_by_storage e list _ _ fullFormed emptyFormed
  exact ⟨(integers (.bit .andNot)).1.mpr ⟨by decide, rfl⟩,
    ((integers (.shift .left)).2.1 _).mpr ⟨by decide, by decide⟩,
    (lists (.arithmetic .add)).2.2 (by decide), (comparisons .notEqual).1.mpr (by decide),
    (comparisons (.order .less)).2 (by decide)⟩

end Engine

end TypedOps
