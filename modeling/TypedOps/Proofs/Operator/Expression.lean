import TypedOps.Proofs.Operator.Integers

/-!
Expressions over the integers of one type. `Expr.HasValue` says what an expression is worth
without any bound on integers; its constants and shift counts may be of any size. Main statement:
evaluating such an expression operator by operator, wrapping each time, never fails and gives the
exact value wrapped once (`eval_wraps_once`).
-/
namespace TypedOps

/-! ## Expressions and their exact values -/

/-- The result on all integers of the operators that only depend on the residues of their
operands. -/
def BinaryOp.exact? : BinaryOp → Int → Int → Option Int
  | .arithmetic .add, m, n => some (m + n)
  | .arithmetic .sub, m, n => some (m - n)
  | .arithmetic .mul, m, n => some (m * n)
  | .bit .and, m, n => some (Int.land m n)
  | .bit .or, m, n => some (Int.lor m n)
  | .bit .xor, m, n => some (Int.xor m n)
  | .bit .andNot, m, n => some (Int.ldiff m n)
  | _, _, _ => none

/-- The objects that stand for a number of places: integers of any integer type, and constants
with an integer value. -/
inductive Object.Counts (n : Nat) : Object → Prop
  | typed {i : StoredInt} {ty : Ty} (storage : ty.storage = .integer i.kind)
    (value : i.val = n) : Counts n ⟨.integer i, ty⟩
  | untyped {u : UntypedKind} {c : Constant} (value : c.toInteger? = some (n : Int)) :
    Counts n (.constant u c)

/-- Objects joined by binary operators. -/
inductive Expr
  | object (x : Object)
  | node (op : BinaryOp) (left right : Expr)

namespace Expr

/-- Evaluation from the objects up, one operator at a time. -/
def eval (e : Engine) : Expr → Except Fault Object
  | object x => .ok x
  | node op left right => do
    let l ← left.eval e
    let r ← right.eval e
    (e.evaluateBinary l r (.binary op)).result

/-- Whether the expression is an untyped constant and nothing else. -/
def isConstant : Expr → Bool
  | object x => x.isUntyped
  | node _ _ _ => false

/-- The expressions over a type with what they are worth. They are made of integers of the type
and of numeric constants with an integer value; no operator joins two bare constants, and a shift
to the left takes any count, but no bare constant to shift. -/
inductive HasValue (word : WordSize) (ty : Ty) : Expr → Int → Prop
  | integer {i : StoredInt} (formed : Object.WellFormed word ⟨.integer i, ty⟩) :
    HasValue word ty (object ⟨.integer i, ty⟩) i.val
  | constant {u : UntypedKind} {c : Constant} {n : Int} (number : u.isNumeric = true)
    (value : c.toInteger? = some n) : HasValue word ty (object (.constant u c)) n
  | node {op : BinaryOp} {left right : Expr} {m n k : Int} (leftValue : HasValue word ty left m)
    (rightValue : HasValue word ty right n)
    (typed : left.isConstant = false ∨ right.isConstant = false)
    (exact : op.exact? m n = some k) : HasValue word ty (node op left right) k
  | shift {left : Expr} {count : Object} {m : Int} {n : Nat} (leftValue : HasValue word ty left m)
    (typed : left.isConstant = false) (counts : count.Counts n) :
    HasValue word ty (node (.shift .left) left (object count)) (m * 2 ^ n)

end Expr

/-! ## One operator -/

/-- The objects that an expression may have come to: its exact value wrapped, or a constant. -/
inductive Object.StandsFor (word : WordSize) (ty : Ty) (k : IntKind) (n : Int) : Object → Prop
  | typed : StandsFor word ty k n ⟨.integer (.narrow word k n), ty⟩
  | untyped {u : UntypedKind} {c : Constant} (number : u.isNumeric = true)
    (value : c.toInteger? = some n) : StandsFor word ty k n (.constant u c)

namespace Engine

variable {e : Engine} {left right : Object} {ty : Ty} {k : IntKind} {m n q : Int}

/-- A constant facing an integer type becomes its value, wrapped. -/
theorem represent_integer {u : UntypedKind} {c : Constant} (storage : ty.storage = .integer k)
    (number : u.isNumeric = true) (value : c.toInteger? = some n) :
    (e.represent (.constant u c) ty).result = .ok ⟨.integer (.narrow e.word k n), ty⟩ := by
  have stored : ty.storage.isNumeric = true := by
    rw [storage]
    cases k <;> rfl
  rw [represent_numeric number stored, storage, Constant.asKind_integer rfl value]

theorem operands_stand (storage : ty.storage = .integer k)
    (leftStands : left.StandsFor e.word ty k m) (rightStands : right.StandsFor e.word ty k n)
    (typed : left.isUntyped = false ∨ right.isUntyped = false) :
    (e.operands left right).result =
      .ok (⟨.integer (.narrow e.word k m), ty⟩, ⟨.integer (.narrow e.word k n), ty⟩) := by
  have ownType := Object.typed_of_integer storage
  cases leftStands with
  | typed =>
    cases rightStands with
    | typed => exact operands_typed (ownType _) (ownType _)
    | untyped number value =>
      rw [operands_right (ownType _) rfl, represent_integer storage number value]
      rfl
  | untyped number value =>
    cases rightStands with
    | typed =>
      rw [operands_left rfl (ownType _), represent_integer storage number value]
      rfl
    | untyped => rcases typed with typed | typed <;> cases typed

/-- One operator on wrapped integers gives the exact result, wrapped. -/
theorem apply_exact {op : BinaryOp} (storage : ty.storage = .integer k)
    (operands : (e.operands left right).result =
      .ok (⟨.integer (.narrow e.word k m), ty⟩, ⟨.integer (.narrow e.word k n), ty⟩))
    (exact : op.exact? m n = some q) :
    (e.apply op left right).result = .ok ⟨.integer (.narrow e.word k q), ty⟩ := by
  cases op with
  | arithmetic op =>
    have computed : op.onIntegers (k.shape e.word) m n = (k.shape e.word).wrap q ∧
        op.divides = false := by
      cases op <;> cases exact
      · exact ⟨Shape.add_eq_wrap .., rfl⟩
      · exact ⟨Shape.sub_eq_wrap .., rfl⟩
      · exact ⟨Shape.mul_eq_wrap .., rfl⟩
    rw [apply_arithmetic storage operands]
    simp only [computed.1, computed.2, Bool.false_eq_true, false_and, ↓reduceIte,
      StoredInt.narrow_wrap]
  | bit op =>
    have computed : op.onIntegers (k.shape e.word) m n = (k.shape e.word).wrap q := by
      cases op <;> cases exact
      · exact Shape.and_eq_wrap ..
      · exact Shape.or_eq_wrap ..
      · exact Shape.xor_eq_wrap ..
      · exact Shape.andNot_eq_wrap ..
    rw [apply_bitwise storage operands, computed, StoredInt.narrow_wrap]
  | shift op => cases exact

/-- The reading of a count. Counts of untyped constants past 64 bits are cut, but still past every
width. -/
theorem shiftCount_counts {count : Object} {n : Nat} (counts : count.Counts n) :
    ∃ places, count.shiftCount = .ok places ∧ ∀ w : Width, min places w.bits = min n w.bits := by
  cases counts with
  | @typed i ty storage value =>
    refine ⟨n, ?_, fun _ => rfl⟩
    have notNegative : ¬ (n : Int) < 0 := by omega
    rw [Object.shiftCount_integer storage, value, if_neg notNegative, Int.toNat_natCast]
  | @untyped u c value =>
    have notNegative : ¬ (n : Int) < 0 := by omega
    refine ⟨min n (Width.w64.modulus - 1), ?_, ?_⟩
    · simp [Object.shiftCount, Object.constant, Object.isUntyped, Ty.isUntyped, Ty.untyped?,
        Value.toConstant?, Constant.toShiftCount?, value, notNegative]
    · intro w
      cases w <;> simp only [Width.modulus, Width.bits] <;> omega

/-- A shift to the left of a wrapped integer gives the exact product, wrapped. -/
theorem shiftLeft_exact {count : Object} {places : Nat} (storage : ty.storage = .integer k)
    (counts : count.Counts places) :
    (e.shift .left ⟨.integer (.narrow e.word k m), ty⟩ count).result =
      .ok ⟨.integer (.narrow e.word k (m * 2 ^ places)), ty⟩ := by
  obtain ⟨read, reads, same⟩ := shiftCount_counts counts
  have shifted : (k.shape e.word).shiftLeft ((k.shape e.word).wrap m) read
      = (k.shape e.word).wrap (m * 2 ^ places) := by
    rw [← Shape.shiftLeft_eq_wrap, Shape.shiftLeft, Shape.shiftLeft, Shape.wrap_wrap, same]
  rw [shift_integers storage, reads]
  simp only [Except.map, ShiftOp.onInteger, StoredInt.narrow_val, shifted, StoredInt.narrow_wrap]

end Engine

/-! ## Whole expressions -/

namespace Expr

variable {e : Engine} {ty : Ty} {k : IntKind} {t : Expr} {n : Int}

/-- What an expression comes to stands for its value, untyped only if it is a bare constant. -/
theorem eval_standsFor (storage : ty.storage = .integer k) (value : t.HasValue e.word ty n) :
    ∃ o, t.eval e = .ok o ∧ o.StandsFor e.word ty k n ∧ o.isUntyped = t.isConstant := by
  have ownType := Object.typed_of_integer storage
  induction value with
  | @integer i formed =>
    refine ⟨_, rfl, ?_, rfl⟩
    obtain ⟨j, rfl, fits, same⟩ := (Object.wellFormed_integer_iff storage).mp formed
    cases same
    have stands : (Object.mk (.integer (.narrow e.word i.kind i.val)) ty).StandsFor
      e.word ty i.kind i.val := .typed
    rwa [StoredInt.narrow_self fits] at stands
  | constant number value => exact ⟨_, rfl, .untyped number value, rfl⟩
  | node _ _ typed exact leftRun rightRun =>
    obtain ⟨l, leftEval, leftStands, leftTyped⟩ := leftRun
    obtain ⟨r, rightEval, rightStands, rightTyped⟩ := rightRun
    rw [← leftTyped, ← rightTyped] at typed
    refine ⟨_, ?_, .typed, ownType _⟩
    simp only [eval, leftEval, rightEval, bind, Except.bind, Engine.evaluateBinary_result]
    exact Engine.apply_exact storage
      (Engine.operands_stand storage leftStands rightStands typed) exact
  | shift _ typed counts leftRun =>
    obtain ⟨l, leftEval, leftStands, leftTyped⟩ := leftRun
    refine ⟨_, ?_, .typed, ownType _⟩
    simp only [eval, leftEval, bind, Except.bind, Engine.evaluateBinary_result]
    cases leftStands with
    | typed => exact Engine.shiftLeft_exact storage counts
    | untyped =>
      rw [typed] at leftTyped
      cases leftTyped

/-- Wrapping step by step is wrapping once: an expression over the integers of a type evaluates to
the only integer of the type that differs from its exact value by a multiple of the modulus. -/
theorem eval_wraps_once (storage : ty.storage = .integer k) (value : t.HasValue e.word ty n)
    (typed : t.isConstant = false) :
    ∃ i : StoredInt, t.eval e = .ok ⟨.integer i, ty⟩ ∧ i.kind = k ∧
      (k.shape e.word).Contains i.val ∧ i.val ≡ n [ZMOD 2 ^ (k.width e.word).bits] ∧
      ∀ x, (k.shape e.word).Contains x → x ≡ n [ZMOD 2 ^ (k.width e.word).bits] → x = i.val := by
  have modulus : ((k.shape e.word).width.modulus : Int) = 2 ^ (k.width e.word).bits := by
    rw [Width.modulus_eq_two_pow]
    push_cast
    rfl
  obtain ⟨o, evaluates, stands, constant⟩ := eval_standsFor storage value
  cases stands with
  | untyped =>
    rw [typed] at constant
    cases constant
  | typed =>
    refine ⟨.narrow e.word k n, evaluates, rfl, ?_, ?_, ?_⟩
    · exact StoredInt.narrow_fitsWord e.word k n
    · rw [StoredInt.narrow_val, ← modulus]
      exact Shape.wrap_modEq ..
    · intro x inside same
      rw [← modulus] at same
      rw [StoredInt.narrow_val]
      exact Shape.eq_wrap_of_modEq inside same

/-- With a word of 32 bits: the greatest `Count` times a constant beyond 64 bits, joined with the
bits of a negative one, and shifted by a count of bytes. -/
theorem eval_wraps_once_narrow_word :
    let count : Ty := .named ⟨"Count", "main", 7⟩ (.basic (.integer .int))
    let greatest : Object := ⟨.integer (.ofInt .int 2147483647), count⟩
    let negative : Object := ⟨.integer (.ofInt .int (-5)), count⟩
    let beyond : Object := .constant .float (.rational 1180591620717411303427)
    let three : Object := ⟨.integer (.ofInt .uint8 3), .basic (.integer .uint8)⟩
    let t : Expr := .node (.shift .left)
      (.node (.bit .xor) (.node (.arithmetic .mul) (.object greatest) (.object beyond))
        (.object negative)) (.object three)
    t.HasValue .w32 count (Int.xor (2147483647 * 1180591620717411303427) (-5) * 2 ^ 3) ∧
      t.isConstant = false ∧
      ∃ i : StoredInt, t.eval { word := .w32 } = .ok ⟨.integer i, count⟩ ∧ i.val = 48 := by
  intro count greatest negative beyond three t
  have greatestFits : StoredInt.FitsWord .w32 (.ofInt .int 2147483647) := by decide
  have negativeFits : StoredInt.FitsWord .w32 (.ofInt .int (-5)) := by decide
  have product : HasValue .w32 count (.node (.arithmetic .mul) (.object greatest) (.object beyond))
      (2147483647 * 1180591620717411303427) :=
    .node (.integer (.integer greatestFits)) (.constant rfl (by decide +kernel)) (.inl rfl) rfl
  have value :
      t.HasValue .w32 count (Int.xor (2147483647 * 1180591620717411303427) (-5) * 2 ^ 3) :=
    .shift (.node product (.integer (.integer negativeFits)) (.inl rfl) rfl) rfl
      (.typed rfl (by decide))
  obtain ⟨i, evaluates, _, _, _, unique⟩ :=
    eval_wraps_once (e := { word := .w32 }) (k := .int) rfl value rfl
  exact ⟨value, rfl, i, evaluates, (unique 48 (by decide) (by decide)).symm⟩

end Expr

end TypedOps
