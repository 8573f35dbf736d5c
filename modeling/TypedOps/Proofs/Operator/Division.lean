import TypedOps.Proofs.Integer.Division
import TypedOps.Proofs.Operator.Expression
import TypedOps.Proofs.Value.ExactValue

/-!
Division in a type that is stored as an integer. The operands are integers of the type, or one of
them is a numeric constant that the type can hold (`Object.Holds`); every arithmetic operator then
gives the integer of the type that its shape has for them (`arithmetic_holds`). Main statement: the
quotient is the exact one without its fraction, the remainder goes with it, and `a / b * b + a % b`
is `a`, although one quotient wraps (`division_law`).
-/
namespace TypedOps

/-- The objects that an operator in a type reads the integer `n` off: the integer at the type
itself, and the numeric constants whose exact value is `n`, if it is in the range of the type. -/
inductive Object.Holds (word : WordSize) (ty : Ty) (k : IntKind) (n : Int) : Object → Prop
  | typed {i : StoredInt} (formed : WellFormed word ⟨.integer i, ty⟩) (value : i.val = n) :
    Holds word ty k n ⟨.integer i, ty⟩
  | untyped {u : UntypedKind} {c : Constant} (number : u.isNumeric = true) (value : c.Exactly n)
    (inside : (k.shape word).Contains n) : Holds word ty k n (.constant u c)

namespace Object.Holds

variable {word : WordSize} {ty : Ty} {k : IntKind} {n : Int} {x : Object}

theorem inside (storage : ty.storage = .integer k) (holds : x.Holds word ty k n) :
    (k.shape word).Contains n := by
  cases holds with
  | typed formed value =>
    obtain ⟨i, rfl, fits, ⟨⟩⟩ := (wellFormed_integer_iff storage).mp formed
    exact value ▸ fits
  | untyped _ _ inside => exact inside

theorem standsFor (storage : ty.storage = .integer k) (holds : x.Holds word ty k n) :
    x.StandsFor word ty k n := by
  cases holds with
  | typed formed value =>
    obtain ⟨i, rfl, fits, ⟨⟩⟩ := (wellFormed_integer_iff storage).mp formed
    rw [← value]
    nth_rewrite 3 [← StoredInt.narrow_self fits]
    exact .typed
  | untyped number value _ =>
    exact .untyped number (Constant.toInteger_eq_some_iff.mpr value)

end Object.Holds

/-- Arithmetic in a shape gives integers of the shape. -/
theorem ArithmeticOp.contains_onIntegers (s : Shape) (op : ArithmeticOp) (m n : Int) :
    s.Contains (op.onIntegers s m n) := by
  cases op <;> exact s.contains_wrap _

/-- The expression `a / b * b + a % b`. -/
def Expr.recombined (a b : Object) : Expr :=
  .node (.arithmetic .add)
    (.node (.arithmetic .mul) (.node (.arithmetic .quo) (.object a) (.object b)) (.object b))
    (.node (.arithmetic .rem) (.object a) (.object b))

namespace Engine

variable {e : Engine} {a b : Object} {ty : Ty} {k : IntKind} {m n : Int}

/-- Arithmetic in an integer type gives the integer that the shape of the type has for the
operands, apart from divisions by zero. -/
theorem arithmetic_holds (storage : ty.storage = .integer k) (left : a.Holds e.word ty k m)
    (right : b.Holds e.word ty k n) (typed : a.isUntyped = false ∨ b.isUntyped = false)
    (op : ArithmeticOp) (divisor : op.divides = true → n ≠ 0) :
    ∃ i : StoredInt, (e.apply (.arithmetic op) a b).result = .ok ⟨.integer i, ty⟩ ∧
      Object.WellFormed e.word ⟨.integer i, ty⟩ ∧ i.val = op.onIntegers (k.shape e.word) m n := by
  have operands :=
    operands_stand storage (left.standsFor storage) (right.standsFor storage) typed
  have notZero : ¬ (op.divides = true ∧ (k.shape e.word).wrap n = 0) := by
    rintro ⟨divides, zero⟩
    rw [Shape.wrap_eq_self (right.inside storage)] at zero
    exact divisor divides zero
  refine ⟨.narrow e.word k (op.onIntegers (k.shape e.word) m n), ?_, ?_, ?_⟩
  · rw [apply_arithmetic storage operands, if_neg notZero]
  · exact (Object.wellFormed_integer_iff storage).mpr
      ⟨_, rfl, StoredInt.narrow_fitsWord .., rfl⟩
  · rw [StoredInt.narrow_val]
    exact Shape.wrap_eq_self (op.contains_onIntegers _ m n)

/-- Division in a type that is stored as an integer, of two integers of the type or of one and a
constant that the type can hold. Quotient and remainder by anything but zero are integers of the
type that divide the left operand by the right one, and `a / b * b + a % b` is the left operand
again. -/
theorem division_law (e : Engine) (storage : ty.storage = .integer k)
    (left : a.Holds e.word ty k m) (right : b.Holds e.word ty k n)
    (typed : a.isUntyped = false ∨ b.isUntyped = false) (nonzero : n ≠ 0) :
    ∃ q r i : StoredInt,
      ((e.evaluateBinary a b (.binary (.arithmetic .quo))).result = .ok ⟨.integer q, ty⟩ ∧
        Object.WellFormed e.word ⟨.integer q, ty⟩) ∧
      ((e.evaluateBinary a b (.binary (.arithmetic .rem))).result = .ok ⟨.integer r, ty⟩ ∧
        Object.WellFormed e.word ⟨.integer r, ty⟩) ∧
      (k.shape e.word).Division m n q.val r.val ∧
      (Expr.recombined a b).eval e = .ok ⟨.integer i, ty⟩ ∧
      Object.WellFormed e.word ⟨.integer i, ty⟩ ∧ i.val = m := by
  have inside := left.inside storage
  have divisor := right.inside storage
  have ownType := Object.typed_of_integer storage
  obtain ⟨q, divided, quotient, quotientValue⟩ :=
    arithmetic_holds storage left right typed .quo (fun _ => nonzero)
  obtain ⟨r, left, remainder, remainderValue⟩ :=
    arithmetic_holds storage left right typed .rem (fun _ => nonzero)
  obtain ⟨p, multiplied, product, productValue⟩ :=
    arithmetic_holds storage (.typed quotient quotientValue) right (.inl (ownType _)) .mul nofun
  obtain ⟨i, added, sum, sumValue⟩ :=
    arithmetic_holds storage (.typed product productValue) (.typed remainder remainderValue)
      (.inl (ownType _)) .add nofun
  refine ⟨q, r, i, ⟨?_, quotient⟩, ⟨?_, remainder⟩, ?_, ?_, sum, ?_⟩
  · rw [evaluateBinary_result]
    exact divided
  · rw [evaluateBinary_result]
    exact left
  · rw [quotientValue, remainderValue]
    exact Shape.division inside divisor nonzero
  · simp only [Expr.recombined, Expr.eval, bind, Except.bind, evaluateBinary_result, divided,
      multiplied, left, added]
  · rw [sumValue]
    exact Shape.quo_mul_add_rem inside divisor

/-- With a word of 32 bits: the least `Count` divided by a constant that is `-1` as a complex
number. The quotient wraps, and still gives the dividend back. -/
theorem division_law_narrow_word :
    let e : Engine := { word := .w32 }
    let count : Ty := .named ⟨"Count", "main", 7⟩ (.basic (.integer .int))
    let least : Object := ⟨.integer (.ofInt .int (-2147483648)), count⟩
    let minusOne : Object := .constant .complex (.complex (-1) 0)
    least.Holds e.word count .int (-2147483648) ∧ minusOne.Holds e.word count .int (-1) ∧
      ∃ q r i : StoredInt,
        ((e.evaluateBinary least minusOne (.binary (.arithmetic .quo))).result =
          .ok ⟨.integer q, count⟩ ∧ q.val = -2147483648) ∧
        ((e.evaluateBinary least minusOne (.binary (.arithmetic .rem))).result =
          .ok ⟨.integer r, count⟩ ∧ r.val = 0) ∧
        (Expr.recombined least minusOne).eval e = .ok ⟨.integer i, count⟩ ∧
        i.val = -2147483648 := by
  intro e count least minusOne
  have left : least.Holds .w32 count .int (-2147483648) :=
    .typed (.integer (i := .ofInt .int (-2147483648)) (by decide)) (by decide)
  have right : minusOne.Holds .w32 count .int (-1) :=
    .untyped rfl (Constant.toInteger_eq_some_iff.mp (by decide +kernel)) (by decide)
  obtain ⟨q, r, i, ⟨divided, _⟩, ⟨remains, _⟩, law, recombined, _, value⟩ :=
    division_law e rfl left right (.inl rfl) (by decide)
  have bound : (IntKind.int.shape .w32).least = -2147483648 := by decide
  have quotient : q.val = -2147483648 := (law.least rfl bound.symm rfl).trans bound
  have remainder : r.val = 0 := by
    rw [law.remainder]
    rfl
  exact ⟨left, right, q, r, i, ⟨divided, quotient⟩, ⟨remains, remainder⟩, recombined, value⟩

end Engine

end TypedOps
