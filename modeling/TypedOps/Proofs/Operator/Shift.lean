import TypedOps.Proofs.Integer.Shift
import TypedOps.Proofs.Operator.Expression
import TypedOps.Proofs.Value.ExactValue

/-!
Shifts of the integers of a type. A count is a number of places, however it is kept: an integer of
any type, or an untyped constant with that exact value (`counts_constant_iff`). Untyped constants
that are no such number are refused (`shiftCount_untyped`), and all counts of one number shift alike
(`shift_scaled`). Main statement: shifts are exact and go by the number of places alone
(`shifts_exact`).
-/
namespace TypedOps

namespace Object

variable {count : Object} {n : Nat}

/-- Constants count as their exact value, in whatever form they are kept. -/
theorem counts_constant_iff {u : UntypedKind} {c : Constant} :
    (constant u c).Counts n ↔ c.Exactly n := by
  have integer : c.toInteger? = some (n : Int) ↔ c.Exactly n := by
    rw [Constant.toInteger_eq_some_iff, Int.cast_natCast]
  rw [← integer]
  constructor
  · rintro (_ | value)
    exact value
  · exact .untyped

/-- An untyped count that is no number of places is refused. -/
theorem shiftCount_untyped (untyped : count.isUntyped = true) (noCount : ∀ n, ¬ count.Counts n) :
    count.shiftCount = .error (.internal (.invalidShiftCount count)) := by
  obtain ⟨v, ty⟩ := count
  obtain ⟨u, rfl⟩ := Ty.isUntyped_iff.mp untyped
  have unread : v.toConstant?.bind Constant.toShiftCount? = none := by
    cases v with
    | constant c =>
      rw [Value.toConstant?, Option.bind_some, Constant.toShiftCount?]
      cases value : c.toInteger? with
      | none => rfl
      | some m =>
        -- Only negative integers are no number of places.
        have negative : m < 0 := by
          by_contra nonneg
          obtain ⟨n, rfl⟩ := Int.eq_ofNat_of_zero_le (not_lt.mp nonneg)
          exact noCount n (.untyped value)
        simp only [negative, ↓reduceIte]
    | _ => rfl
  simp only [shiftCount, untyped, ↓reduceIte, unread]

end Object

namespace Engine

variable {e : Engine} {x : StoredInt} {ty : Ty} {k : IntKind} {count : Object} {n : Nat}

/-- A shift by a count of `n` places, in whatever form, is the exact shift by `n` places. -/
theorem shift_scaled (storage : ty.storage = .integer k) (inside : (k.shape e.word).Contains x.val)
    (counts : count.Counts n) (op : ShiftOp) :
    (e.evaluateBinary ⟨.integer x, ty⟩ count (.binary (.shift op))).result =
      .ok ⟨.integer (.narrow e.word k (op.scaled (k.shape e.word) x.val n)), ty⟩ := by
  obtain ⟨places, reads, same⟩ := shiftCount_counts counts
  rw [evaluateBinary_result]
  show (e.shift op _ _).result = _
  rw [shift_integers storage, reads, ← op.onInteger_eq_scaled inside,
    ← op.onInteger_congr x.val (same _)]
  rfl

theorem shift_refused (storage : ty.storage = .integer k) (untyped : count.isUntyped = true)
    (noCount : ∀ n, ¬ count.Counts n) (op : ShiftOp) :
    (e.evaluateBinary ⟨.integer x, ty⟩ count (.binary (.shift op))).result =
      .error (.internal (.invalidShiftCount count)) := by
  rw [evaluateBinary_result]
  show (e.shift op _ _).result = _
  rw [shift_integers storage, Object.shiftCount_untyped untyped noCount]
  rfl

/-- A shift of an integer of a type is exact, to the left up to wrapping, and gives the same integer
for every count of as many places, be it an integer of some type or a constant of that exact value.
An untyped count that is no number of places is refused. Two shifts in a row are one shift by both
counts together. -/
theorem shifts_exact (e : Engine) (storage : ty.storage = .integer k)
    (formed : Object.WellFormed e.word ⟨.integer x, ty⟩) (op : ShiftOp) :
    (∀ n : Nat, ∃ i : StoredInt, Object.WellFormed e.word ⟨.integer i, ty⟩ ∧
      i.val = op.scaled (k.shape e.word) x.val n ∧
      ∀ count : Object, count.Counts n →
        (e.evaluateBinary ⟨.integer x, ty⟩ count (.binary (.shift op))).result =
          .ok ⟨.integer i, ty⟩) ∧
    (∀ (u : UntypedKind) (c : Constant) (n : Nat), (Object.constant u c).Counts n ↔ c.Exactly n) ∧
    (∀ count : Object, count.isUntyped = true → (∀ n, ¬ count.Counts n) →
      (e.evaluateBinary ⟨.integer x, ty⟩ count (.binary (.shift op))).result =
        .error (.internal (.invalidShiftCount count))) ∧
    ∀ (a b sum : Object) (m n : Nat), a.Counts m → b.Counts n → sum.Counts (m + n) →
      Expr.eval e (.node (.shift op) (.node (.shift op) (.object ⟨.integer x, ty⟩) (.object a))
        (.object b)) =
      Expr.eval e (.node (.shift op) (.object ⟨.integer x, ty⟩) (.object sum)) := by
  obtain ⟨_, rfl, inside, ⟨⟩⟩ := (Object.wellFormed_integer_iff storage).mp formed
  have stays : ∀ n, (x.kind.shape e.word).Contains (op.scaled (x.kind.shape e.word) x.val n) :=
    op.contains_scaled inside
  refine ⟨?_, fun _ _ _ => Object.counts_constant_iff, ?_, ?_⟩
  · intro n
    refine ⟨.narrow e.word x.kind (op.scaled (x.kind.shape e.word) x.val n), ?_, ?_, ?_⟩
    · exact (Object.wellFormed_integer_iff storage).mpr
        ⟨_, rfl, StoredInt.narrow_fitsWord .., rfl⟩
    · rw [StoredInt.narrow_val, Shape.wrap_eq_self (stays n)]
    · intro count counts
      exact shift_scaled storage inside counts op
  · intro count untyped noCount
    exact shift_refused storage untyped noCount op
  · intro a b sum m n first second both
    -- What the first shift gives is in the range again, so the second one is exact on it.
    have value := Shape.wrap_eq_self (stays m)
    have again : (x.kind.shape e.word).Contains
        (StoredInt.narrow e.word x.kind (op.scaled (x.kind.shape e.word) x.val m)).val := by
      rw [StoredInt.narrow_val, value]
      exact stays m
    simp only [Expr.eval, bind, Except.bind, shift_scaled storage inside first,
      shift_scaled storage again second, shift_scaled storage inside both, StoredInt.narrow_val,
      value, ShiftOp.scaled_scaled]

/-- With a word of 32 bits: the least `Count` loses its bit to a byte of three places, and keeps its
sign through a constant of `2 ^ 70` places. A half is no number of places. -/
theorem shifts_exact_narrow_word :
    let e : Engine := { word := .w32 }
    let count : Ty := .named ⟨"Count", "main", 7⟩ (.basic (.integer .int))
    let least : Object := ⟨.integer (.ofInt .int (-2147483648)), count⟩
    let three : Object := ⟨.integer (.ofInt .uint8 3), .basic (.integer .uint8)⟩
    let beyond : Object := .constant .complex (.complex 1180591620717411303424 0)
    let sum : Object := .constant .rune (.integer 1180591620717411303427)
    let half : Object := .constant .float (.rational (1 / 2))
    (∃ i : StoredInt, (e.evaluateBinary least three (.binary (.shift .left))).result =
        .ok ⟨.integer i, count⟩ ∧ i.val = 0) ∧
      (∃ i : StoredInt, (e.evaluateBinary least beyond (.binary (.shift .right))).result =
        .ok ⟨.integer i, count⟩ ∧ i.val = -1) ∧
      (e.evaluateBinary least half (.binary (.shift .left))).result =
        .error (.internal (.invalidShiftCount half)) ∧
      Expr.eval e (.node (.shift .right) (.node (.shift .right) (.object least) (.object three))
        (.object beyond)) =
      Expr.eval e (.node (.shift .right) (.object least) (.object sum)) := by
  intro e count least three beyond sum half
  have formed : least.WellFormed .w32 := .integer (i := .ofInt .int (-2147483648)) (by decide)
  obtain ⟨left, _, refused, _⟩ := shifts_exact (k := .int) e rfl formed .left
  obtain ⟨right, _, _, twice⟩ := shifts_exact (k := .int) e rfl formed .right
  have threePlaces : three.Counts 3 := .typed rfl (by decide)
  have beyondPlaces : beyond.Counts 1180591620717411303424 := .untyped (by decide +kernel)
  have sumPlaces : sum.Counts (3 + 1180591620717411303424) := .untyped (by decide +kernel)
  have sign : ∀ n, 32 ≤ n → ShiftOp.right.scaled (IntKind.int.shape e.word)
      (StoredInt.ofInt .int (-2147483648)).val n = -1 := by
    intro n past
    have inside : (IntKind.int.shape e.word).Contains (StoredInt.ofInt .int (-2147483648)).val := by
      decide
    rw [ShiftOp.scaled, ← shiftRight_eq_fdiv, Shape.shiftRight_of_bits_le inside past]
    decide
  obtain ⟨i, _, zero, shiftsLeft⟩ := left 3
  obtain ⟨j, _, minusOne, shiftsRight⟩ := right 1180591620717411303424
  refine ⟨⟨i, shiftsLeft three threePlaces, zero.trans (by decide)⟩,
    ⟨j, shiftsRight beyond beyondPlaces, minusOne.trans (sign _ (by decide))⟩, ?_,
    twice three beyond sum 3 _ threePlaces beyondPlaces sumPlaces⟩
  have fraction : (Constant.rational (1 / 2)).toInteger? = none := by decide +kernel
  have noCount : ∀ n, ¬ (Object.constant .float (.rational (1 / 2))).Counts n := by
    rintro n (_ | value)
    rw [fraction] at value
    cases value
  exact refused half rfl noCount

end Engine

end TypedOps
