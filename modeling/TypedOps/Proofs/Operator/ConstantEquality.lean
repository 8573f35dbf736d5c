import TypedOps.Proofs.Operator.Equality
import TypedOps.Proofs.Value.OneWay

/-!
Equality of two untyped constants. Each takes its default type, and since different default types
are not assignable to each other the constant on the right is converted to the kind of the one on
the left (`equality_constants`, `equalTyped_defaults`). Whether there is an answer does not depend
on the order. Main statement: the answer depends on it where the constants become values that are
equal one way, and nowhere else (`equal_constants_order`).
-/
namespace TypedOps

open Ieee (Binary)

/-! ## Default types -/

/-- The different default kinds that convert are those of integers, runes and floating-point
numbers. -/
theorem UntypedKind.default_converts {u t : UntypedKind} {k l : Kind}
    (default : u.default? = some k) (otherDefault : t.default? = some l) (different : k ≠ l)
    (converts : k.storage.convertsTo l.storage = true) :
    (k.storage = .integer .int ∧ l.storage = .integer .int32) ∨
      (k.storage = .integer .int32 ∧ l.storage = .integer .int) ∨
      (∃ i, k.storage = .integer i ∧ l.storage = .float .binary64) ∨
      ∃ i, k.storage = .float .binary64 ∧ l.storage = .integer i := by
  cases u <;> cases default <;> cases t <;> cases otherDefault <;>
    simp_all [Kind.storage, Kind.convertsTo]

namespace Value

variable {word : WordSize} {v w : Value} {u t : UntypedKind} {k l : Kind}

/-- Values of different default kinds are equal one way exactly when conversion makes them so. -/
theorem equalsOneWay_iff (default : u.default? = some k) (otherDefault : t.default? = some l)
    (different : k ≠ l) (kept : v.KeptAs word k.storage) (otherKept : w.KeptAs word l.storage) :
    v.EqualsOneWay word w ↔
      v.admits? word k.storage w = some true ∧ w.admits? word l.storage v = some false := by
  by_cases converts : k.storage.convertsTo l.storage = true
  · rcases UntypedKind.default_converts default otherDefault different converts with
      ⟨int, rune⟩ | ⟨rune, int⟩ | ⟨_, integer, float⟩ | ⟨_, float, integer⟩
    · rw [int] at kept ⊢
      rw [rune] at otherKept ⊢
      obtain ⟨i, kind, fits, rfl⟩ := keptAs_integer_iff.mp kept
      obtain ⟨j, otherKind, otherFits, rfl⟩ := keptAs_integer_iff.mp otherKept
      rw [equalsOneWay_integer_rune fits otherFits kind otherKind, kind, otherKind]
    · rw [rune] at kept ⊢
      rw [int] at otherKept ⊢
      obtain ⟨i, kind, fits, rfl⟩ := keptAs_integer_iff.mp kept
      obtain ⟨j, otherKind, otherFits, rfl⟩ := keptAs_integer_iff.mp otherKept
      rw [equalsOneWay_rune_integer fits otherFits kind otherKind, kind, otherKind]
    · rw [integer] at kept ⊢
      rw [float] at otherKept ⊢
      obtain ⟨i, rfl, _, rfl⟩ := keptAs_integer_iff.mp kept
      cases otherKept with
      | float x => exact equalsOneWay_integer_float
    · rw [float] at kept ⊢
      rw [integer] at otherKept ⊢
      obtain ⟨i, rfl, _, rfl⟩ := keptAs_integer_iff.mp otherKept
      cases kept with
      | float x => exact equalsOneWay_float_integer
  · refine iff_of_false (fun oneWay => converts (oneWay.converts kept otherKept)) ?_
    rintro ⟨admits, _⟩
    apply converts
    rw [← admits_isSome kept otherKept, admits]
    rfl

end Value

/-! ## Two constants -/

/-- Different default types are not assignable to each other. -/
theorem Ty.default_not_assignable {u t : UntypedKind} {k l : Kind}
    (default : u.default? = some k) (otherDefault : t.default? = some l) (different : k ≠ l) :
    (basic k).assignableTo (basic l) = false := by
  cases u <;> cases default <;> cases t <;> cases otherDefault <;>
    simp_all [assignableTo, underlying, untyped?, storage, Kind.storage]

/-- Two answers that are there together agree, unless they are opposite. -/
theorem answers_agree {answer turned : Option Bool} (together : answer.isSome = turned.isSome)
    (notHere : ¬ (answer = some true ∧ turned = some false))
    (notThere : ¬ (turned = some true ∧ answer = some false)) : answer = turned := by
  cases answer with
  | none =>
    cases turned with
    | none => rfl
    | some _ => cases together
  | some a =>
    cases turned with
    | none => cases together
    | some z => cases a <;> cases z <;> simp_all

/-- Which types take a truth value does not depend on the value. -/
theorem Object.ofTruth_ok_comm {result : Ty} {a b : Bool} :
    (∃ o, Object.ofTruth a result = .ok o) ↔ ∃ o, Object.ofTruth b result = .ok o := by
  unfold ofTruth
  split
  · split <;> simp
  all_goals simp

namespace Engine

variable {e : Engine} {left right : Object} {u t : UntypedKind} {c d : Constant}

/-- Whether two constants become values that are equal one way. -/
def EqualOneWay (e : Engine) (x y : Object) : Prop :=
  ∃ left right, (e.normalize x).result = .ok left ∧ (e.normalize y).result = .ok right ∧
    left.value.EqualsOneWay e.word right.value

theorem equality_constants (notNil : u ≠ .nil) (otherNotNil : t ≠ .nil) :
    (e.equality (.constant u c) (.constant t d)).result =
      (e.normalize (.constant u c)).result.bind fun left =>
        (e.normalize (.constant t d)).result.bind fun right =>
          (e.equalTyped left right).result := by
  have untyped : (Object.constant u c).isUntyped = true := rfl
  have otherUntyped : (Object.constant t d).isUntyped = true := rfl
  simp only [equality, Object.constant_not_untypedNil notNil,
    Object.constant_not_untypedNil otherNotNil, Logged.bind_result,
    operands_constants untyped otherUntyped]
  cases (e.normalize (.constant u c)).result with
  | error => rfl
  | ok => cases (e.normalize (.constant t d)).result <;> rfl

/-- What a constant becomes is kept as its default type. -/
theorem normalize_default (given : (e.normalize (.constant u c)).result = .ok left) :
    ∃ kind, u.default? = some kind ∧ left.ty = .basic kind ∧
      left.value.KeptAs e.word kind.storage := by
  rcases normalize_ok given with ⟨typed, _⟩ | ⟨_, _, kind, v, same, default, kept, rfl⟩
  · cases typed
  · cases same
    exact ⟨kind, default, rfl, Constant.asKind_kept kept⟩

/-- Of different default types the right operand is converted to the left one's kind. -/
theorem equalTyped_defaults {k l : Kind} (default : u.default? = some k)
    (otherDefault : t.default? = some l) (different : k ≠ l) (leftType : left.ty = .basic k)
    (rightType : right.ty = .basic l) (b : Bool) :
    (e.equalTyped left right).result = .ok b ↔
      left.value.admits? e.word k.storage right.value = some b := by
  have notSame : left.ty ≠ right.ty := by
    simpa [leftType, rightType] using different
  have apart : left.ty.assignableTo right.ty = false := by
    rw [leftType, rightType]
    exact Ty.default_not_assignable default otherDefault different
  rw [equalTyped, if_neg notSame, apart, if_neg Bool.false_ne_true, equalConverted_result,
    Value.admits?, leftType, Ty.storage]
  cases right.value.convert? e.word k.storage <;> simp

/-- The order of two values of default types matters where they are equal one way, and only
there. -/
theorem equalTyped_order (given : (e.normalize (.constant u c)).result = .ok left)
    (otherGiven : (e.normalize (.constant t d)).result = .ok right) :
    (left.value.EqualsOneWay e.word right.value →
      (e.equalTyped left right).result = .ok true ∧
        (e.equalTyped right left).result = .ok false) ∧
    (¬ left.value.EqualsOneWay e.word right.value →
      ¬ right.value.EqualsOneWay e.word left.value →
      ∀ b, (e.equalTyped left right).result = .ok b ↔
        (e.equalTyped right left).result = .ok b) := by
  obtain ⟨k, default, leftType, kept⟩ := normalize_default given
  obtain ⟨l, otherDefault, rightType, otherKept⟩ := normalize_default otherGiven
  by_cases same : k = l
  · subst same
    constructor
    · intro oneWay
      exact absurd (kept.kind_eq.trans otherKept.kind_eq.symm) oneWay.kind_ne
    · intro _ _ b
      rw [equalTyped, equalTyped, if_pos (leftType.trans rightType.symm),
        if_pos (rightType.trans leftType.symm), Value.equals_comm]
  · simp only [equalTyped_defaults default otherDefault same leftType rightType,
      equalTyped_defaults otherDefault default (Ne.symm same) rightType leftType,
      Value.equalsOneWay_iff default otherDefault same kept otherKept,
      Value.equalsOneWay_iff otherDefault default (Ne.symm same) otherKept kept]
    have answers : (left.value.admits? e.word k.storage right.value).isSome =
        (right.value.admits? e.word l.storage left.value).isSome := by
      rw [Value.admits_isSome kept otherKept, Value.admits_isSome otherKept kept,
        Kind.convertsTo_comm]
    refine ⟨id, ?_⟩
    intro notOneWay notOther b
    rw [answers_agree answers notOneWay notOther]

/-- Constants that do not become values that are equal one way compare alike in either order. -/
theorem equality_constants_comm (notNil : u ≠ .nil) (otherNotNil : t ≠ .nil)
    (notOneWay : ¬ e.EqualOneWay (.constant u c) (.constant t d))
    (notOther : ¬ e.EqualOneWay (.constant t d) (.constant u c)) (b : Bool) :
    (e.equality (.constant u c) (.constant t d)).result = .ok b ↔
      (e.equality (.constant t d) (.constant u c)).result = .ok b := by
  rw [equality_constants notNil otherNotNil, equality_constants otherNotNil notNil]
  cases given : (e.normalize (.constant u c)).result with
  | error => cases (e.normalize (.constant t d)).result <;> exact iff_of_false nofun nofun
  | ok left =>
    cases otherGiven : (e.normalize (.constant t d)).result with
    | error => exact iff_of_false nofun nofun
    | ok right =>
      refine (equalTyped_order given otherGiven).2 ?_ ?_ b
      · intro oneWay
        exact notOneWay ⟨left, right, given, otherGiven, oneWay⟩
      · intro oneWay
        exact notOther ⟨right, left, otherGiven, given, oneWay⟩

/-- Constants that become values that are equal one way are equal in one order and differ in the
other. -/
theorem equal_of_oneWay (result : Ty) (notNil : u ≠ .nil) (otherNotNil : t ≠ .nil)
    (oneWay : e.EqualOneWay (.constant u c) (.constant t d)) :
    e.equal (.constant u c) (.constant t d) result = Object.ofTruth true result ∧
      e.equal (.constant t d) (.constant u c) result = Object.ofTruth false result := by
  obtain ⟨left, right, given, otherGiven, values⟩ := oneWay
  obtain ⟨equals, differs⟩ := (equalTyped_order given otherGiven).1 values
  constructor
  · apply equal_of_truth
    rw [equality_constants notNil otherNotNil, given, otherGiven]
    exact equals
  · apply equal_of_truth
    rw [equality_constants otherNotNil notNil, given, otherGiven]
    exact differs

/-- Equality of two untyped constants other than nil, at every result type. Whether there is an
answer does not depend on the order. Of constants that become values that are equal one way, the
first equals the second while the second differs from the first; for all others the answers agree.
-/
theorem equal_constants_order (e : Engine) (result : Ty) {u t : UntypedKind} (c d : Constant)
    (notNil : u ≠ .nil) (otherNotNil : t ≠ .nil) :
    ((∃ o, e.equal (.constant u c) (.constant t d) result = .ok o) ↔
      ∃ o, e.equal (.constant t d) (.constant u c) result = .ok o) ∧
    (e.EqualOneWay (.constant u c) (.constant t d) →
      e.equal (.constant u c) (.constant t d) result = Object.ofTruth true result ∧
        e.equal (.constant t d) (.constant u c) result = Object.ofTruth false result) ∧
    (¬ e.EqualOneWay (.constant u c) (.constant t d) →
      ¬ e.EqualOneWay (.constant t d) (.constant u c) →
      ∀ o, e.equal (.constant u c) (.constant t d) result = .ok o ↔
        e.equal (.constant t d) (.constant u c) result = .ok o) := by
  have alike : ¬ e.EqualOneWay (.constant u c) (.constant t d) →
      ¬ e.EqualOneWay (.constant t d) (.constant u c) →
      ∀ o, e.equal (.constant u c) (.constant t d) result = .ok o ↔
        e.equal (.constant t d) (.constant u c) result = .ok o := by
    intro notOneWay notOther o
    simp only [equal_ok_iff, equality_constants_comm notNil otherNotNil notOneWay notOther]
  refine ⟨?_, equal_of_oneWay result notNil otherNotNil, alike⟩
  by_cases oneWay : e.EqualOneWay (.constant u c) (.constant t d)
  · obtain ⟨equals, differs⟩ := equal_of_oneWay result notNil otherNotNil oneWay
    rw [equals, differs, Object.ofTruth_ok_comm]
  · by_cases otherWay : e.EqualOneWay (.constant t d) (.constant u c)
    · obtain ⟨equals, differs⟩ := equal_of_oneWay result otherNotNil notNil otherWay
      rw [equals, differs, Object.ofTruth_ok_comm]
    · exact exists_congr (alike oneWay otherWay)

/-- Constants that become the same number are not equal one way, in either order. -/
theorem not_oneWay_of_exact {i : StoredInt} {x : Binary .binary64} {ty other : Ty}
    (given : (e.normalize (.constant u c)).result = .ok ⟨.integer i, ty⟩)
    (otherGiven : (e.normalize (.constant t d)).result = .ok ⟨.float .binary64 x, other⟩)
    (exact : x.toRat? = some (i.val : Rat)) :
    ¬ e.EqualOneWay (.constant u c) (.constant t d) ∧
      ¬ e.EqualOneWay (.constant t d) (.constant u c) := by
  have formed := normalize_wellFormed rfl given
  have fits : i.FitsWord e.word := Value.KeptAs.fitsWord formed rfl
  constructor
  · rintro ⟨left, right, here, there, oneWay⟩
    cases Except.ok.inj (given.symm.trans here)
    cases Except.ok.inj (otherGiven.symm.trans there)
    exact Value.EqualsOneWay.inexact fits (.inl oneWay) exact
  · rintro ⟨left, right, here, there, oneWay⟩
    cases Except.ok.inj (otherGiven.symm.trans here)
    cases Except.ok.inj (given.symm.trans there)
    exact Value.EqualsOneWay.inexact fits (.inr oneWay) exact

/-- The integer 1 is what is left of 3/2 without its fraction. -/
theorem one_equalOneWay_fraction :
    ({} : Engine).EqualOneWay (.constant .int (.integer 1))
      (.constant .float (.rational (3 / 2))) :=
  ⟨⟨.integer (.narrow .w64 .int 1), .basic (.integer .int)⟩,
    ⟨.float .binary64 (Binary.ofRat (3 / 2) : Binary .binary64).convert, .basic (.float .binary64)⟩,
    rfl, rfl, .cut (by decide +kernel) (by decide +kernel)⟩

/-- An integer and a fraction, an integer and the rune in its low bits, and the same number in two
classes. -/
theorem equal_constants_order_wide_word :
    let e : Engine := {}
    let bool : Ty := .basic .bool
    let one : Object := .constant .int (.integer 1)
    let fraction : Object := .constant .float (.rational (3 / 2))
    let point : Object := .constant .float (.rational 1)
    let rune : Object := .constant .rune (.integer 97)
    let wide : Object := .constant .int (.integer 4294967393)
    (e.equal one fraction bool = .ok ⟨.bool true, bool⟩ ∧
        e.equal fraction one bool = .ok ⟨.bool false, bool⟩) ∧
      (e.equal rune wide bool = .ok ⟨.bool true, bool⟩ ∧
        e.equal wide rune bool = .ok ⟨.bool false, bool⟩) ∧
      ∀ o, e.equal one point bool = .ok o ↔ e.equal point one bool = .ok o := by
  intro e bool one fraction point rune wide
  have low : e.EqualOneWay rune wide :=
    ⟨⟨.integer (.narrow .w64 .int32 97), .basic .rune⟩,
      ⟨.integer (.narrow .w64 .int 4294967393), .basic (.integer .int)⟩, rfl, rfl,
      .low rfl rfl (by decide) (by decide)⟩
  have same : ¬ e.EqualOneWay one point ∧ ¬ e.EqualOneWay point one :=
    not_oneWay_of_exact (i := .narrow .w64 .int 1)
      (x := (Binary.ofRat 1 : Binary .binary64).convert) rfl rfl (by decide +kernel)
  refine ⟨?_, ?_, ?_⟩
  · exact (equal_constants_order e bool (u := .int) (t := .float) _ _ nofun nofun).2.1
      one_equalOneWay_fraction
  · exact (equal_constants_order e bool (u := .rune) (t := .int) _ _ nofun nofun).2.1 low
  · exact (equal_constants_order e bool (u := .int) (t := .float) _ _ nofun nofun).2.2
      same.1 same.2

/-- The order of two constants matters for 1 and 3/2. -/
theorem equal_constants_not_comm :
    ¬ ∀ (e : Engine) (result : Ty) (u t : UntypedKind) (c d : Constant), u ≠ .nil → t ≠ .nil →
      ∀ o, e.equal (.constant u c) (.constant t d) result = .ok o ↔
        e.equal (.constant t d) (.constant u c) result = .ok o := by
  intro comm
  obtain ⟨equals, differs⟩ :=
    equal_of_oneWay (u := .int) (t := .float) (.basic .bool) nofun nofun one_equalOneWay_fraction
  have turned := (comm {} (.basic .bool) .int .float _ _ nofun nofun _).mp equals
  rw [differs] at turned
  cases turned

end Engine

end TypedOps
