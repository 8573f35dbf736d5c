import Mathlib.Data.Int.Order.Basic
import Mathlib.Data.List.Lex
import Mathlib.Order.Compare
import Mathlib.Order.Lattice
import TypedOps.Operator.Comparison
import TypedOps.Proofs.Value.Kept

/-!
How ordered values stand to each other. Two integers stand as they do among all integers, two
floating-point numbers as their signed codes, and two texts as their bytes; not-a-number stands in
no relation (`Value.standing?`). The comparison by order and the equality of values, which are
separate computations, both read off the standing (`OrderOp.onValues_standing`,
`Value.equals_standing`). The standing is that of a total order (`standing_trans`,
`standing_isSome`).
-/
namespace TypedOps

open Ieee (Binary)

/-- How a floating-point number stands to another one. -/
def Ieee.Binary.standing? {f g : Ieee.Format} (x : Binary f) (y : Binary g) : Option Ordering :=
  match x.key?, y.key? with
  | some a, some b => some (cmp a b)
  | _, _ => none

/-- How a value stands to another one of its kind, if the kind is ordered. -/
def Value.standing? : Value → Value → Option Ordering
  | .integer i, .integer j => some (cmp i.val j.val)
  | .float _ x, .float _ y => x.standing? y
  | .text s, .text t => some (cmp (Text.bytes s) (Text.bytes t))
  | _, _ => none

/-- Whether a comparison is true of two operands that stand to each other in a given way. What
stands in no relation is different, and nothing else. -/
def ComparisonOp.accepts : ComparisonOp → Option Ordering → Bool
  | order .less, o => o == some .lt
  | order .greater, o => o == some .gt
  | order .lessEqual, o => o == some .lt || o == some .eq
  | order .greaterEqual, o => o == some .gt || o == some .eq
  | equal, o => o == some .eq
  | notEqual, o => o != some .eq

/-- Whether the value is not-a-number. -/
def Value.isNan : Value → Bool
  | .float _ .nan => true
  | _ => false

/-! ## Both computations read off the standing -/

/-- Different texts have different bytes. -/
theorem Text.bytes_injective : Function.Injective Text.bytes := by
  intro s t same
  have bytes : s.toUTF8.data.toList = t.toUTF8.data.toList :=
    List.map_injective_iff.mpr (fun _ _ => UInt8.toNat_inj.mp) same
  exact String.toByteArray_inj.mp (ByteArray.ext (Array.toList_inj.mp bytes))

section

variable {α : Type} [LinearOrder α] [DecidableLT α] (a b : α)

-- Texts decide the order of their bytes in their own way, so the decision is not that of the order.
theorem cmp_stands : (cmp a b).Compares a b := by
  convert cmp_compares a b

theorem cmp_lt_iff : cmp a b = .lt ↔ a < b :=
  (cmp_stands a b).eq_lt

theorem cmp_eq_iff : cmp a b = .eq ↔ a = b :=
  (cmp_stands a b).eq_eq

theorem cmp_gt_iff : cmp a b = .gt ↔ b < a :=
  (cmp_stands a b).eq_gt

theorem cmp_lt_trans {a b c : α} (below : cmp a b = .lt) (middleBelow : cmp b c = .lt) :
    cmp a c = .lt :=
  (cmp_lt_iff a c).mpr (((cmp_lt_iff a b).mp below).trans ((cmp_lt_iff b c).mp middleBelow))

variable [DecidableEq α]

/-- An order holds of two elements of a total order as it does of their standing. -/
theorem OrderOp.holds_cmp (op : OrderOp) :
    op.holds (decide (a < b)) (decide (b < a)) (decide (a = b)) =
      (ComparisonOp.order op).accepts (some (cmp a b)) := by
  rcases lt_trichotomy a b with less | same | greater
  · rw [(cmp_lt_iff a b).mpr less]
    cases op <;> simp [holds, ComparisonOp.accepts, less, less.not_gt, less.ne]
  · rw [(cmp_eq_iff a b).mpr same]
    cases op <;> simp [holds, ComparisonOp.accepts, same]
  · rw [(cmp_gt_iff a b).mpr greater]
    cases op <;> simp [holds, ComparisonOp.accepts, greater, greater.not_gt, greater.ne']

theorem ComparisonOp.accepts_equal_cmp : equal.accepts (some (cmp a b)) = decide (a = b) := by
  rw [Bool.eq_iff_iff, decide_eq_true_iff, ← cmp_eq_iff a b, accepts, beq_iff_eq,
    Option.some.injEq]

end

theorem OrderOp.holds_binary {f : Ieee.Format} (op : OrderOp) (x y : Binary f) :
    op.holds (x.less y) (y.less x) (x.equals y) =
      (ComparisonOp.order op).accepts (x.standing? y) := by
  unfold Binary.less Binary.equals Binary.standing?
  cases x.key? <;> cases y.key?
  case some.some a b => exact op.holds_cmp a b
  all_goals cases op <;> rfl

theorem Ieee.Binary.equals_standing {f : Ieee.Format} (x y : Binary f) :
    x.equals y = ComparisonOp.equal.accepts (x.standing? y) := by
  unfold equals standing?
  cases x.key? <;> cases y.key?
  case some.some a b => exact (ComparisonOp.accepts_equal_cmp a b).symm
  all_goals rfl

/-- The order of two values kept as an ordered kind is that of their standing. -/
theorem OrderOp.onValues_standing {word : WordSize} {kind : Kind} {v w : Value} (op : OrderOp)
    (ordered : kind.isOrdered = true) (kept : v.KeptAs word kind)
    (otherKept : w.KeptAs word kind) :
    op.onValues? word kind v w = some ((ComparisonOp.order op).accepts (v.standing? w)) := by
  cases kept with
  | @integer i fits =>
    obtain ⟨j, same, otherFits, rfl⟩ := Value.keptAs_integer_iff.mp otherKept
    have otherFits : (i.kind.shape word).Contains j.val := same ▸ otherFits
    simp only [onValues?, Value.toInt?, Shape.wrap_eq_self fits, Shape.wrap_eq_self otherFits]
    exact congrArg some (op.holds_cmp i.val j.val)
  | float x =>
    cases otherKept with
    | float y =>
      simp only [onValues?, Value.toBinary?, Binary.convert_self, holds_binary, Value.standing?]
  | text s =>
    cases otherKept with
    | text t =>
      simp only [onValues?, Value.toText?, Text.before, ← Text.bytes_injective.eq_iff]
      exact congrArg some (op.holds_cmp (Text.bytes s) (Text.bytes t))
  | _ => cases ordered

/-- The equality of two values kept as an ordered kind is that of their standing. -/
theorem Value.equals_standing {word : WordSize} {kind : Kind} {v w : Value}
    (ordered : kind.isOrdered = true) (kept : v.KeptAs word kind)
    (otherKept : w.KeptAs word kind) :
    v.equals w = ComparisonOp.equal.accepts (v.standing? w) := by
  cases kept with
  | @integer i fits =>
    obtain ⟨j, same, _, rfl⟩ := keptAs_integer_iff.mp otherKept
    simp only [equals, integer.injEq, StoredInt.eq_iff, same, true_and]
    exact (ComparisonOp.accepts_equal_cmp i.val j.val).symm
  | float x =>
    cases otherKept with
    | float y => simp only [equals, ↓reduceDIte, x.equals_standing, standing?]
  | text s =>
    cases otherKept with
    | text t =>
      simp only [equals, text.injEq, ← Text.bytes_injective.eq_iff]
      exact (ComparisonOp.accepts_equal_cmp (Text.bytes s) (Text.bytes t)).symm
  | _ => cases ordered

/-! ## A total order -/

/-- The order on floating-point numbers is that of their signed codes. -/
theorem Ieee.Binary.standing_lt_iff {f g : Ieee.Format} {x : Binary f} {y : Binary g} :
    x.standing? y = some .lt ↔ ∃ a b, x.key? = some a ∧ y.key? = some b ∧ a < b := by
  constructor
  · intro below
    unfold standing? at below
    split at below
    · next a b key otherKey =>
      exact ⟨a, b, key, otherKey, (cmp_lt_iff a b).mp (Option.some.inj below)⟩
    · cases below
  · rintro ⟨a, b, key, otherKey, less⟩
    rw [standing?, key, otherKey]
    exact congrArg some ((cmp_lt_iff a b).mpr less)

namespace Value

variable {word : WordSize} {kind : Kind} {v w z : Value}

/-- Two values kept as an ordered kind stand in a relation unless one of them is not-a-number. -/
theorem standing_isSome (ordered : kind.isOrdered = true) (kept : v.KeptAs word kind)
    (otherKept : w.KeptAs word kind) :
    (v.standing? w).isSome = (!v.isNan && !w.isNan) := by
  cases kept with
  | @integer i =>
    obtain ⟨j, _, _, rfl⟩ := keptAs_integer_iff.mp otherKept
    rfl
  | float x =>
    cases otherKept with
    | float y => cases x <;> cases y <;> rfl
  | text s =>
    cases otherKept with
    | text t => rfl
  | _ => cases ordered

/-- What is below a value is below all that the value is below. -/
theorem standing_trans (kept : v.KeptAs word kind) (middleKept : w.KeptAs word kind)
    (otherKept : z.KeptAs word kind) (below : v.standing? w = some .lt)
    (middleBelow : w.standing? z = some .lt) : v.standing? z = some .lt := by
  cases kept with
  | @integer i =>
    obtain ⟨j, _, _, rfl⟩ := keptAs_integer_iff.mp middleKept
    obtain ⟨k, _, _, rfl⟩ := keptAs_integer_iff.mp otherKept
    exact congrArg some (cmp_lt_trans (Option.some.inj below) (Option.some.inj middleBelow))
  | float x =>
    cases middleKept with
    | float y =>
      cases otherKept with
      | float z =>
        obtain ⟨a, b, key, middleKey, less⟩ := Binary.standing_lt_iff.mp below
        obtain ⟨b', c, sameKey, otherKey, middleLess⟩ := Binary.standing_lt_iff.mp middleBelow
        cases middleKey.symm.trans sameKey
        exact Binary.standing_lt_iff.mpr ⟨a, c, key, otherKey, less.trans middleLess⟩
  | text s =>
    cases middleKept with
    | text t =>
      cases otherKept with
      | text r =>
        exact congrArg some (cmp_lt_trans (Option.some.inj below) (Option.some.inj middleBelow))
  | _ => cases below

end Value

end TypedOps
