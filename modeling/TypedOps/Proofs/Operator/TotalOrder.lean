import TypedOps.Proofs.Operator.Equality
import TypedOps.Proofs.Value.Standing

/-!
The comparisons of operands that are kept as one ordered kind. Each of the six answers as the
values stand to each other, whatever the types that share the kind (`answers_standing`). Main
statement: the comparisons are those of one total order, that of the integers or that of the bytes
of texts, in which not-a-number has no place (`comparisons_total_order`).
-/
namespace TypedOps

namespace Engine

variable {e : Engine} {kind : Kind} {a b : Object} {op : ComparisonOp}

/-- The truth value that a comparison answers with, at whatever type it is asked for. -/
def Answers (e : Engine) (op : ComparisonOp) (a b : Object) (truth : Bool) : Prop :=
  ∀ result, (e.evaluateComparison a b (.comparison op) result).result =
    Object.ofTruth truth result

theorem answers_of_truth {truth : Bool} (holds : (e.comparisonTruth op a b).result = .ok truth) :
    e.Answers op a b truth := by
  intro result
  simp only [evaluateComparison_result, compare, Logged.bind_result, holds, Except.bind,
    Logged.ofExcept_result]

/-- There is one answer only. -/
theorem Answers.unique {s t : Bool} (answers : e.Answers op a b s) (others : e.Answers op a b t) :
    s = t := by
  have same := (answers (.basic .bool)).symm.trans (others (.basic .bool))
  simpa [Object.ofTruth] using same

/-- Each comparison answers as the values stand to each other. -/
theorem answers_standing (ordered : kind.isOrdered = true) (left : a.OfKind e.word kind)
    (right : b.OfKind e.word kind) (op : ComparisonOp) :
    e.Answers op a b (op.accepts (a.value.standing? b.value)) := by
  apply answers_of_truth
  have equality : (e.equality a b).result =
      .ok (ComparisonOp.equal.accepts (a.value.standing? b.value)) := by
    rw [equality_typed left.formed.typed right.formed.typed,
      equalTyped_same_storage left.formed right.formed (left.storage.trans right.storage.symm),
      Value.equals_standing ordered left.kept right.kept]
  cases op with
  | order op =>
    simp only [comparisonTruth, Engine.ordered, Logged.bind_result,
      operands_typed left.formed.typed right.formed.typed, Except.bind, left.storage,
      op.onValues_standing ordered left.kept right.kept, Logged.pure_result]
  | equal => exact equality
  | notEqual =>
    simp only [comparisonTruth, Logged.bind_result, equality, Except.bind, Logged.pure_result]
    rfl

/-- Operands kept as one ordered kind, of whatever types. If neither is not-a-number, they are in
exactly one of the relations `<`, `==` and `>`, and the other comparisons follow from these; `<` is
transitive, and is the order of the integers or of the bytes of texts. Not-a-number is different
from everything, and nothing else holds of it. -/
theorem comparisons_total_order (e : Engine) (kind : Kind) (ordered : kind.isOrdered = true) :
    (∀ a b : Object, a.OfKind e.word kind → b.OfKind e.word kind →
      a.value.isNan = false → b.value.isNan = false →
      ∃ o : Ordering, e.Answers (.order .less) a b (o == .lt) ∧
        e.Answers .equal a b (o == .eq) ∧
        e.Answers (.order .greater) a b (o == .gt) ∧
        e.Answers (.order .lessEqual) a b (o == .lt || o == .eq) ∧
        e.Answers (.order .greaterEqual) a b (o == .gt || o == .eq) ∧
        e.Answers .notEqual a b (!(o == .eq))) ∧
    (∀ a b c : Object, a.OfKind e.word kind → b.OfKind e.word kind → c.OfKind e.word kind →
      e.Answers (.order .less) a b true → e.Answers (.order .less) b c true →
      e.Answers (.order .less) a c true) ∧
    (∀ (a b : Object) (i j : StoredInt), a.OfKind e.word kind → b.OfKind e.word kind →
      a.value = .integer i → b.value = .integer j →
      e.Answers (.order .less) a b (decide (i.val < j.val))) ∧
    (∀ (a b : Object) (s t : String), a.OfKind e.word kind → b.OfKind e.word kind →
      a.value = .text s → b.value = .text t →
      e.Answers (.order .less) a b (decide (Text.bytes s < Text.bytes t))) ∧
    ∀ a b : Object, a.OfKind e.word kind → b.OfKind e.word kind →
      (a.value.isNan = true ∨ b.value.isNan = true) →
      ∀ op, e.Answers op a b (op == .notEqual) := by
  refine ⟨?_, ?_, ?_, ?_, ?_⟩
  · intro a b left right number otherNumber
    have stands := Value.standing_isSome ordered left.kept right.kept
    rw [number, otherNumber] at stands
    obtain ⟨o, standing⟩ := Option.isSome_iff_exists.mp stands
    have answers := answers_standing ordered left right
    rw [standing] at answers
    exact ⟨o, answers _, answers _, answers _, answers _, answers _, answers _⟩
  · intro a b c left middle right less nextLess
    have standing (x y : Object) (ofKind : x.OfKind e.word kind) (other : y.OfKind e.word kind)
        (less : e.Answers (.order .less) x y true) :
        x.value.standing? y.value = some .lt :=
      eq_of_beq ((answers_standing ordered ofKind other _).unique less)
    have answers := answers_standing ordered left right (.order .less)
    rwa [Value.standing_trans left.kept middle.kept right.kept
      (standing a b left middle less) (standing b c middle right nextLess)] at answers
  · intro a b i j left right value otherValue
    have answers := answers_standing ordered left right (.order .less)
    rw [value, otherValue, Value.standing?, ← OrderOp.holds_cmp] at answers
    exact answers
  · intro a b s t left right value otherValue
    have answers := answers_standing ordered left right (.order .less)
    rw [value, otherValue, Value.standing?, ← OrderOp.holds_cmp] at answers
    exact answers
  · intro a b left right nan op
    have stands := Value.standing_isSome ordered left.kept right.kept
    have answers := answers_standing ordered left right op
    have apart : a.value.standing? b.value = none := by
      rw [← Option.isNone_iff_eq_none, ← Option.isSome_eq_false_iff, stands]
      rcases nan with nan | nan <;> simp [nan]
    rw [apart] at answers
    cases op with
    | order op => cases op <;> exact answers
    | _ => exact answers

/-- With a word of 32 bits: a plain and a declared word, of which the greatest is above one and one
above zero; a text and its continuation; and not-a-number, which differs from itself. -/
theorem comparisons_total_order_narrow_word :
    let e : Engine := { word := .w32 }
    let size : Ty := .named ⟨"Size", "main", 7⟩ (.basic (.integer .uint))
    let zero : Object := ⟨.integer (.ofInt .uint 0), .basic (.integer .uint)⟩
    let one : Object := ⟨.integer (.ofInt .uint 1), size⟩
    let greatest : Object := ⟨.integer (.ofInt .uint 4294967295), .basic (.integer .uint)⟩
    let cafe : Object := ⟨.text "cafe", .basic .string⟩
    let accented : Object := ⟨.text "café", .named ⟨"Word", "main", 21⟩ (.basic .string)⟩
    let nan : Object := ⟨.float .binary32 .nan, .basic (.float .binary32)⟩
    (∃ o : Ordering, e.Answers (.order .less) one greatest (o == .lt) ∧
        e.Answers .equal one greatest (o == .eq)) ∧
      e.Answers (.order .less) zero greatest true ∧
      e.Answers (.order .less) cafe accented true ∧
      e.Answers .equal nan nan false ∧ e.Answers .notEqual nan nan true := by
  intro e size zero one greatest cafe accented nan
  obtain ⟨relation, transitive, integers, _⟩ := comparisons_total_order e (.integer .uint) rfl
  obtain ⟨_, _, _, texts, _⟩ := comparisons_total_order e .string rfl
  obtain ⟨_, _, _, _, unordered⟩ := comparisons_total_order e (.float .binary32) rfl
  have zeroKind : zero.OfKind .w32 (.integer .uint) :=
    ⟨.integer (i := .ofInt .uint 0) (by decide), rfl⟩
  have oneKind : one.OfKind .w32 (.integer .uint) :=
    ⟨.integer (i := .ofInt .uint 1) (by decide), rfl⟩
  have greatestKind : greatest.OfKind .w32 (.integer .uint) :=
    ⟨.integer (i := .ofInt .uint 4294967295) (by decide), rfl⟩
  have nanKind : nan.OfKind .w32 (.float .binary32) := ⟨.float .nan, rfl⟩
  obtain ⟨o, less, equal, _⟩ := relation one greatest oneKind greatestKind rfl rfl
  refine ⟨⟨o, less, equal⟩, ?_, ?_, ?_, ?_⟩
  · exact transitive zero one greatest zeroKind oneKind greatestKind
      (integers zero one _ _ zeroKind oneKind rfl rfl)
      (integers one greatest _ _ oneKind greatestKind rfl rfl)
  · have bytes : decide (Text.bytes "cafe" < Text.bytes "café") = true := by decide +kernel
    have answers := texts cafe accented "cafe" "café" ⟨.text _, rfl⟩ ⟨.text _, rfl⟩ rfl rfl
    rwa [bytes] at answers
  · exact unordered nan nan nanKind nanKind (.inl rfl) .equal
  · exact unordered nan nan nanKind nanKind (.inl rfl) .notEqual

end Engine

end TypedOps
