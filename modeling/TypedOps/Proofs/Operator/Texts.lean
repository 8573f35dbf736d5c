import TypedOps.Proofs.Operator.Phases
import TypedOps.Proofs.Operator.TotalOrder
import TypedOps.Proofs.Text.CodePointOrder

/-!
Texts joined and compared. Two texts of a type are joined to a text of the type (`joins_texts`), and
compared as their sequences of code points are, in lexicographic order (`answers_order_texts`,
`answers_equal_texts`). Main statement: joining is associative, keeps the order and the equality of
what it appends to one text, and gives no text below the one that it continues
(`joined_texts_ordered`).
-/
namespace TypedOps

/-- A text at a type. -/
def Object.ofText (ty : Ty) (s : String) : Object :=
  ⟨.text s, ty⟩

theorem Object.ofText_ofKind {ty : Ty} (storage : ty.storage = .string) (word : WordSize)
    (s : String) : (ofText ty s).OfKind word .string where
  formed := by
    rw [WellFormed, ofText, storage]
    exact .text s
  storage := storage

namespace Engine

/-- Two objects give a sum. -/
def Joins (e : Engine) (left right sum : Object) : Prop :=
  (e.evaluateBinary left right (.binary (.arithmetic .add))).result = .ok sum

section

variable {e : Engine} {ty : Ty} (storage : ty.storage = .string)

include storage

/-- The sum of two texts of a type is the one followed by the other, a text of the type. -/
theorem joins_texts (s t : String) :
    e.Joins (.ofText ty s) (.ofText ty t) (.ofText ty (s ++ t)) := by
  have typed (s : String) : (Object.ofText ty s).isUntyped = false :=
    (Object.ofText_ofKind storage e.word s).typed
  rw [Joins, evaluateBinary_result]
  show (e.arithmetic .add _ _).result = _
  rw [arithmetic_typed (typed s) (typed t)]
  simp only [Object.ofText, storage, ArithmeticOp.onValues, Value.toText?]
  rfl

/-- The order of two texts of a type is that of their code points. -/
theorem answers_order_texts (op : OrderOp) (s t : String) :
    e.Answers (.order op) (.ofText ty s) (.ofText ty t)
      (op.holds (decide (Text.codePoints s < Text.codePoints t))
        (decide (Text.codePoints t < Text.codePoints s)) (decide (s = t))) := by
  have answers := answers_standing (e := e) rfl (Object.ofText_ofKind storage e.word s)
    (Object.ofText_ofKind storage e.word t) (.order op)
  rw [Object.ofText, Object.ofText, Value.standing?, ← OrderOp.holds_cmp] at answers
  simp only [Text.bytes_lt_iff, Text.bytes_injective.eq_iff] at answers
  exact answers

/-- Two texts of a type are equal if they are the same text. -/
theorem answers_equal_texts (s t : String) :
    e.Answers .equal (.ofText ty s) (.ofText ty t) (decide (s = t)) := by
  have answers := answers_standing (e := e) rfl (Object.ofText_ofKind storage e.word s)
    (Object.ofText_ofKind storage e.word t) .equal
  rw [Object.ofText, Object.ofText, Value.standing?, ComparisonOp.accepts_equal_cmp] at answers
  simp only [Text.bytes_injective.eq_iff] at answers
  exact answers

/-- A text is not above one that continues it. -/
theorem answers_lessEqual_continued (s t : String) :
    e.Answers (.order .lessEqual) (.ofText ty s) (.ofText ty (s ++ t)) true := by
  have answers := answers_order_texts (e := e) storage .lessEqual s (s ++ t)
  have holds : OrderOp.holds .lessEqual (decide (Text.codePoints s < Text.codePoints (s ++ t)))
      (decide (Text.codePoints (s ++ t) < Text.codePoints s)) (decide (s = s ++ t)) = true := by
    rw [OrderOp.holds, Bool.or_eq_true, decide_eq_true_iff, decide_eq_true_iff]
    by_cases empty : t = ""
    · exact .inr (Text.eq_append_iff.mpr empty)
    · exact .inl (Text.codePoints_lt_append empty)
  rwa [holds] at answers

end

/-- Joining and comparing texts of a type, of any length and with any code points. Joining is
associative. Texts that continue one text compare as what they continue it with. A text is not above
one that continues it, and equals it if it is continued with nothing. The order is that of the code
points, the first that differs deciding and a text coming before what continues it. -/
theorem joined_texts_ordered (e : Engine) {ty : Ty} (storage : ty.storage = .string)
    (p a b c : String) :
    (∃ ab bc left right, e.Joins (.ofText ty a) (.ofText ty b) ab ∧
      e.Joins ab (.ofText ty c) left ∧ e.Joins (.ofText ty b) (.ofText ty c) bc ∧
      e.Joins (.ofText ty a) bc right ∧ e.Answers .equal left right true) ∧
    (∃ pa pb, e.Joins (.ofText ty p) (.ofText ty a) pa ∧
      e.Joins (.ofText ty p) (.ofText ty b) pb ∧
      e.Answers (.order .less) pa pb (decide (Text.codePoints a < Text.codePoints b)) ∧
      e.Answers .equal pa pb (decide (a = b))) ∧
    (∃ ab, e.Joins (.ofText ty a) (.ofText ty b) ab ∧
      e.Answers (.order .lessEqual) (.ofText ty a) ab true ∧
      e.Answers .equal (.ofText ty a) ab (decide (b = ""))) ∧
    e.Answers (.order .less) (.ofText ty a) (.ofText ty b)
      (decide (Text.codePoints a < Text.codePoints b)) ∧
    e.Answers .equal (.ofText ty a) (.ofText ty b) (decide (a = b)) := by
  have joins (s t : String) := joins_texts (e := e) storage s t
  have less (s t : String) := answers_order_texts (e := e) storage .less s t
  have equal (s t : String) := answers_equal_texts (e := e) storage s t
  refine ⟨?_, ?_, ?_, less a b, equal a b⟩
  · have associative := equal (a ++ b ++ c) (a ++ (b ++ c))
    rw [decide_eq_true String.append_assoc] at associative
    exact ⟨_, _, _, _, joins a b, joins (a ++ b) c, joins b c, joins a (b ++ c), associative⟩
  · have below := less (p ++ a) (p ++ b)
    have same := equal (p ++ a) (p ++ b)
    simp only [OrderOp.holds, Text.codePoints_append_lt_iff] at below
    simp only [String.append_right_inj] at same
    exact ⟨_, _, joins p a, joins p b, below, same⟩
  · have same := equal a (a ++ b)
    simp only [Text.eq_append_iff] at same
    exact ⟨_, joins a b, answers_lessEqual_continued storage a b, same⟩

/-- With a word of 32 bits, words of a declared type continued by a ligature and by a symbol that is
above it, though of their units of 16 bits the symbol has the lower one first. -/
theorem joined_texts_ordered_symbol :
    let e : Engine := { word := .w32 }
    let word (s : String) : Object := .ofText (.named ⟨"Word", "main", 21⟩ (.basic .string)) s
    (∃ ligature symbol, e.Joins (word "of") (word "ﬀ") ligature ∧
        e.Joins (word "of") (word "😀") symbol ∧
        e.Answers (.order .less) ligature symbol true ∧ e.Answers .equal ligature symbol false) ∧
      ∃ both, e.Joins (word "ﬀ") (word "😀") both ∧
        e.Answers (.order .lessEqual) (word "ﬀ") both true ∧
        e.Answers .equal (word "ﬀ") both false := by
  intro e word
  have storage : (Ty.named ⟨"Word", "main", 21⟩ (.basic .string)).storage = .string := rfl
  have points : decide (Text.codePoints "ﬀ" < Text.codePoints "😀") = true := by decide +kernel
  have different : decide ("ﬀ" = "😀") = false := by decide +kernel
  have continued : decide ("😀" = "") = false := by decide +kernel
  obtain ⟨_, ⟨ligature, symbol, joins, joinsOther, less, equal⟩, both, _⟩ :=
    joined_texts_ordered e storage "of" "ﬀ" "😀" ""
  rw [points] at less
  rw [different] at equal
  rw [continued] at both
  exact ⟨⟨ligature, symbol, joins, joinsOther, less, equal⟩, both⟩

end Engine

end TypedOps
