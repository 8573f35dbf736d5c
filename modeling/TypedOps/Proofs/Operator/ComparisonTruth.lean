import TypedOps.Proofs.Operator.Phases

/-!
Truth values of comparisons. A comparison first finds whether it holds, and only then gives the
truth value a type (`evaluateComparison_eq_bind`); inequality finds the opposite of what equality
finds (`notEqual_eq_map`). Main statement: at every type a comparison has the same truth value or
the same fault, unless the type takes no truth value, and inequality negates equality
(`truth_at_every_type`).
-/
namespace TypedOps

/-- What comes of a truth value at a type. Declared types stored as truth values are kept, `bool`
and its untyped constants give `bool`, and every other type is refused. -/
structure Object.TruthAt (b : Bool) (ty : Ty) (result : Except Fault Object) : Prop where
  declared : ty.isNamed = true → ty.storage = .bool → result = .ok ⟨.bool b, ty⟩
  plain : ty = .basic .bool ∨ ty = .basic (.untyped .bool) → result = .ok ⟨.bool b, .basic .bool⟩
  refused : ¬ (ty.isNamed = true ∧ ty.storage = .bool) → ty ≠ .basic .bool →
    ty ≠ .basic (.untyped .bool) → result = .error (.internal (.nonBooleanResult ty))

theorem Object.ofTruth_truthAt (b : Bool) (ty : Ty) : TruthAt b ty (ofTruth b ty) where
  declared named stored := by
    cases ty with
    | named d t => exact if_pos stored
    | _ => cases named
  plain := by
    rintro (rfl | rfl) <;> rfl
  refused other notBool notUntyped := by
    cases ty with
    | named d t => exact if_neg fun stored => other ⟨rfl, stored⟩
    | basic k =>
      cases k with
      | bool => exact absurd rfl notBool
      | untyped u =>
        cases u with
        | bool => exact absurd rfl notUntyped
        | _ => rfl
      | _ => rfl
    | _ => rfl

/-- Opposite outcomes of two comparisons: opposite truth values of one type, or one fault. -/
inductive OppositeTruth : Except Fault Object → Except Fault Object → Prop
  | truth (b : Bool) (ty : Ty) : OppositeTruth (.ok ⟨.bool b, ty⟩) (.ok ⟨.bool (!b), ty⟩)
  | fault (f : Fault) : OppositeTruth (.error f) (.error f)

/-- Opposite truth values stay opposite at every type. -/
theorem Object.ofTruth_opposite (b : Bool) (ty : Ty) :
    OppositeTruth (ofTruth b ty) (ofTruth (!b) ty) := by
  unfold ofTruth
  split
  · split
    · exact .truth b _
    · exact .fault _
  · exact .truth b _
  · exact .truth b _
  · exact .fault _

namespace Engine

variable {e : Engine} {left right : Object}

/-- The truth value comes first, and its type last. -/
theorem evaluateComparison_eq_bind (e : Engine) (left right : Object) (op : ComparisonOp)
    (ty : Ty) :
    (e.evaluateComparison left right (.comparison op) ty).result =
      (e.comparisonTruth op left right).result.bind fun b => Object.ofTruth b ty := by
  rw [evaluateComparison_result]
  exact compare_eq_bind

/-- Inequality finds the opposite of what equality finds. -/
theorem notEqual_eq_map (e : Engine) (left right : Object) :
    (e.comparisonTruth .notEqual left right).result =
      (e.comparisonTruth .equal left right).result.map (!·) := by
  simp only [comparisonTruth, Logged.bind_result]
  cases (e.equality left right).result <;> rfl

/-- The truth value of a comparison does not depend on the type that it is asked for at. What holds
or fails to hold at `bool` does so at every type that takes truth values, other types are refused,
and a fault at `bool` is the fault at every type. Inequality has the opposite truth value of
equality or fails as it does, at every type. -/
theorem truth_at_every_type (e : Engine) (left right : Object) :
    (∀ token : Token,
      (∀ o, (e.evaluateComparison left right token (.basic .bool)).result = .ok o →
        ∃ b, o = ⟨.bool b, .basic .bool⟩ ∧
          ∀ ty, Object.TruthAt b ty (e.evaluateComparison left right token ty).result) ∧
      ∀ f, (e.evaluateComparison left right token (.basic .bool)).result = .error f →
        ∀ ty, (e.evaluateComparison left right token ty).result = .error f) ∧
    ∀ ty, OppositeTruth (e.evaluateComparison left right (.comparison .equal) ty).result
      (e.evaluateComparison left right (.comparison .notEqual) ty).result := by
  constructor
  · intro token
    cases token with
    | comparison op =>
      simp only [evaluateComparison_eq_bind]
      cases (e.comparisonTruth op left right).result with
      | error f =>
        refine ⟨?_, fun g fails ty => fails⟩
        rintro o ⟨⟩
      | ok b =>
        refine ⟨?_, ?_⟩
        · rintro o ⟨⟩
          exact ⟨b, rfl, Object.ofTruth_truthAt b⟩
        · rintro f ⟨⟩
    | _ =>
      simp only [evaluateComparison_result]
      refine ⟨?_, fun g fails ty => fails⟩
      rintro o ⟨⟩
  · intro ty
    rw [evaluateComparison_eq_bind, evaluateComparison_eq_bind, notEqual_eq_map]
    cases (e.comparisonTruth .equal left right).result with
    | error f => exact .fault f
    | ok b => exact Object.ofTruth_opposite b ty

/-- A byte that equals a constant does so at a type declared as a declared `bool`, and inequality is
false there; a type declared as the constants of `bool` takes neither. A slice facing a constant
fails before that is seen. -/
theorem truth_at_every_type_flag :
    let e : Engine := { word := .w32 }
    let byte : Object := ⟨.integer (.ofInt .uint8 44), .basic (.integer .uint8)⟩
    let number : Object := .constant .rune (.integer 300)
    let slice : Object := ⟨.reference (.reference .slice) none, .slice (.basic .string)⟩
    let bool : Ty := .basic .bool
    let flag : Ty := .named ⟨"Flag", "main", 7⟩ (.named ⟨"Truth", "main", 1⟩ bool)
    let loose : Ty := .named ⟨"Loose", "main", 9⟩ (.basic (.untyped .bool))
    (e.evaluateComparison byte number (.comparison .equal) bool).result = .ok ⟨.bool true, bool⟩ ∧
      (e.evaluateComparison byte number (.comparison .equal) flag).result =
        .ok ⟨.bool true, flag⟩ ∧
      (e.evaluateComparison byte number (.comparison .notEqual) flag).result =
        .ok ⟨.bool false, flag⟩ ∧
      (e.evaluateComparison byte number (.comparison .equal) loose).result =
        .error (.internal (.nonBooleanResult loose)) ∧
      (e.evaluateComparison slice number (.comparison .equal) loose).result =
        .error (.internal (.notConvertible (.basic .rune) (.slice (.basic .string)))) := by
  intro e byte number slice bool flag loose
  obtain ⟨asked, opposite⟩ := truth_at_every_type e byte number
  obtain ⟨askedSlice, _⟩ := truth_at_every_type e slice number
  have holds : (e.evaluateComparison byte number (.comparison .equal) bool).result =
      .ok ⟨.bool true, bool⟩ := Logged.ok_of_toOption (by decide +kernel)
  have fails : (e.evaluateComparison slice number (.comparison .equal) bool).result =
      .error (.internal (.notConvertible (.basic .rune) (.slice (.basic .string)))) := rfl
  obtain ⟨b, truth, everywhere⟩ := (asked (.comparison .equal)).1 _ holds
  cases truth
  have atFlag := (everywhere flag).declared rfl rfl
  have negated := opposite flag
  rw [atFlag] at negated
  refine ⟨holds, atFlag, ?_, (everywhere loose).refused (by decide) (by decide) (by decide),
    (askedSlice (.comparison .equal)).2 _ fails loose⟩
  generalize (e.evaluateComparison byte number (.comparison .notEqual) flag).result = outcome
    at negated ⊢
  cases negated
  rfl

end Engine

end TypedOps
