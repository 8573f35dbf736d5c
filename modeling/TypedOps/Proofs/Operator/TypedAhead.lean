import TypedOps.Proofs.Operator.ConstantTyping

/-!
Constants typed ahead of time. Every operator but the shifts types its operands before anything
else, so that operands which are typed to the same pair are interchangeable
(`interchangeable_of_operands`), and what has its type already keeps it. Main statement: a constant
may be replaced by what it becomes facing the other operand, two constants by their defaults, and a
shifted constant by its default, without any change of the outcome (`typed_ahead`).
-/
namespace TypedOps.Engine

variable {e : Engine} {left right l r x c o : Object} {ty : Ty}

/-- Two pairs of operands with the same outcome under every binary operator but the shifts and
under every comparison. -/
structure Interchangeable (e : Engine) (left right l r : Object) : Prop where
  binary : ∀ token, (∀ op, token ≠ .binary (.shift op)) →
    (e.evaluateBinary left right token).result = (e.evaluateBinary l r token).result
  comparison : ∀ token result,
    (e.evaluateComparison left right token result).result =
      (e.evaluateComparison l r token result).result

/-! ## Only the typed operands matter -/

section

variable (same : (e.operands left right).result = (e.operands l r).result)

include same

theorem evaluateBinary_of_operands {token : Token}
    (notShift : ∀ op, token ≠ .binary (.shift op)) :
    (e.evaluateBinary left right token).result = (e.evaluateBinary l r token).result := by
  rw [evaluateBinary_result, evaluateBinary_result]
  cases token with
  | binary op =>
    have plain := BinaryOp.isPlain_of_token notShift
    show (e.apply op left right).result = (e.apply op l r).result
    rw [apply_eq_bind plain, apply_eq_bind plain, same]
  | _ => rfl

theorem evaluateComparison_of_operands (leftNotNil : left.isUntypedNil = false)
    (rightNotNil : right.isUntypedNil = false) (lNotNil : l.isUntypedNil = false)
    (rNotNil : r.isUntypedNil = false) (token : Token) (result : Ty) :
    (e.evaluateComparison left right token result).result =
      (e.evaluateComparison l r token result).result := by
  rw [evaluateComparison_result, evaluateComparison_result]
  cases token with
  | comparison op =>
    show (e.compare op left right result).result = (e.compare op l r result).result
    rw [compare_eq_bind, compare_eq_bind, comparisonTruth_eq_bind op leftNotNil rightNotNil,
      comparisonTruth_eq_bind op lNotNil rNotNil, same]
  | _ => rfl

end

/-- Operands are interchangeable with the pair that they are typed to. -/
theorem interchangeable_of_operands (leftNotNil : left.isUntypedNil = false)
    (rightNotNil : right.isUntypedNil = false)
    (given : (e.operands left right).result = .ok (l, r)) : e.Interchangeable left right l r := by
  obtain ⟨lTyped, rTyped⟩ := operands_ok_typed given
  have same : (e.operands left right).result = (e.operands l r).result := by
    rw [given, operands_typed lTyped rTyped]
  exact ⟨fun token notShift => evaluateBinary_of_operands same notShift,
    evaluateComparison_of_operands same leftNotNil rightNotNil (Object.not_untypedNil lTyped)
      (Object.not_untypedNil rTyped)⟩

/-! ## How operands are typed -/

/-- Nil takes no type on its own. -/
theorem normalize_ok_not_nil (given : (e.normalize x).result = .ok o) : x.isUntypedNil = false := by
  rcases normalize_ok given with ⟨typed, _⟩ | ⟨u, c, kind, v, rfl, default, _⟩
  · exact Object.not_untypedNil typed
  · exact Object.constant_not_untypedNil (UntypedKind.ne_nil_of_default default)

/-- Nor does it facing another type. -/
theorem represent_ok_not_nil (given : (e.represent x ty).result = .ok o) :
    x.isUntypedNil = false := by
  rw [Bool.eq_false_iff]
  intro isNil
  obtain ⟨value, source⟩ := x
  obtain rfl := Ty.isUntypedNil_iff.mp isNil
  have normal : e.represent ⟨value, .basic (.untyped .nil)⟩ ty =
      e.normalize ⟨value, .basic (.untyped .nil)⟩ := by
    simp only [represent, Ty.untyped?, true_or, ↓reduceIte]
  rw [normal] at given
  have notNil := normalize_ok_not_nil given
  rw [isNil] at notNil
  cases notNil

section

variable (typed : x.isUntyped = false) (given : (e.represent c x.ty).result = .ok o)

include typed given

/-- A constant that faces a typed operand on its left takes the operand's type first. -/
theorem operands_facing_left : (e.operands x c).result = .ok (x, o) := by
  by_cases untyped : c.isUntyped = true
  · rw [operands_right typed untyped, given]
    rfl
  · rw [Bool.not_eq_true] at untyped
    rw [represent_typed untyped] at given
    cases given
    exact operands_typed typed untyped

/-- So does one that faces a typed operand on its right. -/
theorem operands_facing_right : (e.operands c x).result = .ok (o, x) := by
  by_cases untyped : c.isUntyped = true
  · rw [operands_left untyped typed, given]
    rfl
  · rw [Bool.not_eq_true] at untyped
    rw [represent_typed untyped] at given
    cases given
    exact operands_typed untyped typed

end

/-- A shift does to an object what it does to the object at its default type. -/
theorem shift_of_normalize (given : (e.normalize x).result = .ok o) (op : ShiftOp)
    (count : Object) : (e.shift op x count).result = (e.shift op o count).result := by
  have typed := normalize_ok_typed given
  simp only [shift, Logged.bind_result, given, normalize_typed typed, Logged.pure_result]

/-- Typing constants ahead of time changes no outcome. An operand that faces a typed one may be
replaced by what it becomes there, on either side, and two constants by what they become on their
own; this goes for every binary operator but the shifts and for every comparison at every type. The
left operand of a shift may be replaced by what it becomes on its own, whatever the count. -/
theorem typed_ahead (e : Engine) :
    (∀ x c o : Object, x.isUntyped = false → (e.represent c x.ty).result = .ok o →
      e.Interchangeable x c x o ∧ e.Interchangeable c x o x) ∧
    (∀ c d o p : Object, c.isUntyped = true → d.isUntyped = true →
      (e.normalize c).result = .ok o → (e.normalize d).result = .ok p →
      e.Interchangeable c d o p) ∧
    ∀ (op : ShiftOp) (x o count : Object), (e.normalize x).result = .ok o →
      (e.evaluateBinary x count (.binary (.shift op))).result =
        (e.evaluateBinary o count (.binary (.shift op))).result := by
  refine ⟨?facing, ?constants, ?shifted⟩
  case facing =>
    intro x c o typed given
    have notNil := Object.not_untypedNil typed
    have constantNotNil := represent_ok_not_nil given
    exact ⟨interchangeable_of_operands notNil constantNotNil (operands_facing_left typed given),
      interchangeable_of_operands constantNotNil notNil (operands_facing_right typed given)⟩
  case constants =>
    intro c d o p untyped otherUntyped normal otherNormal
    have given : (e.operands c d).result = .ok (o, p) := by
      rw [operands_constants untyped otherUntyped, normal, otherNormal]
      rfl
    exact interchangeable_of_operands (normalize_ok_not_nil normal)
      (normalize_ok_not_nil otherNormal) given
  case shifted =>
    intro op x o count given
    rw [evaluateBinary_result, evaluateBinary_result]
    exact shift_of_normalize given op count

/-- With a word of 32 bits: `300` of class rune is cut to `44` facing a declared byte, also if it is
so beforehand; a text takes its default type there, and neither of the two is comparable with the
byte. An integer constant and a fraction are compared as an `int` and a `float64`. -/
theorem typed_ahead_narrow_word :
    let e : Engine := { word := .w32 }
    let size : Ty := .named ⟨"Size", "main", 7⟩ (.basic (.integer .uint8))
    let x : Object := ⟨.integer (.ofInt .uint8 200), size⟩
    let number : Object := .constant .rune (.integer 300)
    let cut : Object := ⟨.integer (.ofInt .uint8 44), size⟩
    let text : Object := .constant .string (.text "go")
    let one : Object := .constant .int (.integer 1)
    let fraction : Object := .constant .float (.rational (3 / 2))
    let bool : Ty := .basic .bool
    (e.represent number size).result = .ok cut ∧
      (e.evaluateBinary number x (.binary (.arithmetic .sub))).result =
        .ok ⟨.integer (.ofInt .uint8 100), size⟩ ∧
      (e.evaluateComparison x text (.comparison .equal) bool).result =
        .error (.internal (.notConvertible (.basic .string) size)) ∧
      (e.evaluateComparison one fraction (.comparison .notEqual) bool).result =
        .ok ⟨.bool false, bool⟩ ∧
      (e.evaluateBinary fraction one (.binary (.shift .left))).result =
        .error (.internal (.invalidOperands (.binary (.shift .left)) (.basic (.float .binary64))
          (.basic (.untyped .int)))) := by
  intro e size x number cut text one fraction bool
  obtain ⟨facing, constants, shifted⟩ := typed_ahead e
  have becomesCut : (e.represent number size).result = .ok cut :=
    Logged.ok_of_toOption (by decide +kernel)
  have becomesText : (e.represent text size).result = .ok ⟨.text "go", .basic .string⟩ := rfl
  have becomesOne : (e.normalize one).result =
      .ok ⟨.integer (.ofInt .int 1), .basic (.integer .int)⟩ :=
    Logged.ok_of_toOption (by decide +kernel)
  have becomesFraction : (e.normalize fraction).result =
      .ok ⟨.float .binary64 (.ofRat (3 / 2)), .basic (.float .binary64)⟩ :=
    Logged.ok_of_toOption (by decide +kernel)
  obtain ⟨_, onLeft⟩ := facing x number cut rfl becomesCut
  obtain ⟨onRight, _⟩ := facing x text _ rfl becomesText
  have both := constants one fraction _ _ rfl rfl becomesOne becomesFraction
  refine ⟨becomesCut, ?_, ?_, ?_, ?_⟩
  · rw [onLeft.binary (.binary (.arithmetic .sub)) nofun]
    exact Logged.ok_of_toOption (by decide +kernel)
  · rw [onRight.comparison]
    rfl
  · rw [both.comparison]
    exact Logged.ok_of_toOption (by decide +kernel)
  · rw [shifted .left fraction _ one becomesFraction]
    rfl

end TypedOps.Engine
