import TypedOps.Operator.Evaluate
import TypedOps.Proofs.Operator.Typing

/-!
The log of an evaluation. An operand takes its type with nothing to warn of or with one warning that
may be due, and whether warnings are asked for decides no more than that (`Engine.SameTyping`). Two
things follow. Typing the operands leaves nothing but warnings, no more of them than there are
constants (`operands_warnings`); the operators add nothing to that (`apply_warnings`), and the
comparisons only tell of the conversion that equality across types needs (`comparisonTruth_lines`).
And with the warnings left out of the log, a computation is the same with the option either way:
`Logged.unwarned` takes sequences to sequences (`Logged.unwarned_bind`), so that it is enough to
look at single operands. Main statement: what both evaluations log, line by line, and what the
option changes of it (`log_shape`).
-/
namespace TypedOps

namespace Event

/-- An event as it is seen. -/
structure Line where
  level : Level
  message : String
  fields : List (String × String)
  deriving DecidableEq

def line (ev : Event) : Line :=
  ⟨ev.level, ev.message, ev.fields⟩

def isWarning (ev : Event) : Bool :=
  decide (ev.level = .warn)

/-- The report of a fault is no warning. -/
theorem isWarning_ofFault (op : Token) (f : Fault) : (ofFault op f).isWarning = false := by
  cases f <;> rfl

/-- A warning of a constant that was cut off, on its own or facing a type. -/
def Line.IsTruncation (line : Line) : Prop :=
  line.level = .warn ∧ (line.message = "Untyped integer constant truncated to int" ∨
    line.message = "Untyped integer constant truncated")

/-- No more lines than so many, all of them warnings of truncation. -/
structure Warnings (most : Nat) (lines : List Line) : Prop where
  truncations : ∀ line ∈ lines, line.IsTruncation
  bounded : lines.length ≤ most

namespace Warnings

variable {n k : Nat} {lines more : List Line}

theorem none (n : Nat) : Warnings n [] :=
  ⟨fun _ => (nomatch ·), Nat.zero_le n⟩

theorem truncatedToInt (c : Constant) (kept : Int) (word : WordSize) :
    Warnings 1 [line (.truncatedToInt c kept word)] :=
  ⟨List.forall_mem_singleton.mpr ⟨rfl, .inl rfl⟩, Nat.le_refl 1⟩

theorem truncated (c : Constant) (ty : Ty) : Warnings 1 [line (.truncated c ty)] :=
  ⟨List.forall_mem_singleton.mpr ⟨rfl, .inr rfl⟩, Nat.le_refl 1⟩

theorem append (first : Warnings n lines) (second : Warnings k more) :
    Warnings (n + k) (lines ++ more) where
  truncations line member := (List.mem_append.mp member).elim (first.truncations line)
    (second.truncations line)
  bounded := by
    rw [List.length_append]
    exact Nat.add_le_add first.bounded second.bounded

theorem mono (warnings : Warnings n lines) (more : n ≤ k) : Warnings k lines :=
  ⟨warnings.truncations, Nat.le_trans warnings.bounded more⟩

end Warnings

/-- One line that tells of a conversion if there is one, and else none. -/
structure ConvertsIff (converted : Prop) (lines : List Line) : Prop where
  told : converted → ∃ source target : Ty, lines =
    [⟨.debug, "Converting operand for equality", [("from", source.text), ("to", target.text)]⟩]
  untold : ¬ converted → lines = []

theorem ConvertsIff.none {converted : Prop} (not : ¬ converted) : ConvertsIff converted [] :=
  ⟨fun holds => absurd holds not, fun _ => rfl⟩

/-- The lines that a log closes with. -/
def closing {α : Type} (op : Token) : Except Fault α → List Line
  | .ok _ => []
  | .error (.internal f) =>
    [⟨.error, "Internal operator fault", [("op", op.spelling), ("error", f.message)]⟩]
  | .error (.runtime e) =>
    [⟨.debug, "Runtime error", [("op", op.spelling), ("error", e.message)]⟩]

end Event

namespace Logged

open Event (Warnings)

variable {α β : Type} {m m' : Logged α} {f f' : α → Logged β} {n k : Nat}

/-! ## Lines of sequences -/

def lines (m : Logged α) : List Event.Line :=
  m.log.map Event.line

theorem lines_bind (m : Logged α) (f : α → Logged β) :
    (m >>= f).lines = m.lines ++ match m.result with
      | .ok a => (f a).lines
      | .error _ => [] := by
  rw [lines, bind_log, List.map_append]
  cases m.result <;> rfl

/-- A computation without events adds no lines to what it comes after. -/
theorem lines_bind_eq (quiet : ∀ a, (f a).lines = []) : (m >>= f).lines = m.lines := by
  rw [lines_bind]
  cases m.result with
  | ok a => simp only [quiet a, List.append_nil]
  | error => exact List.append_nil _

theorem warnings_bind (first : Warnings n m.lines) (second : ∀ a, Warnings k (f a).lines) :
    Warnings (n + k) (m >>= f).lines := by
  rw [lines_bind]
  cases m.result with
  | ok a => exact first.append (second a)
  | error => exact first.append (.none k)

theorem warnings_tellIf {option condition : Bool} {ev : Event} (warning : Warnings 1 [ev.line]) :
    Warnings option.toNat (tellIf (option && condition) ev).lines := by
  cases option with
  | false => exact .none 0
  | true =>
    cases condition with
    | false => exact .none 1
    | true => exact warning

/-- A log that opens with what is evaluated and closes with how that failed if it did. -/
theorem reporting_lines (opening : Event) (op : Token) (m : Logged α) :
    let reported : Logged α := do tell opening; m.reporting op
    reported.lines = opening.line :: (m.lines ++ Event.closing op reported.result) := by
  intro reported
  have same : reported.result = m.result := by
    simp only [reported, bind_result, tell_result, reporting_result, Except.bind]
  rw [same, lines_bind, tell_result]
  cases given : m.result with
  | ok a => simp only [reporting, given, Event.closing, List.append_nil]; rfl
  | error fault =>
    cases fault <;> simp only [reporting, given, lines, Event.closing, List.map_append] <;> rfl

/-! ## Computations without their warnings -/

/-- A computation with the warnings left out of its log. -/
def unwarned (m : Logged α) : Logged α :=
  ⟨m.log.filter (!·.isWarning), m.result⟩

theorem unwarned_bind (m : Logged α) (f : α → Logged β) :
    (m >>= f).unwarned = m.unwarned >>= fun a => (f a).unwarned := by
  cases given : m.result with
  | ok a =>
    rw [bind_ok given, bind_ok (m := m.unwarned) given]
    simp only [unwarned, List.filter_append]
  | error e =>
    rw [bind_error given, bind_error (m := m.unwarned) given]
    rfl

/-- Sequences of computations that differ in warnings only do so too. -/
theorem unwarned_bind_congr (first : m.unwarned = m'.unwarned)
    (second : ∀ a, (f a).unwarned = (f' a).unwarned) :
    (m >>= f).unwarned = (m' >>= f').unwarned := by
  rw [unwarned_bind, unwarned_bind, first]
  simp only [second]

theorem unwarned_reporting (op : Token) (m : Logged α) :
    (m.reporting op).unwarned = m.unwarned.reporting op := by
  cases given : m.result with
  | ok a => simp only [reporting, unwarned, given]
  | error fault =>
    simp only [reporting, unwarned, given, List.filter_append, List.filter_cons,
      Event.isWarning_ofFault, Bool.not_false, ↓reduceIte, List.filter_nil]

theorem unwarned_tellIf {condition : Bool} {ev : Event} (warning : ev.isWarning = true) :
    (tellIf condition ev).unwarned = pure () := by
  cases condition with
  | false => rfl
  | true =>
    simp only [unwarned, tellIf, ↓reduceIte, List.filter_cons, warning, Bool.not_true,
      Bool.false_eq_true, List.filter_nil]
    rfl

end Logged

namespace Engine

open Event (Warnings)

variable {e : Engine} {left right x : Object} {ty : Ty}

/-! ## Typing one operand -/

/-- How an operand takes its type, with the option one way and the other: there is nothing to warn
of, or a constant takes it and may lose value, which is told if asked for. -/
inductive SameTyping (on off : Bool) (x : Object) : Logged Object → Logged Object → Prop
  | silent (r : Except Fault Object) : SameTyping on off x (.ofExcept r) (.ofExcept r)
  | told (constant : x.isUntyped = true) (lost : Bool) {ev : Event} (warning : Warnings 1 [ev.line])
    (o : Object) : SameTyping on off x (do .tellIf (on && lost) ev; return o)
      (do .tellIf (off && lost) ev; return o)

section

variable (word : WordSize) (on off : Bool)

theorem normalize_sameTyping (x : Object) :
    SameTyping on off x (normalize ⟨word, on⟩ x) (normalize ⟨word, off⟩ x) := by
  simp only [normalize]
  split
  · exact .silent (.ok x)
  · next u untyped =>
    have constant : x.isUntyped = true := Option.isSome_of_eq_some untyped
    split
    · exact .silent (.error _)
    · exact .silent (.error _)
    · split
      · exact .silent (.error _)
      -- Of the constants that have a default value, only those of class `int` are warned of.
      · split
        · unfold warnOfInt
          split
          · exact .told constant _ (.truncatedToInt ..) _
          · exact .silent (.ok _)
        · exact .silent (.ok _)

theorem represent_sameTyping (x : Object) (ty : Ty) :
    SameTyping on off x (represent ⟨word, on⟩ x ty) (represent ⟨word, off⟩ x ty) := by
  have alone := normalize_sameTyping word on off x
  simp only [represent]
  split
  · exact .silent (.ok x)
  · next u untyped =>
    have constant : x.isUntyped = true := Option.isSome_of_eq_some untyped
    split
    · exact alone
    · split
      · exact .silent (.error _)
      · split
        · exact .silent (.error _)
        -- A number takes the type that it faces, and everything else its default type.
        · split
          · split
            · exact .silent (.error _)
            · unfold warnOfNumber
              split
              · exact .told constant _ (.truncated ..) _
              · exact .silent (.ok _)
          · exact alone

end

theorem SameTyping.warnings {on off : Bool} {m m' : Logged Object}
    (typing : SameTyping on off x m m') : Warnings (on && x.isUntyped).toNat m.lines := by
  cases typing with
  | silent => exact .none _
  | told constant lost warning o =>
    rw [constant, Bool.and_true, Logged.lines_bind_eq fun _ => rfl]
    exact Logged.warnings_tellIf warning

theorem SameTyping.unwarned {on off : Bool} {m m' : Logged Object}
    (typing : SameTyping on off x m m') : m.unwarned = m'.unwarned := by
  cases typing with
  | silent => rfl
  | told constant lost warning o =>
    have isWarning := (List.forall_mem_singleton.mp warning.truncations).1
    apply Logged.unwarned_bind_congr _ fun _ => rfl
    rw [Logged.unwarned_tellIf, Logged.unwarned_tellIf]
    all_goals exact decide_eq_true isWarning

/-! ## Warnings -/

/-- The most warnings that an operand can give. -/
def warningsDue (e : Engine) (x : Object) : Nat :=
  (e.warnOnTruncation && x.isUntyped).toNat

theorem normalize_warnings (e : Engine) (x : Object) :
    Warnings (e.warningsDue x) (e.normalize x).lines :=
  (normalize_sameTyping e.word e.warnOnTruncation e.warnOnTruncation x).warnings

theorem represent_warnings (e : Engine) (x : Object) (ty : Ty) :
    Warnings (e.warningsDue x) (e.represent x ty).lines :=
  (represent_sameTyping e.word e.warnOnTruncation e.warnOnTruncation x ty).warnings

theorem operands_warnings (e : Engine) (left right : Object) :
    Warnings (e.warningsDue left + e.warningsDue right) (e.operands left right).lines := by
  unfold operands
  split
  · rw [Logged.lines_bind_eq fun _ => rfl]
    exact (e.represent_warnings left _).mono (Nat.le_add_right ..)
  · rw [Logged.lines_bind_eq fun _ => rfl]
    exact (e.represent_warnings right _).mono (Nat.le_add_left ..)
  · apply Logged.warnings_bind (e.normalize_warnings left)
    intro l
    rw [Logged.lines_bind_eq fun _ => rfl]
    exact e.normalize_warnings right

/-- An operator logs what typing its operands logs, a shift what typing its left one does. -/
theorem apply_warnings (e : Engine) (op : BinaryOp) (left right : Object) :
    Warnings (e.warningsDue left + e.warningsDue right) (e.apply op left right).lines := by
  have both := e.operands_warnings left right
  cases op with
  | arithmetic op =>
    rw [apply, arithmetic, Logged.lines_bind_eq]
    · exact both
    · rintro ⟨l, r⟩
      exact Logged.lines_bind_eq fun _ => rfl
  | bit op =>
    rw [apply, bitwise, Logged.lines_bind_eq]
    · exact both
    · rintro ⟨l, r⟩
      dsimp only
      split <;> rfl
  | shift op =>
    rw [apply, shift, Logged.lines_bind_eq]
    · exact (e.normalize_warnings left).mono (Nat.le_add_right ..)
    · intro l
      dsimp only
      split
      · rfl
      · apply Logged.lines_bind_eq
        intro n
        split <;> rfl

/-! ## Conversions -/

/-- Typing the operands succeeds, and then their types differ. An operand that is compared with nil
is not typed by it. -/
def TypedApart (e : Engine) (left right : Object) : Prop :=
  left.isUntypedNil = false ∧ right.isUntypedNil = false ∧
    ∃ l r, (e.operands left right).result = .ok (l, r) ∧ l.ty ≠ r.ty

theorem equalConverted_lines (e : Engine) (source target : Object) :
    (e.equalConverted source target).lines =
      [⟨.debug, "Converting operand for equality",
        [("from", source.ty.text), ("to", target.ty.text)]⟩] := by
  rw [equalConverted, Logged.lines_bind_eq]
  · rfl
  · intro
    split <;> rfl

theorem equalTyped_lines (e : Engine) (l r : Object) :
    Event.ConvertsIff (l.ty ≠ r.ty) (e.equalTyped l r).lines := by
  by_cases same : l.ty = r.ty
  · rw [equalTyped, if_pos same]
    exact .none (not_not_intro same)
  · refine ⟨fun _ => ?_, fun not => absurd same not⟩
    rw [equalTyped, if_neg same]
    split
    · exact ⟨_, _, e.equalConverted_lines l r⟩
    · exact ⟨_, _, e.equalConverted_lines r l⟩

theorem isNil_warnings (e : Engine) (x : Object) :
    Warnings (e.warningsDue x) (e.isNil x).lines := by
  rw [isNil, Logged.lines_bind_eq]
  · exact e.normalize_warnings x
  · intro o
    split <;> rfl

/-- Equality leaves the warnings of typing both operands, or of the one that is compared with nil,
and then the conversion if there is one. -/
theorem equality_lines (e : Engine) (left right : Object) :
    ∃ warnings conversions, Warnings (e.warningsDue left + e.warningsDue right) warnings ∧
      Event.ConvertsIff (e.TypedApart left right) conversions ∧
      (e.equality left right).lines = warnings ++ conversions := by
  by_cases notNil : left.isUntypedNil = false ∧ right.isUntypedNil = false
  · have both := e.operands_warnings left right
    simp only [equality, notNil.1, notNil.2, Logged.lines_bind]
    cases typed : (e.operands left right).result with
    | error fault =>
      refine ⟨_, [], both, .none ?_, rfl⟩
      rintro ⟨_, _, l, r, given, _⟩
      rw [typed] at given
      cases given
    | ok pair =>
      obtain ⟨l, r⟩ := pair
      have apart : e.TypedApart left right ↔ l.ty ≠ r.ty := by
        simp only [TypedApart, notNil, typed, Except.ok.injEq, Prod.mk.injEq, true_and]
        constructor
        · rintro ⟨_, _, ⟨rfl, rfl⟩, different⟩
          exact different
        · exact fun different => ⟨l, r, ⟨rfl, rfl⟩, different⟩
      refine ⟨_, _, both, ?_, rfl⟩
      rw [apart]
      exact e.equalTyped_lines l r
  · refine ⟨_, [], ?_, .none fun apart => notNil ⟨apart.1, apart.2.1⟩, (List.append_nil _).symm⟩
    unfold equality
    split
    · exact .none _
    · exact (e.isNil_warnings right).mono (Nat.le_add_left ..)
    · exact (e.isNil_warnings left).mono (Nat.le_add_right ..)
    · next leftNotNil rightNotNil => exact absurd ⟨leftNotNil, rightNotNil⟩ notNil

/-- Whether a token asks for equality of operands whose types differ once they are typed. -/
def EqualsAcrossTypes (e : Engine) (token : Token) (left right : Object) : Prop :=
  (token = .comparison .equal ∨ token = .comparison .notEqual) ∧ e.TypedApart left right

theorem comparisonTruth_lines (e : Engine) (op : ComparisonOp) (left right : Object) :
    ∃ warnings conversions, Warnings (e.warningsDue left + e.warningsDue right) warnings ∧
      Event.ConvertsIff (e.EqualsAcrossTypes (.comparison op) left right) conversions ∧
      (e.comparisonTruth op left right).lines = warnings ++ conversions := by
  have equality := e.equality_lines left right
  cases op with
  | order op =>
    have ordering : ¬ e.EqualsAcrossTypes (.comparison (.order op)) left right := by
      rintro ⟨asked | asked, _⟩ <;> cases asked
    refine ⟨_, [], ?_, .none ordering, (List.append_nil _).symm⟩
    rw [comparisonTruth, ordered, Logged.lines_bind_eq]
    · exact e.operands_warnings left right
    · rintro ⟨l, r⟩
      dsimp only
      split <;> rfl
  | equal => simpa [comparisonTruth, EqualsAcrossTypes] using equality
  | notEqual =>
    rw [comparisonTruth, Logged.lines_bind_eq fun _ => rfl]
    simpa [EqualsAcrossTypes] using equality

theorem compare_lines (e : Engine) (op : ComparisonOp) (left right : Object) (result : Ty) :
    (e.compare op left right result).lines = (e.comparisonTruth op left right).lines :=
  Logged.lines_bind_eq fun _ => rfl

/-! ## The option -/

section

variable (word : WordSize) (on off : Bool)

theorem normalize_unwarned (x : Object) :
    (normalize ⟨word, on⟩ x).unwarned = (normalize ⟨word, off⟩ x).unwarned :=
  (normalize_sameTyping word on off x).unwarned

theorem represent_unwarned (x : Object) (ty : Ty) :
    (represent ⟨word, on⟩ x ty).unwarned = (represent ⟨word, off⟩ x ty).unwarned :=
  (represent_sameTyping word on off x ty).unwarned

theorem operands_unwarned (left right : Object) :
    (operands ⟨word, on⟩ left right).unwarned = (operands ⟨word, off⟩ left right).unwarned := by
  unfold operands
  split
  · exact Logged.unwarned_bind_congr (represent_unwarned word on off left _) fun _ => rfl
  · exact Logged.unwarned_bind_congr (represent_unwarned word on off right _) fun _ => rfl
  · apply Logged.unwarned_bind_congr (normalize_unwarned word on off left)
    intro l
    exact Logged.unwarned_bind_congr (normalize_unwarned word on off right) fun _ => rfl

theorem apply_unwarned (op : BinaryOp) (left right : Object) :
    (apply ⟨word, on⟩ op left right).unwarned = (apply ⟨word, off⟩ op left right).unwarned := by
  cases op with
  | arithmetic => exact Logged.unwarned_bind_congr (operands_unwarned ..) fun _ => rfl
  | bit => exact Logged.unwarned_bind_congr (operands_unwarned ..) fun _ => rfl
  | shift => exact Logged.unwarned_bind_congr (normalize_unwarned ..) fun _ => rfl

theorem equality_unwarned (left right : Object) :
    (equality ⟨word, on⟩ left right).unwarned = (equality ⟨word, off⟩ left right).unwarned := by
  unfold equality
  split
  · rfl
  · exact Logged.unwarned_bind_congr (normalize_unwarned ..) fun _ => rfl
  · exact Logged.unwarned_bind_congr (normalize_unwarned ..) fun _ => rfl
  · exact Logged.unwarned_bind_congr (operands_unwarned ..) fun _ => rfl

theorem compare_unwarned (op : ComparisonOp) (left right : Object) (result : Ty) :
    (compare ⟨word, on⟩ op left right result).unwarned =
      (compare ⟨word, off⟩ op left right result).unwarned := by
  refine Logged.unwarned_bind_congr ?_ fun _ => rfl
  cases op with
  | order => exact Logged.unwarned_bind_congr (operands_unwarned ..) fun _ => rfl
  | equal => exact equality_unwarned ..
  | notEqual => exact Logged.unwarned_bind_congr (equality_unwarned ..) fun _ => rfl

/-- The option changes nothing but the warnings that an operator logs. -/
theorem evaluateBinary_unwarned (left right : Object) (token : Token) :
    (evaluateBinary ⟨word, on⟩ left right token).unwarned =
      (evaluateBinary ⟨word, off⟩ left right token).unwarned := by
  refine Logged.unwarned_bind_congr rfl fun _ => ?_
  rw [Logged.unwarned_reporting, Logged.unwarned_reporting]
  cases token with
  | binary op => rw [apply_unwarned]
  | _ => rfl

/-- The option changes nothing but the warnings that a comparison logs. -/
theorem evaluateComparison_unwarned (left right : Object) (token : Token) (result : Ty) :
    (evaluateComparison ⟨word, on⟩ left right token result).unwarned =
      (evaluateComparison ⟨word, off⟩ left right token result).unwarned := by
  refine Logged.unwarned_bind_congr rfl fun _ => ?_
  rw [Logged.unwarned_reporting, Logged.unwarned_reporting]
  cases token with
  | comparison op => rw [compare_unwarned]
  | _ => rfl

end

/-! ## The log as a whole -/

/-- The warnings that an evaluation may leave. -/
structure Warns (e : Engine) (left right : Object) (lines : List Event.Line) : Prop where
  truncations : ∀ line ∈ lines, line.IsTruncation
  at_most_two : lines.length ≤ 2
  at_most_one : ¬ (left.isUntyped = true ∧ right.isUntyped = true) → lines.length ≤ 1
  none_if_off : e.warnOnTruncation = false → lines = []

theorem warns_of_warnings {lines : List Event.Line}
    (warnings : Warnings (e.warningsDue left + e.warningsDue right) lines) :
    e.Warns left right lines := by
  have bounded := warnings.bounded
  have leftDue : e.warningsDue left ≤ 1 := Bool.toNat_le _
  have rightDue : e.warningsDue right ≤ 1 := Bool.toNat_le _
  refine ⟨warnings.truncations, by omega, ?_, ?_⟩
  · intro notBoth
    have typed : e.warningsDue left = 0 ∨ e.warningsDue right = 0 := by
      by_cases untyped : left.isUntyped = true
      · have typed : ¬ right.isUntyped = true := fun other => notBoth ⟨untyped, other⟩
        exact .inr (by simp [warningsDue, typed])
      · exact .inl (by simp [warningsDue, untyped])
    omega
  · intro off
    simp only [warningsDue, off, Bool.false_and, Bool.toNat_false] at bounded
    exact List.length_eq_zero_iff.mp (Nat.le_zero.mp bounded)

/-- What an evaluation logs, line by line: first what is evaluated, then at most the warnings that
are due, and last the fault that ended it, if one did, as an error or as a runtime error. A
comparison tells in between of the conversion that equality across types needs. Whether warnings are
asked for changes nothing but the warnings: neither the result nor any other event. -/
theorem log_shape (e : Engine) (left right : Object) (token : Token) :
    (∃ warnings, e.Warns left right warnings ∧
      (e.evaluateBinary left right token).lines =
        ⟨.trace, "Evaluating binary operator",
          [("op", token.spelling), ("left", left.ty.text), ("right", right.ty.text)]⟩ ::
        (warnings ++ Event.closing token (e.evaluateBinary left right token).result)) ∧
    (∀ result, ∃ warnings conversions, e.Warns left right warnings ∧
      Event.ConvertsIff (e.EqualsAcrossTypes token left right) conversions ∧
      (e.evaluateComparison left right token result).lines =
        ⟨.trace, "Evaluating comparison",
          [("op", token.spelling), ("left", left.ty.text), ("right", right.ty.text),
            ("result", result.text)]⟩ ::
        (warnings ++ conversions ++
          Event.closing token (e.evaluateComparison left right token result).result)) ∧
    ∀ warn, let other := { e with warnOnTruncation := warn }
      (other.evaluateBinary left right token).unwarned =
        (e.evaluateBinary left right token).unwarned ∧
      ∀ result, (other.evaluateComparison left right token result).unwarned =
        (e.evaluateComparison left right token result).unwarned := by
  refine ⟨?binary, ?comparison, ?option⟩
  case binary =>
    unfold evaluateBinary
    rw [Logged.reporting_lines]
    refine ⟨_, warns_of_warnings ?_, rfl⟩
    cases token with
    | binary op => exact e.apply_warnings op left right
    | _ => exact .none _
  case comparison =>
    intro result
    unfold evaluateComparison
    rw [Logged.reporting_lines]
    cases token with
    | comparison op =>
      obtain ⟨warnings, conversions, due, converts, truth⟩ := e.comparisonTruth_lines op left right
      refine ⟨warnings, conversions, warns_of_warnings due, converts, ?_⟩
      rw [← truth, ← e.compare_lines op left right result]
      rfl
    | _ =>
      exact ⟨[], [], warns_of_warnings (.none _), .none (by simp [EqualsAcrossTypes]), rfl⟩
  case option =>
    intro warn
    exact ⟨evaluateBinary_unwarned .., fun _ => evaluateComparison_unwarned ..⟩

/-- A constant past the word is compared with a text: it is cut off, and no `int` becomes a text. -/
example :
    let e : Engine := { word := .w32 }
    let past : Object := .constant .int (.integer 2147483648)
    let name : Object := ⟨.text "go", .basic .string⟩
    let int : Ty := .basic (.integer .int)
    (e.evaluateComparison past name (.comparison .equal) (.basic .bool)).log =
      [.evaluatingComparison (.comparison .equal) past.ty name.ty (.basic .bool),
        .truncatedToInt (.integer 2147483648) (-2147483648) .w32,
        .convertingForEquality name.ty int,
        .internalFault (.comparison .equal) (.notConvertible name.ty int)] := by
  decide +kernel

end Engine

end TypedOps
