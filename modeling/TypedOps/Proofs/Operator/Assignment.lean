import TypedOps.Session
import TypedOps.Proofs.Operator.Consistency
import TypedOps.Proofs.Operator.ResultType

/-!
Compound assignment. A variable takes the result of the operator where there is one, and keeps what
it holds where the operator fails (`Engine.assign`). An operator with a typed left operand gives a
result of the same type (`apply_ty`), so that each step keeps the type of a typed variable
(`assign_ty`), and a step that succeeds leaves a value of that type, which later steps keep too
(`assign_wellFormed`). Main statements: this holds over every sequence of compound assignments
(`assignAll_keeps_type`), and in a session for every variable that is only written by them
(`Session.run_keeps_type`).
-/
namespace TypedOps

namespace Engine

/-- What a compound assignment puts into a variable: the result of the token's operator on what the
variable holds and the right operand. -/
def assigned? (e : Engine) (x : Object) (token : Token) (right : Object) : Option Object :=
  token.base?.bind fun op => (e.evaluateBinary x right (.binary op)).result.toOption

/-- What a variable holds after a compound assignment, which leaves it alone where it fails. -/
def assign (e : Engine) (x : Object) (step : Token × Object) : Object :=
  (e.assigned? x step.1 step.2).getD x

/-- What a variable holds after a sequence of compound assignments. -/
def assignAll (e : Engine) (x : Object) (steps : List (Token × Object)) : Object :=
  steps.foldl e.assign x

variable {e : Engine} {x o l r left right : Object} {token : Token} {step : Token × Object}

/-! ## One operator -/

/-- A typed left operand stays as it is, whatever faces it. -/
theorem operands_left_stays (typed : left.isUntyped = false)
    (given : (e.operands left right).result = .ok (l, r)) : l = left := by
  cases untyped : right.isUntyped with
  | true => exact (operands_right_ok typed untyped given).1
  | false =>
    rw [operands_typed typed untyped] at given
    cases given
    rfl

/-- The result of an operator has the type of a typed left operand. -/
theorem apply_ty {op : BinaryOp} (typed : left.isUntyped = false)
    (given : (e.apply op left right).result = .ok o) : o.ty = left.ty := by
  cases op with
  | shift op =>
    obtain ⟨l, normal, shifted⟩ := Logged.bind_result_ok_iff.mp given
    rw [normalize_typed typed] at normal
    cases normal
    dsimp only at shifted
    split at shifted
    · cases shifted
    · obtain ⟨_, _, result⟩ := Logged.bind_result_ok_iff.mp shifted
      split at result
      · cases result
        rfl
      · cases result
  | _ =>
    obtain ⟨l, r, operands, same, _⟩ := apply_operands (by rintro shift ⟨⟩) given
    rw [same, operands_left_stays typed operands]

/-! ## One step -/

theorem assigned_eq_some_iff :
    e.assigned? x token right = some o ↔
      ∃ op, token.base? = some op ∧ (e.apply op x right).result = .ok o := by
  simp only [assigned?, Option.bind_eq_some_iff, evaluateBinary_result]
  refine exists_congr fun op => and_congr_right fun _ => ?_
  cases (e.apply op x right).result <;> simp [Except.toOption]

theorem assigned_ty (typed : x.isUntyped = false)
    (given : e.assigned? x token right = some o) : o.ty = x.ty := by
  obtain ⟨op, _, applied⟩ := assigned_eq_some_iff.mp given
  exact apply_ty typed applied

theorem assigned_wellFormed (given : e.assigned? x token right = some o) :
    o.WellFormed e.word := by
  obtain ⟨op, _, applied⟩ := assigned_eq_some_iff.mp given
  exact apply_wellFormed applied

theorem assign_ty (typed : x.isUntyped = false) : (e.assign x step).ty = x.ty := by
  unfold assign
  cases given : e.assigned? x step.1 step.2 with
  | none => rfl
  | some o => exact assigned_ty typed given

/-- A step leaves a value of the variable's type if it succeeds, or if there was one before. -/
theorem assign_wellFormed
    (formed : x.WellFormed e.word ∨ (e.assigned? x step.1 step.2).isSome = true) :
    (e.assign x step).WellFormed e.word := by
  unfold assign
  cases given : e.assigned? x step.1 step.2 with
  | none =>
    rw [given] at formed
    exact formed.resolve_right nofun
  | some o => exact assigned_wellFormed given

/-! ## Every sequence of steps -/

theorem assignAll_ty (typed : x.isUntyped = false) (steps : List (Token × Object)) :
    (e.assignAll x steps).ty = x.ty := by
  induction steps generalizing x with
  | nil => rfl
  | cons step rest ih =>
    have same : (e.assign x step).ty = x.ty := assign_ty typed
    have stays : (e.assign x step).isUntyped = false := by
      rw [Object.isUntyped, same]
      exact typed
    exact (ih stays).trans same

theorem assignAll_wellFormed (formed : x.WellFormed e.word) (steps : List (Token × Object)) :
    (e.assignAll x steps).WellFormed e.word := by
  induction steps generalizing x with
  | nil => exact formed
  | cons step rest ih => exact ih (assign_wellFormed (.inl formed))

/-- Over every sequence of compound assignments, whatever their right operands and whichever of them
fail, a variable of a typed type keeps its type; and once one of them has succeeded, what it holds
is kept as that type is stored, within the word. As the sequence is arbitrary, both hold after each
of its steps. -/
theorem assignAll_keeps_type (e : Engine) (x : Object) (typed : x.isUntyped = false)
    (steps : List (Token × Object)) :
    (e.assignAll x steps).ty = x.ty ∧
      ∀ done step rest, steps = done ++ step :: rest →
        (e.assigned? (e.assignAll x done) step.1 step.2).isSome = true →
          (e.assignAll x steps).Consistent e.word := by
  refine ⟨assignAll_ty typed steps, ?_⟩
  rintro done step rest rfl succeeds
  have split : e.assignAll x (done ++ step :: rest) =
      e.assignAll (e.assign (e.assignAll x done) step) rest := by
    simp only [assignAll, List.foldl_append, List.foldl_cons]
  rw [split]
  exact (assignAll_wellFormed (assign_wellFormed (.inr succeeds)) rest).consistent

/-- With a word of 32 bits, a declared count that holds more than the word: a division by zero and
a text leave it alone, then a constant is added, and a shift by a negative count fails. -/
theorem assignAll_keeps_type_narrow_word :
    let e : Engine := { word := .w32 }
    let count : Ty := .named ⟨"Count", "main", 7⟩ (.basic (.integer .int))
    let wide : Object := ⟨.integer (.ofInt .int 1099511627781), count⟩
    let steps : List (Token × Object) :=
      [(.compound (.arithmetic .quo), ⟨.integer (.ofInt .int 0), count⟩),
        (.compound (.arithmetic .add), ⟨.text "seven", .basic .string⟩),
        (.compound (.arithmetic .add), .constant .float (.rational 7)),
        (.compound (.shift .left), ⟨.integer (.ofInt .int8 (-1)), .basic (.integer .int8)⟩)]
    wide.isUntyped = false ∧ e.assignAll wide (steps.take 2) = wide ∧
      e.assignAll wide steps = ⟨.integer (.ofInt .int 12), count⟩ ∧
      (e.assignAll wide steps).ty = count ∧ (e.assignAll wide steps).Consistent e.word := by
  intro e count wide steps
  have keeps := assignAll_keeps_type e wide rfl steps
  refine ⟨rfl, by decide +kernel, by decide +kernel, keeps.1, ?_⟩
  exact keeps.2 (steps.take 2) _ (steps.drop 3) rfl (by decide +kernel)

end Engine

/-! ## Sessions -/

theorem StepOutcome.ofLogged_ok {m : Logged Object} {o : Object}
    (given : (ofLogged m).result = .ok o) : m.result = .ok o := by
  unfold ofLogged at given
  cases result : m.result with
  | error => simp [result] at given
  | ok z =>
    simp only [result, Except.ok.injEq] at given
    rw [given]

namespace Session

variable {s : Session} {name : String} {x o : Object} {spelling : String} {right : Operand}

/-- Whether steps write a variable by compound assignments only. -/
def OnlyAssigns (name : String) (steps : List (Option String × Step)) : Prop :=
  ∀ target step, (target, step) ∈ steps → step.target?.or target = some name →
    ∃ spelling right, step = .assign name spelling right

/-- The session after a step, with the result stored where it belongs. -/
def next (s : Session) (step : Option String × Step) : Session :=
  s.after (step.2.target?.or step.1) (s.outcome step.2)

/-- A step gives an object only by an evaluation that succeeds. -/
theorem outcome_ok {step : Step} (given : (s.outcome step).result = .ok o) :
    ∃ m, s.evaluation step = .ok m ∧ m.result = .ok o := by
  unfold outcome at given
  cases evaluated : s.evaluation step with
  | error => simp [evaluated, StepOutcome.refused] at given
  | ok m =>
    rw [evaluated] at given
    exact ⟨m, rfl, StepOutcome.ofLogged_ok given⟩

/-- A compound assignment gives what the engine puts into the variable. -/
theorem outcome_assign (held : s.bindings.lookup name = some x)
    (given : (s.outcome (.assign name spelling right)).result = .ok o) :
    ∃ token y, s.engine.assigned? x token y = some o := by
  have read : s.object (.variable name) = .ok x := by simp only [object, held]
  obtain ⟨m, evaluated, result⟩ := outcome_ok given
  simp only [evaluation, read, Bind.bind, Except.bind] at evaluated
  split at evaluated
  · cases evaluated
  · next token _ =>
    split at evaluated
    · cases evaluated
    · next op base =>
      split at evaluated
      · cases evaluated
      · next y _ =>
        cases evaluated
        exact ⟨token, y, by simp only [Engine.assigned?, base, Option.bind_some, result,
          Except.toOption]⟩

theorem lookup_store_self (s : Session) (name : String) (x : Object) :
    (s.store name x).bindings.lookup name = some x := by
  simp [store]

theorem lookup_store_of_ne {other : String} (different : other ≠ name) :
    (s.store other x).bindings.lookup name = s.bindings.lookup name := by
  simp [store, List.lookup_cons, beq_false_of_ne (Ne.symm different)]

/-- A step that writes a variable by a compound assignment, if it writes it at all, leaves it at its
type. -/
theorem next_keeps_type {step : Option String × Step} (held : s.bindings.lookup name = some x)
    (typed : x.isUntyped = false)
    (only : step.2.target?.or step.1 = some name →
      ∃ spelling right, step.2 = .assign name spelling right) :
    ∃ y, (s.next step).bindings.lookup name = some y ∧ y.ty = x.ty := by
  unfold next after
  split
  · next other y target result =>
    by_cases same : other = name
    · subst same
      obtain ⟨spelling, right, assigns⟩ := only target
      rw [assigns] at result
      obtain ⟨token, z, given⟩ := outcome_assign held result
      exact ⟨y, lookup_store_self s _ y, Engine.assigned_ty typed given⟩
    · exact ⟨x, (lookup_store_of_ne same).trans held, rfl⟩
  · exact ⟨x, held, rfl⟩

theorem next_engine (s : Session) (step : Option String × Step) :
    (s.next step).engine = s.engine := by
  unfold next after
  split <;> rfl

/-- In a session, a variable of a typed type that only compound assignments write keeps its type:
whatever the other steps do, each of these assignments that succeeds gives a value of the type. -/
theorem run_keeps_type (held : s.bindings.lookup name = some x) (typed : x.isUntyped = false)
    {steps : List (Option String × Step)} (only : OnlyAssigns name steps) {i : Nat}
    {target : Option String} (assigns : steps[i]? = some (target, .assign name spelling right))
    {outcome : StepOutcome} (given : (s.run steps)[i]? = some outcome)
    (succeeds : outcome.result = .ok o) :
    o.ty = x.ty ∧ o.Consistent s.engine.word := by
  induction steps generalizing s x i with
  | nil => cases assigns
  | cons step rest ih =>
    cases i with
    | zero =>
      cases assigns
      cases given
      obtain ⟨token, y, assigned⟩ := outcome_assign held succeeds
      exact ⟨Engine.assigned_ty typed assigned, (Engine.assigned_wellFormed assigned).consistent⟩
    | succ i =>
      obtain ⟨y, still, same⟩ := next_keeps_type held typed (only _ _ (List.mem_cons_self ..))
      have stays : y.isUntyped = false := by
        rw [Object.isUntyped, same]
        exact typed
      have later := ih still stays
        (fun target step member => only target step (List.mem_cons_of_mem _ member)) assigns given
      rwa [same, next_engine] at later

end Session

end TypedOps
