import TypedOps.Operator.Evaluate
import TypedOps.Object.Checked

/-!
Sessions. A session runs steps one after another on one engine, with a table of variables. A step
that succeeds may store its result; one that fails stores nothing, and the run goes on.
-/
namespace TypedOps

/-- What a step works on: an object, or what a variable holds. -/
inductive Operand
  | object (x : Object)
  | variable (name : String)

/-- One step. Operators are given by their spelling; a compound assignment stores its result in
the variable that it reads. -/
inductive Step
  | declare (v : Operand)
  | normalize (v : Operand)
  | represent (v : Operand) (ty : Ty)
  | binary (left : Operand) (spelling : String) (right : Operand)
  | compare (left : Operand) (spelling : String) (right : Operand) (result : Ty)
  | assign (name : String) (spelling : String) (right : Operand)

/-- The variable that a step itself writes. -/
def Step.target? : Step → Option String
  | .assign name _ _ => some name
  | _ => none

/-- Why a step gives no object. -/
inductive StepError
  | unknownToken (spelling : String)
  | notCompound (token : Token)
  | unboundVariable (name : String)
  | fault (f : Fault)

/-- The wording of a reason; where a token is no compound assignment, its spelling. -/
def StepError.message : StepError → String
  | unknownToken spelling => "unknown operator `" ++ spelling ++ "`"
  | notCompound token => token.spelling
  | unboundVariable name => "unbound variable " ++ name
  | fault f => f.message

/-- What a step gives: events and an object, or the reason why there is none. -/
structure StepOutcome where
  log : List Event
  result : Except StepError Object

namespace StepOutcome

/-- The outcome of a step that does not get as far as evaluation. -/
def refused (e : StepError) : StepOutcome :=
  ⟨[], .error e⟩

/-- The outcome of an evaluation. -/
def ofLogged (m : Logged Object) : StepOutcome :=
  ⟨m.log, match m.result with
    | .ok x => .ok x
    | .error f => .error (.fault f)⟩

end StepOutcome

/-- The token of a spelling. -/
def Token.parse (spelling : String) : Except StepError Token :=
  match ofSpelling? spelling with
  | some token => .ok token
  | none => .error (.unknownToken spelling)

/-- An engine with variables, the last stored first. -/
structure Session where
  engine : Engine
  bindings : List (String × Object) := []

namespace Session

/-- The session with a variable set. -/
def store (s : Session) (name : String) (x : Object) : Session :=
  { s with bindings := (name, x) :: s.bindings }

/-- The object that an operand stands for. -/
def object (s : Session) : Operand → Except StepError Object
  | .object x => .ok x
  | .variable name =>
    match s.bindings.lookup name with
    | some x => .ok x
    | none => .error (.unboundVariable name)

/-- What a step evaluates, once its token is read and its operands are found. -/
def evaluation (s : Session) : Step → Except StepError (Logged Object)
  | .declare v => do
    let x ← s.object v
    return .ofExcept ((Object.checked x.ty x.value).mapError .internal)
  | .normalize v => do
    return s.engine.normalize (← s.object v)
  | .represent v ty => do
    return s.engine.represent (← s.object v) ty
  | .binary left spelling right => do
    let token ← Token.parse spelling
    return s.engine.evaluateBinary (← s.object left) (← s.object right) token
  | .compare left spelling right result => do
    let token ← Token.parse spelling
    return s.engine.evaluateComparison (← s.object left) (← s.object right) token result
  | .assign name spelling right => do
    let token ← Token.parse spelling
    match token.base? with
    | none => .error (.notCompound token)
    | some op =>
      return s.engine.evaluateBinary (← s.object (.variable name)) (← s.object right) (.binary op)

/-- The outcome of one step. -/
def outcome (s : Session) (step : Step) : StepOutcome :=
  match s.evaluation step with
  | .ok m => .ofLogged m
  | .error e => .refused e

/-- The session after a result, which goes under a name if there is one. -/
def after (s : Session) (target : Option String) (o : StepOutcome) : Session :=
  match target, o.result with
  | some name, .ok x => s.store name x
  | _, _ => s

/-- The outcomes of steps. Each comes with the name that its result is stored under, unless the
step writes a variable of its own. -/
def run (s : Session) : List (Option String × Step) → List StepOutcome
  | [] => []
  | (target, step) :: rest =>
    let o := s.outcome step
    o :: (s.after (step.target?.or target) o).run rest

end Session

end TypedOps
