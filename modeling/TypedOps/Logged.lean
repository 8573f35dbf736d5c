import TypedOps.Event

/-!
Answers with a log. A logged computation is the events it leaves and its result, a value or a
fault. Computations follow one another: the second runs on the value of the first, and their logs
are joined (`Logged.bind`); a fault ends the sequence.
-/
namespace TypedOps

/-- A result with the events that led to it. -/
structure Logged (α : Type) where
  log : List Event
  result : Except Fault α

namespace Logged

variable {α β : Type}

/-- A value without events. -/
protected def pure (a : α) : Logged α :=
  ⟨[], .ok a⟩

/-- The second computation after the first, on its value. -/
protected def bind (m : Logged α) (f : α → Logged β) : Logged β :=
  match m.result with
  | .ok a => ⟨m.log ++ (f a).log, (f a).result⟩
  | .error e => ⟨m.log, .error e⟩

instance : Monad Logged where
  pure := Logged.pure
  bind := Logged.bind

/-- A result without events. -/
def ofExcept (r : Except Fault α) : Logged α :=
  ⟨[], r⟩

/-- The failure by an internal fault. -/
def fail (f : InternalFault) : Logged α :=
  ⟨[], .error (.internal f)⟩

/-- One event, if a condition holds. -/
def tellIf (condition : Bool) (e : Event) : Logged Unit :=
  ⟨if condition then [e] else [], .ok ()⟩

/-- One event. -/
def tell (e : Event) : Logged Unit :=
  ⟨[e], .ok ()⟩

/-- The computation with its failure logged at the end. -/
def reporting (op : Token) (m : Logged α) : Logged α :=
  match m.result with
  | .ok _ => m
  | .error e => ⟨m.log ++ [Event.ofFault op e], m.result⟩

/-! ## Results and logs of the steps -/

@[simp] theorem pure_result (a : α) : (pure a : Logged α).result = .ok a := rfl

@[simp] theorem pure_log (a : α) : (pure a : Logged α).log = [] := rfl

@[simp] theorem tell_result (e : Event) : (tell e).result = .ok () := rfl

@[simp] theorem tellIf_result (condition : Bool) (e : Event) :
    (tellIf condition e).result = .ok () := rfl

@[simp] theorem ofExcept_result (r : Except Fault α) : (ofExcept r).result = r := rfl

@[simp] theorem fail_result (f : InternalFault) :
    (fail f : Logged α).result = .error (.internal f) := rfl

@[simp] theorem tell_log (e : Event) : (tell e).log = [e] := rfl

@[simp] theorem ofExcept_log (r : Except Fault α) : (ofExcept r).log = [] := rfl

@[simp] theorem fail_log (f : InternalFault) : (fail f : Logged α).log = [] := rfl

/-- Of one event under a condition there is a log exactly if the condition holds. -/
@[simp] theorem tellIf_log (condition : Bool) (e : Event) :
    (tellIf condition e).log = if condition then [e] else [] := rfl

theorem bind_result (m : Logged α) (f : α → Logged β) :
    (m >>= f).result = m.result.bind fun a => (f a).result := by
  show (Logged.bind m f).result = _
  unfold Logged.bind
  cases m.result <;> rfl

/-- The log of a sequence: what the second computation leaves comes last, if it is reached. -/
theorem bind_log (m : Logged α) (f : α → Logged β) :
    (m >>= f).log = m.log ++ match m.result with
      | .ok a => (f a).log
      | .error _ => [] := by
  show (Logged.bind m f).log = _
  unfold Logged.bind
  cases m.result with
  | ok a => rfl
  | error e => exact (List.append_nil _).symm

theorem bind_ok {m : Logged α} {f : α → Logged β} {a : α} (h : m.result = .ok a) :
    m >>= f = ⟨m.log ++ (f a).log, (f a).result⟩ := by
  show Logged.bind m f = _
  simp only [Logged.bind, h]

theorem bind_error {m : Logged α} {f : α → Logged β} {e : Fault} (h : m.result = .error e) :
    m >>= f = ⟨m.log, .error e⟩ := by
  show Logged.bind m f = _
  simp only [Logged.bind, h]

/-- A sequence succeeds exactly when both computations do. -/
theorem bind_result_ok_iff {m : Logged α} {f : α → Logged β} {b : β} :
    (m >>= f).result = .ok b ↔ ∃ a, m.result = .ok a ∧ (f a).result = .ok b := by
  rw [bind_result]
  cases m.result <;> simp [Except.bind]

/-- A result that has a value succeeds with it. -/
theorem ok_of_toOption {r : Except Fault α} {a : α} (value : r.toOption = some a) :
    r = .ok a := by
  cases r with
  | error => cases value
  | ok => cases value; rfl

@[simp] theorem reporting_result (op : Token) (m : Logged α) :
    (m.reporting op).result = m.result := by
  unfold reporting
  split <;> simp_all

end Logged

end TypedOps
