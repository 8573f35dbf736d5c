import TypedOps.Operator.Arithmetic
import TypedOps.Operator.Bits
import TypedOps.Operator.Comparison

/-!
Evaluation of a token. It logs first what is evaluated, and last how that failed if it did.
-/
namespace TypedOps.Engine

/-- A binary operator on two objects. -/
def apply (e : Engine) (op : BinaryOp) (left right : Object) : Logged Object :=
  match op with
  | .arithmetic op => e.arithmetic op left right
  | .bit op => e.bitwise op left right
  | .shift op => e.shift op left right

/-- A token as a binary operator on two objects. -/
def evaluateBinary (e : Engine) (left right : Object) (token : Token) : Logged Object := do
  .tell (.evaluatingBinary token left.ty right.ty)
  .reporting token <|
    match token with
    | .binary op => e.apply op left right
    | _ => .fail (.unsupportedOperator token .binary)

/-- A token as a comparison of two objects, with the truth value at a type. -/
def evaluateComparison (e : Engine) (left right : Object) (token : Token) (result : Ty) :
    Logged Object := do
  .tell (.evaluatingComparison token left.ty right.ty result)
  .reporting token <|
    match token with
    | .comparison op => e.compare op left right result
    | _ => .fail (.unsupportedOperator token .comparison)

theorem evaluateBinary_result (e : Engine) (left right : Object) (token : Token) :
    (e.evaluateBinary left right token).result =
      match token with
      | .binary op => (e.apply op left right).result
      | _ => .error (.internal (.unsupportedOperator token .binary)) := by
  simp only [evaluateBinary, Logged.bind_result, Logged.tell_result, Logged.reporting_result,
    Except.bind]
  cases token <;> rfl

theorem evaluateComparison_result (e : Engine) (left right : Object) (token : Token)
    (result : Ty) :
    (e.evaluateComparison left right token result).result =
      match token with
      | .comparison op => (e.compare op left right result).result
      | _ => .error (.internal (.unsupportedOperator token .comparison)) := by
  simp only [evaluateComparison, Logged.bind_result, Logged.tell_result, Logged.reporting_result,
    Except.bind]
  cases token <;> rfl

end TypedOps.Engine
