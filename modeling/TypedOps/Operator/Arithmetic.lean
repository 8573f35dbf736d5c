import TypedOps.Operator.Operands
import TypedOps.Integer.Arithmetic
import TypedOps.Ieee.Arithmetic

/-!
The arithmetic operators. They compute as the type of the left operand is stored: integers in
the shape of their kind, floating-point numbers in their format, and texts are joined by `+`.
-/
namespace TypedOps

open Ieee (Binary Complex)

namespace ArithmeticOp

/-- Whether the operator divides, so that an integer zero has no place on its right. -/
def divides : ArithmeticOp → Bool
  | quo | rem => true
  | add | sub | mul => false

/-- The operator on integers of a shape. -/
def onIntegers (s : Shape) : ArithmeticOp → Int → Int → Int
  | add => s.add
  | sub => s.sub
  | mul => s.mul
  | quo => s.quo
  | rem => s.rem

/-- The operator on floating-point numbers; there is no remainder. -/
def onBinary? {f : Ieee.Format} : ArithmeticOp → Binary f → Binary f → Option (Binary f)
  | add, x, y => some (x.add y)
  | sub, x, y => some (x.sub y)
  | mul, x, y => some (x.mul y)
  | quo, x, y => some (x.div y)
  | rem, _, _ => none

/-- The operator on complex numbers; there is no remainder. -/
def onComplex? {f : Ieee.Format} : ArithmeticOp → Complex f → Complex f → Option (Complex f)
  | add, x, y => some (x.add y)
  | sub, x, y => some (x.sub y)
  | mul, x, y => some (x.mul y)
  | quo, x, y => some (x.div y)
  | rem, _, _ => none

/-- The operator on values kept as a kind. An operand of another class than the kind's, or an
operator that the kind lacks, is invalid; so is every kind without arithmetic. -/
def onValues (word : WordSize) (op : ArithmeticOp) (kind : Kind) (invalid : InternalFault)
    (x y : Value) : Except Fault Value :=
  match kind with
  | .integer k =>
    match x.toInt?, y.toInt? with
    | some a, some b =>
      if op.divides ∧ (k.shape word).wrap b = 0 then .error (.runtime (.divisionByZero op))
      else .ok (.integer (.narrow word k (op.onIntegers (k.shape word) a b)))
    | _, _ => .error (.internal invalid)
  | .float f =>
    match x.toBinary? f, y.toBinary? f with
    | some a, some b =>
      match op.onBinary? a b with
      | some c => .ok (.float f c)
      | none => .error (.internal invalid)
    | _, _ => .error (.internal invalid)
  | .complex f =>
    match x.toComplex? f, y.toComplex? f with
    | some a, some b =>
      match op.onComplex? a b with
      | some c => .ok (.complex f c)
      | none => .error (.internal invalid)
    | _, _ => .error (.internal invalid)
  | .string =>
    match op, x.toText?, y.toText? with
    | add, some s, some t => .ok (.text (s ++ t))
    | _, _, _ => .error (.internal invalid)
  | .untyped u => .error (.internal (.noStorage (.untyped u)))
  | _ => .error (.internal invalid)

end ArithmeticOp

/-- An arithmetic operator on two objects. The result has the type of the left operand. -/
def Engine.arithmetic (e : Engine) (op : ArithmeticOp) (left right : Object) : Logged Object := do
  let (left, right) ← e.operands left right
  let invalid := .invalidOperands (.binary (.arithmetic op)) left.ty right.ty
  let value ← .ofExcept (op.onValues e.word left.ty.storage invalid left.value right.value)
  return ⟨value, left.ty⟩

end TypedOps
