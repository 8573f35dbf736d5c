import TypedOps.Object.Basic
import TypedOps.Token

/-!
What can go wrong. A runtime error is a failure of the evaluated program, which may recover from
it; an internal fault is a broken promise between the evaluator and whoever calls it, and must not
be recovered from. A fault holds what caused it; its wording is `Fault.message`.
-/
namespace TypedOps

/-- The failures of a program. -/
inductive RuntimeError
  | divisionByZero (op : ArithmeticOp)
  | negativeShiftCount (count : Int)
  deriving DecidableEq

/-- The two families of operators. -/
inductive OperatorClass
  | binary
  | comparison
  deriving DecidableEq

/-- The classes of data that a slot may be written with. -/
inductive WriteClass
  | bool
  | integer
  | float
  | complex
  | string
  deriving DecidableEq

/-- The broken promises. -/
inductive InternalFault
  | invalidOperands (op : Token) (left right : Ty)
  | untypedNil
  | unsupportedOperator (op : Token) (cls : OperatorClass)
  | noStorage (kind : Kind)
  | slotMismatch (slot : Option Kind) (written : WriteClass)
  | constantMismatch (kind : UntypedKind) (value : Value)
  | invalidShiftCount (count : Object)
  | notConvertible (source target : Ty)
  | notNillable (ty : Ty)
  | nonBooleanResult (ty : Ty)
  | representationMismatch (ty : Ty) (value : Value)
  deriving DecidableEq

/-- Everything that can go wrong. -/
inductive Fault
  | runtime (e : RuntimeError)
  | internal (f : InternalFault)
  deriving DecidableEq

/-! ## Wording -/

/-- The wording of a runtime error. -/
def RuntimeError.message : RuntimeError → String
  | divisionByZero op => "runtime error: integer divide by zero (operator `" ++ op.spelling ++ "`)"
  | negativeShiftCount count => "runtime error: negative shift amount " ++ toString count

/-- The name of a family. -/
def OperatorClass.name : OperatorClass → String
  | binary => "binary"
  | comparison => "comparison"

/-- The name of a class. -/
def WriteClass.name : WriteClass → String
  | bool => "bool"
  | integer => "integer"
  | float => "float"
  | complex => "complex"
  | string => "string"

/-- The wording of an internal fault. -/
def InternalFault.message : InternalFault → String
  | invalidOperands op left right =>
    "operator `" ++ op.spelling ++ "` is not defined on operands of type " ++ left.text ++ " and "
      ++ right.text
  | untypedNil => "untyped nil cannot be used as a value (normalization)"
  | unsupportedOperator op cls => "`" ++ op.spelling ++ "` is not a " ++ cls.name ++ " operator"
  | noStorage kind => "kind " ++ kind.name ++ " has no storage of its own"
  | slotMismatch slot written =>
    "cannot write a " ++ written.name ++ " into a " ++ (slot.map Kind.name).getD "constant"
      ++ " slot"
  | constantMismatch kind value =>
    kind.name ++ " constant holds mismatched value " ++ value.toText
  | invalidShiftCount count => "invalid shift count " ++ count.text
  | notConvertible source target =>
    "cannot convert a value of type " ++ source.text ++ " to " ++ target.text
  | notNillable ty => "a value of type " ++ ty.text ++ " cannot be compared with nil"
  | nonBooleanResult ty => "comparison result type " ++ ty.text ++ " is not a boolean type"
  | representationMismatch ty value =>
    "value " ++ value.toText ++ " is not represented as type " ++ ty.text

namespace Fault

/-- The wording of a fault. -/
def message : Fault → String
  | runtime e => e.message
  | internal f => f.message

/-- Whether the program may recover. -/
def isRecoverable : Fault → Bool
  | runtime _ => true
  | internal _ => false

end Fault

end TypedOps
