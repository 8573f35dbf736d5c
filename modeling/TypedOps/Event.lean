import TypedOps.Fault

/-!
Events. An evaluation leaves a log: what it was asked for, what it had to cut off or convert on
the way, and how it failed if it did. An event is seen as a level, a message and named fields.
-/
namespace TypedOps

/-- How much an event matters, from the least. -/
inductive Level
  | trace
  | debug
  | info
  | warn
  | error
  deriving DecidableEq

/-- What is logged. -/
inductive Event
  | evaluatingBinary (op : Token) (left right : Ty)
  | evaluatingComparison (op : Token) (left right result : Ty)
  | truncatedToInt (constant : Constant) (value : Int) (word : WordSize)
  | truncated (constant : Constant) (ty : Ty)
  | convertingForEquality (source target : Ty)
  | runtimeError (op : Token) (e : RuntimeError)
  | internalFault (op : Token) (f : InternalFault)
  deriving DecidableEq

/-- The name of a level. -/
def Level.name : Level → String
  | trace => "TRACE"
  | debug => "DEBUG"
  | info => "INFO"
  | warn => "WARN"
  | error => "ERROR"

namespace Event

/-- The level of an event: faults of the caller are errors, those of the program are not. -/
def level : Event → Level
  | evaluatingBinary .. => .trace
  | evaluatingComparison .. => .trace
  | truncatedToInt .. => .warn
  | truncated .. => .warn
  | convertingForEquality .. => .debug
  | runtimeError .. => .debug
  | internalFault .. => .error

/-- The message of an event. -/
def message : Event → String
  | evaluatingBinary .. => "Evaluating binary operator"
  | evaluatingComparison .. => "Evaluating comparison"
  | truncatedToInt .. => "Untyped integer constant truncated to int"
  | truncated .. => "Untyped integer constant truncated"
  | convertingForEquality .. => "Converting operand for equality"
  | runtimeError .. => "Runtime error"
  | internalFault .. => "Internal operator fault"

/-- The fields with their texts. -/
def fields : Event → List (String × String)
  | evaluatingBinary op left right =>
    [("op", op.spelling), ("left", left.text), ("right", right.text)]
  | evaluatingComparison op left right result =>
    [("op", op.spelling), ("left", left.text), ("right", right.text), ("result", result.text)]
  | truncatedToInt constant value word =>
    [("constant", constant.toText), ("value", toString value),
      ("word_bits", toString word.width.bits)]
  | truncated constant ty => [("constant", constant.toText), ("ty", ty.text)]
  | convertingForEquality source target => [("from", source.text), ("to", target.text)]
  | runtimeError op e => [("op", op.spelling), ("error", e.message)]
  | internalFault op f => [("op", op.spelling), ("error", f.message)]

/-- How a failure is logged. -/
def ofFault (op : Token) : Fault → Event
  | .runtime e => runtimeError op e
  | .internal f => internalFault op f

end Event

end TypedOps
