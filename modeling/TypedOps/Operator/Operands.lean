import TypedOps.Logged

/-!
How untyped constants take a type. Alone, a constant takes the default type of its class
(`Engine.normalize`); facing a typed operand it takes the operand's type (`Engine.represent`). Both
keep the constant as its exact value narrowed or rounded to a kind (`Constant.asKind?`).
-/
namespace TypedOps

open Ieee (Binary)

/-- What evaluation depends on besides the operands: the machine word, and whether a constant that
loses value is warned of. -/
structure Engine where
  word : WordSize := .w64
  warnOnTruncation : Bool := true
  deriving DecidableEq

/-- The default kind of a class of untyped constants. Nil has none. -/
def UntypedKind.default? : UntypedKind → Option Kind
  | bool => some .bool
  | int => some (.integer .int)
  | float => some (.float .binary64)
  | complex => some (.complex .binary64)
  | rune => some .rune
  | string => some .string
  | nil => none

/-- The constant kept as a kind: the low bits of an integer (64 of them, and from there those of the
kind), the floating-point number that it rounds to (in the wide format, and from there in the
kind's), a truth value or a text. -/
def Constant.asKind? (word : WordSize) (c : Constant) (kind : Kind) : Option Value :=
  match kind.storage with
  | .bool => c.toBool?.map .bool
  | .integer k => c.toSigned?.map fun (low, _) => .integer (.narrow word k low)
  | .float f => (c.toBinary? .binary64).map fun x => .float f x.convert
  | .complex f => (c.toParts? .binary64).map fun (re, im) => .complex f ⟨re.convert, im.convert⟩
  | .string => c.toText?.map .text
  | _ => none

namespace Engine

/-- The warning that is due when a constant becomes an `int`: one, if the word holds another
value. -/
def warnOfInt (e : Engine) (c : Constant) : Logged Unit :=
  match c.toInteger? with
  | some n =>
    let kept := (IntKind.int.shape e.word).wrap n
    .tellIf (e.warnOnTruncation && kept != n) (.truncatedToInt c kept e.word)
  | none => pure ()

/-- The warning that is due when a constant becomes a number of a type: one, if that is an integer
type and the constant does not fit 64 signed bits, nor 64 unsigned ones where the type is
unsigned. A narrower type cuts off the rest without a warning. -/
def warnOfNumber (e : Engine) (c : Constant) (ty : Ty) : Logged Unit :=
  match ty.storage, c.toInteger? with
  | .integer k, some n =>
    let fits := Constant.fitsSigned n || !k.signed && Constant.fitsUnsigned n
    .tellIf (e.warnOnTruncation && !fits) (.truncated c ty)
  | _, _ => pure ()

/-- The object at the default type of its class. Typed objects stay as they are. -/
def normalize (e : Engine) (x : Object) : Logged Object :=
  match x.ty.untyped? with
  | none => pure x
  | some u =>
    match u.default?, x.value.toConstant? with
    | none, _ => .fail .untypedNil
    | some _, none => .fail (.constantMismatch u x.value)
    | some kind, some c =>
      match c.asKind? e.word kind with
      | none => .fail (.constantMismatch u x.value)
      | some v => do
        if u = .int then e.warnOfInt c
        return ⟨v, .basic kind⟩

/-- The object at the type of the operand that it faces. A constant that is not assignable to the
type, or is no number there, takes its default type. -/
def represent (e : Engine) (x : Object) (ty : Ty) : Logged Object :=
  match x.ty.untyped? with
  | none => pure x
  | some u =>
    if u = .nil ∨ ¬ x.ty.assignableTo ty then e.normalize x
    else
      match x.value.toConstant? with
      | none => .fail (.constantMismatch u x.value)
      | some c =>
        match ty.storage with
        | .untyped u => .fail (.noStorage (.untyped u))
        | kind =>
          if kind.isNumeric then
            match c.asKind? e.word kind with
            | none => .fail (.notConvertible x.ty ty)
            | some v => do
              e.warnOfNumber c ty
              return ⟨v, ty⟩
          else e.normalize x

/-- Both operands typed: a constant facing a typed operand takes its type, and two constants take
their default types. -/
def operands (e : Engine) (left right : Object) : Logged (Object × Object) :=
  match left.isUntyped, right.isUntyped with
  | true, false => do
    let left ← e.represent left right.ty
    return (left, right)
  | false, true => do
    let right ← e.represent right left.ty
    return (left, right)
  | _, _ => do
    let left ← e.normalize left
    let right ← e.normalize right
    return (left, right)

end Engine

end TypedOps
