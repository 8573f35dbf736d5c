import TypedOps.Operator.Operands
import TypedOps.Text.ByteOrder
import TypedOps.Value.Convert

/-!
The comparisons. Order is for integers, floating-point numbers and texts, and compares as the type
of the left operand is stored. Equality is for all values: of identical types as they are kept, of
different types after one operand is converted to the kind of the other, and with untyped nil by
whether the other operand is nil. The truth value is given the type that is asked for.
-/
namespace TypedOps

/-- Whether the order holds, given whether the left operand is below the right one, the right one
below the left one, or neither and both are equal. -/
def OrderOp.holds (op : OrderOp) (less greater equal : Bool) : Bool :=
  match op with
  | .less => less
  | .greater => greater
  | .lessEqual => less || equal
  | .greaterEqual => greater || equal

/-- The comparison of values kept as a kind; none where a value is of another class, or the kind
has no order. -/
def OrderOp.onValues? (word : WordSize) (op : OrderOp) (kind : Kind) (x y : Value) : Option Bool :=
  match kind with
  | .integer k =>
    match x.toInt?, y.toInt? with
    | some a, some b =>
      let a := (k.shape word).wrap a
      let b := (k.shape word).wrap b
      some (op.holds (a < b) (b < a) (a = b))
    | _, _ => none
  | .float f =>
    match x.toBinary? f, y.toBinary? f with
    | some a, some b => some (op.holds (a.less b) (b.less a) (a.equals b))
    | _, _ => none
  | .string =>
    match x.toText?, y.toText? with
    | some s, some t => some (op.holds (Text.before s t) (Text.before t s) (s = t))
    | _, _ => none
  | _ => none

namespace Engine

/-- Whether an order holds between two objects. -/
def ordered (e : Engine) (op : OrderOp) (left right : Object) : Logged Bool := do
  let (left, right) ← e.operands left right
  match op.onValues? e.word left.ty.storage left.value right.value with
  | some b => return b
  | none => .fail (.invalidOperands (.comparison (.order op)) left.ty right.ty)

/-- Whether an object is nil. -/
def isNil (e : Engine) (x : Object) : Logged Bool := do
  let x ← e.normalize x
  match x.value.isNil? with
  | some b => return b
  | none => .fail (.notNillable x.ty)

/-- Whether two objects of different types are equal, when the first is converted to the kind of
the second. -/
def equalConverted (e : Engine) (source target : Object) : Logged Bool := do
  .tell (.convertingForEquality source.ty target.ty)
  match source.value.convert? e.word target.ty.storage with
  | some v => return v.equals target.value
  | none => .fail (.notConvertible source.ty target.ty)

/-- Whether two typed objects are equal. Of different types the left one is converted where it is
assignable to the other, else the right one. -/
def equalTyped (e : Engine) (left right : Object) : Logged Bool :=
  if left.ty = right.ty then return left.value.equals right.value
  else if left.ty.assignableTo right.ty then e.equalConverted left right
  else e.equalConverted right left

/-- Whether two objects are equal. -/
def equality (e : Engine) (left right : Object) : Logged Bool :=
  match left.isUntypedNil, right.isUntypedNil with
  | true, true => return true
  | true, false => e.isNil right
  | false, true => e.isNil left
  | false, false => do
    let (left, right) ← e.operands left right
    e.equalTyped left right

/-- The truth value of a comparison. -/
def comparisonTruth (e : Engine) (op : ComparisonOp) (left right : Object) : Logged Bool :=
  match op with
  | .order op => e.ordered op left right
  | .equal => e.equality left right
  | .notEqual => do return !(← e.equality left right)

end Engine

/-- A truth value at a type: a declared type stored as a truth value is kept, and `bool`, typed or
untyped, gives `bool`. -/
def Object.ofTruth (b : Bool) (ty : Ty) : Except Fault Object :=
  match ty with
  | .named _ _ =>
    if ty.storage = .bool then .ok ⟨.bool b, ty⟩ else .error (.internal (.nonBooleanResult ty))
  | .basic .bool | .basic (.untyped .bool) => .ok ⟨.bool b, .basic .bool⟩
  | _ => .error (.internal (.nonBooleanResult ty))

/-- A comparison of two objects, with the truth value at a type. -/
def Engine.compare (e : Engine) (op : ComparisonOp) (left right : Object) (result : Ty) :
    Logged Object := do
  let b ← e.comparisonTruth op left right
  .ofExcept (Object.ofTruth b result)

end TypedOps
