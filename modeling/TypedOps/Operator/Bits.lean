import TypedOps.Operator.Operands
import TypedOps.Integer.Arithmetic

/-!
The bit operators and the shifts. Both are for integers only. A shift leaves its count untyped:
a typed count is read as it is kept, an untyped one as its exact value.
-/
namespace TypedOps

/-- The operator on integers of a shape. -/
def BitOp.onIntegers (s : Shape) : BitOp → Int → Int → Int
  | and => s.and
  | or => s.or
  | xor => s.xor
  | andNot => s.andNot

/-- The shift of an integer of a shape. -/
def ShiftOp.onInteger (s : Shape) : ShiftOp → Int → Nat → Int
  | left => s.shiftLeft
  | right => s.shiftRight

/-- The number of places to shift by. A typed count is one of an integer type, and is read with
the signedness of that type. -/
def Object.shiftCount (count : Object) : Except Fault Nat :=
  if count.isUntyped then
    match count.value.toConstant?.bind Constant.toShiftCount? with
    | some n => .ok n
    | none => .error (.internal (.invalidShiftCount count))
  else
    match count.ty.storage, count.value.toBits? with
    | .integer k, some bits =>
      if k.signed ∧ bits.toInt < 0 then .error (.runtime (.negativeShiftCount bits.toInt))
      else .ok bits.toNat
    | _, _ => .error (.internal (.invalidShiftCount count))

namespace Engine

/-- A bit operator on two objects. The result has the type of the left operand. -/
def bitwise (e : Engine) (op : BitOp) (left right : Object) : Logged Object := do
  let (left, right) ← e.operands left right
  match left.ty.storage, left.value.toInt?, right.value.toInt? with
  | .integer k, some a, some b =>
    return ⟨.integer (.narrow e.word k (op.onIntegers (k.shape e.word) a b)), left.ty⟩
  | _, _, _ => .fail (.invalidOperands (.binary (.bit op)) left.ty right.ty)

/-- A shift of an object. The result has the type of the shifted operand. Of several faults the
one of the shifted value comes first, then those of the count, and its kind comes last. -/
def shift (e : Engine) (op : ShiftOp) (left count : Object) : Logged Object := do
  let left ← e.normalize left
  let invalid := .invalidOperands (.binary (.shift op)) left.ty count.ty
  match left.value.toInt? with
  | none => .fail invalid
  | some a => do
    let n ← .ofExcept count.shiftCount
    match left.ty.storage with
    | .integer k =>
      return ⟨.integer (.narrow e.word k (op.onInteger (k.shape e.word) a n)), left.ty⟩
    | _ => .fail invalid

end Engine

end TypedOps
