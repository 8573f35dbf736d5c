import TypedOps.Ty.Text
import TypedOps.Value.Text

/-!
Objects: values with the type they are seen at. An object need not be consistent; whether its
value is kept the way its type is stored is `Object.isRepresented`.
-/
namespace TypedOps

/-- A value at a type. -/
structure Object where
  value : Value
  ty : Ty
  deriving DecidableEq

namespace Object

/-- An untyped constant of a class. -/
def constant (u : UntypedKind) (c : Constant) : Object :=
  ⟨.constant c, .basic (.untyped u)⟩

/-- Whether the object is at a type of untyped constants. -/
def isUntyped (x : Object) : Bool :=
  x.ty.isUntyped

/-- Whether the object is at the type of untyped nil. -/
def isUntypedNil (x : Object) : Bool :=
  x.ty.isUntypedNil

/-- Whether two objects have equal values of identical types. -/
def equals (x y : Object) : Bool :=
  x.value.equals y.value && x.ty == y.ty

/-- The type with the value in parentheses. -/
def text (x : Object) : String :=
  x.ty.text ++ "(" ++ x.value.toText ++ ")"

/-- Whether the value is kept the way the type is stored: a constant at an untyped type, which
for untyped nil is nil, and any other value in the kind of the type. -/
def isRepresented (x : Object) : Bool :=
  match x.value with
  | .constant c => if x.isUntypedNil then c == .nil else x.isUntyped
  | v => v.kind? == some x.ty.storage

end Object

end TypedOps
