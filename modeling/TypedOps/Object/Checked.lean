import TypedOps.Fault

/-!
Objects whose value is kept the way their type is stored.
-/
namespace TypedOps.Object

/-- The object of a type and a value that is kept the way the type is stored. -/
def checked (ty : Ty) (value : Value) : Except InternalFault Object :=
  let x : Object := ⟨value, ty⟩
  if x.isRepresented then .ok x else .error (.representationMismatch ty value)

end TypedOps.Object
