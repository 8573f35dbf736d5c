import TypedOps.Kind

/-!
Types. A basic type is its kind; a declared type has a name, the place of its declaration and the
type it is declared as; the other types are built from components. Two types are identical when
they are built alike (`identical_iff`). A declared type is stored as the type beneath its
declarations (`Ty.underlying`, `Ty.storage`).
-/
namespace TypedOps

/-- What a declared type goes by: its name, and the package and offset it is declared at. -/
structure Declaration where
  name : String
  package : String
  offset : Nat
  deriving DecidableEq

/-- A type. -/
inductive Ty
  | basic (k : Kind)
  | named (d : Declaration) (underlying : Ty)
  | pointer (element : Ty)
  | slice (element : Ty)
  | map (key value : Ty)
  | chan (element : Ty)
  | func (params results : List Ty)
  | interface

namespace Ty

/-! ## Identity -/

mutual

/-- Whether two types are built alike. -/
def identical : Ty → Ty → Bool
  | basic k, basic l => k == l
  | named d t, named e u => d == e && t.identical u
  | pointer t, pointer u => t.identical u
  | slice t, slice u => t.identical u
  | map t u, map t' u' => t.identical t' && u.identical u'
  | chan t, chan u => t.identical u
  | func ts us, func ts' us' => allIdentical ts ts' && allIdentical us us'
  | interface, interface => true
  | _, _ => false

/-- Whether two lists of types are identical, place by place. -/
def allIdentical : List Ty → List Ty → Bool
  | [], [] => true
  | t :: ts, u :: us => t.identical u && allIdentical ts us
  | _, _ => false

end

mutual

theorem identical_iff (t u : Ty) : t.identical u = true ↔ t = u := by
  cases t <;> cases u <;> simp [identical, identical_iff, allIdentical_iff]

theorem allIdentical_iff (ts us : List Ty) : allIdentical ts us = true ↔ ts = us := by
  cases ts <;> cases us <;> simp [allIdentical, identical_iff, allIdentical_iff]

end

instance : DecidableEq Ty := fun t u => decidable_of_iff _ (identical_iff t u)

/-! ## What is stored -/

/-- Whether the type is a declared one. -/
def isNamed : Ty → Bool
  | named _ _ => true
  | _ => false

/-- The type beneath all declarations. -/
def underlying : Ty → Ty
  | named _ t => t.underlying
  | t => t

/-- The kind that values of the type are kept as. -/
def storage : Ty → Kind
  | basic k => k.storage
  | named _ t => t.storage
  | pointer _ => .reference .pointer
  | slice _ => .reference .slice
  | map _ _ => .reference .map
  | chan _ => .reference .chan
  | func _ _ => .reference .func
  | interface => .reference .interface

/-- The class of untyped constants that the type is. Declared types are none, whatever they are
declared as. -/
def untyped? : Ty → Option UntypedKind
  | basic (.untyped u) => some u
  | _ => none

/-- Whether the type is one of untyped constants. -/
def isUntyped (t : Ty) : Bool :=
  t.untyped?.isSome

/-- Whether the type is that of untyped nil. -/
def isUntypedNil (t : Ty) : Bool :=
  t.untyped? == some .nil

@[simp] theorem storage_underlying (t : Ty) : t.underlying.storage = t.storage := by
  fun_induction underlying t with
  | case1 d t ih => rw [ih, storage]
  | case2 => rfl

/-! ## Assignability -/

/-- Whether an untyped constant of a class may become a value of a kind. Numbers go with numbers:
whether the one at hand can be represented is seen when it is converted. -/
def constantFits : UntypedKind → Kind → Bool
  | .nil, k => k.isReference
  | .bool, k => k == .bool
  | .string, k => k == .string
  | .int, k | .rune, k | .float, k | .complex, k => k.isNumeric

/-- Whether a value of the first type may be assigned to a variable of the second one. Identical
types are, and types with the same type beneath of which one is not declared; everything may be
assigned to what is stored as an interface; an untyped constant to what its class fits. -/
def assignableTo (value target : Ty) : Bool :=
  value == target
    || (!value.isNamed || !target.isNamed) && value.underlying == target.underlying
    || target.storage == .reference .interface
    || match value.untyped? with
      | some u => constantFits u target.storage
      | none => false

end Ty

end TypedOps
