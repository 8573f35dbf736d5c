import TypedOps.Ty.Basic

/-!
Registries of types. A registry keeps one descriptor for each type it was asked for; a descriptor
names its components by their places in the registry. A request is compared with what is kept layer
by layer, down to the basic types, and asking again for a type gives the place it has. Two types are
then identical within one registry exactly when their places are, and across registries when they
are built alike (`Registry.identical`).
-/
namespace TypedOps

/-- A place in a registry. -/
abbrev Place := Nat

/-- One layer of a type, with its components given by place. -/
inductive Descriptor
  | basic (k : Kind)
  | named (d : Declaration) (underlying : Place)
  | pointer (element : Place)
  | slice (element : Place)
  | map (key value : Place)
  | chan (element : Place)
  | func (params results : List Place)
  | interface
  deriving DecidableEq

/-- The descriptors kept so far, in the order in which they were first asked for. -/
structure Registry where
  descriptors : List Descriptor

namespace Registry

/-- The registry without types. -/
def empty : Registry :=
  ⟨[]⟩

/-- The number of types kept. -/
def size (r : Registry) : Nat :=
  r.descriptors.length

/-! ## Types of a registry -/

/-- The type that a descriptor stands for among the types of lower places. -/
def typeOf (types : List Ty) : Descriptor → Ty
  | .basic k => .basic k
  | .named d place => .named d (types.getD place .interface)
  | .pointer place => .pointer (types.getD place .interface)
  | .slice place => .slice (types.getD place .interface)
  | .map key value => .map (types.getD key .interface) (types.getD value .interface)
  | .chan place => .chan (types.getD place .interface)
  | .func params results =>
    .func (params.map (types.getD · .interface)) (results.map (types.getD · .interface))
  | .interface => .interface

/-- The types kept, by place. -/
def types (r : Registry) : List Ty :=
  r.descriptors.foldl (fun types d => types ++ [typeOf types d]) []

/-! ## Asking for a type -/

/-- The place of the type that a descriptor stands for. The descriptor is added if the type is
new. -/
def intern (r : Registry) (d : Descriptor) : Registry × Place :=
  match r.types.idxOf? (typeOf r.types d) with
  | some place => (r, place)
  | none => (⟨r.descriptors ++ [d]⟩, r.size)

mutual

/-- The place of a type, after the places of its components. -/
def add (r : Registry) : Ty → Registry × Place
  | .basic k => r.intern (.basic k)
  | .named d t =>
    let (r, place) := r.add t
    r.intern (.named d place)
  | .pointer t =>
    let (r, place) := r.add t
    r.intern (.pointer place)
  | .slice t =>
    let (r, place) := r.add t
    r.intern (.slice place)
  | .map t u =>
    let (r, key) := r.add t
    let (r, value) := r.add u
    r.intern (.map key value)
  | .chan t =>
    let (r, place) := r.add t
    r.intern (.chan place)
  | .func ts us =>
    let (r, params) := r.addAll ts
    let (r, results) := r.addAll us
    r.intern (.func params results)
  | .interface => r.intern .interface

/-- The places of types, in order. -/
def addAll (r : Registry) : List Ty → Registry × List Place
  | [] => (r, [])
  | t :: ts =>
    let (r, place) := r.add t
    let (r, places) := r.addAll ts
    (r, place :: places)

end

/-- The text of a registry tells its size. -/
def text (r : Registry) : String :=
  "TypeRegistry \x7b types: " ++ toString r.size ++ " \x7d"

/-! ## Identity -/

/-- Where a type is kept: the number of its registry among several, and its place there. -/
structure Address where
  registry : Nat
  place : Place
  deriving DecidableEq

/-- Whether two addresses denote the same type: they are one address, or what is kept there is built
alike. -/
def identical (registries : Nat → Registry) (a b : Address) : Bool :=
  decide (a = b) ||
    match (registries a.registry).types[a.place]?, (registries b.registry).types[b.place]? with
    | some t, some u => t.identical u
    | _, _ => false

end Registry

end TypedOps
