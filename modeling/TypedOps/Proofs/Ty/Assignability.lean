import TypedOps.Ty.Basic

/-!
What assignability says about storage. Everything is assignable to an interface
(`assignable_interface`), and a typed value elsewhere only to types that are alike beneath their
declarations (`typed_assignable_iff`), which are stored as its own type is
(`storage_eq_of_assignable`); an untyped constant to interfaces and to what its class fits
(`untyped_assignable_iff`). Main statement: assignability never crosses from one way of storing to
another except into interfaces, and between types it is symmetric but for these
(`assignable_within_storage`).
-/
namespace TypedOps

/-- The classes of untyped constants that are numbers. -/
def UntypedKind.isNumeric : UntypedKind → Bool
  | int | float | complex | rune => true
  | bool | string | nil => false

theorem UntypedKind.ne_nil {u : UntypedKind} (number : u.isNumeric = true) : u ≠ .nil := by
  rintro rfl
  cases number

namespace Ty

theorem untyped_eq_some_iff {t : Ty} {u : UntypedKind} :
    t.untyped? = some u ↔ t = .basic (.untyped u) := by
  constructor
  · intro untyped
    cases t with
    | basic k =>
      cases k with
      | untyped w => cases untyped; rfl
      | _ => cases untyped
    | _ => cases untyped
  · rintro rfl
    rfl

theorem untyped_eq_none_iff {t : Ty} : t.untyped? = none ↔ t.isUntyped = false := by
  simp only [isUntyped, Option.isSome_eq_false_iff, Option.isNone_iff_eq_none]

theorem isUntyped_iff {t : Ty} : t.isUntyped = true ↔ ∃ u, t = .basic (.untyped u) := by
  simp only [isUntyped, Option.isSome_iff_exists, untyped_eq_some_iff]

theorem isUntypedNil_iff {t : Ty} : t.isUntypedNil = true ↔ t = .basic (.untyped .nil) := by
  simp only [isUntypedNil, beq_iff_eq, untyped_eq_some_iff]

/-- An untyped type is stored as itself. -/
theorem typed_of_storage {t : Ty} (typed : t.storage.isUntyped = false) : t.isUntyped = false := by
  rw [Bool.eq_false_iff]
  intro untyped
  obtain ⟨u, rfl⟩ := isUntyped_iff.mp untyped
  cases typed

/-- Storage is never a rune's, which is kept as an integer. -/
theorem storage_storage (t : Ty) : t.storage.storage = t.storage := by
  fun_induction storage t with
  | case1 k => exact k.storage_storage
  | case2 d t ih => exact ih
  | _ => rfl

theorem assignable_interface {t u : Ty} (interface : u.storage = .reference .interface) :
    t.assignableTo u = true := by
  simp [assignableTo, interface]

/-- A type that is not untyped is assignable, besides to interfaces, to itself and to the types that
are the same beneath all declarations, unless both are declared. -/
theorem typed_assignable_iff {t u : Ty} (typed : t.isUntyped = false)
    (plain : u.storage ≠ .reference .interface) :
    t.assignableTo u = true ↔
      t = u ∨ (t.isNamed = false ∨ u.isNamed = false) ∧ t.underlying = u.underlying := by
  simp [assignableTo, untyped_eq_none_iff.mpr typed, plain]

/-- A type that is not untyped is assignable only to interfaces and within its own storage. -/
theorem storage_eq_of_assignable {t u : Ty} (typed : t.isUntyped = false)
    (assignable : t.assignableTo u = true) :
    u.storage = .reference .interface ∨ t.storage = u.storage := by
  by_cases interface : u.storage = .reference .interface
  · exact .inl interface
  · right
    rcases (typed_assignable_iff typed interface).mp assignable with same | ⟨_, beneath⟩
    · rw [same]
    · rw [← storage_underlying t, beneath, storage_underlying]

/-- Between types that are neither untyped nor stored as interfaces, assignability is mutual. -/
theorem assignable_comm {t u : Ty} (typed : t.isUntyped = false) (otherTyped : u.isUntyped = false)
    (plain : t.storage ≠ .reference .interface) (otherPlain : u.storage ≠ .reference .interface) :
    t.assignableTo u = true ↔ u.assignableTo t = true := by
  rw [typed_assignable_iff typed otherPlain, typed_assignable_iff otherTyped plain, eq_comm,
    or_comm (a := t.isNamed = false), eq_comm (a := t.underlying)]

/-- A declared type is assignable to no other declared type but to interfaces. -/
theorem declared_not_assignable {t u : Ty} (declared : t.isNamed = true)
    (otherDeclared : u.isNamed = true) (apart : t ≠ u)
    (plain : u.storage ≠ .reference .interface) : t.assignableTo u = false := by
  have typed : t.isUntyped = false := by
    cases t with
    | named => rfl
    | _ => cases declared
  rw [Bool.eq_false_iff]
  intro assignable
  rcases (typed_assignable_iff typed plain).mp assignable with same | ⟨undeclared, _⟩
  · exact apart same
  · simp [declared, otherDeclared] at undeclared

/-- What untyped constants of a class may be assigned to, of the types that are not stored as
untyped themselves. -/
theorem untyped_assignable_iff {u : UntypedKind} {t : Ty} (stored : t.storage.isUntyped = false) :
    (basic (.untyped u)).assignableTo t = true ↔
      t.storage = .reference .interface ∨ constantFits u t.storage = true := by
  have different : (basic (.untyped u)).underlying ≠ t.underlying := by
    intro same
    rw [← storage_underlying t, ← same] at stored
    cases stored
  have notSame : basic (.untyped u) ≠ t := fun same => different (by rw [same])
  simp [assignableTo, untyped?, different, notSame]

/-- A constant of any class but nil becomes a number exactly where its class is one of numbers. -/
theorem constantFits_numeric {u : UntypedKind} {k : Kind} (numeric : k.isNumeric = true) :
    constantFits u k = u.isNumeric := by
  cases u with
  | nil =>
    cases k with
    | reference => cases numeric
    | _ => rfl
  | bool =>
    cases k with
    | bool => cases numeric
    | _ => rfl
  | string =>
    cases k with
    | string => cases numeric
    | _ => rfl
  | _ => exact numeric

/-- Assignability and storage, for types of any nesting and chains of declarations of any length.
A type that is not untyped is assignable only to interfaces and to types stored as it is, and but
for interfaces and untyped types assignability is mutual. Every type is assignable to itself and to
whatever is stored as an interface, and no declared type to another declared type that is not. -/
theorem assignable_within_storage (t u : Ty) :
    (t.isUntyped = false → t.assignableTo u = true →
      u.storage = .reference .interface ∨ t.storage = u.storage) ∧
    (t.isUntyped = false → u.isUntyped = false → t.storage ≠ .reference .interface →
      u.storage ≠ .reference .interface → (t.assignableTo u = true ↔ u.assignableTo t = true)) ∧
    t.assignableTo t = true ∧
    (u.storage = .reference .interface → t.assignableTo u = true) ∧
    (t.isNamed = true → u.isNamed = true → t ≠ u → t.storage ≠ .reference .interface →
      u.storage ≠ .reference .interface →
      t.assignableTo u = false ∧ u.assignableTo t = false) := by
  refine ⟨storage_eq_of_assignable, assignable_comm, ?_, assignable_interface, ?_⟩
  · simp [assignableTo]
  · intro declared otherDeclared apart plain otherPlain
    exact ⟨declared_not_assignable declared otherDeclared apart otherPlain,
      declared_not_assignable otherDeclared declared apart.symm plain⟩

/-- A list declared over a declared list is assignable to the plain list both are stored as and
back, and to a declared interface, but not to the declared list that it is over. -/
theorem assignable_within_storage_lists :
    let plain : Ty := .slice (.named ⟨"Count", "main", 7⟩ (.basic (.integer .int)))
    let list : Ty := .named ⟨"List", "main", 30⟩ plain
    let queue : Ty := .named ⟨"Queue", "main", 52⟩ list
    let any : Ty := .named ⟨"Any", "main", 80⟩ .interface
    (queue.assignableTo plain = true ∧ plain.assignableTo queue = true ∧
        queue.storage = plain.storage) ∧
      queue.assignableTo any = true ∧ any.assignableTo any = true ∧
      queue.assignableTo list = false ∧ list.assignableTo queue = false := by
  intro plain list queue any
  obtain ⟨within, bothWays, _⟩ := assignable_within_storage queue plain
  obtain ⟨_, _, _, interface, _⟩ := assignable_within_storage queue any
  obtain ⟨_, _, reflexive, _⟩ := assignable_within_storage any any
  obtain ⟨_, _, _, _, declared⟩ := assignable_within_storage queue list
  have assignable : queue.assignableTo plain = true := by decide
  have stored : queue.storage = plain.storage :=
    (within rfl assignable).resolve_left (by decide)
  exact ⟨⟨assignable, (bothWays rfl rfl (by decide) (by decide)).mp assignable, stored⟩,
    interface rfl, reflexive, declared rfl rfl (by decide) (by decide) (by decide)⟩

end Ty

end TypedOps
