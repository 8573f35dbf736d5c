import TypedOps.Proofs.Operator.Phases

/-!
The two ways in which a constant takes a type agree. At the default type of its class a constant
becomes what it is normalized to (`represent_default_ok_iff`). At a type that is stored as no
number, or that it is not assignable to, it is normalized. What either gives is typed
(`normalize_ok_typed`, `represent_ok_typed`), so that neither changes it again. Main statement:
`normalize_represent_agree`.
-/
namespace TypedOps

/-- A constant is kept as a kind as it is as the storage of the kind. -/
theorem Constant.asKind?_storage (word : WordSize) (c : Constant) (kind : Kind) :
    c.asKind? word kind.storage = c.asKind? word kind := by
  cases kind <;> rfl

/-- All classes of constants but nil have a default type. -/
theorem UntypedKind.exists_default {u : UntypedKind} (notNil : u ≠ .nil) :
    ∃ kind, u.default? = some kind := by
  cases u with
  | nil => exact absurd rfl notNil
  | _ => exact ⟨_, rfl⟩

/-- No default type is one of constants. -/
theorem UntypedKind.default_typed {u : UntypedKind} {kind : Kind}
    (default : u.default? = some kind) : kind.storage.isUntyped = false := by
  cases u <;> cases default <;> rfl

namespace Engine

variable {e : Engine} {x o : Object} {u : UntypedKind} {c : Constant} {kind : Kind} {ty : Ty}

/-! ## At the default type -/

/-- What is no constant is normalized, and so refused, whatever type it faces. -/
theorem represent_not_constant (source : x.ty = .basic (.untyped u))
    (default : u.default? = some kind) (other : x.value.toConstant? = none) :
    e.represent x ty = e.normalize x := by
  have refused : e.normalize x = .fail (.constantMismatch u x.value) := by
    simp only [normalize, source, Ty.untyped?, default, other]
  by_cases apart : x.ty.assignableTo ty = false
  · exact represent_not_assignable apart
  · rw [Bool.not_eq_false, source] at apart
    rw [refused]
    simp only [represent, source, Ty.untyped?, UntypedKind.ne_nil_of_default default, apart, other,
      not_true_eq_false, or_self, ↓reduceIte]

/-- A constant takes the default type of its class with the same value in both ways. A number goes
through the conversion to the type, anything else is normalized. -/
theorem represent_constant_default_ok_iff (default : u.default? = some kind) :
    (e.normalize (.constant u c)).result = .ok o ↔
      (e.represent (.constant u c) (.basic kind)).result = .ok o := by
  by_cases number : u.isNumeric = true
  · have stored : (Ty.basic kind).storage.isNumeric = true :=
      (UntypedKind.default_isNumeric default).trans number
    rw [normalize_constant default, represent_numeric number stored, Ty.storage,
      Constant.asKind?_storage]
    cases c.asKind? e.word kind with
    | none => simp only [reduceCtorEq]
    | some v => exact Iff.rfl
  · have typed : (Ty.basic kind).storage.isUntyped = false := UntypedKind.default_typed default
    rw [represent_eq_normalize typed (.inl (Bool.eq_false_iff.mpr number))]

/-- At the default type of its class an object becomes what it is normalized to. -/
theorem represent_default_ok_iff (source : x.ty = .basic (.untyped u))
    (default : u.default? = some kind) :
    (e.normalize x).result = .ok o ↔ (e.represent x (.basic kind)).result = .ok o := by
  obtain ⟨value, ty⟩ := x
  cases source
  cases value with
  | constant c => exact represent_constant_default_ok_iff default
  | _ => rw [represent_not_constant rfl default rfl]

/-! ## What is typed stays -/

theorem represent_ok_typed (given : (e.represent x ty).result = .ok o) : o.isUntyped = false := by
  by_cases untyped : x.isUntyped = true
  · exact (represent_wellFormed untyped given).typed
  · rw [Bool.not_eq_true] at untyped
    rw [represent_typed untyped] at given
    rwa [← Except.ok.inj given]

/-- The two ways of typing a constant agree. An object of a class of constants other than nil
becomes the same at the default type of the class as it is normalized to, if it becomes anything
there. At a type that is stored as no number, or that it is not assignable to, an object is
normalized. What either gives, neither changes again, with any word and facing any type. -/
theorem normalize_represent_agree (e : Engine) (x : Object) :
    (∀ u, x.ty = .basic (.untyped u) → u ≠ .nil → ∃ kind, u.default? = some kind ∧
      ∀ o, (e.normalize x).result = .ok o ↔ (e.represent x (.basic kind)).result = .ok o) ∧
    (∀ ty, ty.storage.isUntyped = false →
      ty.storage.isNumeric = false ∨ x.ty.assignableTo ty = false →
      e.represent x ty = e.normalize x) ∧
    (∀ o, (e.normalize x).result = .ok o ∨ (∃ ty, (e.represent x ty).result = .ok o) →
      ∀ (again : Engine) ty, again.normalize o = pure o ∧ again.represent o ty = pure o) := by
  refine ⟨?default, ?normalized, ?stable⟩
  case default =>
    intro u source notNil
    obtain ⟨kind, default⟩ := UntypedKind.exists_default notNil
    exact ⟨kind, default, fun o => represent_default_ok_iff source default⟩
  case normalized =>
    rintro ty typed (stored | apart)
    · exact represent_not_numeric typed stored
    · exact represent_not_assignable apart
  case stable =>
    intro o given again ty
    have typed : o.isUntyped = false := by
      rcases given with normal | ⟨_, represented⟩
      · exact normalize_ok_typed normal
      · exact represent_ok_typed represented
    exact ⟨normalize_typed typed, represent_typed typed⟩

/-- A rune at a 32-bit word, `300` of class integer facing `int8` or a slice of it: the rune becomes
the same alone and at `rune`; `300` is cut down facing `int8`, is normalized facing the slice, and
stays as it is after either. -/
theorem normalize_represent_agree_runes :
    let e : Engine := ⟨.w32, true⟩
    let letter : Object := .constant .rune (.integer 97)
    let number : Object := .constant .int (.integer 300)
    let byte : Ty := .basic (.integer .int8)
    let cut : Object := ⟨.integer (.narrow .w32 .int8 300), byte⟩
    (e.represent letter (.basic .rune)).result =
        .ok ⟨.integer (.narrow .w32 .int32 97), .basic .rune⟩ ∧
      e.represent number (.slice byte) = e.normalize number ∧
      e.normalize cut = pure cut := by
  intro e letter number byte cut
  obtain ⟨atDefault, -, -⟩ := normalize_represent_agree e letter
  obtain ⟨kind, default, iff⟩ := atDefault .rune rfl (by decide)
  obtain ⟨-, normalized, stable⟩ := normalize_represent_agree e number
  refine ⟨?_, normalized (.slice byte) rfl (.inl rfl), ?_⟩
  · cases default
    exact (iff _).mp rfl
  · have given : (e.represent number byte).result = .ok cut := rfl
    exact (stable cut (.inr ⟨byte, given⟩) e byte).1

end Engine

end TypedOps
