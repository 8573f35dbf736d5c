import Mathlib.Data.List.Forall2
import TypedOps.Proofs.Ty.Interning

/-!
Identity by declaration. Two types are the same type (`Ty.SameType`) if they are declared by one
name at one place, or if neither is declared, they are of one shape, and their parts are the same
types in turn. A registry also compares what the declared types are declared as, so that identical
types are the same type, but one declaration that is asked for with two types beneath it gives two
types. Main statement: identity is that of the same type as long as no declaration is asked for with
different types beneath it (`Usage.identical_iff_sameType`). The condition is on what was asked for
by calls; it reaches the types within a result because each of them was asked for before
(`Usage.closed_of_reached`).
-/
namespace TypedOps

namespace Ty

/-- The same type: what a declared type is declared as does not count. -/
inductive SameType : Ty → Ty → Prop
  | basic (k : Kind) : SameType (.basic k) (.basic k)
  | named (d : Declaration) (t u : Ty) : SameType (.named d t) (.named d u)
  | pointer {t u : Ty} (element : SameType t u) : SameType (.pointer t) (.pointer u)
  | slice {t u : Ty} (element : SameType t u) : SameType (.slice t) (.slice u)
  | map {t t' u u' : Ty} (key : SameType t t') (value : SameType u u') :
    SameType (.map t u) (.map t' u')
  | chan {t u : Ty} (element : SameType t u) : SameType (.chan t) (.chan u)
  | func {ts ts' us us' : List Ty} (params : List.Forall₂ SameType ts ts')
    (results : List.Forall₂ SameType us us') : SameType (.func ts us) (.func ts' us')
  | interface : SameType .interface .interface

/-- The types that a type is built from, one layer down. -/
def parts : Ty → List Ty
  | basic _ | interface => []
  | named _ t | pointer t | slice t | chan t => [t]
  | map t u => [t, u]
  | func ts us => ts ++ us

mutual

theorem SameType.refl (t : Ty) : t.SameType t := by
  cases t with
  | basic k => exact .basic k
  | named d t => exact .named d t t
  | pointer t => exact .pointer (refl t)
  | slice t => exact .slice (refl t)
  | map t u => exact .map (refl t) (refl u)
  | chan t => exact .chan (refl t)
  | func ts us => exact .func (SameType.refl_all ts) (SameType.refl_all us)
  | interface => exact .interface

theorem SameType.refl_all (ts : List Ty) : List.Forall₂ SameType ts ts := by
  cases ts with
  | nil => exact .nil
  | cons t ts => exact .cons (SameType.refl t) (SameType.refl_all ts)

end

/-- With each type the types within it. -/
def Closed (types : List Ty) : Prop :=
  ∀ t ∈ types, t.parts ⊆ types

/-- No declaration stands in both lists with different types beneath it. -/
def DeclareAlike (types others : List Ty) : Prop :=
  ∀ d t u, .named d t ∈ types → .named d u ∈ others → t = u

section

variable {types others : List Ty}

mutual

/-- Among types whose declarations agree, the same type is built alike. -/
theorem SameType.eq (closed : Closed types) (closed' : Closed others)
    (alike : DeclareAlike types others) {t u : Ty} (same : t.SameType u) (member : t ∈ types)
    (member' : u ∈ others) : t = u := by
  have within := closed t member
  have within' := closed' u member'
  cases same with
  | basic | interface => rfl
  | named d t u => rw [alike d t u member member']
  | pointer element | slice element | chan element =>
    rw [element.eq closed closed' alike (within (by simp [parts])) (within' (by simp [parts]))]
  | map key value =>
    rw [key.eq closed closed' alike (within (by simp [parts])) (within' (by simp [parts])),
      value.eq closed closed' alike (within (by simp [parts])) (within' (by simp [parts]))]
  | func params results =>
    obtain ⟨ins, outs⟩ := List.append_subset.mp within
    obtain ⟨ins', outs'⟩ := List.append_subset.mp within'
    rw [SameType.eq_all closed closed' alike params ins ins',
      SameType.eq_all closed closed' alike results outs outs']

theorem SameType.eq_all (closed : Closed types) (closed' : Closed others)
    (alike : DeclareAlike types others) {ts us : List Ty} (same : List.Forall₂ SameType ts us)
    (within : ts ⊆ types) (within' : us ⊆ others) : ts = us := by
  cases same with
  | nil => rfl
  | cons head tail =>
    obtain ⟨member, rest⟩ := List.cons_subset.mp within
    obtain ⟨member', rest'⟩ := List.cons_subset.mp within'
    rw [head.eq closed closed' alike member member',
      SameType.eq_all closed closed' alike tail rest rest']

end

end

end Ty

namespace Usage

/-- The types asked for so far. -/
def asked (u : Usage) : List Ty :=
  u.results.map Prod.snd

variable {u v : Usage} {d : Descriptor} {t : Ty}

/-- A call asks for a type whose parts were asked for before. -/
theorem Call.parts_subset (call : Call u.results d t) : t.parts ⊆ u.asked := by
  cases call with
  | basic | interface => exact List.nil_subset _
  | named _ earlier | pointer earlier | slice earlier | chan earlier =>
    exact List.cons_subset.mpr ⟨List.mem_map_of_mem earlier, List.nil_subset _⟩
  | map key value =>
    exact List.cons_subset.mpr ⟨List.mem_map_of_mem key,
      List.cons_subset.mpr ⟨List.mem_map_of_mem value, List.nil_subset _⟩⟩
  | func ins outs =>
    exact List.append_subset.mpr ⟨List.map_subset _ ins, List.map_subset _ outs⟩

/-- A call keeps the types asked for closed under parts. -/
theorem closed_after (closed : Ty.Closed u.asked) (call : Call u.results d t) :
    Ty.Closed (u.after d t).asked := by
  have more : (u.after d t).asked = u.asked ++ [t] := List.map_append
  rw [more]
  intro s member
  rcases List.mem_append.mp member with earlier | last
  · exact List.subset_append_of_subset_left _ (closed s earlier)
  · rw [List.mem_singleton.mp last]
    exact List.subset_append_of_subset_left _ call.parts_subset

/-- After any history, what a type asked for is built from was asked for too. -/
theorem closed_of_reached (reached : u.Reached) : Ty.Closed u.asked := by
  induction reached with
  | refl => exact nofun
  | tail _ next ih =>
    cases next with
    | call call => exact closed_after ih call

/-- Results are identical exactly if the same type was asked for, in one registry as across two. -/
theorem identical_results_iff {uses : Nat → Usage} (reached : ∀ n, (uses n).Reached) {m n : Nat}
    {c d : Place × Ty} (first : c ∈ (uses m).results) (second : d ∈ (uses n).results) :
    Registry.identical (fun n => (uses n).registry) ⟨m, c.1⟩ ⟨n, d.1⟩ = true ↔ c.2 = d.2 := by
  have sound := fun n => sound_of_reached (reached n)
  rw [Registry.identical_iff ((sound m).reads c first) ((sound n).reads d second),
    Registry.Address.mk.injEq, or_iff_right_iff_imp]
  rintro ⟨rfl, place⟩
  exact ((sound m).place_eq_iff first second).mp place

/-- Identity goes by declaration, after any history of any registries. Identical results are the
same type, so that a declared type is identical to no other declaration and to no type that is not
declared. Two declared types are identical exactly if they have one declaration and what they are
declared as is the same. As long as no declaration is asked for with different types beneath it, the
results that are identical are those that are the same type. -/
theorem identical_iff_sameType (uses : Nat → Usage) (reached : ∀ n, (uses n).Reached) (m n : Nat)
    (c d : Place × Ty) (first : c ∈ (uses m).results) (second : d ∈ (uses n).results) :
    let identical := Registry.identical (fun n => (uses n).registry) ⟨m, c.1⟩ ⟨n, d.1⟩ = true
    (identical → c.2.SameType d.2) ∧
    (∀ a b t u, c.2 = .named a t → d.2 = .named b u → (identical ↔ a = b ∧ t = u)) ∧
    (Ty.DeclareAlike (uses m).asked (uses n).asked → (identical ↔ c.2.SameType d.2)) := by
  intro identical
  have equal : identical ↔ c.2 = d.2 := identical_results_iff reached first second
  have same : identical → c.2.SameType d.2 := fun holds => equal.mp holds ▸ .refl c.2
  refine ⟨same, ?declared, ?alike⟩
  case declared =>
    intro a b t u left right
    rw [equal, left, right, Ty.named.injEq]
  case alike =>
    intro alike
    refine ⟨same, fun holds => equal.mpr ?_⟩
    exact holds.eq (closed_of_reached (reached m)) (closed_of_reached (reached n)) alike
      (List.mem_map_of_mem first) (List.mem_map_of_mem second)

/-- In one registry an integer type, `Celsius` declared as it and a slice of that, in another one
the same three after the empty interface: the slices are identical. -/
theorem identical_iff_sameType_slices :
    let int : Ty := .basic (.integer .int)
    let celsius : Declaration := ⟨"Celsius", "main", 7⟩
    let first : Usage := Usage.mk .empty []
      |>.after (.basic (.integer .int)) int
      |>.after (.named celsius 0) (.named celsius int)
      |>.after (.slice 1) (.slice (.named celsius int))
    let second : Usage := Usage.mk .empty []
      |>.after .interface .interface
      |>.after (.basic (.integer .int)) int
      |>.after (.named celsius 1) (.named celsius int)
      |>.after (.slice 2) (.slice (.named celsius int))
    let uses : Nat → Usage := fun n => if n = 0 then first else second
    (∀ n, (uses n).Reached) ∧ Ty.DeclareAlike first.asked second.asked ∧
      Registry.identical (fun n => (uses n).registry) ⟨0, 2⟩ ⟨1, 3⟩ = true := by
  intro int celsius first second uses
  have firstReached : first.Reached :=
    Later.call .refl (.basic _)
      |>.call (@Call.named _ celsius (0, int) (by decide +kernel))
      |>.call (@Call.slice _ (1, .named celsius int) (by decide +kernel))
  have secondReached : second.Reached :=
    Later.call .refl .interface
      |>.call (.basic _)
      |>.call (@Call.named _ celsius (1, int) (by decide +kernel))
      |>.call (@Call.slice _ (2, .named celsius int) (by decide +kernel))
  have reached : ∀ n, (uses n).Reached := by
    intro n
    by_cases zero : n = 0
    · simp only [uses, if_pos zero, firstReached]
    · simp only [uses, if_neg zero, secondReached]
  have alike : Ty.DeclareAlike first.asked second.asked := by
    have declared : ∀ d t, Ty.named d t ∈ first.asked ∨ Ty.named d t ∈ second.asked → t = int := by
      simp [Usage.asked, Usage.after, first, second]
    intro d t u left right
    rw [declared d t (.inl left), declared d u (.inr right)]
  refine ⟨reached, alike, ?_⟩
  obtain ⟨-, -, iff⟩ := identical_iff_sameType uses reached 0 1 (2, .slice (.named celsius int))
    (3, .slice (.named celsius int)) (by decide +kernel) (by decide +kernel)
  exact (iff alike).mpr (.slice (.named celsius int int))

/-- One declaration asked for twice in one registry, with an integer type and with a string type
beneath it: the same type by name and place, but not identical. -/
theorem redeclared_not_identical :
    let int : Ty := .basic (.integer .int)
    let string : Ty := .basic .string
    let celsius : Declaration := ⟨"Celsius", "main", 7⟩
    let u : Usage := Usage.mk .empty []
      |>.after (.basic (.integer .int)) int
      |>.after (.named celsius 0) (.named celsius int)
      |>.after (.basic .string) string
      |>.after (.named celsius 2) (.named celsius string)
    u.Reached ∧ (1, .named celsius int) ∈ u.results ∧ (3, .named celsius string) ∈ u.results ∧
      (Ty.named celsius int).SameType (.named celsius string) ∧
      Registry.identical (fun _ => u.registry) ⟨0, 1⟩ ⟨0, 3⟩ = false := by
  intro int string celsius u
  have reached : u.Reached :=
    Later.call .refl (.basic _)
      |>.call (@Call.named _ celsius (0, int) (by decide +kernel))
      |>.call (.basic _)
      |>.call (@Call.named _ celsius (2, string) (by decide +kernel))
  exact ⟨reached, by decide +kernel, by decide +kernel, .named celsius int string,
    by decide +kernel⟩

end Usage

end TypedOps
