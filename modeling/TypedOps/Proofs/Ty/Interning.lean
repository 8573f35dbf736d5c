import Mathlib.Data.List.Dedup
import Mathlib.Data.List.Induction
import Mathlib.Logic.Relation
import TypedOps.Ty.Registry

/-!
Interning over any history. A registry is used by calls of its constructors, each on results of
earlier calls (`Usage.Call`); beside the place that it gives, each call is recorded with the type
that it asks for, built from the types of its components without looking at the registry. Through
all calls the types kept are exactly those that were asked for, each of them once, and each result
reads as its type (`Usage.Sound`, `Usage.sound_of_reached`); what is kept or recorded is never
changed (`Usage.Extends`). Main statement: places are equal exactly if types are, the size counts
the different types, results stay, and identity is that of places within one registry and that of
types across registries (`interning_canonical`). Asking for a whole type is such a history too
(`Usage.add_later`).
-/
namespace TypedOps

namespace Registry

variable {r : Registry} {d : Descriptor} {t : Ty} {place : Place}

/-! ## One request -/

theorem types_append (descriptors : List Descriptor) (d : Descriptor) :
    types ⟨descriptors ++ [d]⟩ = types ⟨descriptors⟩ ++ [typeOf (types ⟨descriptors⟩) d] := by
  simp only [types, List.foldl_append, List.foldl_cons, List.foldl_nil]

/-- There is one type for each descriptor. -/
theorem length_types (r : Registry) : r.types.length = r.size := by
  obtain ⟨descriptors⟩ := r
  induction descriptors using List.reverseRecOn with
  | nil => rfl
  | append_singleton rest d ih =>
    simp only [size] at ih ⊢
    rw [types_append, List.length_append, List.length_append, ih]
    rfl

/-- Asking for a type that is kept changes nothing and gives a place that reads as the type. -/
theorem intern_kept (kept : typeOf r.types d ∈ r.types) :
    ∃ place, r.intern d = (r, place) ∧ r.types[place]? = some (typeOf r.types d) := by
  cases found : r.types.idxOf? (typeOf r.types d) with
  | none => exact absurd kept (List.idxOf?_eq_none_iff.mp found)
  | some place =>
    refine ⟨place, by simp only [intern, found], ?_⟩
    obtain ⟨inside, same, _⟩ := List.findIdx?_eq_some_iff_getElem.mp found
    rw [List.getElem?_eq_getElem inside, eq_of_beq same]

/-- A new type is kept after all others. -/
theorem intern_new (new : typeOf r.types d ∉ r.types) :
    r.intern d = (⟨r.descriptors ++ [d]⟩, r.size) := by
  simp only [intern, List.idxOf?_eq_none_iff.mpr new]

/-- The place that a request gives reads as the type asked for. -/
theorem intern_reads (r : Registry) (d : Descriptor) :
    (r.intern d).1.types[(r.intern d).2]? = some (typeOf r.types d) := by
  by_cases kept : typeOf r.types d ∈ r.types
  · obtain ⟨place, interned, reads⟩ := intern_kept kept
    rw [interned]
    exact reads
  · rw [intern_new kept, types_append, ← length_types, List.getElem?_concat_length]

theorem mem_intern_types (r : Registry) (d : Descriptor) (t : Ty) :
    t ∈ (r.intern d).1.types ↔ t ∈ r.types ∨ t = typeOf r.types d := by
  by_cases kept : typeOf r.types d ∈ r.types
  · obtain ⟨place, interned, _⟩ := intern_kept kept
    rw [interned]
    constructor
    · exact .inl
    · rintro (old | rfl)
      · exact old
      · exact kept
  · rw [intern_new kept, types_append, List.mem_append, List.mem_singleton]

/-- Each type is kept once. -/
theorem nodup_intern_types (once : r.types.Nodup) (d : Descriptor) :
    (r.intern d).1.types.Nodup := by
  by_cases kept : typeOf r.types d ∈ r.types
  · obtain ⟨place, interned, _⟩ := intern_kept kept
    rw [interned]
    exact once
  · rw [intern_new kept, types_append]
    exact List.nodup_append_comm.mp (List.nodup_cons.mpr ⟨kept, once⟩)

/-- What a registry keeps comes first in what it keeps after a request. -/
theorem descriptors_prefix_intern (r : Registry) (d : Descriptor) :
    r.descriptors <+: (r.intern d).1.descriptors := by
  by_cases kept : typeOf r.types d ∈ r.types
  · obtain ⟨place, interned, _⟩ := intern_kept kept
    simp only [interned, List.prefix_rfl]
  · rw [intern_new kept]
    exact List.prefix_append ..

/-- A registry that keeps more descriptors reads the same at the places that there were. -/
theorem types_prefix_of_descriptors {r s : Registry} (more : r.descriptors <+: s.descriptors) :
    r.types <+: s.types := by
  obtain ⟨descriptors⟩ := r
  obtain ⟨all⟩ := s
  obtain ⟨rest, rfl⟩ := more
  induction rest using List.reverseRecOn with
  | nil => simp only [List.append_nil, List.prefix_rfl]
  | append_singleton rest d ih =>
    rw [← List.append_assoc, types_append]
    exact ih.trans (List.prefix_append ..)

/-- Two addresses are identical exactly if they are one address or the same type is kept there. -/
theorem identical_iff {registries : Nat → Registry} {a b : Address} {t u : Ty}
    (first : (registries a.registry).types[a.place]? = some t)
    (second : (registries b.registry).types[b.place]? = some u) :
    identical registries a b = true ↔ a = b ∨ t = u := by
  simp only [identical, first, second, Bool.or_eq_true, decide_eq_true_eq, Ty.identical_iff]

end Registry

/-! ## Histories of calls -/

/-- A registry with the results of the calls so far: the place that each gave, and the type that it
asked for. -/
structure Usage where
  registry : Registry
  results : List (Place × Ty)

namespace Usage

open Registry (typeOf)

/-- A call of a constructor on earlier results: the descriptor is built from the places of the
components, and the type asked for from their types. -/
inductive Call (results : List (Place × Ty)) : Descriptor → Ty → Prop
  | basic (k : Kind) : Call results (.basic k) (.basic k)
  | named (d : Declaration) {underlying : Place × Ty} (earlier : underlying ∈ results) :
    Call results (.named d underlying.1) (.named d underlying.2)
  | pointer {element : Place × Ty} (earlier : element ∈ results) :
    Call results (.pointer element.1) (.pointer element.2)
  | slice {element : Place × Ty} (earlier : element ∈ results) :
    Call results (.slice element.1) (.slice element.2)
  | map {key value : Place × Ty} (keyEarlier : key ∈ results) (valueEarlier : value ∈ results) :
    Call results (.map key.1 value.1) (.map key.2 value.2)
  | chan {element : Place × Ty} (earlier : element ∈ results) :
    Call results (.chan element.1) (.chan element.2)
  | func {ins outs : List (Place × Ty)} (insEarlier : ins ⊆ results)
    (outsEarlier : outs ⊆ results) :
    Call results (.func (ins.map Prod.fst) (outs.map Prod.fst))
      (.func (ins.map Prod.snd) (outs.map Prod.snd))
  | interface : Call results .interface .interface

/-- The usage after a call, with its result recorded. -/
def after (u : Usage) (d : Descriptor) (t : Ty) : Usage :=
  ⟨(u.registry.intern d).1, u.results ++ [((u.registry.intern d).2, t)]⟩

/-- One call. -/
inductive Next (u : Usage) : Usage → Prop
  | call {d : Descriptor} {t : Ty} (call : Call u.results d t) : Next u (u.after d t)

/-- Any number of calls. -/
def Later : Usage → Usage → Prop :=
  Relation.ReflTransGen Next

/-- The usages that calls lead to, from a registry without types. -/
def Reached (u : Usage) : Prop :=
  Later ⟨.empty, []⟩ u

/-- The types kept are those that were asked for, each of them once, and each result reads as the
type that it was asked for as. -/
structure Sound (u : Usage) : Prop where
  once : u.registry.types.Nodup
  asked : ∀ t, t ∈ u.registry.types ↔ t ∈ u.results.map Prod.snd
  reads : ∀ c ∈ u.results, u.registry.types[c.1]? = some c.2

/-- What is kept and what is recorded stays as it is; more may come after it. -/
structure Extends (u v : Usage) : Prop where
  kept : u.registry.descriptors <+: v.registry.descriptors
  recorded : u.results <+: v.results

variable {u v : Usage} {d : Descriptor} {t : Ty}

/-! ## What one call does -/

theorem Later.call {w : Usage} (calls : Later w u) (call : Call u.results d t) :
    Later w (u.after d t) :=
  .tail calls (.call call)

/-- The descriptor of a call stands for the type that is asked for. -/
theorem Sound.typeOf_call (sound : u.Sound) (call : Call u.results d t) :
    typeOf u.registry.types d = t := by
  have component : ∀ c ∈ u.results, u.registry.types.getD c.1 .interface = c.2 := by
    intro c earlier
    rw [List.getD_eq_getElem?_getD, sound.reads c earlier, Option.getD_some]
  have components : ∀ cs ⊆ u.results,
      (cs.map Prod.fst).map (u.registry.types.getD · .interface) = cs.map Prod.snd := by
    intro cs earlier
    rw [List.map_map]
    exact List.map_congr_left fun c member => component c (earlier member)
  cases call with
  | basic | interface => rfl
  | named d earlier => simp only [typeOf, component _ earlier]
  | pointer earlier => simp only [typeOf, component _ earlier]
  | slice earlier => simp only [typeOf, component _ earlier]
  | map key value => simp only [typeOf, component _ key, component _ value]
  | chan earlier => simp only [typeOf, component _ earlier]
  | func ins outs => simp only [typeOf, components _ ins, components _ outs]

theorem extends_after (u : Usage) (d : Descriptor) (t : Ty) : u.Extends (u.after d t) where
  kept := Registry.descriptors_prefix_intern u.registry d
  recorded := List.prefix_append ..

/-- What reads as a type goes on to do so. -/
theorem Extends.reads (more : u.Extends v) {place : Place}
    (reads : u.registry.types[place]? = some t) : v.registry.types[place]? = some t := by
  obtain ⟨rest, same⟩ := Registry.types_prefix_of_descriptors more.kept
  obtain ⟨inside, _⟩ := List.getElem?_eq_some_iff.mp reads
  rw [← same, List.getElem?_append_left inside, reads]

theorem Sound.after (sound : u.Sound) (call : Call u.results d t) : (u.after d t).Sound where
  once := Registry.nodup_intern_types sound.once d
  asked s := by
    rw [Usage.after, Registry.mem_intern_types, sound.typeOf_call call, sound.asked,
      List.map_append, List.mem_append, List.map_singleton, List.mem_singleton]
  reads c member := by
    rcases List.mem_append.mp member with earlier | last
    · exact (u.extends_after d t).reads (sound.reads c earlier)
    · rw [List.mem_singleton.mp last, Usage.after, Registry.intern_reads, sound.typeOf_call call]

/-! ## What any history does -/

theorem Extends.refl (u : Usage) : u.Extends u :=
  ⟨List.prefix_rfl, List.prefix_rfl⟩

theorem Extends.trans {w : Usage} (first : u.Extends v) (second : v.Extends w) : u.Extends w :=
  ⟨first.kept.trans second.kept, first.recorded.trans second.recorded⟩

theorem extends_of_later (later : Later u v) : u.Extends v := by
  induction later with
  | refl => exact .refl u
  | tail _ next ih =>
    cases next with
    | call => exact ih.trans (extends_after ..)

theorem sound_of_reached (reached : u.Reached) : u.Sound := by
  induction reached with
  | refl => exact ⟨List.nodup_nil, fun _ => Iff.rfl, nofun⟩
  | tail _ next ih =>
    cases next with
    | call call => exact ih.after call

/-- Two results are at the same place exactly if the same type was asked for. -/
theorem Sound.place_eq_iff (sound : u.Sound) {c d : Place × Ty} (first : c ∈ u.results)
    (second : d ∈ u.results) : c.1 = d.1 ↔ c.2 = d.2 := by
  have readsFirst := sound.reads c first
  have readsSecond := sound.reads d second
  constructor
  · intro same
    rw [same, readsSecond] at readsFirst
    exact (Option.some.inj readsFirst).symm
  · intro same
    obtain ⟨inside, _⟩ := List.getElem?_eq_some_iff.mp readsFirst
    apply (List.getElem?_inj inside sound.once).mp
    rw [readsFirst, readsSecond, same]

/-- As many types are kept as different ones were asked for. -/
theorem Sound.size_eq (sound : u.Sound) :
    u.registry.size = (u.results.map Prod.snd).dedup.length := by
  rw [← Registry.length_types]
  apply List.Perm.length_eq
  rw [List.perm_ext_iff_of_nodup sound.once (List.nodup_dedup _)]
  intro t
  rw [List.mem_dedup, sound.asked]

/-- Interning is canonical in every registry, after any history of it. Two results are at the same
place exactly if they are the same type; as many types are kept as different ones were asked for;
whatever calls come later, what is kept and each result stay as they are, and the result reads as
its type; two results of one registry are identical exactly if they are at the same place, and those
of two registries exactly if they are the same type. -/
theorem interning_canonical (uses : Nat → Usage) (reached : ∀ n, (uses n).Reached) :
    (∀ n, ∀ c ∈ (uses n).results, ∀ d ∈ (uses n).results, c.1 = d.1 ↔ c.2 = d.2) ∧
    (∀ n, (uses n).registry.size = ((uses n).results.map Prod.snd).dedup.length) ∧
    (∀ n later, Later (uses n) later → (uses n).Extends later ∧
      ∀ c ∈ (uses n).results, later.registry.types[c.1]? = some c.2) ∧
    (∀ m n, ∀ c ∈ (uses m).results, ∀ d ∈ (uses n).results,
      Registry.identical (fun n => (uses n).registry) ⟨m, c.1⟩ ⟨n, d.1⟩ = true ↔
        if m = n then c.1 = d.1 else c.2 = d.2) := by
  have sound := fun n => sound_of_reached (reached n)
  refine ⟨fun n c first d second => (sound n).place_eq_iff first second,
    fun n => (sound n).size_eq, ?later, ?identity⟩
  case later =>
    intro n later calls
    have more := extends_of_later calls
    exact ⟨more, fun c result => more.reads ((sound n).reads c result)⟩
  case identity =>
    intro m n c first d second
    rw [Registry.identical_iff ((sound m).reads c first) ((sound n).reads d second)]
    split
    case isTrue same =>
      subst same
      rw [← (sound m).place_eq_iff first second, Registry.Address.mk.injEq]
      simp only [true_and, or_self]
    case isFalse different =>
      simp only [Registry.Address.mk.injEq, different, false_and, false_or]

/-- In one registry an integer type, its slices, two declarations of one name, a function type and
the slices again, in another one the empty interface, the integer type and its slices: the slices
are at one place in the first, and identical across the two; the declarations are not. -/
theorem interning_canonical_two_registries :
    let int : Ty := .basic (.integer .int)
    let inner : Declaration := ⟨"Celsius", "main", 7⟩
    let outer : Declaration := ⟨"Celsius", "main", 90⟩
    let first : Usage := Usage.mk .empty []
      |>.after (.basic (.integer .int)) int
      |>.after (.slice 0) (.slice int)
      |>.after (.named inner 0) (.named inner int)
      |>.after (.named outer 0) (.named outer int)
      |>.after (.func [1, 2] [0]) (.func [.slice int, .named inner int] [int])
      |>.after (.slice 0) (.slice int)
    let second : Usage := Usage.mk .empty []
      |>.after .interface .interface
      |>.after (.basic (.integer .int)) int
      |>.after (.slice 1) (.slice int)
    let uses : Nat → Usage := fun n => if n = 0 then first else second
    (∀ n, (uses n).Reached) ∧ first.results.map Prod.fst = [0, 1, 2, 3, 4, 1] ∧
      first.registry.size = 5 ∧
      Registry.identical (fun n => (uses n).registry) ⟨0, 1⟩ ⟨1, 2⟩ = true ∧
      Registry.identical (fun n => (uses n).registry) ⟨0, 2⟩ ⟨0, 3⟩ = false := by
  intro int inner outer first second uses
  have firstReached : first.Reached :=
    Later.call .refl (.basic _)
      |>.call (@Call.slice _ (0, int) (by decide +kernel))
      |>.call (@Call.named _ inner (0, int) (by decide +kernel))
      |>.call (@Call.named _ outer (0, int) (by decide +kernel))
      |>.call (@Call.func _ [(1, .slice int), (2, .named inner int)] [(0, int)]
        (by decide +kernel) (by decide +kernel))
      |>.call (@Call.slice _ (0, int) (by decide +kernel))
  have secondReached : second.Reached :=
    Later.call .refl .interface
      |>.call (.basic _)
      |>.call (@Call.slice _ (1, int) (by decide +kernel))
  have reached : ∀ n, (uses n).Reached := by
    intro n
    by_cases zero : n = 0
    · simp only [uses, if_pos zero, firstReached]
    · simp only [uses, if_neg zero, secondReached]
  obtain ⟨-, size, -, identity⟩ := interning_canonical uses reached
  refine ⟨reached, by decide +kernel, ?_, ?_, ?_⟩
  · exact (size 0).trans (by decide +kernel)
  · exact (identity 0 1 (1, .slice int) (by decide +kernel) (2, .slice int)
      (by decide +kernel)).mpr rfl
  · apply Bool.eq_false_iff.mpr
    intro same
    have := (identity 0 0 (2, .named inner int) (by decide +kernel) (3, .named outer int)
      (by decide +kernel)).mp same
    exact absurd this (by decide)

/-! ## Whole types -/

/-- A call after earlier ones leads to a usage that records its place. -/
theorem exists_later_call (calls : Later u v) (call : Call v.results d t) :
    ∃ w place, Later u w ∧ v.registry.intern d = (w.registry, place) ∧ (place, t) ∈ w.results :=
  ⟨v.after d t, _, calls.call call, rfl, List.mem_concat_self⟩

/-- The same for a call on a type that was just asked for. -/
theorem exists_later_layer {layer : Place → Descriptor} {whole : Ty → Ty}
    (call : ∀ {results : List (Place × Ty)} {c : Place × Ty}, c ∈ results →
      Call results (layer c.1) (whole c.2))
    (component : ∃ v place, Later u v ∧ u.registry.add t = (v.registry, place) ∧
      (place, t) ∈ v.results) :
    ∃ w place, Later u w ∧
      (u.registry.add t).1.intern (layer (u.registry.add t).2) = (w.registry, place) ∧
      (place, whole t) ∈ w.results := by
  obtain ⟨v, place, calls, added, earlier⟩ := component
  rw [added]
  exact exists_later_call calls (call earlier)

mutual

/-- Asking for a whole type is a history of calls. -/
theorem add_later (u : Usage) (t : Ty) :
    ∃ v place, Later u v ∧ u.registry.add t = (v.registry, place) ∧ (place, t) ∈ v.results := by
  cases t with
  | basic k => exact exists_later_call .refl (.basic k)
  | interface => exact exists_later_call .refl .interface
  | named d t => exact exists_later_layer (.named d) (add_later u t)
  | pointer t => exact exists_later_layer .pointer (add_later u t)
  | slice t => exact exists_later_layer .slice (add_later u t)
  | chan t => exact exists_later_layer .chan (add_later u t)
  | map t s =>
    obtain ⟨v, key, keyCalls, keyAdded, keyEarlier⟩ := add_later u t
    obtain ⟨w, value, valueCalls, valueAdded, valueEarlier⟩ := add_later v s
    have keyStays := (extends_of_later valueCalls).recorded.subset keyEarlier
    simp only [Registry.add, keyAdded, valueAdded]
    exact exists_later_call (.trans keyCalls valueCalls) (.map keyStays valueEarlier)
  | func ts ss =>
    obtain ⟨v, ins, inCalls, insAdded, rfl, insEarlier⟩ := addAll_later u ts
    obtain ⟨w, outs, outCalls, outsAdded, rfl, outsEarlier⟩ := addAll_later v ss
    have insStay := List.Subset.trans insEarlier (extends_of_later outCalls).recorded.subset
    simp only [Registry.add, insAdded, outsAdded]
    exact exists_later_call (.trans inCalls outCalls) (.func insStay outsEarlier)

/-- Asking for several types is one too. -/
theorem addAll_later (u : Usage) (ts : List Ty) :
    ∃ v cs, Later u v ∧ u.registry.addAll ts = (v.registry, cs.map Prod.fst) ∧
      cs.map Prod.snd = ts ∧ cs ⊆ v.results := by
  cases ts with
  | nil => exact ⟨u, [], .refl, rfl, rfl, List.nil_subset _⟩
  | cons t ts =>
    obtain ⟨v, place, calls, added, earlier⟩ := add_later u t
    obtain ⟨w, cs, restCalls, restAdded, rfl, restEarlier⟩ := addAll_later v ts
    have stays := (extends_of_later restCalls).recorded.subset earlier
    refine ⟨w, (place, t) :: cs, .trans calls restCalls, ?_, rfl, ?_⟩
    · simp only [Registry.addAll, added, restAdded, List.map_cons]
    · exact List.cons_subset.mpr ⟨stays, restEarlier⟩

end

end Usage

end TypedOps
