import Mathlib.Data.List.Basic
import TypedOps.Ty.Text

/-!
The text of a type without declared types determines the type. A text opens with the name of a basic
kind or with the first characters of a composite type (`Opening`), and a type is followed by a
closing character or by nothing. No opening begins another one, except that the name of a kind may
go on to another opening with a character that closes nothing
(`Opening.eq_or_goesOn_of_isPrefix`), so what a text opens with is determined
(`Opening.eq_of_append`). The components are then determined one after another, by induction on the
type (`chars_append_inj`, `commaChars_append_inj`, `resultChars_append_inj`). Main statement:
`text_eq_iff`.
-/
namespace TypedOps.Ty

mutual

/-- Whether no declared type occurs in the type. -/
def nameless : Ty → Bool
  | basic _ | interface => true
  | named _ _ => false
  | pointer t | slice t | chan t => t.nameless
  | map t u => t.nameless && u.nameless
  | func ts us => allNameless ts && allNameless us

/-- Whether no declared type occurs in the types. -/
def allNameless : List Ty → Bool
  | [] => true
  | t :: ts => t.nameless && allNameless ts

end

/-! ## Openings -/

/-- What the text of a type opens with: the name of its kind, or what tells how it is built. -/
inductive Opening
  | kind (k : Kind)
  | pointer
  | slice
  | map
  | chan
  | func
  | interface
  deriving DecidableEq

/-- The characters that close a component. -/
def closing : List Char :=
  [']', ',', ')']

/-- The characters that stand before a type, after it or between two of them. -/
def delimiters : List Char :=
  closing ++ ['(', ' ']

/-- What may follow a type: a closing character, or nothing. -/
def Closes (rest : List Char) : Prop :=
  ∀ c ∈ rest.head?, c ∈ closing

theorem closes_nil : Closes [] := by
  simp [Closes]

theorem closes_cons_iff {c : Char} {rest : List Char} : Closes (c :: rest) ↔ c ∈ closing := by
  simp [Closes]

namespace Opening

/-- The characters of an opening. -/
def chars : Opening → List Char
  | kind k => k.name.toList
  | pointer => "*".toList
  | slice => "[]".toList
  | map => "map[".toList
  | chan => "chan ".toList
  | func => "func(".toList
  | interface => "interface\x7b\x7d".toList

/-- All openings. -/
def all : List Opening :=
  Kind.all.map kind ++ [pointer, slice, map, chan, func, interface]

theorem mem_all (o : Opening) : o ∈ all := by
  cases o with
  | kind k =>
    cases k with
    | integer k => cases k <;> decide
    | float f => cases f <;> decide
    | complex f => cases f <;> decide
    | untyped u => cases u <;> decide
    | reference r => cases r <;> decide
    | _ => decide
  | _ => decide

/-- What may follow an opening: after the name of a kind there is no more of the type. -/
def Precedes (o : Opening) (rest : List Char) : Prop :=
  ∀ k, o = kind k → Closes rest

/-- Whether an opening is the name of a kind, with which another one begins and goes on with a
character that closes nothing. -/
def goesOn (o p : Opening) : Bool :=
  match o, p.chars[o.chars.length]? with
  | kind _, some c => !closing.contains c
  | _, _ => false

/-- An opening that begins another one is that one, or goes on to it with a character that closes
nothing. -/
theorem eq_or_goesOn_of_isPrefix :
    ∀ o ∈ all, ∀ p ∈ all, o.chars <+: p.chars → o = p ∨ o.goesOn p = true := by
  decide +kernel

/-- Every opening begins with a character that is no delimiter. -/
theorem head_not_delimiter :
    ∀ o ∈ all, o.chars.head?.any (fun c => !delimiters.contains c) = true := by
  decide +kernel

variable {o p : Opening} {r s : List Char}

/-- An opening that begins another one and may be followed by the rest of it is that one. -/
theorem eq_of_isPrefix (begins : o.chars <+: p.chars) (after : o.Precedes r)
    (same : o.chars ++ r = p.chars ++ s) : o = p := by
  rcases eq_or_goesOn_of_isPrefix o (mem_all o) p (mem_all p) begins with equal | goesOn
  · exact equal
  · unfold Opening.goesOn at goesOn
    split at goesOn
    · next k c next =>
      -- What follows the name of the kind goes on with that character, which closes nothing.
      obtain ⟨rest, split⟩ := begins
      rw [← split, List.append_assoc, List.append_cancel_left_eq] at same
      rw [← split, List.getElem?_append_right (Nat.le_refl _), Nat.sub_self] at next
      have first : c ∈ r.head? := by
        rw [same, List.head?_append, List.head?_eq_getElem?, next]
        rfl
      simp [after k rfl c first] at goesOn
    · cases goesOn

/-- What a text opens with is determined. -/
theorem eq_of_append (before : o.Precedes r) (after : p.Precedes s)
    (same : o.chars ++ r = p.chars ++ s) : o = p := by
  rcases List.prefix_or_prefix_of_prefix (List.prefix_append o.chars r)
    (same ▸ List.prefix_append p.chars s) with begins | begins
  · exact eq_of_isPrefix begins before same
  · exact (eq_of_isPrefix begins after same.symm).symm

end Opening

/-! ## Texts in characters -/

/-- The characters of the text of a type. -/
def chars (t : Ty) : List Char :=
  t.text.toList

/-- The characters of a list of types. -/
def commaChars (ts : List Ty) : List Char :=
  (commaText ts).toList

/-- The characters of the results of a function. -/
def resultChars (ts : List Ty) : List Char :=
  (resultText ts).toList

/-- What the text of a type opens with. -/
def opening? : Ty → Option Opening
  | basic k => some (.kind k)
  | named _ _ => none
  | pointer _ => some .pointer
  | slice _ => some .slice
  | map _ _ => some .map
  | chan _ => some .chan
  | func _ _ => some .func
  | interface => some .interface

/-- The characters after the opening. -/
def inner : Ty → List Char
  | basic _ | named _ _ | interface => []
  | pointer t | slice t | chan t => t.chars
  | map t u => t.chars ++ ']' :: u.chars
  | func ts us => commaChars ts ++ ')' :: resultChars us

variable {t u : Ty} {ts us : List Ty} {r s : List Char}

theorem exists_opening (plain : t.nameless = true) :
    ∃ o, t.opening? = some o ∧ t.chars = o.chars ++ t.inner := by
  cases t with
  | named => cases plain
  | basic k => exact ⟨.kind k, rfl, (List.append_nil _).symm⟩
  | interface => exact ⟨.interface, rfl, (List.append_nil _).symm⟩
  | map t u =>
    refine ⟨.map, rfl, ?_⟩
    simp only [chars, text, String.toList_append, List.append_assoc]
    rfl
  | func ts us =>
    refine ⟨.func, rfl, ?_⟩
    simp only [chars, text, String.toList_append, List.append_assoc]
    rfl
  | pointer t => exact ⟨.pointer, rfl, String.toList_append⟩
  | slice t => exact ⟨.slice, rfl, String.toList_append⟩
  | chan t => exact ⟨.chan, rfl, String.toList_append⟩

theorem precedes_inner {o : Opening} (opens : t.opening? = some o) (closes : Closes r) :
    o.Precedes (t.inner ++ r) := by
  rintro k rfl
  cases t with
  | basic => exact closes
  | _ => cases opens

/-- Of two types with the same text before what may follow them, the openings are the same and what
comes after the openings is. -/
theorem opening_eq (left : t.nameless = true) (right : u.nameless = true) (leftCloses : Closes r)
    (rightCloses : Closes s) (same : t.chars ++ r = u.chars ++ s) :
    t.opening? = u.opening? ∧ t.inner ++ r = u.inner ++ s := by
  obtain ⟨o, leftOpens, leftChars⟩ := exists_opening left
  obtain ⟨p, rightOpens, rightChars⟩ := exists_opening right
  rw [leftChars, rightChars, List.append_assoc, List.append_assoc] at same
  have equal : o = p := Opening.eq_of_append (precedes_inner leftOpens leftCloses)
    (precedes_inner rightOpens rightCloses) same
  rw [leftOpens, rightOpens, equal]
  rw [equal] at same
  exact ⟨rfl, List.append_cancel_left same⟩

/-- The text of a type begins with no delimiter. -/
theorem chars_head_not_delimiter (plain : t.nameless = true) {c : Char}
    (same : t.chars ++ r = c :: s) : c ∉ delimiters := by
  obtain ⟨o, _, opens⟩ := exists_opening plain
  obtain ⟨d, first, distinct⟩ := (Option.any_eq_true _ _).mp (o.head_not_delimiter o.mem_all)
  obtain ⟨rest, begins⟩ := List.head?_eq_some_iff.mp first
  rw [opens, begins, List.cons_append, List.cons_append, List.cons.injEq] at same
  simpa [same.1] using distinct

/-! ## Lists -/

/-- What follows the first type of a list between parentheses, when the others are `ts`. -/
def afterFirst (ts : List Ty) (r : List Char) : List Char :=
  match ts with
  | [] => ')' :: r
  | _ :: _ => ',' :: ' ' :: (commaChars ts ++ ')' :: r)

theorem afterFirst_closes (ts : List Ty) (r : List Char) : Closes (afterFirst ts r) := by
  cases ts <;> exact closes_cons_iff.mpr (by decide)

theorem commaChars_cons (t : Ty) (ts : List Ty) (r : List Char) :
    commaChars (t :: ts) ++ ')' :: r = t.chars ++ afterFirst ts r := by
  cases ts with
  | nil => rfl
  | cons u us =>
    simp only [commaChars, commaText, String.toList_append, List.append_assoc]
    rfl

theorem resultChars_one (t : Ty) : resultChars [t] = ' ' :: t.chars := by
  simp only [resultChars, resultText, String.toList_append]
  rfl

theorem resultChars_many (t u : Ty) (ts : List Ty) :
    resultChars (t :: u :: ts) = ' ' :: '(' :: (commaChars (t :: u :: ts) ++ [')']) := by
  simp only [resultChars, resultText, commaChars, commaText, String.toList_append,
    List.append_assoc]
  rfl

/-- Results begin with a space, which closes nothing. -/
theorem results_not_closes (t : Ty) (ts : List Ty) (r : List Char) :
    ¬ Closes (resultChars (t :: ts) ++ r) := by
  have space : ' ' ∉ closing := by decide
  cases ts with
  | nil => rwa [resultChars_one, List.cons_append, closes_cons_iff]
  | cons u us => rwa [resultChars_many, List.cons_append, closes_cons_iff]

/-! ## Cancellation -/

mutual

/-- The text of a type before what may follow it determines the type and what follows. -/
theorem chars_append_inj (t u : Ty) {r s : List Char} (left : t.nameless = true)
    (right : u.nameless = true) (leftCloses : Closes r) (rightCloses : Closes s)
    (same : t.chars ++ r = u.chars ++ s) : t = u ∧ r = s := by
  obtain ⟨opening, inner⟩ := opening_eq left right leftCloses rightCloses same
  cases t with
  | named d t => cases left
  | basic k =>
    cases u with
    | basic l =>
      cases opening
      exact ⟨rfl, inner⟩
    | _ => cases opening
  | interface =>
    cases u with
    | interface => exact ⟨rfl, inner⟩
    | _ => cases opening
  | pointer t =>
    cases u with
    | pointer u =>
      obtain ⟨rfl, rest⟩ := chars_append_inj t u left right leftCloses rightCloses inner
      exact ⟨rfl, rest⟩
    | _ => cases opening
  | slice t =>
    cases u with
    | slice u =>
      obtain ⟨rfl, rest⟩ := chars_append_inj t u left right leftCloses rightCloses inner
      exact ⟨rfl, rest⟩
    | _ => cases opening
  | chan t =>
    cases u with
    | chan u =>
      obtain ⟨rfl, rest⟩ := chars_append_inj t u left right leftCloses rightCloses inner
      exact ⟨rfl, rest⟩
    | _ => cases opening
  | map t t' =>
    cases u with
    | map u u' =>
      obtain ⟨leftKey, leftValue⟩ := Bool.and_eq_true_iff.mp left
      obtain ⟨rightKey, rightValue⟩ := Bool.and_eq_true_iff.mp right
      simp only [Ty.inner, List.append_assoc, List.cons_append] at inner
      obtain ⟨rfl, value⟩ := chars_append_inj t u leftKey rightKey (closes_cons_iff.mpr (by decide))
        (closes_cons_iff.mpr (by decide)) inner
      obtain ⟨rfl, rest⟩ := chars_append_inj t' u' leftValue rightValue leftCloses rightCloses
        (List.cons.inj value).2
      exact ⟨rfl, rest⟩
    | _ => cases opening
  | func ts ts' =>
    cases u with
    | func us us' =>
      obtain ⟨leftParams, leftResults⟩ := Bool.and_eq_true_iff.mp left
      obtain ⟨rightParams, rightResults⟩ := Bool.and_eq_true_iff.mp right
      simp only [Ty.inner, List.append_assoc, List.cons_append] at inner
      obtain ⟨rfl, results⟩ := commaChars_append_inj ts us leftParams rightParams inner
      obtain ⟨rfl, rest⟩ := resultChars_append_inj ts' us' leftResults rightResults leftCloses
        rightCloses results
      exact ⟨rfl, rest⟩
    | _ => cases opening
termination_by (sizeOf t, 0)

/-- The types of a list between parentheses are determined. -/
theorem commaChars_append_inj (ts us : List Ty) {r s : List Char} (left : allNameless ts = true)
    (right : allNameless us = true) (same : commaChars ts ++ ')' :: r = commaChars us ++ ')' :: s) :
    ts = us ∧ r = s := by
  cases ts with
  | nil =>
    cases us with
    | nil => exact ⟨rfl, (List.cons.inj same).2⟩
    | cons u us =>
      rw [commaChars_cons] at same
      have first := chars_head_not_delimiter (Bool.and_eq_true_iff.mp right).1 same.symm
      exact absurd (by decide) first
  | cons t ts =>
    cases us with
    | nil =>
      rw [commaChars_cons] at same
      have first := chars_head_not_delimiter (Bool.and_eq_true_iff.mp left).1 same
      exact absurd (by decide) first
    | cons u us =>
      obtain ⟨leftFirst, leftOthers⟩ := Bool.and_eq_true_iff.mp left
      obtain ⟨rightFirst, rightOthers⟩ := Bool.and_eq_true_iff.mp right
      rw [commaChars_cons, commaChars_cons] at same
      obtain ⟨rfl, others⟩ := chars_append_inj t u leftFirst rightFirst (afterFirst_closes ts r)
        (afterFirst_closes us s) same
      cases ts with
      | nil =>
        cases us with
        | nil => exact ⟨rfl, (List.cons.inj others).2⟩
        | cons u us => simp [afterFirst] at others
      | cons t' ts =>
        cases us with
        | nil => simp [afterFirst] at others
        | cons u us =>
          simp only [afterFirst, List.cons.injEq, true_and] at others
          obtain ⟨same, rest⟩ :=
            commaChars_append_inj (t' :: ts) (u :: us) leftOthers rightOthers others
          exact ⟨by rw [same], rest⟩
termination_by (sizeOf ts, 0)

/-- Whether there are results, one or several shows, and they are determined. -/
theorem resultChars_append_inj (ts us : List Ty) {r s : List Char} (left : allNameless ts = true)
    (right : allNameless us = true) (leftCloses : Closes r) (rightCloses : Closes s)
    (same : resultChars ts ++ r = resultChars us ++ s) : ts = us ∧ r = s := by
  match ts, us with
  | [], [] => exact ⟨rfl, same⟩
  | [], u :: us => exact absurd (same ▸ leftCloses) (results_not_closes u us s)
  | t :: ts, [] => exact absurd (same ▸ rightCloses) (results_not_closes t ts r)
  | [t], [u] =>
    rw [resultChars_one, resultChars_one] at same
    obtain ⟨rfl, rest⟩ := chars_append_inj t u (Bool.and_eq_true_iff.mp left).1
      (Bool.and_eq_true_iff.mp right).1 leftCloses rightCloses (List.cons.inj same).2
    exact ⟨rfl, rest⟩
  | [t], u :: u' :: us =>
    rw [resultChars_one, resultChars_many] at same
    have first := chars_head_not_delimiter (Bool.and_eq_true_iff.mp left).1 (List.cons.inj same).2
    exact absurd (by decide) first
  | t :: t' :: ts, [u] =>
    rw [resultChars_one, resultChars_many] at same
    have first :=
      chars_head_not_delimiter (Bool.and_eq_true_iff.mp right).1 (List.cons.inj same).2.symm
    exact absurd (by decide) first
  | t :: t' :: ts, u :: u' :: us =>
    simp only [resultChars_many, List.cons_append, List.append_assoc, List.nil_append,
      List.cons.injEq, true_and] at same
    exact commaChars_append_inj (t :: t' :: ts) (u :: u' :: us) left right same
termination_by (sizeOf ts, 1)

end

/-! ## Main statement -/

/-- Two types without declared types are written alike exactly if they are the same type. -/
theorem text_eq_iff (t u : Ty) (left : t.nameless = true) (right : u.nameless = true) :
    t.text = u.text ↔ t = u := by
  constructor
  · intro same
    have chars : t.chars ++ [] = u.chars ++ [] := by
      rw [Ty.chars, same, Ty.chars]
    exact (chars_append_inj t u left right closes_nil closes_nil chars).1
  · rintro rfl
    rfl

/-- A function that gives a function of two results, and a function of two results of which the
first one is a function: their texts differ by where a parenthesis opens. -/
theorem text_eq_iff_results :
    let int : Ty := .basic (.integer .int)
    let text : Ty := .basic .string
    let t : Ty := .func [] [.func [] [int, text]]
    let u : Ty := .func [] [.func [] [int], text]
    t.nameless = true ∧ u.nameless = true ∧ t.text ≠ u.text := by
  intro int text t u
  exact ⟨rfl, rfl, (text_eq_iff t u rfl rfl).not.mpr (by decide)⟩

end TypedOps.Ty
