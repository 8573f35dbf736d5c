import Mathlib.Data.Rat.Lemmas
import TypedOps.Constant

/-!
The exact values of untyped constants, whatever form they are kept in: a number is an integer, a
rational, or a complex number without an imaginary part (`Constant.Exactly`), and every one of them
has two parts (`Constant.Parts`). The readers of constants find exactly these values
(`toRat_eq_some_iff`, `toInteger_eq_some_iff`).
-/
namespace TypedOps.Constant

/-- The constants whose exact value is a given rational. -/
inductive Exactly : Rat → Constant → Prop
  | integer (n : Int) : Exactly n (.integer n)
  | rational (q : Rat) : Exactly q (.rational q)
  | complex (q : Rat) : Exactly q (.complex q 0)

/-- The constants whose exact value is the complex number of given parts. -/
inductive Parts : Rat → Rat → Constant → Prop
  | integer (n : Int) : Parts n 0 (.integer n)
  | rational (q : Rat) : Parts q 0 (.rational q)
  | complex (re im : Rat) : Parts re im (.complex re im)

variable {c : Constant} {q : Rat} {n : Int}

theorem toRat_eq_some_iff : c.toRat? = some q ↔ c.Exactly q := by
  constructor
  · intro read
    cases c with
    | integer n =>
      cases read
      exact .integer n
    | rational p =>
      cases read
      exact .rational q
    | complex re im =>
      by_cases real : im = 0
      · subst real
        cases read
        exact .complex q
      · simp [toRat?, real] at read
    | _ => cases read
  · intro exact
    cases exact with
    | integer n => rfl
    | rational q => rfl
    | complex q => simp [toRat?]

/-- An integer is read from the constants whose exact value is that integer. -/
theorem toInteger_eq_some_iff : c.toInteger? = some n ↔ c.Exactly n := by
  rw [← toRat_eq_some_iff, toInteger?]
  cases c.toRat? with
  | none => simp
  | some q =>
    simp only [Option.some.injEq, Option.ite_none_right_eq_some]
    constructor
    · rintro ⟨integral, rfl⟩
      exact (Rat.den_eq_one_iff q).mp integral |>.symm
    · rintro rfl
      exact ⟨Rat.den_intCast n, Rat.num_intCast n⟩

theorem toInteger_eq_none_iff : c.toInteger? = none ↔ ∀ n : Int, ¬ c.Exactly n := by
  rw [Option.eq_none_iff_forall_ne_some]
  simp only [ne_eq, toInteger_eq_some_iff]

end TypedOps.Constant
