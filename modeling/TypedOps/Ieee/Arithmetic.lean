import TypedOps.Ieee.Binary

/-!
Arithmetic of one format. Every operation is the exact result rounded once; what is exact about
signed zeros, infinities and not-a-number is spelt out case by case.
-/
namespace TypedOps.Ieee.Binary

variable {f : Format}

/-- The number with the other sign. -/
def neg : Binary f → Binary f
  | nan => nan
  | number negative code => number (!negative) code

/-- The sum. Infinities of opposite signs have none; a sum of zero is positive unless both
operands are negative. -/
def add : Binary f → Binary f → Binary f
  | nan, _ => nan
  | _, nan => nan
  | x@(number s _), y@(number t _) =>
    match x.toRat?, y.toRat? with
    | some p, some q => if p + q = 0 then zero (s && t) else ofRat (p + q)
    | some _, none => y
    | none, some _ => x
    | none, none => if s = t then x else nan

/-- The difference. -/
def sub (x y : Binary f) : Binary f :=
  x.add y.neg

/-- The product. Infinity times zero has none. -/
def mul : Binary f → Binary f → Binary f
  | nan, _ => nan
  | _, nan => nan
  | x@(number s a), y@(number t b) =>
    match x.toRat?, y.toRat? with
    | some p, some q => round (s != t) (p * q)
    | _, _ => if a.val = 0 ∨ b.val = 0 then nan else infinity (s != t)

/-- The quotient. Zero by zero and infinity by infinity have none; other quotients by zero are
infinite, and quotients by infinity are zero. -/
def div : Binary f → Binary f → Binary f
  | nan, _ => nan
  | _, nan => nan
  | x@(number s a), y@(number t b) =>
    match x.toRat?, y.toRat? with
    | some p, some q =>
      if b.val = 0 then (if a.val = 0 then nan else infinity (s != t)) else round (s != t) (p / q)
    | some _, none => zero (s != t)
    | none, some _ => infinity (s != t)
    | none, none => nan

end TypedOps.Ieee.Binary
