/-!
The shortest decimal of a gap. A gap is an interval of magnitudes that all stand for the same
thing, around the one they stand for; its shortest decimal is the point of the coarsest decimal
grid that meets the gap, and of two such points the one nearer to the middle, the upper one of two
equally near (`Gap.shortest`).
-/
namespace TypedOps

/-- The magnitude `digits · 10 ^ exponent`. -/
structure Decimal where
  digits : Nat
  exponent : Int
  deriving DecidableEq

namespace Decimal

/-- Positional text, without an exponent: a point stands only before decimal places. -/
def text (d : Decimal) : String :=
  let digits := Nat.toDigits 10 d.digits
  match d.exponent with
  | .ofNat zeros => String.ofList (digits ++ List.replicate zeros '0')
  | .negSucc n =>
    let places := n + 1
    let padded := List.replicate (places + 1 - digits.length) '0' ++ digits
    let whole := padded.length - places
    String.ofList (padded.take whole ++ '.' :: padded.drop whole)

end Decimal

/-- Magnitudes that stand for `value`: those between `below` and `above`, and the two bounds
themselves where the gap is closed. The four are counted in parts of one, `scale` to the one. -/
structure Gap where
  below : Nat
  value : Nat
  above : Nat
  closed : Bool
  scale : Nat

namespace Gap

/-- Whether a magnitude lies in the gap. -/
def holds (g : Gap) (x : Nat) : Bool :=
  if g.closed then decide (g.below ≤ x ∧ x ≤ g.above) else decide (g.below < x ∧ x < g.above)

/-- The gap in parts of one that are smaller by a factor. -/
def refine (g : Gap) (factor : Nat) : Gap :=
  { g with below := g.below * factor, value := g.value * factor, above := g.above * factor }

/-- Of the two multiples of `step` around the value the one in the gap, the nearer one where both
are, and the upper one where they are equally near. -/
def multiple? (g : Gap) (step : Nat) : Option Nat :=
  let n := g.value / step
  let lower := n * step
  let upper := (n + 1) * step
  match g.holds lower, g.holds upper with
  | true, true => some (if 2 * g.value < lower + upper then n else n + 1)
  | true, false => some n
  | false, true => some (n + 1)
  | false, false => none

/-- The coarsest grid `10 ^ e` with `0 < e ≤ top` that meets the gap, and its point there. -/
def coarse? (g : Gap) : (top : Nat) → Option Decimal
  | 0 => none
  | e + 1 =>
    match g.multiple? (g.scale * Nat.pow 10 (e + 1)) with
    | some n => some ⟨n, Int.ofNat (e + 1)⟩
    | none => coarse? g e

/-- The coarsest grid `10 ^ -places` that meets the gap, for at least the given number of places,
and its point there. After the last try the value itself is written out. -/
def fine (g : Gap) : (tries places : Nat) → Decimal
  | 0, places => ⟨g.value * Nat.pow 10 places / g.scale, -places⟩
  | tries + 1, places =>
    match (g.refine (Nat.pow 10 places)).multiple? g.scale with
    | some n => ⟨n, -places⟩
    | none => fine g tries (places + 1)

/-- The shortest decimal of the gap. No grid meets it that is coarser than its upper bound has
digits, and where `scale` is `2 ^ k` its value has `k` decimal places. -/
def shortest (g : Gap) : Decimal :=
  let top := (Nat.toDigits 10 (g.above / g.scale)).length
  (g.coarse? top).getD (g.fine g.scale.log2 0)

end Gap

end TypedOps
