import TypedOps.Integer.Shape

/-!
Arithmetic, bit operations and shifts of one shape. Each operation first wraps its operands, so
that an operand of another shape counts by its low bits, and its result is again an integer of
the shape. Sums, differences and products are exact up to a multiple of the modulus; quotients go
toward zero and leave the sign of the dividend to the remainder.
-/
namespace TypedOps.Shape

/-- The sum, wrapped. -/
def add (s : Shape) (x y : Int) : Int :=
  s.wrap (s.wrap x + s.wrap y)

/-- The difference, wrapped. -/
def sub (s : Shape) (x y : Int) : Int :=
  s.wrap (s.wrap x - s.wrap y)

/-- The product, wrapped. -/
def mul (s : Shape) (x y : Int) : Int :=
  s.wrap (s.wrap x * s.wrap y)

/-- The quotient toward zero. Only the least signed integer divided by `-1` leaves the range, and
wraps to itself. -/
def quo (s : Shape) (x y : Int) : Int :=
  s.wrap ((s.wrap x).tdiv (s.wrap y))

/-- What the quotient toward zero leaves, with the sign of the dividend. -/
def rem (s : Shape) (x y : Int) : Int :=
  s.wrap ((s.wrap x).tmod (s.wrap y))

/-- The bits that both operands hold. -/
def and (s : Shape) (x y : Int) : Int :=
  s.ofBits (s.bitsOf x &&& s.bitsOf y)

/-- The bits that either operand holds. -/
def or (s : Shape) (x y : Int) : Int :=
  s.ofBits (s.bitsOf x ||| s.bitsOf y)

/-- The bits that exactly one operand holds. -/
def xor (s : Shape) (x y : Int) : Int :=
  s.ofBits (s.bitsOf x ^^^ s.bitsOf y)

/-- The bits of the first operand that the second one does not hold. -/
def andNot (s : Shape) (x y : Int) : Int :=
  s.ofBits (s.bitsOf x &&& ~~~s.bitsOf y)

/-- The bits moved up by `count` places; those that pass the width are lost, so a count past the
width acts as the width does. -/
def shiftLeft (s : Shape) (x : Int) (count : Nat) : Int :=
  s.wrap (s.wrap x <<< min count s.width.bits)

/-- The bits moved down by `count` places, with copies of the sign above them; a count past the
width acts as the width does. -/
def shiftRight (s : Shape) (x : Int) (count : Nat) : Int :=
  s.wrap x >>> min count s.width.bits

/-! ## Results are integers of the shape -/

theorem contains_ofBits (s : Shape) (b : BitVec s.width.bits) : s.Contains (s.ofBits b) := by
  obtain ⟨signed, width⟩ := s
  cases signed <;> cases width <;>
    simp only [Contains, ofBits, least, limit, Width.modulus, Width.bits, Bool.false_eq_true,
      ↓reduceIte] at b ⊢
  all_goals
    have := b.isLt
    have := b.toInt_lt
    have := b.le_toInt
    omega

end TypedOps.Shape
