import TypedOps.Operator.Bits
import TypedOps.Proofs.Integer.Division

/-!
Shifts of machine integers as arithmetic (`ShiftOp.scaled`): to the left they multiply by a power
of two and wrap, to the right they divide by it and round down. Main statements: a shift is that for
every count, those past the width included (`onInteger_eq_scaled`); counts that agree up to the
width shift alike (`onInteger_congr`); and two shifts one after the other are one by the sum of the
counts (`scaled_scaled`).
-/
namespace TypedOps

/-- Moving bits down is dividing by a power of two and rounding down. -/
theorem shiftRight_eq_fdiv (x : Int) (n : Nat) : x >>> n = x.fdiv (2 ^ n) := by
  rw [Int.shiftRight_eq_div_pow, Int.fdiv_eq_ediv_of_nonneg x (Int.pow_nonneg (by decide))]
  push_cast
  rfl

namespace Shape

variable {s : Shape} {x : Int} {n : Nat}

/-- What is left of an integer after a shift to the right lies between it and zero. -/
theorem contains_shiftRight (inside : s.Contains x) (n : Nat) : s.Contains (x >>> n) := by
  apply contains_of_between inside
  rcases le_total 0 x with nonneg | nonpos
  · exact .inl ⟨Int.le_shiftRight_of_nonneg nonneg, Int.shiftRight_le_of_nonneg nonneg⟩
  · exact .inr ⟨Int.le_shiftRight_of_nonpos nonpos, Int.shiftRight_le_of_nonpos nonpos⟩

/-- A shift by the width moves out everything but copies of the sign. -/
theorem shiftRight_bits (inside : s.Contains x) :
    x >>> s.width.bits = 0 ∨ x >>> s.width.bits = -1 := by
  rw [Int.shiftRight_eq_div_pow]
  obtain ⟨signed, width⟩ := s
  cases signed <;> cases width <;>
    simp only [Contains, least, limit, Width.modulus, Width.bits, Bool.false_eq_true,
      ↓reduceIte] at inside ⊢ <;>
    omega

/-- Past the width nothing changes any more. -/
theorem shiftRight_of_bits_le (inside : s.Contains x) (past : s.width.bits ≤ n) :
    x >>> n = x >>> s.width.bits := by
  obtain ⟨more, rfl⟩ := Nat.exists_eq_add_of_le past
  rw [Int.shiftRight_add]
  rcases shiftRight_bits inside with zero | minusOne
  · rw [zero, Int.zero_shiftRight]
  · have signs : Int.negSucc 0 >>> more = Int.negSucc 0 := by
      rw [Int.negSucc_shiftRight, Nat.zero_shiftRight]
    rw [minusOne]
    exact signs

/-- A shift to the right moves as many places as it is told to, whatever the count. -/
theorem shiftRight_eq (inside : s.Contains x) (n : Nat) : s.shiftRight x n = x >>> n := by
  rw [shiftRight, wrap_eq_self inside]
  rcases Nat.le_total n s.width.bits with within | past
  · rw [Nat.min_eq_left within]
  · rw [Nat.min_eq_right past, shiftRight_of_bits_le inside past]

end Shape

namespace ShiftOp

/-- What a shift by `n` places comes to: to the left the product with a power of two, wrapped, and
to the right the quotient by it, rounded down. -/
def scaled (s : Shape) : ShiftOp → Int → Nat → Int
  | left, x, n => s.wrap (x * 2 ^ n)
  | right, x, n => x.fdiv (2 ^ n)

variable {s : Shape} {x : Int} {m n : Nat}

theorem onInteger_eq_scaled (op : ShiftOp) (inside : s.Contains x) (n : Nat) :
    op.onInteger s x n = op.scaled s x n := by
  cases op with
  | left => exact s.shiftLeft_eq_wrap x n
  | right => exact (Shape.shiftRight_eq inside n).trans (shiftRight_eq_fdiv x n)

theorem onInteger_congr (op : ShiftOp) (x : Int)
    (same : min m s.width.bits = min n s.width.bits) : op.onInteger s x m = op.onInteger s x n := by
  cases op with
  | left => simp only [onInteger, Shape.shiftLeft, same]
  | right => simp only [onInteger, Shape.shiftRight, same]

theorem contains_scaled (op : ShiftOp) (inside : s.Contains x) (n : Nat) :
    s.Contains (op.scaled s x n) := by
  cases op with
  | left => exact s.contains_wrap _
  | right =>
    rw [scaled, ← shiftRight_eq_fdiv]
    exact Shape.contains_shiftRight inside n

/-- Two shifts are one by both counts together. -/
theorem scaled_scaled (op : ShiftOp) (x : Int) (m n : Nat) :
    op.scaled s (op.scaled s x m) n = op.scaled s x (m + n) := by
  cases op with
  | left =>
    have scaled := (s.wrap_modEq (x * 2 ^ m)).mul_right (2 ^ n)
    rw [mul_assoc, ← pow_add] at scaled
    exact Shape.wrap_eq_of_modEq scaled
  | right =>
    simp only [scaled, ← shiftRight_eq_fdiv]
    exact (Int.shiftRight_add x m n).symm

end ShiftOp

end TypedOps
