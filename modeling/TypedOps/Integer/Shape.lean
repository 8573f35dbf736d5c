/-!
Shapes of machine integers. A shape is a width with a signedness; it spans a range of integers
(`Shape.Contains`), and `Shape.wrap` brings every integer into that range by dropping or adding
multiples of the modulus. Main statements: a wrapped integer lies in the range
(`contains_wrap`), an integer of the range is left alone (`wrap_eq_self`), and wrapping depends
only on the integer up to a multiple of the modulus (`wrap_eq_wrap_iff`).
-/
namespace TypedOps

/-- The widths that machine integers come in. -/
inductive Width
  | w8
  | w16
  | w32
  | w64
  deriving DecidableEq

namespace Width

/-- The number of bits. -/
def bits : Width → Nat
  | w8 => 8
  | w16 => 16
  | w32 => 32
  | w64 => 64

/-- The number of bit patterns of this width. -/
def modulus : Width → Nat
  | w8 => 256
  | w16 => 65536
  | w32 => 4294967296
  | w64 => 18446744073709551616

theorem modulus_pos (w : Width) : 0 < w.modulus := by
  cases w <;> decide

end Width

/-- A width with a signedness. Signed shapes are two's complement. -/
structure Shape where
  signed : Bool
  width : Width
  deriving DecidableEq

namespace Shape

/-- The least integer of the shape. -/
def least (s : Shape) : Int :=
  if s.signed then -(s.width.modulus / 2 : Nat) else 0

/-- The first integer above the shape. -/
def limit (s : Shape) : Int :=
  if s.signed then (s.width.modulus / 2 : Nat) else s.width.modulus

/-- The integers of the shape. -/
def Contains (s : Shape) (x : Int) : Prop :=
  s.least ≤ x ∧ x < s.limit

instance (s : Shape) (x : Int) : Decidable (s.Contains x) :=
  inferInstanceAs (Decidable (s.least ≤ x ∧ x < s.limit))

/-- The integer of the shape that differs from `x` by a multiple of the modulus. -/
def wrap (s : Shape) (x : Int) : Int :=
  let residue := x % s.width.modulus
  if residue < s.limit then residue else residue - s.width.modulus

/-- The integer of the shape nearest to `x`. -/
def clamp (s : Shape) (x : Int) : Int :=
  if x < s.least then s.least else if x < s.limit then x else s.limit - 1

/-- The low bits of `x`, two's complement. -/
def bitsOf (s : Shape) (x : Int) : BitVec s.width.bits :=
  BitVec.ofInt s.width.bits x

/-- The integer that a bit pattern of the shape stands for. -/
def ofBits (s : Shape) (b : BitVec s.width.bits) : Int :=
  if s.signed then b.toInt else b.toNat

/-! ## The range -/

theorem contains_zero (s : Shape) : s.Contains 0 := by
  obtain ⟨signed, width⟩ := s
  cases signed <;> cases width <;> decide

theorem contains_wrap (s : Shape) (x : Int) : s.Contains (s.wrap x) := by
  obtain ⟨signed, width⟩ := s
  cases signed <;> cases width <;>
    simp only [Contains, wrap, least, limit, Width.modulus, Bool.false_eq_true, ↓reduceIte] <;>
    omega

theorem wrap_eq_self {s : Shape} {x : Int} (h : s.Contains x) : s.wrap x = x := by
  obtain ⟨signed, width⟩ := s
  cases signed <;> cases width <;>
    simp only [Contains, wrap, least, limit, Width.modulus, Bool.false_eq_true,
      ↓reduceIte] at h ⊢ <;>
    omega

theorem wrap_eq_self_iff {s : Shape} {x : Int} : s.wrap x = x ↔ s.Contains x :=
  ⟨fun same => same ▸ s.contains_wrap x, wrap_eq_self⟩

@[simp] theorem wrap_wrap (s : Shape) (x : Int) : s.wrap (s.wrap x) = s.wrap x :=
  wrap_eq_self (contains_wrap s x)

theorem wrap_emod (s : Shape) (x : Int) : s.wrap x % s.width.modulus = x % s.width.modulus := by
  have := s.width.modulus_pos
  simp only [wrap]
  split
  · exact Int.emod_emod ..
  · rw [Int.sub_emod_right, Int.emod_emod]

/-- Two integers wrap to the same one exactly when they differ by a multiple of the modulus. -/
theorem wrap_eq_wrap_iff (s : Shape) (x y : Int) :
    s.wrap x = s.wrap y ↔ x % s.width.modulus = y % s.width.modulus :=
  ⟨fun h => by rw [← wrap_emod s x, h, wrap_emod], fun h => by simp only [wrap, h]⟩

/-- Wrapping to a shape at least as wide first makes no difference. -/
theorem wrap_wrap_of_le {s t : Shape} (h : t.width.bits ≤ s.width.bits) (x : Int) :
    t.wrap (s.wrap x) = t.wrap x := by
  have dvd : (t.width.modulus : Int) ∣ s.width.modulus := by
    revert h
    cases s.width <;> cases t.width <;> decide
  rw [wrap_eq_wrap_iff, ← Int.emod_emod_of_dvd _ dvd, wrap_emod, Int.emod_emod_of_dvd _ dvd]

/-- The low bits of an integer stand for the integer, wrapped. -/
theorem ofBits_bitsOf (s : Shape) (x : Int) : s.ofBits (s.bitsOf x) = s.wrap x := by
  obtain ⟨signed, width⟩ := s
  cases signed <;> cases width <;>
    simp [ofBits, bitsOf, wrap, limit, Width.modulus, Width.bits, Int.bmod_def] <;> omega

end Shape

end TypedOps
