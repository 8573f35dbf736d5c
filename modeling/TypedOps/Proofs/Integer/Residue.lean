import Mathlib.Data.Int.Bitwise
import Mathlib.Data.Int.ModEq
import TypedOps.Integer.Arithmetic
import TypedOps.Integer.Stored

/-!
Machine integers as residues. Sums, differences, products, bit operations and shifts to the left
of one shape are the exact ones on all integers, wrapped once (`add_eq_wrap`, …,
`shiftLeft_eq_wrap`); bits of negative integers go on without end, as two's complement has them.
An integer of the shape is fixed by its residue (`eq_wrap_of_modEq`).
-/
namespace TypedOps

theorem Width.modulus_eq_two_pow (w : Width) : w.modulus = 2 ^ w.bits := by
  cases w <;> rfl

namespace Shape

variable (s : Shape) (x y : Int)

/-! ## Residues -/

theorem wrap_modEq : s.wrap x ≡ x [ZMOD s.width.modulus] :=
  s.wrap_emod x

theorem wrap_eq_of_modEq {s : Shape} {x y : Int} (same : x ≡ y [ZMOD s.width.modulus]) :
    s.wrap x = s.wrap y :=
  (s.wrap_eq_wrap_iff x y).mpr same

/-- The only integer of the shape with the residue of `x` is `x`, wrapped. -/
theorem eq_wrap_of_modEq {s : Shape} {x y : Int} (inside : s.Contains y)
    (same : y ≡ x [ZMOD s.width.modulus]) : y = s.wrap x := by
  rw [← wrap_eq_self inside]
  exact wrap_eq_of_modEq same

theorem add_eq_wrap : s.add x y = s.wrap (x + y) :=
  wrap_eq_of_modEq ((s.wrap_modEq x).add (s.wrap_modEq y))

theorem sub_eq_wrap : s.sub x y = s.wrap (x - y) :=
  wrap_eq_of_modEq ((s.wrap_modEq x).sub (s.wrap_modEq y))

theorem mul_eq_wrap : s.mul x y = s.wrap (x * y) :=
  wrap_eq_of_modEq ((s.wrap_modEq x).mul (s.wrap_modEq y))

/-! ## Bits -/

/-- The low bits of an integer are its bits. -/
theorem getElem_bitsOf {i : Nat} (inside : i < s.width.bits) :
    (s.bitsOf x)[i] = x.testBit i := by
  rw [bitsOf, ← BitVec.getLsbD_eq_getElem]
  cases x with
  | ofNat n =>
    simp only [Int.ofNat_eq_natCast, BitVec.ofInt_natCast, BitVec.getLsbD_ofNat, inside,
      decide_true, Bool.true_and]
    rfl
  | negSucc n =>
    simp only [BitVec.ofInt_negSucc_eq_not_ofNat, BitVec.getLsbD_not, BitVec.getLsbD_ofNat, inside,
      decide_true, Bool.true_and]
    rfl

theorem bitsOf_land : s.bitsOf (Int.land x y) = s.bitsOf x &&& s.bitsOf y := by
  ext i inside
  simp only [BitVec.getElem_and, getElem_bitsOf, Int.testBit_land]

theorem bitsOf_lor : s.bitsOf (Int.lor x y) = s.bitsOf x ||| s.bitsOf y := by
  ext i inside
  simp only [BitVec.getElem_or, getElem_bitsOf, Int.testBit_lor]

theorem bitsOf_lxor : s.bitsOf (Int.xor x y) = s.bitsOf x ^^^ s.bitsOf y := by
  ext i inside
  simp only [BitVec.getElem_xor, getElem_bitsOf, Int.testBit_lxor]

theorem bitsOf_ldiff : s.bitsOf (Int.ldiff x y) = s.bitsOf x &&& ~~~s.bitsOf y := by
  ext i inside
  simp only [BitVec.getElem_and, BitVec.getElem_not, getElem_bitsOf, Int.testBit_ldiff]

theorem and_eq_wrap : s.and x y = s.wrap (Int.land x y) := by
  rw [and, ← bitsOf_land, ofBits_bitsOf]

theorem or_eq_wrap : s.or x y = s.wrap (Int.lor x y) := by
  rw [or, ← bitsOf_lor, ofBits_bitsOf]

theorem xor_eq_wrap : s.xor x y = s.wrap (Int.xor x y) := by
  rw [xor, ← bitsOf_lxor, ofBits_bitsOf]

theorem andNot_eq_wrap : s.andNot x y = s.wrap (Int.ldiff x y) := by
  rw [andNot, ← bitsOf_ldiff, ofBits_bitsOf]

/-- Wrapping leaves the low bits alone. -/
theorem bitsOf_wrap : s.bitsOf (s.wrap x) = s.bitsOf x := by
  apply BitVec.eq_of_toNat_eq
  have same := s.wrap_emod x
  rw [Width.modulus_eq_two_pow] at same
  simp only [bitsOf, BitVec.toNat_ofInt, same]

/-! ## Shifts -/

/-- A shift to the left multiplies by a power of two, whatever the count. -/
theorem shiftLeft_eq_wrap (count : Nat) : s.shiftLeft x count = s.wrap (x * 2 ^ count) := by
  apply wrap_eq_of_modEq
  rw [Int.shiftLeft_eq]
  have scaled := (s.wrap_modEq x).mul_right (2 ^ min count s.width.bits)
  rcases Nat.le_total count s.width.bits with within | past
  · rwa [Nat.min_eq_left within] at scaled ⊢
  · -- Past the width both sides are multiples of the modulus.
    rw [Nat.min_eq_right past] at scaled ⊢
    have vanish : ∀ m : Int, ∀ n, s.width.bits ≤ n → m * 2 ^ n ≡ 0 [ZMOD s.width.modulus] := by
      intro m n le
      rw [Width.modulus_eq_two_pow, Int.modEq_zero_iff_dvd]
      push_cast
      exact Dvd.dvd.mul_left (pow_dvd_pow 2 le) m
    exact (vanish _ _ le_rfl).trans (vanish _ _ past).symm

end Shape

/-! ## Stored integers -/

namespace StoredInt

theorem narrow_wrap (word : WordSize) (k : IntKind) (n : Int) :
    narrow word k ((k.shape word).wrap n) = narrow word k n := by
  simp only [narrow, Shape.wrap_wrap]

/-- Every cell lies within 64 bits of its signedness. -/
theorem contains_w64 (i : StoredInt) : (Shape.mk i.kind.signed .w64).Contains i.val := by
  obtain ⟨k, n, contained⟩ := i
  revert contained
  cases k <;>
    simp only [IntKind.cell, IntKind.shape, IntKind.signed, IntKind.width, WordSize.width,
      Shape.Contains, Shape.least, Shape.limit, Width.modulus, Bool.false_eq_true, ↓reduceIte] <;>
    omega

/-- Read back as signed, the 64 bits of a signed integer stand for it. -/
theorem toInt_bits {i : StoredInt} (signed : i.kind.signed = true) : i.bits.toInt = i.val := by
  have contained := i.contains_w64
  rw [signed] at contained
  exact (Shape.ofBits_bitsOf ⟨true, .w64⟩ i.val).trans (Shape.wrap_eq_self contained)

/-- Read back as a number, the 64 bits of an integer that is not negative stand for it. -/
theorem toNat_bits {i : StoredInt} {n : Nat} (value : i.val = n) : i.bits.toNat = n := by
  have contained : (Shape.mk false .w64).Contains i.val := by
    have := i.contains_w64
    revert this
    cases i.kind.signed <;>
      simp only [Shape.Contains, Shape.least, Shape.limit, Width.modulus, Bool.false_eq_true,
        ↓reduceIte] <;>
      omega
  have read : (i.bits.toNat : Int) = i.val :=
    (Shape.ofBits_bitsOf ⟨false, .w64⟩ i.val).trans (Shape.wrap_eq_self contained)
  exact Int.ofNat_inj.mp (read.trans value)

end StoredInt

end TypedOps
