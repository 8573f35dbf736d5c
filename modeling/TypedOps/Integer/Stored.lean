import TypedOps.Kind

/-!
Integers as values keep them: an integer kind with an integer of the kind's cell. A cell of a
machine-word kind has 64 bits on every machine, so it may hold more than a word
(`StoredInt.FitsWord`).
-/
namespace TypedOps

/-- An integer kept in the cell of an integer kind. -/
structure StoredInt where
  kind : IntKind
  val : Int
  contained : kind.cell.Contains val
  deriving DecidableEq

namespace StoredInt

/-- The low bits of an integer, as many as the cell has. -/
def ofInt (k : IntKind) (x : Int) : StoredInt :=
  ⟨k, k.cell.wrap x, k.cell.contains_wrap x⟩

/-- The 64 bits that stand for the integer, by copies of the sign where the cell is narrower. -/
def bits (i : StoredInt) : BitVec 64 :=
  BitVec.ofInt 64 i.val

/-- Whether the integer fits its kind on a machine with the given word. -/
def FitsWord (word : WordSize) (i : StoredInt) : Prop :=
  (i.kind.shape word).Contains i.val

instance (word : WordSize) (i : StoredInt) : Decidable (i.FitsWord word) :=
  inferInstanceAs (Decidable ((i.kind.shape word).Contains i.val))

/-- The integer of a kind with the low bits of `x`, as many as the kind has on a machine with the
given word. -/
def narrow (word : WordSize) (k : IntKind) (x : Int) : StoredInt :=
  ofInt k ((k.shape word).wrap x)

theorem contains_cell {word : WordSize} {k : IntKind} {x : Int} (h : (k.shape word).Contains x) :
    k.cell.Contains x := by
  revert h
  cases word <;> cases k <;>
    simp only [IntKind.cell, IntKind.shape, IntKind.signed, IntKind.width, WordSize.width,
      Shape.Contains, Shape.least, Shape.limit, Width.modulus, Bool.false_eq_true, ↓reduceIte] <;>
    omega

@[simp] theorem narrow_val (word : WordSize) (k : IntKind) (x : Int) :
    (narrow word k x).val = (k.shape word).wrap x :=
  Shape.wrap_eq_self (contains_cell (Shape.contains_wrap ..))

@[simp] theorem narrow_kind (word : WordSize) (k : IntKind) (x : Int) :
    (narrow word k x).kind = k := rfl

theorem narrow_fitsWord (word : WordSize) (k : IntKind) (x : Int) :
    (narrow word k x).FitsWord word := by
  simp only [FitsWord, narrow_val, narrow_kind, Shape.contains_wrap]

end StoredInt

end TypedOps
