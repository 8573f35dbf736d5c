/-!
Natural numbers of any size shortened to their leading 64 bits, as a step before rounding to fewer
bits still. The last bit kept is set where bits that are cut off leave a mark, so that a number
just above the middle of two neighbours is not taken for the middle itself. The mark is an
approximation beyond 128 bits, where it may miss bits. Main statements: up to 64 bits a number is
left alone (`shorten_eq_self`), and up to 128 bits the mark misses nothing (`mark_eq`).
-/
namespace TypedOps.Leading

/-- The number of low bits beyond the leading 64. -/
def excess (n : Nat) : Nat :=
  n.log2 - 63

/-- The number of bits in the topmost of the 64-bit words that the number is made of. -/
def topBits (n : Nat) : Nat :=
  n.log2 % 64 + 1

/-- Whether the bits that are cut off leave a mark. In each word below the topmost one as many low
bits are looked at as the topmost one has: in the second word, these are the bits that are cut off
from it. -/
def mark (n : Nat) : Bool :=
  (List.range (n.log2 / 64)).any fun i => n >>> (64 * i) % 1 <<< topBits n != 0

/-- The leading 64 bits in their places, the last of them set if there is a mark. -/
def shorten (n : Nat) : Nat :=
  (n >>> excess n ||| (mark n).toNat) <<< excess n

/-- Of a number of up to 128 bits, exactly the bits cut off leave a mark. -/
theorem mark_eq {n : Nat} (h : n.log2 < 128) : mark n = (n % 1 <<< excess n != 0) := by
  by_cases hone : n.log2 < 64
  · have hwords : n.log2 / 64 = 0 := by omega
    have hexcess : excess n = 0 := by
      simp only [excess]
      omega
    simp [mark, hwords, hexcess, Nat.mod_one]
  · have hwords : n.log2 / 64 = 1 := by omega
    have hexcess : excess n = topBits n := by
      simp only [excess, topBits]
      omega
    simp [mark, hwords, hexcess]

/-- A number of up to 64 bits is left alone. -/
theorem shorten_eq_self {n : Nat} (h : n.log2 < 64) : shorten n = n := by
  have hexcess : excess n = 0 := by
    simp only [excess]
    omega
  simp [shorten, mark_eq (show n.log2 < 128 by omega), hexcess, Nat.mod_one]

end TypedOps.Leading
