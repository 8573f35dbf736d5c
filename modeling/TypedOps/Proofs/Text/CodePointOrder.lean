import Mathlib.Data.List.Lex
import TypedOps.Text.ByteOrder

/-!
The order of texts by bytes and by code points. The bytes of a code point are its digits to the
base 64 under marks: a leading byte, whose mark tells how many bytes continue it, and these under a
mark of their own (`bytes_eq`). Of two code points with as many bytes, the lower one has the lower
byte where they first differ (`digits_lt`); with fewer bytes it has the lower leading byte
(`encoding_lt_of_fewer`). Main statement: bytes order texts as code points do (`bytes_lt_iff`).
-/
namespace TypedOps.Text

/-- The code points of a text. -/
def codePoints (s : String) : List Nat :=
  s.toList.map Char.toNat

/-- The digits of a number to the base 64: the `n` lowest in continuation bytes, under their mark,
and what is above them in the leading byte, under another one. -/
def digits (mark : Nat) : Nat → Nat → List Nat
  | 0, v => [v + mark]
  | n + 1, v => digits mark n (v / 64) ++ [v % 64 + 0x80]

/-- The number of continuation bytes that a code point takes. -/
def continuations (v : Nat) : Nat :=
  if v ≤ 0x7f then 0 else if v ≤ 0x7ff then 1 else if v ≤ 0xffff then 2 else 3

/-- The mark of a leading byte, by the number of bytes that continue it. -/
def leadingMark : Nat → Nat
  | 0 => 0
  | 1 => 0xc0
  | 2 => 0xe0
  | _ => 0xf0

/-- The bytes of a code point. -/
def encoding (v : Nat) : List Nat :=
  digits (leadingMark (continuations v)) (continuations v) v

/-! ## The bytes of a text -/

theorem encoding_toNat (c : Char) :
    encoding c.toNat = (String.utf8EncodeChar c).map UInt8.toNat := by
  have valid : c.toNat < 0x110000 := by
    have := c.valid
    simp only [UInt32.isValidChar, Nat.isValidChar, Char.toNat_val] at this
    omega
  simp only [String.utf8EncodeChar, encoding, continuations, Char.toNat_val]
  split_ifs
  all_goals
    simp only [digits, leadingMark, List.map_cons, List.map_nil, UInt8.toNat_ofNat',
      List.cons.injEq, List.cons_append, List.nil_append, and_true]
    omega

/-- The bytes of a text are those of its code points, one after the other. -/
theorem bytes_eq (s : String) : bytes s = (codePoints s).flatMap encoding := by
  have encoded : s.toUTF8.data.toList = s.toList.flatMap String.utf8EncodeChar := by
    rw [String.toUTF8_eq_toByteArray, ← String.utf8Encode_toList, List.utf8Encode,
      List.toList_data_toByteArray]
  rw [bytes, encoded, List.map_flatMap, codePoints, List.flatMap_map]
  simp only [encoding_toNat]

theorem codePoints_append (s t : String) : codePoints (s ++ t) = codePoints s ++ codePoints t := by
  rw [codePoints, String.toList_append, List.map_append, codePoints, codePoints]

theorem codePoints_eq_nil_iff {s : String} : codePoints s = [] ↔ s = "" := by
  rw [codePoints, List.map_eq_nil_iff, String.toList_eq_nil_iff]

theorem encoding_ne_nil (v : Nat) : encoding v ≠ [] := by
  rw [encoding]
  cases continuations v <;> simp [digits]

/-! ## The order -/

/-- What lists begin with alike does not matter for their order. -/
theorem append_lt_append_iff (p l m : List Nat) : p ++ l < p ++ m ↔ l < m := by
  induction p with
  | nil => rfl
  | cons v p ih => rw [List.cons_append, List.cons_append, List.cons_lt_cons_self, ih]

/-- Texts that continue one text are ordered as what they continue it with. -/
theorem codePoints_append_lt_iff {p s t : String} :
    codePoints (p ++ s) < codePoints (p ++ t) ↔ codePoints s < codePoints t := by
  rw [codePoints_append, codePoints_append, append_lt_append_iff]

/-- Only the empty text continues a text to itself. -/
theorem eq_append_iff {s t : String} : s = s ++ t ↔ t = "" := by
  have cancel : s ++ "" = s ++ t ↔ "" = t := String.append_right_inj s
  rwa [String.append_empty, eq_comm (a := "")] at cancel

/-- A text comes before the texts that continue it. -/
theorem codePoints_lt_append {s t : String} (more : t ≠ "") :
    codePoints s < codePoints (s ++ t) := by
  obtain ⟨v, l, points⟩ := List.exists_cons_of_ne_nil (mt codePoints_eq_nil_iff.mp more)
  have before : codePoints "" < codePoints t := by
    rw [points]
    exact List.nil_lt_cons v l
  rwa [← codePoints_append_lt_iff (p := s), String.append_empty] at before

/-- Of two numbers with as many digits, the lower one is before the higher one, whatever follows. -/
theorem digits_lt {mark n v w : Nat} (less : v < w) (l m : List Nat) :
    digits mark n v ++ l < digits mark n w ++ m := by
  induction n generalizing v w l m with
  | zero =>
    rw [digits, digits, List.singleton_append, List.singleton_append, List.cons_lt_cons_iff]
    exact .inl (by omega)
  | succ n ih =>
    rw [digits, digits, List.append_assoc, List.append_assoc]
    by_cases above : v / 64 < w / 64
    · exact ih above _ _
    · have same : v / 64 = w / 64 := by omega
      rw [same, append_lt_append_iff, List.singleton_append, List.singleton_append,
        List.cons_lt_cons_iff]
      exact .inl (by omega)

/-- A code point with fewer bytes has the lower leading byte. -/
theorem encoding_lt_of_fewer {v w : Nat} (fewer : continuations v < continuations w)
    (l m : List Nat) : encoding v ++ l < encoding w ++ m := by
  simp only [encoding, continuations] at fewer ⊢
  split_ifs at fewer ⊢
  all_goals
    simp only [digits, leadingMark, List.cons_append, List.nil_append, List.cons_lt_cons_iff]
    omega

/-- The lower one of two code points is encoded before the higher one, whatever follows. -/
theorem encoding_lt {v w : Nat} (less : v < w) (l m : List Nat) :
    encoding v ++ l < encoding w ++ m := by
  have notMore : continuations v ≤ continuations w := by
    simp only [continuations]
    split_ifs <;> omega
  rcases notMore.lt_or_eq with fewer | same
  · exact encoding_lt_of_fewer fewer l m
  · simp only [encoding, same]
    exact digits_lt less l m

/-- Sequences of code points are encoded in their order. -/
theorem flatMap_encoding_lt_iff (l m : List Nat) :
    l.flatMap encoding < m.flatMap encoding ↔ l < m := by
  induction l generalizing m with
  | nil =>
    cases m with
    | nil => rfl
    | cons w m =>
      obtain ⟨byte, rest, bytes⟩ := List.exists_cons_of_ne_nil (encoding_ne_nil w)
      rw [List.flatMap_cons, bytes]
      exact iff_of_true (List.nil_lt_cons _ _) (List.nil_lt_cons _ _)
  | cons v l ih =>
    cases m with
    | nil => exact iff_of_false (List.not_lt_nil _) (List.not_lt_nil _)
    | cons w m =>
      rw [List.flatMap_cons, List.flatMap_cons]
      rcases Nat.lt_trichotomy v w with less | rfl | greater
      · exact iff_of_true (encoding_lt less _ _) (List.cons_lt_cons_iff.mpr (.inl less))
      · rw [append_lt_append_iff, List.cons_lt_cons_self, ih]
      · exact iff_of_false (List.lt_asymm (encoding_lt greater _ _))
          (List.lt_asymm (List.cons_lt_cons_iff.mpr (.inl greater)))

/-- The bytes of texts are ordered as their code points are. -/
theorem bytes_lt_iff (s t : String) : bytes s < bytes t ↔ codePoints s < codePoints t := by
  rw [bytes_eq, bytes_eq, flatMap_encoding_lt_iff]

end TypedOps.Text
