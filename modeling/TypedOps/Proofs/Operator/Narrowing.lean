import TypedOps.Proofs.Integer.Residue
import TypedOps.Proofs.Operator.Typing
import TypedOps.Proofs.Value.ExactValue

/-!
How constants become integers. An integral constant comes to the only integer of the kind that
differs from it by a multiple of `2 ^ w`, where `w` is the width of the kind on the machine
(`StoredInt.Narrows`), in whatever form its exact value is kept; any other constant is refused
(`Constant.NarrowsTo`). Main statement: facing an integer type, a numeric constant becomes an
integer in this way, and so do integer and rune constants on their own (`constants_narrow`).
-/
namespace TypedOps

/-- The bit patterns of a kind on a machine, counted. -/
theorem IntKind.modulus_shape (word : WordSize) (k : IntKind) :
    ((k.shape word).width.modulus : Int) = 2 ^ (k.width word).bits := by
  rw [Width.modulus_eq_two_pow]
  push_cast
  rfl

/-- The integer of a kind that an integer of any size comes to on a machine. -/
structure StoredInt.Narrows (word : WordSize) (k : IntKind) (n : Int) (i : StoredInt) : Prop where
  kind : i.kind = k
  fits : i.FitsWord word
  congruent : i.val ≡ n [ZMOD 2 ^ (k.width word).bits]
  unique : ∀ x, (k.shape word).Contains x → x ≡ n [ZMOD 2 ^ (k.width word).bits] → x = i.val
  kept : (k.shape word).Contains n → i.val = n

/-- What becomes of a constant that is to be an integer of a type stored as a kind: the integer that
the constant comes to there, at the type, if the exact value of the constant is an integer, and
a fault if it is not. -/
structure Constant.NarrowsTo (word : WordSize) (ty : Ty) (k : IntKind) (fault : InternalFault)
    (c : Constant) (result : Except Fault Object) : Prop where
  ok_iff : (∃ o, result = .ok o) ↔ ∃ n : Int, c.Exactly n
  narrowed : ∀ n : Int, c.Exactly n →
    ∃ i : StoredInt, result = .ok ⟨.integer i, ty⟩ ∧ i.Narrows word k n
  refused : (∀ n : Int, ¬ c.Exactly n) → result = .error (.internal fault)

theorem StoredInt.narrow_narrows (word : WordSize) (k : IntKind) (n : Int) :
    (narrow word k n).Narrows word k n where
  kind := rfl
  fits := narrow_fitsWord word k n
  congruent := by
    rw [narrow_val, ← IntKind.modulus_shape]
    exact Shape.wrap_modEq ..
  unique x inside same := by
    rw [← IntKind.modulus_shape] at same
    rw [narrow_val]
    exact Shape.eq_wrap_of_modEq inside same
  kept inside := by
    rw [narrow_val]
    exact Shape.wrap_eq_self inside

/-- What is kept as an integer kind, or else refused, narrows. -/
theorem Constant.narrowsTo_of_asKind {word : WordSize} {ty : Ty} {kind : Kind} {k : IntKind}
    {fault : InternalFault} {c : Constant} {result : Except Fault Object}
    (storage : kind.storage = .integer k)
    (given : result =
      match c.asKind? word kind with
      | some v => .ok ⟨v, ty⟩
      | none => .error (.internal fault)) :
    c.NarrowsTo word ty k fault result := by
  rw [asKind_low storage] at given
  have narrowed : ∀ n : Int, c.Exactly n →
      ∃ i : StoredInt, result = .ok ⟨.integer i, ty⟩ ∧ i.Narrows word k n := by
    intro n exact
    rw [toInteger_eq_some_iff.mpr exact] at given
    exact ⟨_, given, StoredInt.narrow_narrows word k n⟩
  have refused : (∀ n : Int, ¬ c.Exactly n) → result = .error (.internal fault) := by
    intro fraction
    rw [toInteger_eq_none_iff.mpr fraction] at given
    exact given
  refine ⟨⟨?_, ?_⟩, narrowed, refused⟩
  · rintro ⟨o, ok⟩
    by_contra none
    rw [refused (not_exists.mp none)] at ok
    cases ok
  · rintro ⟨n, exact⟩
    obtain ⟨i, ok, _⟩ := narrowed n exact
    exact ⟨_, ok⟩

namespace Engine

/-- Numeric constants become integers modulo the width of the type. This goes for those that face an
integer type, and for integer and rune constants on their own. A constant whose exact value is no
integer is refused, by the two types when it faces one, and else by its class. -/
theorem constants_narrow (e : Engine) (c : Constant) :
    (∀ (u : UntypedKind) (ty : Ty) (k : IntKind), u.isNumeric = true → ty.storage = .integer k →
      c.NarrowsTo e.word ty k (.notConvertible (.basic (.untyped u)) ty)
        (e.represent (.constant u c) ty).result) ∧
    c.NarrowsTo e.word (.basic (.integer .int)) .int (.constantMismatch .int (.constant c))
      (e.normalize (.constant .int c)).result ∧
    c.NarrowsTo e.word (.basic .rune) .int32 (.constantMismatch .rune (.constant c))
      (e.normalize (.constant .rune c)).result := by
  refine ⟨?_, ?_, ?_⟩
  · intro u ty k number storage
    have stored : ty.storage.isNumeric = true := by rw [storage, Kind.isNumeric_integer]
    exact Constant.narrowsTo_of_asKind (ty.storage_storage.trans storage)
      (represent_numeric number stored)
  · exact Constant.narrowsTo_of_asKind rfl (normalize_constant rfl)
  · exact Constant.narrowsTo_of_asKind rfl (normalize_constant rfl)

/-- With a word of 32 bits: the greatest integer of 64 bits, kept as a rational, keeps its value as
a `uint64`, and is `-1` as a declared `int` and as a rune. A half is refused. -/
theorem constants_narrow_greatest :
    let e : Engine := { word := .w32 }
    let count : Ty := .named ⟨"Count", "main", 7⟩ (.basic (.integer .int))
    let uint64 : Ty := .basic (.integer .uint64)
    let greatest : Constant := .rational 18446744073709551615
    let half : Constant := .rational (1 / 2)
    (∃ i : StoredInt, (e.represent (.constant .float greatest) uint64).result =
        .ok ⟨.integer i, uint64⟩ ∧ i.val = 18446744073709551615) ∧
      (∃ i : StoredInt, (e.represent (.constant .float greatest) count).result =
        .ok ⟨.integer i, count⟩ ∧ i.val = -1) ∧
      (∃ i : StoredInt, (e.normalize (.constant .rune greatest)).result =
        .ok ⟨.integer i, .basic .rune⟩ ∧ i.val = -1) ∧
      (e.represent (.constant .float half) count).result =
        .error (.internal (.notConvertible (.basic (.untyped .float)) count)) := by
  intro e count uint64 greatest half
  have exact : greatest.Exactly (18446744073709551615 : Int) :=
    Constant.toInteger_eq_some_iff.mp (by decide +kernel)
  have fraction : ∀ n : Int, ¬ half.Exactly n :=
    Constant.toInteger_eq_none_iff.mp (by decide +kernel)
  obtain ⟨facing, _, rune⟩ := constants_narrow e greatest
  obtain ⟨facingHalf, _, _⟩ := constants_narrow e half
  obtain ⟨i, atUint64, wide⟩ := (facing .float uint64 .uint64 rfl rfl).narrowed _ exact
  obtain ⟨j, atCount, narrow⟩ := (facing .float count .int rfl rfl).narrowed _ exact
  obtain ⟨r, atRune, short⟩ := rune.narrowed _ exact
  refine ⟨⟨i, atUint64, wide.kept (by decide)⟩, ⟨j, atCount, ?_⟩, ⟨r, atRune, ?_⟩,
    (facingHalf .float count .int rfl rfl).refused fraction⟩
  · exact (narrow.unique (-1) (by decide) (by decide)).symm
  · exact (short.unique (-1) (by decide) (by decide)).symm

end Engine

end TypedOps
