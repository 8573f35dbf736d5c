import TypedOps.Operator.Evaluate
import TypedOps.Proofs.Ieee.LeadingBits
import TypedOps.Proofs.Integer.Residue
import TypedOps.Proofs.Operator.NarrowFloats
import TypedOps.Proofs.Value.Conversion

/-!
Numbers in their several forms. A constant may be kept as an integer, as a rational or as a complex
number, and an integer also as a value of an integer kind. What becomes of a number only depends on
its exact value: constants of one exact value are kept as the same value of every numeric kind
(`Constant.asKind_of_exactly`) and count as many places (`Object.shiftCount_of_exactly`), and an
integer that is converted is kept as a constant of its value is (`Value.convert_eq_asKind`). Main
statements: the form of a constant does not matter (`form_irrelevant`), and constants become what
integers of their value are converted to (`constant_as_converted`).
-/
namespace TypedOps

open Ieee (Binary)

/-- The rational, if it is an integer of more than 128 bits, rounds to the nearest number of the
wide format from its leading bits too. -/
def RoundsWhenLong (q : Rat) : Prop :=
  ∀ n : Int, q = n → 128 ≤ n.natAbs.log2 → (Binary.ofInt n : Binary .binary64).IsNearest n

/-- No integer that is kept is that long. -/
theorem StoredInt.roundsWhenLong (i : StoredInt) : RoundsWhenLong i.val := by
  intro n same long
  obtain rfl : i.val = n := by exact_mod_cast same
  have inside := i.contains_w64
  have bound : i.val.natAbs < 2 ^ 128 := by
    cases signed : i.kind.signed <;>
      simp only [signed, Shape.Contains, Shape.least, Shape.limit, Width.modulus,
        Bool.false_eq_true, ↓reduceIte] at inside <;>
      omega
  have nonzero : i.val.natAbs ≠ 0 := by
    intro zero
    simp [zero] at long
  have short := (Nat.log2_lt nonzero).mpr bound
  omega

/-! ## Constants of one exact value -/

namespace Constant

variable {word : WordSize} {c d : Constant} {q : Rat} {kind : Kind}

theorem Exactly.parts (exact : c.Exactly q) : c.Parts q 0 := by
  cases exact with
  | integer n => exact .integer n
  | rational q => exact .rational q
  | complex q => exact .complex q 0

theorem Exactly.roundsByLeading (exact : c.Exactly q) (long : RoundsWhenLong q) :
    c.RoundsByLeading := by
  rintro n rfl
  have value : q = n := by
    cases exact
    rfl
  by_cases short : n.natAbs.log2 < 128
  · rw [Binary.ofInt_eq_ofRat_of_short short]
    exact Binary.ofRat_isNearest _
  · exact long n value (Nat.le_of_not_lt short)

theorem toInteger_of_exactly (exact : c.Exactly q) (same : d.Exactly q) :
    c.toInteger? = d.toInteger? := by
  simp only [toInteger?, toRat_eq_some_iff.mpr exact, toRat_eq_some_iff.mpr same]

/-- Constants of one exact value are kept alike, as integers in any case, and as other numbers if
long integers are rounded to the nearest one. -/
theorem asKind_of_exactly (exact : c.Exactly q) (same : d.Exactly q)
    (numeric : kind.storage.isNumeric = true)
    (rounds : (∃ k, kind.storage = .integer k) ∨ RoundsWhenLong q) :
    c.asKind? word kind = d.asKind? word kind := by
  cases storage : kind.storage with
  | integer k => rw [asKind_low storage, asKind_low storage, toInteger_of_exactly exact same]
  | float f =>
    have long := rounds.resolve_left (by simp [storage])
    simp only [asKind?, storage, toBinary_of_exactly (exact.roundsByLeading long) exact,
      toBinary_of_exactly (same.roundsByLeading long) same]
  | complex f =>
    have long := rounds.resolve_left (by simp [storage])
    simp only [asKind?, storage, toParts_of_parts (exact.roundsByLeading long) exact.parts,
      toParts_of_parts (same.roundsByLeading long) same.parts]
  | rune => cases kind <;> cases storage
  | bool | string | untyped | reference =>
    rw [storage] at numeric
    cases numeric

end Constant

/-- An integer is converted as a constant of its value is kept. -/
theorem Value.convert_eq_asKind {word : WordSize} {c : Constant} {kind : Kind} (i : StoredInt)
    (exact : c.Exactly i.val)
    (real : (∃ k, kind.storage = .integer k) ∨ ∃ f, kind.storage = .float f) :
    (integer i).convert? word kind = c.asKind? word kind := by
  rcases real with ⟨k, storage⟩ | ⟨f, storage⟩
  · rw [Constant.asKind_integer storage (Constant.toInteger_eq_some_iff.mpr exact),
      convert_integer storage]
  · have rounds := exact.roundsByLeading i.roundsWhenLong
    simp only [convert?, Constant.asKind?, storage, binaryFor?,
      Constant.toBinary_of_exactly rounds exact, Option.map_some]

/-! ## Counts of one exact value -/

/-- The fault with another count of the shift. -/
def Fault.withCount (count : Object) : Fault → Fault
  | .internal (.invalidShiftCount _) => .internal (.invalidShiftCount count)
  | .internal (.invalidOperands op left _) => .internal (.invalidOperands op left count.ty)
  | f => f

theorem Object.shiftCount_of_exactly {c d : Constant} {q : Rat} (exact : c.Exactly q)
    (same : d.Exactly q) (u w : UntypedKind) :
    (constant w d).shiftCount = (constant u c).shiftCount.mapError (.withCount (constant w d)) := by
  have places : c.toShiftCount? = d.toShiftCount? := by
    simp only [Constant.toShiftCount?, Constant.toInteger_of_exactly exact same]
  simp only [shiftCount, constant, Value.toConstant?, Option.bind_some, places]
  cases d.toShiftCount? <;> rfl

namespace Engine

variable {e : Engine} {x left : Object} {u w : UntypedKind} {c d : Constant} {q : Rat} {ty : Ty}

/-- No fault of typing an object by default names a count. -/
theorem normalize_withCount (count : Object) :
    (e.normalize x).result.mapError (.withCount count) = (e.normalize x).result := by
  cases given : (e.normalize x).result with
  | ok o => rfl
  | error f =>
    obtain ⟨u, _, rfl⟩ := normalize_error given
    by_cases isNil : u = .nil <;> simp only [isNil, ↓reduceIte] <;> rfl

theorem shift_of_exactly (exact : c.Exactly q) (same : d.Exactly q) (u w : UntypedKind)
    (op : ShiftOp) :
    (e.shift op left (.constant w d)).result =
      (e.shift op left (.constant u c)).result.mapError (.withCount (.constant w d)) := by
  have normal := normalize_withCount (e := e) (x := left) (.constant w d)
  simp only [shift, Logged.bind_result]
  cases given : (e.normalize left).result with
  | error f =>
    rw [given] at normal
    exact normal.symm
  | ok l =>
    simp only [Except.bind]
    cases l.value.toInt? with
    | none => rfl
    | some a =>
      simp only [Logged.bind_result, Logged.ofExcept_result,
        Object.shiftCount_of_exactly exact same u w]
      cases (Object.constant u c).shiftCount with
      | error f => rfl
      | ok n => cases l.ty.storage <;> rfl

/-- Two outcomes of numeric constants facing a type: the same object of the type, or each refused by
its class. -/
inductive AlikeFacing (ty : Ty) (u w : UntypedKind) :
    Except Fault Object → Except Fault Object → Prop
  | same (v : Value) : AlikeFacing ty u w (.ok ⟨v, ty⟩) (.ok ⟨v, ty⟩)
  | refused : AlikeFacing ty u w (.error (.internal (.notConvertible (.basic (.untyped u)) ty)))
      (.error (.internal (.notConvertible (.basic (.untyped w)) ty)))

/-- Constants that are kept alike become alike. -/
theorem represent_alikeFacing (number : u.isNumeric = true) (other : w.isNumeric = true)
    (stored : ty.storage.isNumeric = true)
    (alike : c.asKind? e.word ty.storage = d.asKind? e.word ty.storage) :
    AlikeFacing ty u w (e.represent (.constant u c) ty).result
      (e.represent (.constant w d) ty).result := by
  rw [represent_numeric number stored, represent_numeric other stored, alike]
  cases d.asKind? e.word ty.storage with
  | none => exact .refused
  | some v => exact .same v

/-! ## Main statements -/

/-- The form of a constant does not matter. Constants of one exact value, be they integers,
rationals or complex numbers and of whatever numeric classes, become the same object facing a
numeric type, or are all refused there. As counts they give a shift the same outcome, up to the
count that a fault names. Where they become other numbers than integers, those of more than 128 bits
are taken to be rounded correctly. -/
theorem form_irrelevant (e : Engine) (exact : c.Exactly q) (same : d.Exactly q)
    (u w : UntypedKind) :
    (∀ ty : Ty, u.isNumeric = true → w.isNumeric = true → ty.storage.isNumeric = true →
      (∃ k, ty.storage = .integer k) ∨ RoundsWhenLong q →
      AlikeFacing ty u w (e.represent (.constant u c) ty).result
        (e.represent (.constant w d) ty).result) ∧
    ∀ (left : Object) (op : ShiftOp),
      (e.evaluateBinary left (.constant w d) (.binary (.shift op))).result =
        (e.evaluateBinary left (.constant u c) (.binary (.shift op))).result.mapError
          (.withCount (.constant w d)) := by
  constructor
  · intro ty number other stored rounds
    have storage := ty.storage_storage
    have alike : c.asKind? e.word ty.storage = d.asKind? e.word ty.storage :=
      Constant.asKind_of_exactly exact same (by rwa [storage]) (by rwa [storage])
    exact represent_alikeFacing number other stored alike
  · intro left op
    simp only [evaluateBinary_result]
    exact shift_of_exactly exact same u w op

/-- With a word of 32 bits, `2 ^ 200` as an integer of class rune and as a complex number: both are
zero facing a byte and the infinity of a declared narrow type, move every bit out of an `int8`, and
are refused as the count of a text by their own class. -/
theorem form_irrelevant_long :
    let e : Engine := { word := .w32 }
    let whole : Constant := .integer 1606938044258990275541962092341162602522202993782792835301376
    let pair : Constant := .complex 1606938044258990275541962092341162602522202993782792835301376 0
    let byte : Ty := .basic (.integer .uint8)
    let ratio : Ty := .named ⟨"Ratio", "main", 7⟩ (.basic (.float .binary32))
    let least : Object := ⟨.integer (.ofInt .int8 (-128)), .basic (.integer .int8)⟩
    let text : Object := ⟨.text "go", .basic .string⟩
    (e.represent (.constant .rune whole) byte).result = .ok ⟨.integer (.ofInt .uint8 0), byte⟩ ∧
      (e.represent (.constant .float pair) byte).result = .ok ⟨.integer (.ofInt .uint8 0), byte⟩ ∧
      AlikeFacing ratio .rune .float (e.represent (.constant .rune whole) ratio).result
        (e.represent (.constant .float pair) ratio).result ∧
      (e.evaluateBinary least (.constant .float pair) (.binary (.shift .right))).result =
        .ok ⟨.integer (.ofInt .int8 (-1)), .basic (.integer .int8)⟩ ∧
      (e.evaluateBinary text (.constant .float pair) (.binary (.shift .right))).result =
        .error (.internal (.invalidOperands (.binary (.shift .right)) (.basic .string)
          (.basic (.untyped .float)))) := by
  intro e whole pair byte ratio least text
  have exact : whole.Exactly _ := .integer _
  have same : pair.Exactly (1606938044258990275541962092341162602522202993782792835301376 : Int) :=
    .complex _
  have rounds :
      RoundsWhenLong (1606938044258990275541962092341162602522202993782792835301376 : Int) := by
    rintro n value _
    obtain rfl := Int.cast_injective value
    rw [Binary.isNearest_iff]
    decide +kernel
  have zero : (e.represent (.constant .rune whole) byte).result =
      .ok ⟨.integer (.ofInt .uint8 0), byte⟩ := Logged.ok_of_toOption (by decide +kernel)
  have emptied : (e.evaluateBinary least (.constant .rune whole) (.binary (.shift .right))).result =
      .ok ⟨.integer (.ofInt .int8 (-1)), .basic (.integer .int8)⟩ :=
    Logged.ok_of_toOption (by decide +kernel)
  have refused : (e.evaluateBinary text (.constant .rune whole) (.binary (.shift .right))).result =
      .error (.internal (.invalidOperands (.binary (.shift .right)) (.basic .string)
        (.basic (.untyped .rune)))) := rfl
  obtain ⟨facing, counting⟩ := form_irrelevant e exact same .rune .float
  have faced := facing byte rfl rfl rfl (.inl ⟨.uint8, rfl⟩)
  refine ⟨zero, ?_, facing ratio rfl rfl rfl (.inr rounds), ?_, ?_⟩
  · rw [zero] at faced
    generalize (e.represent (.constant .float pair) byte).result = outcome at faced ⊢
    cases faced
    rfl
  · rw [counting least .right, emptied]
    rfl
  · rw [counting text .right, refused]
    rfl

/-- Constants become what integers are converted to. Facing an integer or a floating-point type, a
numeric constant becomes what an integer of its value is converted to, whatever the kind that the
integer is kept as: an `int64` for all signed integers of 64 bits, a `uint64` for the unsigned
ones. -/
theorem constant_as_converted (e : Engine) (ty : Ty)
    (real : (∃ k, ty.storage = .integer k) ∨ ∃ f, ty.storage = .float f) (source : IntKind)
    {n : Int} (inside : source.cell.Contains n) (exact : c.Exactly n)
    (number : u.isNumeric = true) :
    ∃ v, (Value.integer ⟨source, n, inside⟩).convert? e.word ty.storage = some v ∧
      (e.represent (.constant u c) ty).result = .ok ⟨v, ty⟩ := by
  have storage := ty.storage_storage
  have stored : ty.storage.isNumeric = true := by
    rcases real with ⟨k, storage⟩ | ⟨f, storage⟩ <;> simp [storage]
  have same : (Value.integer ⟨source, n, inside⟩).convert? e.word ty.storage =
      c.asKind? e.word ty.storage :=
    Value.convert_eq_asKind ⟨source, n, inside⟩ exact (by rwa [storage])
  obtain ⟨v, converts⟩ :
      ∃ v, (Value.integer ⟨source, n, inside⟩).convert? e.word ty.storage = some v := by
    rcases real with ⟨k, kind⟩ | ⟨f, kind⟩
    · rw [kind]
      exact ⟨_, rfl⟩
    · rw [kind]
      exact ⟨_, rfl⟩
  refine ⟨v, converts, ?_⟩
  rw [represent_numeric number stored, ← same, converts]

/-- With a word of 32 bits: the greatest integer of 64 bits, kept as a `uint64`, is `-1` as a
declared `int`, and as a `float32` the power of two that comes next. The least one, kept as an
`int64`, is `2 ^ 63` as a `uint64`. -/
theorem constant_as_converted_greatest :
    let e : Engine := { word := .w32 }
    let count : Ty := .named ⟨"Count", "main", 7⟩ (.basic (.integer .int))
    let float32 : Ty := .basic (.float .binary32)
    let uint64 : Ty := .basic (.integer .uint64)
    let greatest : StoredInt := ⟨.uint64, 18446744073709551615, by decide⟩
    let least : StoredInt := ⟨.int64, -9223372036854775808, by decide⟩
    (e.represent (.constant .int (.integer greatest.val)) count).result =
        .ok ⟨.integer (.ofInt .int (-1)), count⟩ ∧
      (e.represent (.constant .int (.integer greatest.val)) float32).result =
        .ok ⟨.float .binary32 (.ofRat 18446744073709551616), float32⟩ ∧
      (e.represent (.constant .int (.integer least.val)) uint64).result =
        .ok ⟨.integer (.ofInt .uint64 9223372036854775808), uint64⟩ := by
  intro e count float32 uint64 greatest least
  have number : UntypedKind.int.isNumeric = true := rfl
  obtain ⟨v, cut, atCount⟩ := constant_as_converted e count (.inl ⟨.int, rfl⟩) greatest.kind
    greatest.contained (.integer _) number
  obtain ⟨x, rounded, atFloat⟩ := constant_as_converted e float32 (.inr ⟨.binary32, rfl⟩)
    greatest.kind greatest.contained (.integer _) number
  obtain ⟨w, turned, atUint⟩ := constant_as_converted e uint64 (.inl ⟨.uint64, rfl⟩) least.kind
    least.contained (.integer _) number
  have minusOne : (Value.integer greatest).convert? e.word count.storage =
      some (.integer (.ofInt .int (-1))) := by decide +kernel
  have power : (Value.integer greatest).convert? e.word float32.storage =
      some (.float .binary32 (.ofRat 18446744073709551616)) := by decide +kernel
  have half : (Value.integer least).convert? e.word uint64.storage =
      some (.integer (.ofInt .uint64 9223372036854775808)) := by decide +kernel
  cases minusOne.symm.trans cut
  cases power.symm.trans rounded
  cases half.symm.trans turned
  exact ⟨atCount, atFloat, atUint⟩

end Engine

end TypedOps
