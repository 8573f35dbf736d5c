import TypedOps.Proofs.Ieee.RoundingTwice
import TypedOps.Proofs.Operator.Typing
import TypedOps.Proofs.Value.ExactValue
import TypedOps.Value.Convert

/-!
Exact numbers as numbers of the narrow format. They come there by way of the wide format, and so are
rounded twice: constants facing a narrow floating-point or complex type, and integers that are
converted to a narrow kind. Main statement: each of them becomes the nearest narrow number exactly
unless it strays (`narrow_nearest_iff`); an integer just above the middle of two neighbours does,
and is given the farther one (`rounded_twice_not_nearest`).
-/
namespace TypedOps

open Ieee (Binary Complex Strays)

/-- An integer that is kept as one rounds to the nearest number of the wide format, although only
its leading bits are read. -/
def Constant.RoundsByLeading (c : Constant) : Prop :=
  ∀ n, c = .integer n → (Binary.ofInt n : Binary .binary64).IsNearest n

namespace Constant

variable {c : Constant} {q re im : Rat}

theorem toBinary_of_exactly (rounds : c.RoundsByLeading) (exact : c.Exactly q) :
    c.toBinary? .binary64 = some (.ofRat q) := by
  cases exact with
  | integer n => exact congrArg some (Binary.isNearest_iff.mp (rounds n rfl))
  | rational q => rfl
  | complex q => simp [toBinary?, toRat?]

theorem toParts_of_parts (rounds : c.RoundsByLeading) (parts : c.Parts re im) :
    c.toParts? .binary64 = some (.ofRat re, .ofRat im) := by
  have positive : (Binary.ofRat 0 : Binary .binary64) = .zero false := by
    decide +kernel
  cases parts with
  | integer n => rw [toParts?, Binary.isNearest_iff.mp (rounds n rfl), positive]
  | rational q => rw [toParts?, positive]
  | complex re im => rfl

end Constant

/-- An integer is rounded to the wide format on its way to the narrow one. -/
theorem Value.convert_narrow {word : WordSize} {kind : Kind}
    (storage : kind.storage = .float .binary32) (i : StoredInt) :
    (integer i).convert? word kind =
      some (.float .binary32 (Binary.ofRat i.val : Binary .binary64).convert) := by
  simp only [convert?, storage, binaryFor?, Option.map_some]

namespace Engine

section

variable {e : Engine} {u : UntypedKind} {c : Constant} {ty : Ty} {q re im : Rat}
  (number : u.isNumeric = true) (rounds : c.RoundsByLeading)

include number rounds

/-- So is a constant facing a narrow floating-point type. -/
theorem represent_narrow (storage : ty.storage = .float .binary32) (exact : c.Exactly q) :
    (e.represent (.constant u c) ty).result =
      .ok ⟨.float .binary32 (Binary.ofRat q : Binary .binary64).convert, ty⟩ := by
  rw [represent_numeric number (by rw [storage]; rfl), Constant.asKind?, Ty.storage_storage,
    storage]
  simp only [Constant.toBinary_of_exactly rounds exact, Option.map_some]

/-- So is each part of a constant facing a narrow complex type. -/
theorem represent_narrow_complex (storage : ty.storage = .complex .binary32)
    (parts : c.Parts re im) :
    (e.represent (.constant u c) ty).result =
      .ok ⟨.complex .binary32 ⟨(Binary.ofRat re : Binary .binary64).convert,
        (Binary.ofRat im : Binary .binary64).convert⟩, ty⟩ := by
  rw [represent_numeric number (by rw [storage]; rfl), Constant.asKind?, Ty.storage_storage,
    storage]
  simp only [Constant.toParts_of_parts rounds parts, Option.map_some]

end

/-- Exact numbers become nearest narrow numbers unless they stray. A numeric constant that faces
a narrow floating-point type becomes a number of it, which is the nearest one to the exact value
exactly if that does not stray; each part of a constant does so that faces a narrow complex type,
and each integer that is converted to a narrow kind. The roundings to the wide format are taken to
be correct for integers of any size. -/
theorem narrow_nearest_iff (e : Engine) (u : UntypedKind) (number : u.isNumeric = true)
    (c : Constant) (rounds : c.RoundsByLeading) :
    (∀ (ty : Ty) (q : Rat), ty.storage = .float .binary32 → c.Exactly q →
      ∃ x : Binary .binary32,
        (e.represent (.constant u c) ty).result = .ok ⟨.float .binary32 x, ty⟩ ∧
          (x.IsNearest q ↔ ¬ Strays q)) ∧
    (∀ (ty : Ty) (re im : Rat), ty.storage = .complex .binary32 → c.Parts re im →
      ∃ z : Complex .binary32,
        (e.represent (.constant u c) ty).result = .ok ⟨.complex .binary32 z, ty⟩ ∧
          (z.re.IsNearest re ↔ ¬ Strays re) ∧ (z.im.IsNearest im ↔ ¬ Strays im)) ∧
    ∀ (word : WordSize) (i : StoredInt) (kind : Kind), kind.storage = .float .binary32 →
      ∃ x : Binary .binary32, (Value.integer i).convert? word kind = some (.float .binary32 x) ∧
        (x.IsNearest i.val ↔ ¬ Strays i.val) := by
  have nearest := Binary.convert_ofRat_isNearest_iff
  refine ⟨?float, ?complex, ?converted⟩
  case float =>
    intro ty q storage exact
    exact ⟨_, represent_narrow number rounds storage exact, nearest q⟩
  case complex =>
    intro ty re im storage parts
    refine ⟨_, represent_narrow_complex number rounds storage parts, ?_, ?_⟩ <;> dsimp only
    · exact nearest re
    · exact nearest im
  case converted =>
    intro word i kind storage
    exact ⟨_, Value.convert_narrow storage i, nearest i.val⟩

/-- A tenth facing a declared narrow type and the parts of a complex constant become the numbers
nearest to them; the first integer above the middle of `2 ^ 53` and its narrow neighbour does not
when it is converted. -/
theorem narrow_nearest_iff_tenth :
    let e : Engine := {}
    let ratio : Ty := .named ⟨"Ratio", "main", 7⟩ (.basic (.float .binary32))
    let tenth : Constant := .rational (1 / 10)
    let turn : Constant := .complex (1 / 10) (-3)
    let past : StoredInt := ⟨.int64, 9007199791611905, by decide⟩
    (tenth.RoundsByLeading ∧ turn.RoundsByLeading) ∧
      (∃ x : Binary .binary32,
        (e.represent (.constant .float tenth) ratio).result = .ok ⟨.float .binary32 x, ratio⟩ ∧
          x.IsNearest (1 / 10)) ∧
      (∃ z : Complex .binary32,
        (e.represent (.constant .int turn) (.basic (.complex .binary32))).result =
            .ok ⟨.complex .binary32 z, .basic (.complex .binary32)⟩ ∧
          z.re.IsNearest (1 / 10) ∧ z.im.IsNearest (-3)) ∧
      ∃ y : Binary .binary32,
        (Value.integer past).convert? .w64 (.float .binary32) = some (.float .binary32 y) ∧
          ¬ y.IsNearest (past.val : Rat) := by
  intro e ratio tenth turn past
  have rounds : tenth.RoundsByLeading := nofun
  have partsRound : turn.RoundsByLeading := nofun
  have kept : ¬ Strays (1 / 10) := by
    rw [← Binary.convert_ofRat_isNearest_iff, Binary.isNearest_iff]
    decide +kernel
  have whole : ¬ Strays (-3) := Binary.not_strays_exact (by decide +kernel)
  have strays : Strays (past.val : Rat) := by
    rw [← not_not (a := Strays _), ← Binary.convert_ofRat_isNearest_iff, Binary.isNearest_iff]
    decide +kernel
  obtain ⟨facing, _, _⟩ := narrow_nearest_iff e .float rfl tenth rounds
  obtain ⟨_, inParts, converting⟩ := narrow_nearest_iff e .int rfl turn partsRound
  obtain ⟨x, becomes, nearest⟩ := facing ratio (1 / 10) rfl (.rational _)
  obtain ⟨z, comes, nearestRe, nearestIm⟩ :=
    inParts (.basic (.complex .binary32)) (1 / 10) (-3) rfl (.complex _ _)
  obtain ⟨y, converts, nearestPast⟩ := converting .w64 past (.float .binary32) rfl
  exact ⟨⟨rounds, partsRound⟩, ⟨x, becomes, nearest.mpr kept⟩,
    ⟨z, comes, nearestRe.mpr kept, nearestIm.mpr whole⟩,
    ⟨y, converts, fun near => nearestPast.mp near strays⟩⟩

/-- An integer just above the middle of two narrow numbers is given the lower one, as a constant, as
a part of a constant and when it is converted, although it is nearer to the upper one. -/
theorem rounded_twice_not_nearest :
    let e : Engine := {}
    let past : Constant := .integer 9007199791611905
    let lower : Binary .binary32 := .ofCode false 1509949440
    let upper : Binary .binary32 := .ofCode false 1509949441
    past.RoundsByLeading ∧ ¬ lower.IsNearest 9007199791611905 ∧ upper.IsNearest 9007199791611905 ∧
      (e.represent (.constant .int past) (.basic (.float .binary32))).result =
        .ok ⟨.float .binary32 lower, .basic (.float .binary32)⟩ ∧
      (e.represent (.constant .int past) (.basic (.complex .binary32))).result =
        .ok ⟨.complex .binary32 ⟨lower, .zero false⟩, .basic (.complex .binary32)⟩ ∧
      (Value.integer (.ofInt .int64 9007199791611905)).convert? .w64 (.float .binary32) =
        some (.float .binary32 lower) := by
  intro e past lower upper
  refine ⟨?_, ?_, ?_, ?_, ?_, ?_⟩
  · rintro n same
    obtain rfl := Constant.integer.inj same
    rw [Binary.ofInt_eq_ofRat (by decide)]
    exact Binary.ofRat_isNearest _
  · rw [Binary.isNearest_iff]
    decide +kernel
  · rw [Binary.isNearest_iff]
    decide +kernel
  · exact Logged.ok_of_toOption (by decide +kernel)
  · exact Logged.ok_of_toOption (by decide +kernel)
  · decide +kernel

end Engine

end TypedOps
