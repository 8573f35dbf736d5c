import TypedOps.Proofs.Value.Kept
import TypedOps.Value.Convert

/-!
Equality and conversion of values. Equality does not depend on the order of the values
(`equals_comm`). Whether a value converts depends on its class and the target alone
(`convert_isSome_eq`); of kept values it depends on their kind, and is the same in both directions
(`convert_isSome`, `convertsTo_comm`). To the kind that it is kept as, a value converts to itself
(`convert_kept`).
-/
namespace TypedOps

open Ieee (Binary Complex)

/-! ## Equality -/

theorem Ieee.Binary.equals_comm {f : Ieee.Format} (x y : Binary f) :
    x.equals y = y.equals x := by
  simp only [equals]
  cases x.key? <;> cases y.key? <;> simp only [BEq.comm]

theorem Ieee.Complex.equals_comm {f : Ieee.Format} (z w : Complex f) :
    z.equals w = w.equals z := by
  simp only [equals, z.re.equals_comm, z.im.equals_comm]

theorem Value.equals_comm (v w : Value) : v.equals w = w.equals v := by
  cases v with
  | float f x =>
    cases w with
    | float g y =>
      by_cases same : f = g
      · subst same
        simp only [equals, ↓reduceDIte, x.equals_comm]
      · simp only [equals, same, Ne.symm same, ↓reduceDIte]
    | _ => rfl
  | complex f z =>
    cases w with
    | complex g w =>
      by_cases same : f = g
      · subst same
        simp only [equals, ↓reduceDIte, z.equals_comm]
      · simp only [equals, same, Ne.symm same, ↓reduceDIte]
    | _ => rfl
  | _ => cases w <;> simp only [equals, eq_comm]

/-! ## Conversion -/

/-- Whether values of the first kind convert to the second one: integers and floating-point
numbers among each other, every other kind within its class, references within their kind. -/
def Kind.convertsTo : Kind → Kind → Bool
  | .integer _, .integer _ | .integer _, .float _ => true
  | .float _, .integer _ | .float _, .float _ => true
  | .complex _, .complex _ => true
  | .string, .string | .bool, .bool => true
  | .reference r, .reference s => r == s
  | _, _ => false

theorem Kind.convertsTo_comm (k l : Kind) : k.convertsTo l = l.convertsTo k := by
  cases k with
  | reference r =>
    cases l with
    | reference s => exact BEq.comm
    | _ => rfl
  | _ => cases l <;> rfl

/-- Apart from numbers, a kind only converts to itself. -/
theorem Kind.eq_of_convertsTo {k l : Kind} (converts : k.convertsTo l = true)
    (plain : k.isNumeric = false ∨ l.isNumeric = false) : k = l := by
  cases k <;> cases l <;> simp_all [convertsTo, isNumeric, isInteger, isSigned, isUnsigned,
    isFloat, isComplex]

/-- An integer within the word is narrowed to itself. -/
theorem StoredInt.narrow_self {word : WordSize} {i : StoredInt} (fits : i.FitsWord word) :
    narrow word i.kind i.val = i := by
  obtain ⟨k, n, contained⟩ := i
  have inside : (k.shape word).wrap n = n := Shape.wrap_eq_self fits
  have inCell : k.cell.wrap n = n := Shape.wrap_eq_self contained
  simp only [narrow, ofInt, inside, inCell]

namespace Value

variable {word : WordSize} {kind : Kind} {v : Value}

/-- An integer is converted to an integer kind by its low bits. -/
theorem convert_integer {k : IntKind} (storage : kind.storage = .integer k) (i : StoredInt) :
    (integer i).convert? word kind = some (.integer (.narrow word k i.val)) := by
  simp only [convert?, storage, integerFor?, Option.map_some]

/-- Converting a value to the kind that it is kept as leaves it alone. -/
theorem convert_kept (kept : v.KeptAs word kind) : v.convert? word kind = some v := by
  cases kept with
  | integer fits => rw [convert_integer rfl, StoredInt.narrow_self fits]
  | float x => simp [convert?, Kind.storage, binaryFor?]
  | complex z => simp [convert?, Kind.storage, toComplex?, Complex.convert]
  | reference r handle => simp [convert?, Kind.storage, kind?]
  | _ => rfl

/-- Whether the class of a value is one that a kind takes: integers and floating-point numbers go
with each other, complex numbers, texts and truth values with their own, and references with the
kind that they carry, if that is one of references. -/
def convertsTo : Value → Kind → Bool
  | integer _, kind | float _ _, kind => kind.isInteger || kind.isFloat
  | complex _ _, kind => kind.isComplex
  | text _, kind => kind == .string
  | bool _, kind => kind == .bool
  | reference carried _, kind => kind.isReference && carried == kind
  | constant _, _ => false

/-- The class alone decides whether there is a conversion. -/
theorem convert_isSome_eq (word : WordSize) (v : Value) (kind : Kind) :
    (v.convert? word kind).isSome = v.convertsTo kind := by
  cases kind with
  | integer k =>
    have integer : (Kind.integer k).isInteger = true := by cases k <;> rfl
    cases v <;> simp [convert?, Kind.storage, integerFor?, convertsTo, integer, Kind.isComplex,
      Kind.isReference]
  | reference r =>
    cases v with
    | reference carried handle =>
      by_cases same : carried = .reference r <;>
        simp [convert?, Kind.storage, kind?, convertsTo, Kind.isReference, same]
    | integer | float | complex | text | bool | constant => rfl
  | _ => cases v <;> rfl

/-- Which kept values convert. -/
theorem convert_isSome (kept : v.KeptAs word kind) (target : Kind) :
    (v.convert? word target).isSome = kind.convertsTo target.storage := by
  rw [convert_isSome_eq]
  cases kept with
  | integer | float =>
    cases target with
    | integer k => cases k <;> rfl
    | _ => rfl
  | reference r handle =>
    cases target with
    | reference s =>
      rw [Bool.eq_iff_iff]
      simp [convertsTo, Kind.convertsTo, Kind.storage, Kind.isReference]
    | _ => rfl
  | _ => cases target <;> rfl

end Value

end TypedOps
