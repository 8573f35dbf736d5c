import TypedOps.Fault
import TypedOps.Proofs.Value.Kept

/-!
Pinning. Under a given word each machine-word kind has the shape of a kind of fixed width
(`IntKind.fixed`). Pinning a kind replaces it by that one, wherever it occurs in a type, and every
integer kept as the kind by the same integer kept as the other (`Object.pin`); in a fault, the
types of operands are pinned (`Fault.pin`). Nothing that is read off an object changes: its integer
(`toInt_pin`), and how its type is stored up to pinning (`storage_pin`).
-/
namespace TypedOps

namespace IntKind

/-- The kind of fixed width with the shape that a kind has under the word. -/
def fixed (word : WordSize) : IntKind → IntKind
  | int => match word with
    | .w32 => int32
    | .w64 => int64
  | uint | uintptr => match word with
    | .w32 => uint32
    | .w64 => uint64
  | k => k

/-- The kind, or the fixed one in place of `k`. -/
def pin (j : IntKind) (word : WordSize) (k : IntKind) : IntKind :=
  if j = k then k.fixed word else j

variable (word : WordSize) (k : IntKind)

/-- Under every word the fixed kind has the shape that the kind has under the given one. -/
@[simp] theorem shape_fixed (other : WordSize) : (k.fixed word).shape other = k.shape word := by
  cases word <;> cases k <;> rfl

@[simp] theorem cell_fixed : (k.fixed word).cell = k.shape word :=
  shape_fixed word k .w64

@[simp] theorem pin_self : k.pin word k = k.fixed word :=
  if_pos rfl

@[simp] theorem signed_pin (j : IntKind) : (j.pin word k).signed = j.signed := by
  unfold pin
  split
  · next same =>
    subst same
    cases word <;> cases j <;> rfl
  · rfl

end IntKind

/-- The kind with an integer kind pinned. -/
def Kind.pin (word : WordSize) (k : IntKind) : Kind → Kind
  | .integer j => .integer (j.pin word k)
  | kind => kind

namespace Ty

mutual

/-- The type with an integer kind pinned wherever it occurs. -/
def pin (word : WordSize) (k : IntKind) : Ty → Ty
  | .basic kind => .basic (kind.pin word k)
  | .named d t => .named d (t.pin word k)
  | .pointer t => .pointer (t.pin word k)
  | .slice t => .slice (t.pin word k)
  | .map t u => .map (t.pin word k) (u.pin word k)
  | .chan t => .chan (t.pin word k)
  | .func ts us => .func (pinAll word k ts) (pinAll word k us)
  | .interface => .interface

/-- The types of a list with an integer kind pinned. -/
def pinAll (word : WordSize) (k : IntKind) : List Ty → List Ty
  | [] => []
  | t :: ts => t.pin word k :: pinAll word k ts

end

end Ty

/-- The integer kept as the fixed kind, if it is kept as the pinned one and within the word. -/
def StoredInt.pin (word : WordSize) (k : IntKind) (i : StoredInt) : StoredInt :=
  if h : i.kind = k ∧ (k.fixed word).cell.Contains i.val then ⟨k.fixed word, i.val, h.2⟩ else i

/-- The value with an integer kind pinned. -/
def Value.pin (word : WordSize) (k : IntKind) : Value → Value
  | .integer i => .integer (i.pin word k)
  | v => v

/-- The object with an integer kind pinned, in its value and in its type. -/
def Object.pin (word : WordSize) (k : IntKind) (x : Object) : Object :=
  ⟨x.value.pin word k, x.ty.pin word k⟩

/-- The fault with an integer kind pinned in the types of the operands that it names. The type asked
for by a comparison is not one of them. -/
def Fault.pin (word : WordSize) (k : IntKind) : Fault → Fault
  | .internal (.invalidOperands op left right) =>
    .internal (.invalidOperands op (left.pin word k) (right.pin word k))
  | .internal (.notConvertible source target) =>
    .internal (.notConvertible (source.pin word k) (target.pin word k))
  | .internal (.invalidShiftCount count) => .internal (.invalidShiftCount (count.pin word k))
  | .internal (.notNillable ty) => .internal (.notNillable (ty.pin word k))
  | fault => fault

/-! ## What pinning leaves alone -/

section

variable (word : WordSize) (k : IntKind)

/-- Runes are stored as a kind of fixed width, which pinning leaves alone. -/
theorem Kind.storage_pin (kind : Kind) : (kind.pin word k).storage = kind.storage.pin word k := by
  cases kind with
  | rune =>
    simp only [pin, storage, IntKind.pin]
    split
    · next same =>
      subst same
      rfl
    · rfl
  | _ => rfl

theorem Ty.storage_pin (t : Ty) : (t.pin word k).storage = t.storage.pin word k := by
  fun_induction storage t with
  | case1 kind => exact kind.storage_pin word k
  | case2 d t ih => simp only [pin, storage, ih]
  | _ => simp only [pin, storage, Kind.pin]

theorem Ty.untyped_pin (t : Ty) : (t.pin word k).untyped? = t.untyped? := by
  cases t with
  | basic kind => cases kind <;> simp only [pin, Kind.pin, untyped?]
  | _ => simp only [pin, untyped?]

/-- A type stored as a truth value has no integer kind in it. -/
theorem Ty.pin_of_bool (t : Ty) (bool : t.storage = .bool) : t.pin word k = t := by
  fun_induction storage t with
  | case1 kind =>
    cases kind <;> cases bool
    simp only [pin, Kind.pin]
  | case2 d t ih => simp only [pin, ih bool]
  | _ => cases bool

theorem StoredInt.val_pin (i : StoredInt) : (i.pin word k).val = i.val := by
  unfold pin
  split <;> rfl

theorem Value.toInt_pin (v : Value) : (v.pin word k).toInt? = v.toInt? := by
  cases v with
  | integer i => simp only [pin, toInt?, i.val_pin word k]
  | _ => rfl

theorem Value.toBits_pin (v : Value) : (v.pin word k).toBits? = v.toBits? := by
  cases v with
  | integer i => simp only [pin, toBits?, StoredInt.bits, i.val_pin word k]
  | _ => rfl

theorem Value.toConstant_pin (v : Value) : (v.pin word k).toConstant? = v.toConstant? := by
  cases v <;> rfl

theorem Object.isUntyped_pin (x : Object) : (x.pin word k).isUntyped = x.isUntyped := by
  simp only [isUntyped, Ty.isUntyped, pin, x.ty.untyped_pin word k]

theorem Object.constant_pin (u : UntypedKind) (c : Constant) :
    (Object.constant u c).pin word k = .constant u c := by
  simp only [constant, pin, Value.pin, Ty.pin, Kind.pin]

end

/-! ## Integers of the pinned kind -/

namespace StoredInt

variable {word : WordSize} {k : IntKind}

/-- An integer of the kind within the word becomes the same integer of the fixed kind. -/
theorem pin_of_fits {i : StoredInt} (kind : i.kind = k) (fits : i.FitsWord word) :
    (i.pin word k).kind = k.fixed word ∧ (i.pin word k).FitsWord word := by
  subst kind
  have inside : (i.kind.fixed word).cell.Contains i.val := by rwa [IntKind.cell_fixed]
  simp only [pin, inside, and_self, ↓reduceDIte, FitsWord, IntKind.shape_fixed, true_and]
  exact fits

/-- What is narrowed to the kind is, once pinned, narrowed to the fixed one. -/
theorem pin_narrow (n : Int) : (narrow word k n).pin word k = narrow word (k.fixed word) n := by
  have kind := (pin_of_fits (narrow_kind word k n) (narrow_fitsWord word k n)).1
  rw [eq_iff, kind, val_pin, narrow_val, narrow_val, IntKind.shape_fixed]
  exact ⟨rfl, rfl⟩

end StoredInt

end TypedOps
