import TypedOps.Proofs.Operator.Integers

/-!
What the check of objects lets through. It goes by the kind that a value names, and a reference
names the kind that it carries, whatever that is; one that carries the kind of something else is
mislabelled (`Value.Mislabelled`). Main statement: the check admits at a type the values like a
fresh slot of it, and mislabelled references of its kind besides; these are what the reader of the
kind does not read, and where integers are added they are what fails (`checked_admits`).
-/
namespace TypedOps

namespace Value

/-- A reference that carries a kind of other values. -/
def Mislabelled (kind : Kind) (v : Value) : Prop :=
  kind.isReference = false ∧ ∃ handle, v = .reference kind handle

/-- Whether the reader of the values of a kind reads the value. -/
def isReadAs (kind : Kind) (v : Value) : Bool :=
  match kind with
  | .integer _ => v.toBits?.isSome
  | .float _ => (v.toBinary? .binary64).isSome
  | .complex _ => (v.toComplex? .binary64).isSome
  | .string => v.toText?.isSome
  | .bool => v.toBool?.isSome
  | .reference _ => v.isNil?.isSome
  | .rune | .untyped _ => false

variable {kind : Kind} {v : Value} {k : IntKind}

/-- The values that name a kind. -/
theorem kind_eq_some_iff :
    v.kind? = some kind ↔
      (∃ slot, zero? kind = some slot ∧ v.Alike slot) ∨ v.Mislabelled kind := by
  constructor
  · intro named
    cases v with
    | reference l handle =>
      cases named
      cases kind with
      | reference r => exact .inl ⟨_, rfl, rfl⟩
      | _ => exact .inr ⟨rfl, handle, rfl⟩
    | constant => cases named
    | _ =>
      cases named
      exact .inl ⟨_, rfl, by simp [Alike, StoredInt.ofInt]⟩
  · rintro (⟨slot, zero, alike⟩ | ⟨_, _, rfl⟩)
    · have kept : slot.KeptAs .w64 kind := keptAs_zero zero
      exact alike.kind_eq.trans kept.kind_eq
    · rfl

/-- Of the values that name a kind, the reader of the kind reads those that are not mislabelled. -/
theorem isReadAs_iff (named : v.kind? = some kind) :
    v.isReadAs kind = true ↔ ¬ v.Mislabelled kind := by
  cases v with
  | reference l handle =>
    cases named
    cases kind <;> simp [isReadAs, Mislabelled, Kind.isReference, toBits?, toBinary?, toComplex?,
      toText?, toBool?, isNil?]
  | constant => cases named
  | _ =>
    cases named
    simp [isReadAs, Mislabelled, toBits?, toBinary?, toComplex?, toText?, toBool?]

/-- A value that names an integer kind is an integer unless it is mislabelled. -/
theorem exists_integer (named : v.kind? = some (.integer k))
    (labelled : ¬ v.Mislabelled (.integer k)) :
    ∃ i : StoredInt, i.kind = k ∧ v = .integer i := by
  cases v with
  | integer i => exact ⟨i, by simpa [kind?] using named, rfl⟩
  | reference l handle =>
    cases named
    exact absurd ⟨rfl, handle, rfl⟩ labelled
  | _ => cases named

end Value

/-- The check admits the values that name the kind of the type. -/
theorem Object.checked_eq_ok_iff {ty : Ty} {v : Value} {x : Object} (plain : v.toConstant? = none) :
    checked ty v = .ok x ↔ v.kind? = some ty.storage ∧ x = ⟨v, ty⟩ := by
  have represented : (Object.mk v ty).isRepresented = (v.kind? == some ty.storage) := by
    cases v with
    | constant => cases plain
    | _ => rfl
  rw [checked, represented]
  by_cases named : v.kind? = some ty.storage
  · simp [named, eq_comm]
  · simp [named]

/-! ## Sums of admitted values -/

namespace Engine

variable {e : Engine} {ty : Ty} {k : IntKind} {v w : Value}

section

variable (storage : ty.storage = .integer k)

include storage

/-- A mislabelled reference is no operand of a sum. -/
theorem sum_mislabelled
    (either : v.Mislabelled (.integer k) ∨ w.Mislabelled (.integer k)) :
    (e.evaluateBinary ⟨v, ty⟩ ⟨w, ty⟩ (.binary (.arithmetic .add))).result =
      .error (.internal (.invalidOperands (.binary (.arithmetic .add)) ty ty)) := by
  have typed := Object.typed_of_integer storage
  rw [evaluateBinary_result]
  show (e.arithmetic .add _ _).result = _
  rw [arithmetic_typed (typed v) (typed w)]
  simp only [storage, ArithmeticOp.onValues]
  rcases either with ⟨_, handle, rfl⟩ | ⟨_, handle, rfl⟩
  · rfl
  · cases v.toInt? <;> rfl

/-- All other values of an integer kind have a sum. -/
theorem sum_labelled (named : v.kind? = some (.integer k))
    (otherNamed : w.kind? = some (.integer k))
    (neither : ¬ (v.Mislabelled (.integer k) ∨ w.Mislabelled (.integer k))) :
    ∃ i : StoredInt, i.kind = k ∧
      (e.evaluateBinary ⟨v, ty⟩ ⟨w, ty⟩ (.binary (.arithmetic .add))).result =
        .ok ⟨.integer i, ty⟩ := by
  obtain ⟨labelled, otherLabelled⟩ := not_or.mp neither
  obtain ⟨i, _, rfl⟩ := Value.exists_integer named labelled
  obtain ⟨j, _, rfl⟩ := Value.exists_integer otherNamed otherLabelled
  refine ⟨.narrow e.word k (ArithmeticOp.add.onIntegers (k.shape e.word) i.val j.val), rfl, ?_⟩
  rw [evaluateBinary_result]
  show (e.arithmetic .add _ _).result = _
  rw [arithmetic_integers storage]
  rfl

end

end Engine

namespace Object

/-- The check of objects admits at a type, of the values that are no constants, those like a fresh
slot of the type and mislabelled references that carry its kind. The reader of the kind reads an
admitted value exactly if it is not mislabelled, and for types stored as integers the sum of two
admitted values is an object of the type, unless one of them is mislabelled, which makes the
operands invalid. -/
theorem checked_admits (ty : Ty) :
    (∀ v : Value, v.toConstant? = none →
      ((∃ x, checked ty v = .ok x) ↔
        (∃ slot, Value.allocate ty.storage = .ok slot ∧ v.Alike slot) ∨
          v.Mislabelled ty.storage)) ∧
    (∀ (v : Value) (x : Object), v.toConstant? = none → checked ty v = .ok x →
      x = ⟨v, ty⟩ ∧ (x.value.isReadAs ty.storage = true ↔ ¬ v.Mislabelled ty.storage)) ∧
    ∀ (e : Engine) (k : IntKind) (v w : Value) (x y : Object), ty.storage = .integer k →
      v.toConstant? = none → w.toConstant? = none → checked ty v = .ok x → checked ty w = .ok y →
      let sum := (e.evaluateBinary x y (.binary (.arithmetic .add))).result
      let mislabelled := v.Mislabelled (.integer k) ∨ w.Mislabelled (.integer k)
      (mislabelled →
        sum = .error (.internal (.invalidOperands (.binary (.arithmetic .add)) ty ty))) ∧
      (¬ mislabelled → ∃ i : StoredInt, i.kind = k ∧ sum = .ok ⟨.integer i, ty⟩) := by
  refine ⟨?admitted, ?read, ?summed⟩
  case admitted =>
    intro v plain
    have slots : ∀ slot, Value.allocate ty.storage = .ok slot ↔
        Value.zero? ty.storage = some slot := by
      intro slot
      rw [Value.allocate, Ty.storage_storage]
      cases Value.zero? ty.storage <;> simp
    simp only [checked_eq_ok_iff plain, exists_and_left, exists_eq, and_true, slots]
    exact Value.kind_eq_some_iff
  case read =>
    intro v x plain admitted
    obtain ⟨named, rfl⟩ := (checked_eq_ok_iff plain).mp admitted
    exact ⟨rfl, Value.isReadAs_iff named⟩
  case summed =>
    intro e k v w x y storage plain otherPlain admitted otherAdmitted
    obtain ⟨named, rfl⟩ := (checked_eq_ok_iff plain).mp admitted
    obtain ⟨otherNamed, rfl⟩ := (checked_eq_ok_iff otherPlain).mp otherAdmitted
    rw [storage] at named otherNamed
    exact ⟨Engine.sum_mislabelled storage, Engine.sum_labelled storage named otherNamed⟩

/-- At a declared `uint8`, an integer and a mislabelled reference: both are admitted, the integer is
read and has a sum with itself, and the reference is not read and has none. -/
theorem checked_admits_byte :
    let e : Engine := {}
    let count : Ty := .named ⟨"Count", "main", 7⟩ (.basic (.integer .uint8))
    let five : Value := .integer (.ofInt .uint8 5)
    let stray : Value := .reference (.integer .uint8) (some ⟨7⟩)
    let sum (v w : Value) :=
      (e.evaluateBinary ⟨v, count⟩ ⟨w, count⟩ (.binary (.arithmetic .add))).result
    (five.toConstant? = none ∧ stray.toConstant? = none ∧ count.storage = .integer .uint8) ∧
      (∃ x, checked count five = .ok x) ∧ (∃ x, checked count stray = .ok x) ∧
      five.isReadAs (.integer .uint8) = true ∧ stray.isReadAs (.integer .uint8) = false ∧
      (∃ i : StoredInt, i.kind = .uint8 ∧ sum five five = .ok ⟨.integer i, count⟩) ∧
      sum five stray =
        .error (.internal (.invalidOperands (.binary (.arithmetic .add)) count count)) := by
  intro e count five stray sum
  obtain ⟨admits, reads, sums⟩ := checked_admits count
  have labelled : ¬ five.Mislabelled (.integer .uint8) := by
    rintro ⟨_, _, same⟩
    simp [five] at same
  have mislabelled : stray.Mislabelled (.integer .uint8) := ⟨rfl, some ⟨7⟩, rfl⟩
  obtain ⟨x, admitted⟩ := (admits five rfl).mpr (.inl ⟨.integer (.ofInt .uint8 0), rfl, rfl⟩)
  obtain ⟨y, strayAdmitted⟩ := (admits stray rfl).mpr (.inr mislabelled)
  obtain ⟨rfl, read⟩ := reads five x rfl admitted
  obtain ⟨rfl, strayRead⟩ := reads stray y rfl strayAdmitted
  refine ⟨⟨rfl, rfl, rfl⟩, ⟨_, admitted⟩, ⟨_, strayAdmitted⟩, read.mpr labelled, ?_, ?_, ?_⟩
  · exact Bool.eq_false_iff.mpr fun isRead => strayRead.mp isRead mislabelled
  · exact (sums e .uint8 five five _ _ rfl rfl rfl admitted admitted).2 (by simp [labelled])
  · exact (sums e .uint8 five stray _ _ rfl rfl rfl admitted strayAdmitted).1 (.inr mislabelled)

/-- A nil reference that carries the kind of `int` is admitted as an `int`, although it is not kept
as an integer is: it has no bits, and no sum with itself. -/
theorem checked_admits_mislabelled :
    let int : Ty := .basic (.integer .int)
    let stray : Value := .reference (.integer .int) none
    let slot : Value := .integer (.ofInt .int 0)
    checked int stray = .ok ⟨stray, int⟩ ∧ Value.allocate int.storage = .ok slot ∧
      ¬ stray.Alike slot ∧ stray.toBits? = none ∧
      (({} : Engine).evaluateBinary ⟨stray, int⟩ ⟨stray, int⟩ (.binary (.arithmetic .add))).result =
        .error (.internal (.invalidOperands (.binary (.arithmetic .add)) int int)) :=
  ⟨rfl, rfl, id, rfl, rfl⟩

end Object

end TypedOps
