import TypedOps.Proofs.Integer.Residue
import TypedOps.Proofs.Operator.Typing

/-!
Warnings of lost value. A constant that becomes an `int` on its own is warned of exactly when the
word holds another integer than the constant (`normalize_int_eq`). A constant facing an integer
type is warned of exactly when it is too long for 64 bits (`represent_number_eq`): then it has lost
value (`fitsLongest_of_contains`), but what a shorter type cuts off, or an unsigned type of a
negative constant, goes without a warning. Main statement: both logs as a whole, and with them the
losses that are not told (`warned_losses`).
-/
namespace TypedOps

/-- The integers that 64 bits tell from all others: the signed ones, and at an unsigned kind the
unsigned ones too. -/
def IntKind.FitsLongest (k : IntKind) (n : Int) : Prop :=
  (Shape.mk true .w64).Contains n ∨ k.signed = false ∧ (Shape.mk false .w64).Contains n

instance (k : IntKind) (n : Int) : Decidable (k.FitsLongest n) :=
  inferInstanceAs (Decidable (_ ∨ _))

namespace StoredInt

variable {word : WordSize} {k : IntKind} {n : Int}

/-- A constant keeps its value exactly at the kinds that it lies within. -/
theorem narrow_val_eq_iff : (narrow word k n).val = n ↔ (k.shape word).Contains n := by
  rw [narrow_val, Shape.wrap_eq_self_iff]

/-- No kind reaches past 64 bits. -/
theorem fitsLongest_of_contains (inside : (k.shape word).Contains n) : k.FitsLongest n := by
  have wide : (Shape.mk k.signed .w64).Contains n :=
    contains_w64 ⟨k, n, contains_cell inside⟩
  cases signed : k.signed with
  | true =>
    rw [signed] at wide
    exact .inl wide
  | false =>
    rw [signed] at wide
    exact .inr ⟨signed, wide⟩

end StoredInt

namespace Engine

variable {e : Engine} {c : Constant} {n : Int} {u : UntypedKind} {ty : Ty} {k : IntKind}

/-! ## What each way of typing a constant logs -/

theorem warnOfInt_log (value : c.toInteger? = some n) :
    (e.warnOfInt c).log =
      if e.warnOnTruncation = true ∧ (StoredInt.narrow e.word .int n).val ≠ n then
        [.truncatedToInt c (StoredInt.narrow e.word .int n).val e.word]
      else [] := by
  simp only [warnOfInt, value, Logged.tellIf_log, StoredInt.narrow_val, Bool.and_eq_true,
    bne_iff_ne]

theorem warnOfNumber_log (storage : ty.storage = .integer k) (value : c.toInteger? = some n) :
    (e.warnOfNumber c ty).log =
      if e.warnOnTruncation = true ∧ ¬ k.FitsLongest n then [.truncated c ty] else [] := by
  have fits : (Constant.fitsSigned n || !k.signed && Constant.fitsUnsigned n) = true ↔
      k.FitsLongest n := by
    simp only [Constant.fitsSigned, Constant.fitsUnsigned, IntKind.FitsLongest, Bool.or_eq_true,
      Bool.and_eq_true, decide_eq_true_eq, Bool.not_eq_true']
  simp only [warnOfNumber, storage, value, Logged.tellIf_log, Bool.and_eq_true, ← fits,
    Bool.not_eq_true', Bool.not_eq_true]

/-- A constant on its own becomes the `int` of its low bits. -/
theorem normalize_int_eq (value : c.toInteger? = some n) :
    e.normalize (.constant .int c) =
      ⟨if e.warnOnTruncation = true ∧ (StoredInt.narrow e.word .int n).val ≠ n then
          [.truncatedToInt c (StoredInt.narrow e.word .int n).val e.word]
        else [],
        .ok ⟨.integer (.narrow e.word .int n), .basic (.integer .int)⟩⟩ := by
  have kept : c.asKind? e.word (.integer .int) = some (.integer (.narrow e.word .int n)) :=
    Constant.asKind_integer rfl value
  simp only [normalize, Object.constant, Ty.untyped?, UntypedKind.default?, Value.toConstant?, kept,
    ↓reduceIte]
  rw [Logged.bind_ok (warnOfInt_result ..), warnOfInt_log value]
  simp only [Logged.pure_log, Logged.pure_result, List.append_nil]

/-- A constant facing an integer type becomes the integer of its low bits. -/
theorem represent_number_eq (number : u.isNumeric = true) (storage : ty.storage = .integer k)
    (value : c.toInteger? = some n) :
    e.represent (.constant u c) ty =
      ⟨if e.warnOnTruncation = true ∧ ¬ k.FitsLongest n then [.truncated c ty] else [],
        .ok ⟨.integer (.narrow e.word k n), ty⟩⟩ := by
  have assignable : (Ty.basic (.untyped u)).assignableTo ty = true := by
    rw [Ty.untyped_assignable_iff (by rw [storage]; rfl), storage,
      Ty.constantFits_numeric (Kind.isNumeric_integer k)]
    exact .inr number
  have kept : c.asKind? e.word (.integer k) = some (.integer (.narrow e.word k n)) :=
    Constant.asKind_integer rfl value
  simp only [represent, Object.constant, Ty.untyped?, UntypedKind.ne_nil number, assignable,
    not_true_eq_false, or_self, ↓reduceIte, Value.toConstant?, storage, Kind.isNumeric_integer,
    kept]
  rw [Logged.bind_ok (warnOfNumber_result ..), warnOfNumber_log storage value]
  simp only [Logged.pure_log, Logged.pure_result, List.append_nil]

/-! ## Warnings and losses -/

/-- What a constant leaves in the log when it becomes an integer. On its own it is warned of once if
the `int` that is kept is another integer, and else not at all. Facing an integer type it is warned
of once if the integer that is kept is another one and the constant is too long for 64 bits: no
warning is false, and the losses without one are those of constants that 64 bits would hold. With
warnings off there are none. -/
theorem warned_losses (e : Engine) (c : Constant) (n : Int) (integral : c.toInteger? = some n) :
    let kept (k : IntKind) : StoredInt := .narrow e.word k n
    e.normalize (.constant .int c) =
        ⟨if e.warnOnTruncation = true ∧ (kept .int).val ≠ n then
            [.truncatedToInt c (kept .int).val e.word]
          else [],
          .ok ⟨.integer (kept .int), .basic (.integer .int)⟩⟩ ∧
      ∀ (u : UntypedKind) (ty : Ty) (k : IntKind), u.isNumeric = true → ty.storage = .integer k →
        e.represent (.constant u c) ty =
          ⟨if e.warnOnTruncation = true ∧ (kept k).val ≠ n ∧ ¬ k.FitsLongest n then
              [.truncated c ty]
            else [],
            .ok ⟨.integer (kept k), ty⟩⟩ := by
  intro kept
  refine ⟨normalize_int_eq integral, ?_⟩
  intro u ty k number storage
  have lost : ¬ k.FitsLongest n → (kept k).val ≠ n := by
    intro long same
    exact long (StoredInt.fitsLongest_of_contains (StoredInt.narrow_val_eq_iff.mp same))
  have told : ((kept k).val ≠ n ∧ ¬ k.FitsLongest n) ↔ ¬ k.FitsLongest n :=
    ⟨And.right, fun long => ⟨lost long, long⟩⟩
  rw [represent_number_eq number storage integral]
  simp only [told, kept]

/-- With a word of 32 bits: the first integer past it, on its own and facing a declared `uint`,
where it fits, and one past 64 bits facing a byte. -/
theorem warned_losses_narrow_word :
    let e : Engine := { word := .w32 }
    let past : Constant := .rational 2147483648
    let long : Constant := .integer 18446744073709551621
    let count : Ty := .named ⟨"Count", "main", 7⟩ (.basic (.integer .uint))
    let byte : Ty := .basic (.integer .uint8)
    past.toInteger? = some 2147483648 ∧
      e.normalize (.constant .int past) =
        ⟨[.truncatedToInt past (-2147483648) .w32],
          .ok ⟨.integer (.ofInt .int (-2147483648)), .basic (.integer .int)⟩⟩ ∧
      e.represent (.constant .rune past) count =
        ⟨[], .ok ⟨.integer (.ofInt .uint 2147483648), count⟩⟩ ∧
      e.represent (.constant .int long) byte =
        ⟨[.truncated long byte], .ok ⟨.integer (.ofInt .uint8 5), byte⟩⟩ := by
  intro e past long count byte
  have integral : past.toInteger? = some 2147483648 := by decide +kernel
  have cut : StoredInt.narrow .w32 .int 2147483648 = .ofInt .int (-2147483648) := rfl
  have cutVal : (StoredInt.ofInt .int (-2147483648)).val = -2147483648 := rfl
  have whole : StoredInt.narrow .w32 .uint 2147483648 = .ofInt .uint 2147483648 := rfl
  have wholeVal : (StoredInt.ofInt .uint 2147483648).val = 2147483648 := rfl
  have low : StoredInt.narrow .w32 .uint8 18446744073709551621 = .ofInt .uint8 5 := rfl
  have lowVal : (StoredInt.ofInt .uint8 5).val = 5 := rfl
  have tooLong : ¬ IntKind.uint8.FitsLongest 18446744073709551621 := by decide
  refine ⟨integral, ?_, ?_, ?_⟩
  · simpa [e, cut, cutVal] using (warned_losses e past _ integral).1
  · simpa [e, whole, wholeVal] using (warned_losses e past _ integral).2 .rune count .uint rfl rfl
  · simpa [e, low, lowVal, tooLong] using (warned_losses e long _ rfl).2 .int byte .uint8 rfl rfl

/-- Losses without a warning: a constant past the word facing an `int`, which is warned of when it
becomes an `int` on its own, one that is too large for eight bits, and a negative one at an
unsigned type. -/
theorem lost_without_warning :
    let e : Engine := { word := .w32 }
    let past : Constant := .integer 2147483648
    let int : Ty := .basic (.integer .int)
    let small : Ty := .basic (.integer .int8)
    let word : Ty := .basic (.integer .uint)
    e.represent (.constant .int past) int = ⟨[], .ok ⟨.integer (.ofInt .int (-2147483648)), int⟩⟩ ∧
      e.normalize (.constant .int past) =
        ⟨[.truncatedToInt past (-2147483648) .w32],
          .ok ⟨.integer (.ofInt .int (-2147483648)), int⟩⟩ ∧
      e.represent (.constant .int (.integer 300)) small =
        ⟨[], .ok ⟨.integer (.ofInt .int8 44), small⟩⟩ ∧
      e.represent (.constant .int (.integer (-1))) word =
        ⟨[], .ok ⟨.integer (.ofInt .uint 4294967295), word⟩⟩ :=
  ⟨rfl, rfl, rfl, rfl⟩

end Engine

end TypedOps
