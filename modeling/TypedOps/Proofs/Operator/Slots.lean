import TypedOps.Proofs.Integer.Shift
import TypedOps.Proofs.Operator.Division
import TypedOps.Proofs.Value.Slots

/-!
The operators by slots and tables. Here a result is written into a fresh slot of a kind, an integer
operator computes on words in the shape that a table has for the kind, and every step asks again
which token it is given, so that each of them has a way to fail of its own: a kind without a slot, a
write of the wrong class, a kind that the table lacks, a token of another family. Main statements:
the operators done in this way are the operators, with the same results, faults and logs
(`evaluateBinaryInSlots_eq`, `evaluateComparisonInSlots_eq`).
-/
namespace TypedOps

open Ieee (Binary Complex)

namespace Token

/-- An arithmetic token on words of a shape. -/
def arithmeticOnWords (s : Shape) (token : Token) (l r : BitVec 64) : Except Fault (BitVec 64) :=
  match token with
  | .binary (.arithmetic op) =>
    if op.divides ∧ s.ofWord r = 0 then .error (.runtime (.divisionByZero op))
    else .ok (.ofInt 64 (op.onIntegers s (s.ofWord l) (s.ofWord r)))
  | _ => .error (.internal (.unsupportedOperator token .binary))

/-- A bit token on words of a shape. -/
def bitsOnWords (s : Shape) (token : Token) (l r : BitVec 64) : Except Fault (BitVec 64) :=
  match token with
  | .binary (.bit op) => .ok (.ofInt 64 (op.onIntegers s (s.ofWord l) (s.ofWord r)))
  | _ => .error (.internal (.unsupportedOperator token .binary))

/-- An arithmetic token on floating-point numbers. -/
def onBinary? {f : Ieee.Format} (token : Token) (x y : Binary f) : Option (Binary f) :=
  match token with
  | .binary (.arithmetic op) => op.onBinary? x y
  | _ => none

/-- An arithmetic token on complex numbers. -/
def onComplex? {f : Ieee.Format} (token : Token) (x y : Complex f) : Option (Complex f) :=
  match token with
  | .binary (.arithmetic op) => op.onComplex? x y
  | _ => none

/-- An arithmetic token on wide numbers, narrow or as they are. A narrow result is widened again. -/
def onWide? (token : Token) (narrow : Bool) (x y : Binary .binary64) : Option (Binary .binary64) :=
  if narrow then (token.onBinary? (x.convert : Binary .binary32) y.convert).map Binary.convert
  else token.onBinary? x y

/-- An arithmetic token on complex numbers with wide parts, narrow or as they are. -/
def onWideParts? (token : Token) (narrow : Bool) (x y : Complex .binary64) :
    Option (Complex .binary64) :=
  if narrow then (token.onComplex? (x.convert : Complex .binary32) y.convert).map Complex.convert
  else token.onComplex? x y

/-- A token as an order of what is less, greater or equal. -/
def holds? (token : Token) (less greater equal : Bool) : Option Bool :=
  match token with
  | .comparison (.order op) => some (op.holds less greater equal)
  | _ => none

/-- The result of an arithmetic token on two values, in a fresh slot of a kind. -/
def onValuesInSlot (word : WordSize) (token : Token) (kind : Kind) (invalid : Fault)
    (x y : Value) : Except Fault Value := do
  let slot ← Value.fresh kind
  if kind.isInteger then
    match x.toBits?, y.toBits?, kind.shape? word with
    | some l, some r, some s => do slot.put (.bits (← token.arithmeticOnWords s l r))
    | _, _, _ => .error invalid
  else if kind.isFloat then
    match x.toBinary? .binary64, y.toBinary? .binary64 with
    | some l, some r =>
      match token.onWide? (kind = .float .binary32) l r with
      | some z => slot.put (.float z)
      | none => .error invalid
    | _, _ => .error invalid
  else if kind.isComplex then
    match x.toComplex? .binary64, y.toComplex? .binary64 with
    | some l, some r =>
      match token.onWideParts? (kind = .complex .binary32) l r with
      | some z => slot.put (.complex z)
      | none => .error invalid
    | _, _ => .error invalid
  else if kind = .string ∧ token = .binary (.arithmetic .add) then
    match x.toText?, y.toText? with
    | some s, some t => slot.put (.text (s ++ t))
    | _, _ => .error invalid
  else .error invalid

/-- The order of two values kept as a kind. -/
def orderValues (word : WordSize) (token : Token) (kind : Kind) (invalid : Fault) (x y : Value) :
    Except Fault Bool :=
  let supported : Option Bool → Except Fault Bool
    | some b => .ok b
    | none => .error (.internal (.unsupportedOperator token .comparison))
  if kind.isInteger then
    match x.toBits?, y.toBits? with
    | some l, some r =>
      supported <| (kind.shape? word).bind fun s =>
        token.holds? (s.ofWord l < s.ofWord r) (s.ofWord r < s.ofWord l) (s.ofWord l = s.ofWord r)
    | _, _ => .error invalid
  else if kind.isFloat then
    match x.toBinary? .binary64, y.toBinary? .binary64 with
    | some l, some r =>
      if kind = .float .binary32 then
        let l : Binary .binary32 := l.convert
        let r : Binary .binary32 := r.convert
        supported (token.holds? (l.less r) (r.less l) (l.equals r))
      else supported (token.holds? (l.less r) (r.less l) (l.equals r))
    | _, _ => .error invalid
  else if kind = .string then
    match x.toText?, y.toText? with
    | some s, some t => supported (token.holds? (Text.before s t) (Text.before t s) (s = t))
    | _, _ => .error invalid
  else .error invalid

end Token

namespace Engine

variable (e : Engine)

/-- The object at the type of the operand that it faces, by way of a slot of that type. -/
def representInSlots (x : Object) (ty : Ty) : Logged Object :=
  match x.ty.untyped? with
  | none => pure x
  | some u =>
    if u = .nil ∨ ¬ x.ty.assignableTo ty then e.normalize x
    else
      match x.value.toConstant? with
      | none => .fail (.constantMismatch u x.value)
      | some c => do
        let kind := ty.storage
        let slot ← .ofExcept (Value.fresh kind)
        if kind.isInteger then
          match c.toSigned? with
          | none => .fail (.notConvertible x.ty ty)
          | some (low, fits) => do
            let fits := fits || kind.isUnsigned && c.toInteger?.any Constant.fitsUnsigned
            .tellIf (e.warnOnTruncation && !fits) (.truncated c ty)
            let slot ← .ofExcept (slot.put (.bits (kind.wordBits e.word (.ofInt 64 low))))
            return ⟨slot, ty⟩
        else if kind.isFloat then
          match c.toBinary? .binary64 with
          | none => .fail (.notConvertible x.ty ty)
          | some z => do
            let slot ← .ofExcept (slot.put (.float z))
            return ⟨slot, ty⟩
        else if kind.isComplex then
          match c.toParts? .binary64 with
          | none => .fail (.notConvertible x.ty ty)
          | some (re, im) => do
            let slot ← .ofExcept (slot.put (.complex ⟨re, im⟩))
            return ⟨slot, ty⟩
        else e.normalize x

/-- Both operands typed, by way of slots. -/
def operandsInSlots (left right : Object) : Logged (Object × Object) :=
  match left.isUntyped, right.isUntyped with
  | true, false => do
    let left ← e.representInSlots left right.ty
    return (left, right)
  | false, true => do
    let right ← e.representInSlots right left.ty
    return (left, right)
  | _, _ => do
    let left ← e.normalize left
    let right ← e.normalize right
    return (left, right)

/-- An arithmetic token on two objects, by way of a slot. -/
def arithmeticInSlots (token : Token) (left right : Object) : Logged Object := do
  let (left, right) ← e.operandsInSlots left right
  let kind := left.ty.storage
  let invalid := .internal (.invalidOperands token left.ty right.ty)
  let value ← .ofExcept (token.onValuesInSlot e.word kind invalid left.value right.value)
  return ⟨value, left.ty⟩

/-- A bit token on two objects, by way of a slot. -/
def bitwiseInSlots (token : Token) (left right : Object) : Logged Object := do
  let (left, right) ← e.operandsInSlots left right
  let kind := left.ty.storage
  match left.value.toBits?, right.value.toBits?, kind.shape? e.word with
  | some l, some r, some s => do
    let value ← .ofExcept do Value.stored kind (.bits (← token.bitsOnWords s l r))
    return ⟨value, left.ty⟩
  | _, _, _ => .fail (.invalidOperands token left.ty right.ty)

/-- A shift of an object, by way of a slot. What is no shift to the left is one to the right. -/
def shiftInSlots (token : Token) (left count : Object) : Logged Object := do
  let left ← e.normalize left
  let kind := left.ty.storage
  let invalid := .invalidOperands token left.ty count.ty
  match left.value.toBits? with
  | none => .fail invalid
  | some bits => do
    let n ← .ofExcept count.shiftCount
    match kind.shape? e.word with
    | none => .fail invalid
    | some s => do
      let x := s.ofWord bits
      let shifted := if token = .binary (.shift .left) then s.shiftLeft x n else s.shiftRight x n
      let value ← .ofExcept (Value.stored kind (.bits (.ofInt 64 shifted)))
      return ⟨value, left.ty⟩

/-- Whether an order holds between two objects. -/
def orderedInSlots (token : Token) (left right : Object) : Logged Bool := do
  let (left, right) ← e.operandsInSlots left right
  let invalid := .internal (.invalidOperands token left.ty right.ty)
  .ofExcept (token.orderValues e.word left.ty.storage invalid left.value right.value)

/-- Whether two objects of different types are equal, when the first is converted to the kind of
the second by way of a slot. -/
def equalConvertedInSlots (source target : Object) : Logged Bool := do
  .tell (.convertingForEquality source.ty target.ty)
  match source.value.convertInSlots? e.word target.ty.storage with
  | some v => return v.equals target.value
  | none => .fail (.notConvertible source.ty target.ty)

/-- Whether two objects are equal. -/
def equalityInSlots (left right : Object) : Logged Bool :=
  match left.isUntypedNil, right.isUntypedNil with
  | true, true => return true
  | true, false => e.isNil right
  | false, true => e.isNil left
  | false, false => do
    let (left, right) ← e.operandsInSlots left right
    if left.ty = right.ty then return left.value.equals right.value
    else if left.ty.assignableTo right.ty then e.equalConvertedInSlots left right
    else e.equalConvertedInSlots right left

end Engine

/-- A truth value at a type, by way of a slot where the type is declared. -/
def Object.ofTruthInSlots (b : Bool) (ty : Ty) : Except Fault Object :=
  match ty with
  | .named _ _ =>
    if ty.storage = .bool then do return ⟨← Value.stored ty.storage (.bool b), ty⟩
    else .error (.internal (.nonBooleanResult ty))
  | .basic .bool | .basic (.untyped .bool) => .ok ⟨.bool b, .basic .bool⟩
  | _ => .error (.internal (.nonBooleanResult ty))

namespace Engine

variable (e : Engine)

/-- A token as a binary operator on two objects, by slots and tables. -/
def evaluateBinaryInSlots (left right : Object) (token : Token) : Logged Object := do
  .tell (.evaluatingBinary token left.ty right.ty)
  .reporting token <|
    match token with
    | .binary (.arithmetic _) => e.arithmeticInSlots token left right
    | .binary (.bit _) => e.bitwiseInSlots token left right
    | .binary (.shift _) => e.shiftInSlots token left right
    | _ => .fail (.unsupportedOperator token .binary)

/-- A token as the truth value of a comparison, by slots and tables. -/
def truthInSlots (left right : Object) (token : Token) : Logged Bool :=
  match token with
  | .comparison (.order _) => e.orderedInSlots token left right
  | .comparison .equal => e.equalityInSlots left right
  | .comparison .notEqual => do return !(← e.equalityInSlots left right)
  | _ => .fail (.unsupportedOperator token .comparison)

/-- A token as a comparison of two objects, by slots and tables. -/
def evaluateComparisonInSlots (left right : Object) (token : Token) (result : Ty) :
    Logged Object := do
  .tell (.evaluatingComparison token left.ty right.ty result)
  .reporting token do
    let b ← e.truthInSlots left right token
    .ofExcept (Object.ofTruthInSlots b result)

end Engine

/-! ## Operators on values -/

/-- Bit operators on a shape give integers of the shape. -/
theorem BitOp.contains_onIntegers (s : Shape) (op : BitOp) (m n : Int) :
    s.Contains (op.onIntegers s m n) := by
  cases op <;> exact s.contains_ofBits _

/-- Shifts in a shape give integers of the shape. -/
theorem ShiftOp.contains_onInteger (s : Shape) (op : ShiftOp) (m : Int) (n : Nat) :
    s.Contains (op.onInteger s m n) := by
  cases op with
  | left => exact s.contains_wrap _
  | right => exact Shape.contains_shiftRight (s.contains_wrap m) _

namespace Token

variable {word : WordSize} {op : ArithmeticOp} {invalid : InternalFault} {x y : Value}

/-- Arithmetic on words of an integer kind. -/
theorem onValuesInSlot_integer {k : IntKind} :
    (binary (.arithmetic op)).onValuesInSlot word (.integer k) (.internal invalid) x y =
      op.onValues word (.integer k) invalid x y := by
  rw [onValuesInSlot]
  simp only [Kind.isInteger_integer, ↓reduceIte, Kind.shape?]
  cases x with
  | integer i =>
    cases y with
    | integer j =>
      simp only [Value.toBits?, arithmeticOnWords, StoredInt.ofWord_bits, ArithmeticOp.onValues,
        Value.toInt?, ArithmeticOp.onIntegers_wrap]
      by_cases zero : op.divides = true ∧ (k.shape word).wrap j.val = 0
      · simp only [if_pos zero]
        rfl
      · simp only [if_neg zero]
        exact Value.stored_integer (op.contains_onIntegers ..)
    | _ => rfl
  | _ => rfl

/-- The wide number that is computed becomes the number of the format. -/
theorem onWide_convert (f : Ieee.Format) (token : Token) (a b : Binary .binary64) :
    (token.onWide? (Kind.float f = .float .binary32) a b).map (Binary.convert : _ → Binary f) =
      token.onBinary? a.convert b.convert := by
  cases f with
  | binary32 =>
    have back : (Binary.convert ∘ Binary.convert : Binary .binary32 → Binary .binary32) = id :=
      funext Binary.narrow_widen
    simp only [onWide?, decide_true, ↓reduceIte, Option.map_map, back, Option.map_id, id_eq]
  | binary64 =>
    have same : (Binary.convert : Binary .binary64 → Binary .binary64) = id :=
      funext Binary.convert_self
    simp only [onWide?, same, Option.map_id, id_eq]
    rfl

theorem onValuesInSlot_float {f : Ieee.Format} :
    (binary (.arithmetic op)).onValuesInSlot word (.float f) (.internal invalid) x y =
      op.onValues word (.float f) invalid x y := by
  cases x with
  | float g a =>
    cases y with
    | float h b =>
      have narrowed := onWide_convert f (binary (.arithmetic op)) a.convert b.convert
      rw [Binary.convert_widened, Binary.convert_widened] at narrowed
      -- The write narrows the wide result, which is what `narrowed` speaks of.
      show (match (binary (.arithmetic op)).onWide? (Kind.float f = .float .binary32)
          a.convert b.convert with
        | some z => Except.ok (Value.float f z.convert)
        | none => Except.error (Fault.internal invalid)) = _
      simp only [ArithmeticOp.onValues, Value.toBinary?]
      change _ = op.onBinary? _ _ at narrowed
      rw [← narrowed]
      cases (binary (.arithmetic op)).onWide? .. <;> rfl
    | _ => rfl
  | _ => rfl

/-- The wide parts that are computed become those of the format. -/
theorem onWideParts_convert (f : Ieee.Format) (token : Token) (a b : Complex .binary64) :
    (token.onWideParts? (Kind.complex f = .complex .binary32) a b).map
        (Complex.convert : _ → Complex f) =
      token.onComplex? a.convert b.convert := by
  cases f with
  | binary32 =>
    have back : (Complex.convert ∘ Complex.convert : Complex .binary32 → Complex .binary32) = id :=
      funext Complex.narrow_widen
    simp only [onWideParts?, decide_true, ↓reduceIte, Option.map_map, back, Option.map_id, id_eq]
  | binary64 =>
    have same : (Complex.convert : Complex .binary64 → Complex .binary64) = id :=
      funext Complex.convert_self
    simp only [onWideParts?, same, Option.map_id, id_eq]
    rfl

theorem onValuesInSlot_complex {f : Ieee.Format} :
    (binary (.arithmetic op)).onValuesInSlot word (.complex f) (.internal invalid) x y =
      op.onValues word (.complex f) invalid x y := by
  cases x with
  | complex g a =>
    cases y with
    | complex h b =>
      have narrowed := onWideParts_convert f (binary (.arithmetic op)) a.convert b.convert
      rw [Complex.convert_widened, Complex.convert_widened] at narrowed
      show (match (binary (.arithmetic op)).onWideParts? (Kind.complex f = .complex .binary32)
          a.convert b.convert with
        | some z => Except.ok (Value.complex f z.convert)
        | none => Except.error (Fault.internal invalid)) = _
      simp only [ArithmeticOp.onValues, Value.toComplex?]
      change _ = op.onComplex? _ _ at narrowed
      rw [← narrowed]
      cases (binary (.arithmetic op)).onWideParts? .. <;> rfl
    | _ => rfl
  | _ => rfl

theorem onValuesInSlot_string :
    (binary (.arithmetic op)).onValuesInSlot word .string (.internal invalid) x y =
      op.onValues word .string invalid x y := by
  cases op with
  | add =>
    cases x with
    | text s => cases y <;> rfl
    | _ => rfl
  | _ => rfl

/-- Arithmetic on values of a kind that they are kept as is the same in a slot. -/
theorem onValuesInSlot_eq {kind : Kind} (kept : kind.storage = kind) :
    (binary (.arithmetic op)).onValuesInSlot word kind (.internal invalid) x y =
      op.onValues word kind invalid x y := by
  cases kind with
  | integer k => exact onValuesInSlot_integer
  | float f => exact onValuesInSlot_float
  | complex f => exact onValuesInSlot_complex
  | string => exact onValuesInSlot_string
  | rune => cases kept
  | _ => rfl

/-- The order of values of a kind that they are kept as. -/
theorem orderValues_eq {kind : Kind} (kept : kind.storage = kind) (op : OrderOp) :
    orderValues word (.comparison (.order op)) kind (.internal invalid) x y =
      match op.onValues? word kind x y with
      | some b => .ok b
      | none => .error (.internal invalid) := by
  cases kind with
  | integer k =>
    cases x with
    | integer i =>
      cases y with
      | integer j =>
        simp only [orderValues, Kind.isInteger_integer, ↓reduceIte, Value.toBits?,
          Kind.shape?, StoredInt.ofWord_bits, OrderOp.onValues?, Value.toInt?]
        rfl
      | _ =>
        simp only [orderValues, Kind.isInteger_integer, ↓reduceIte]
        rfl
    | _ =>
      simp only [orderValues, Kind.isInteger_integer, ↓reduceIte]
      rfl
  | float f =>
    cases x with
    | float g a =>
      cases y with
      | float h b =>
        cases f with
        | binary32 =>
          have left : ((a.convert : Binary .binary64).convert : Binary .binary32) = a.convert :=
            a.convert_widened
          have right : ((b.convert : Binary .binary64).convert : Binary .binary32) = b.convert :=
            b.convert_widened
          simp only [OrderOp.onValues?, Value.toBinary?, ← left, ← right]
          rfl
        | binary64 => rfl
      | _ => rfl
    | _ => rfl
  | string =>
    cases x with
    | text s => cases y <;> rfl
    | _ => rfl
  | rune => cases kept
  | _ => rfl

end Token

namespace Engine

variable (e : Engine) {left right : Object}

/-! ## Operands -/

/-- A constant takes the type that it faces with the same value and the same warning. -/
theorem representInSlots_eq (x : Object) (ty : Ty) :
    e.representInSlots x ty = e.represent x ty := by
  unfold representInSlots represent
  cases x.ty.untyped? with
  | none => rfl
  | some u =>
    by_cases apart : u = .nil ∨ ¬ x.ty.assignableTo ty = true
    · simp only [if_pos apart]
    · simp only [if_neg apart]
      cases x.value.toConstant? with
      | none => rfl
      | some c =>
        have kept := ty.storage_storage
        cases storage : ty.storage with
        | integer k =>
          simp only [Constant.asKind?, Kind.storage, Constant.toSigned?, Kind.isInteger_integer,
            Kind.isNumeric_integer, ↓reduceIte]
          cases value : c.toInteger? with
          | none => rfl
          | some n =>
            -- The slot is zero only until it is written, so allocating it early changes nothing.
            have written := Value.stored_wordBits e.word k ((Shape.mk true .w64).wrap n)
            simp only [Option.map_some, warnOfNumber, storage, value]
            show (do
              let _ ← Logged.tellIf _ _
              let slot ← Logged.ofExcept (Value.stored (.integer k) (.bits _))
              return ⟨slot, ty⟩ : Logged Object) = _
            rw [written]
            rfl
        | float f =>
          simp only [Constant.asKind?, Kind.storage]
          cases c.toBinary? .binary64 with
          | none => rfl
          | some z =>
            simp only [warnOfNumber, storage]
            rfl
        | complex f =>
          simp only [Constant.asKind?, Kind.storage]
          cases c.toParts? .binary64 with
          | none => rfl
          | some z =>
            simp only [warnOfNumber, storage]
            rfl
        | rune =>
          rw [storage] at kept
          cases kept
        | _ => rfl

theorem operandsInSlots_eq (left right : Object) :
    e.operandsInSlots left right = e.operands left right := by
  have same : e.representInSlots = e.represent := funext₂ e.representInSlots_eq
  unfold operandsInSlots
  rw [same]
  rfl

/-! ## Operators on objects -/

theorem arithmeticInSlots_eq (op : ArithmeticOp) :
    e.arithmeticInSlots (.binary (.arithmetic op)) left right = e.arithmetic op left right := by
  simp only [arithmeticInSlots, arithmetic, operandsInSlots_eq,
    Token.onValuesInSlot_eq (Ty.storage_storage _)]

theorem bitwiseInSlots_eq (op : BitOp) :
    e.bitwiseInSlots (.binary (.bit op)) left right = e.bitwise op left right := by
  rw [bitwiseInSlots, bitwise, operandsInSlots_eq]
  congr 1
  funext pair
  obtain ⟨⟨x, ty⟩, ⟨y, other⟩⟩ := pair
  have kept := ty.storage_storage
  dsimp only
  cases storage : ty.storage with
  | integer k =>
    cases x with
    | integer i =>
      cases y with
      | integer j =>
        simp only [Value.toBits?, Value.toInt?, Kind.shape?, Token.bitsOnWords,
          StoredInt.ofWord_bits, BitOp.onIntegers_wrap]
        show (do
          let value ← Logged.ofExcept (Value.stored (.integer k) (.bits (.ofInt 64 _)))
          return ⟨value, ty⟩ : Logged Object) = _
        rw [Value.stored_integer (op.contains_onIntegers ..)]
        rfl
      | _ => rfl
    | _ => rfl
  | rune =>
    rw [storage] at kept
    cases kept
  | _ => cases x <;> cases y <;> rfl

theorem shiftInSlots_eq (op : ShiftOp) (count : Object) :
    e.shiftInSlots (.binary (.shift op)) left count = e.shift op left count := by
  rw [shiftInSlots, shift]
  congr 1
  funext o
  obtain ⟨x, ty⟩ := o
  have kept := ty.storage_storage
  dsimp only
  cases x with
  | integer i =>
    simp only [Value.toBits?, Value.toInt?]
    congr 1
    funext n
    cases storage : ty.storage with
    | integer k =>
      -- Either way the shift wraps its operand, so a word may stand for it.
      have shifted : (if Token.binary (.shift op) = .binary (.shift .left) then
          (k.shape e.word).shiftLeft ((k.shape e.word).ofWord i.bits) n
          else (k.shape e.word).shiftRight ((k.shape e.word).ofWord i.bits) n) =
            op.onInteger (k.shape e.word) i.val n := by
        rw [StoredInt.ofWord_bits]
        cases op <;> simp [ShiftOp.onInteger, Shape.shiftLeft, Shape.shiftRight]
      simp only [Kind.shape?]
      rw [shifted, Value.stored_integer (op.contains_onInteger ..)]
      rfl
    | rune =>
      rw [storage] at kept
      cases kept
    | _ => rfl
  | _ => rfl

theorem orderedInSlots_eq (op : OrderOp) :
    e.orderedInSlots (.comparison (.order op)) left right = e.ordered op left right := by
  rw [orderedInSlots, ordered, operandsInSlots_eq]
  congr 1
  funext pair
  obtain ⟨l, r⟩ := pair
  simp only [Token.orderValues_eq l.ty.storage_storage]
  cases op.onValues? e.word l.ty.storage l.value r.value <;> rfl

theorem equalConvertedInSlots_eq : e.equalConvertedInSlots = e.equalConverted := by
  funext source target
  simp only [equalConvertedInSlots, Value.convertInSlots_eq]
  rfl

theorem equalityInSlots_eq : e.equalityInSlots left right = e.equality left right := by
  have same : e.operandsInSlots = e.operands := funext₂ e.operandsInSlots_eq
  unfold equalityInSlots
  rw [same, equalConvertedInSlots_eq]
  rfl

end Engine

theorem Object.ofTruthInSlots_eq (b : Bool) (ty : Ty) : ofTruthInSlots b ty = ofTruth b ty := by
  cases ty with
  | named d t =>
    simp only [ofTruthInSlots, ofTruth]
    split
    · next bool =>
      rw [bool]
      rfl
    · rfl
  | basic kind =>
    cases kind with
    | untyped u => cases u <;> rfl
    | _ => rfl
  | _ => rfl

namespace Engine

/-- Evaluation of a binary operator by slots and tables is its evaluation, with the same log. -/
theorem evaluateBinaryInSlots_eq (e : Engine) (left right : Object) (token : Token) :
    e.evaluateBinaryInSlots left right token = e.evaluateBinary left right token := by
  cases token with
  | binary op =>
    cases op with
    | arithmetic op =>
      simp only [evaluateBinaryInSlots, evaluateBinary, arithmeticInSlots_eq, apply]
    | bit op => simp only [evaluateBinaryInSlots, evaluateBinary, bitwiseInSlots_eq, apply]
    | shift op => simp only [evaluateBinaryInSlots, evaluateBinary, shiftInSlots_eq, apply]
  | _ => rfl

/-- Evaluation of a comparison by slots and tables is its evaluation, with the same log. -/
theorem evaluateComparisonInSlots_eq (e : Engine) (left right : Object) (token : Token)
    (result : Ty) :
    e.evaluateComparisonInSlots left right token result =
      e.evaluateComparison left right token result := by
  simp only [evaluateComparisonInSlots, evaluateComparison, Object.ofTruthInSlots_eq]
  cases token with
  | comparison op =>
    cases op with
    | order op => simp only [truthInSlots, orderedInSlots_eq, compare, comparisonTruth]
    | equal => simp only [truthInSlots, equalityInSlots_eq, compare, comparisonTruth]
    | notEqual => simp only [truthInSlots, equalityInSlots_eq, compare, comparisonTruth]
  | _ => rfl

end Engine

end TypedOps
