import TypedOps.Operator.Evaluate
import TypedOps.Proofs.Operator.Typing

/-!
Only consistent objects come out of an engine. Whatever the operands are, also where their values
do not belong to their types, each operator keeps its result as the type of the result is stored
(`apply_wellFormed`, `compare_wellFormed`), and so do the two ways of typing a constant. Main
statement: every object that an engine gives out is consistent (`gives_consistent`).
-/
namespace TypedOps

/-- A typed object with a value of its type: no constant, of the kind that the type is stored as,
accepted by the check of objects, and within the word if it is an integer. -/
structure Object.Consistent (word : WordSize) (x : Object) : Prop where
  typed : x.isUntyped = false
  no_constant : ∀ c, x.value ≠ .constant c
  kind_eq : x.value.kind? = some x.ty.storage
  accepted : checked x.ty x.value = .ok x
  fitsWord : ∀ i, x.value = .integer i → i.FitsWord word

/-- The objects that an engine gives out: results of tokens on any operands, and untyped objects
typed on their own or facing a type. -/
inductive Engine.Gives (e : Engine) (o : Object) : Prop
  | binary (left right : Object) (token : Token)
    (given : (e.evaluateBinary left right token).result = .ok o)
  | comparison (left right : Object) (token : Token) (result : Ty)
    (given : (e.evaluateComparison left right token result).result = .ok o)
  | normalized (x : Object) (untyped : x.isUntyped = true)
    (given : (e.normalize x).result = .ok o)
  | represented (x : Object) (ty : Ty) (untyped : x.isUntyped = true)
    (given : (e.represent x ty).result = .ok o)

theorem Object.WellFormed.consistent {word : WordSize} {x : Object}
    (formed : x.WellFormed word) : x.Consistent word where
  typed := formed.typed
  no_constant c same := by
    have none := Value.KeptAs.no_constant formed
    rw [same] at none
    cases none
  kind_eq := formed.kind_eq
  accepted := formed.accepted
  fitsWord _ same := Value.KeptAs.fitsWord formed same

/-! ## Each operator keeps what it computes as its type is stored -/

/-- An arithmetic operator computes values of the kind that it is asked to compute in. -/
theorem ArithmeticOp.onValues_kept {word : WordSize} {op : ArithmeticOp} {kind : Kind}
    {invalid : InternalFault} {x y v : Value}
    (computed : op.onValues word kind invalid x y = .ok v) : v.KeptAs word kind := by
  cases kind with
  | integer k =>
    simp only [onValues] at computed
    split at computed
    · split at computed
      · cases computed
      · cases computed
        exact Value.keptAs_narrow ..
    · cases computed
  | float f =>
    simp only [onValues] at computed
    split at computed
    · split at computed
      · cases computed
        exact .float _
      · cases computed
    · cases computed
  | complex f =>
    simp only [onValues] at computed
    split at computed
    · split at computed
      · cases computed
        exact .complex _
      · cases computed
    · cases computed
  | string =>
    simp only [onValues] at computed
    split at computed
    · cases computed
      exact .text _
    · cases computed
  | _ => cases computed

/-- A truth value at a type is kept as the type is stored. -/
theorem Object.ofTruth_wellFormed {word : WordSize} {b : Bool} {ty : Ty} {o : Object}
    (given : ofTruth b ty = .ok o) : o.WellFormed word := by
  unfold ofTruth at given
  split at given
  · split at given
    · next storage =>
      cases given
      rw [WellFormed, storage]
      exact .bool b
    · cases given
  · cases given
    exact .bool b
  · cases given
    exact .bool b
  · cases given

namespace Engine

variable {e : Engine} {left right count o : Object}

theorem arithmetic_wellFormed {op : ArithmeticOp}
    (given : (e.arithmetic op left right).result = .ok o) : o.WellFormed e.word := by
  obtain ⟨⟨l, r⟩, _, computed⟩ := Logged.bind_result_ok_iff.mp given
  obtain ⟨v, onValues, result⟩ := Logged.bind_result_ok_iff.mp computed
  cases result
  exact ArithmeticOp.onValues_kept onValues

theorem bitwise_wellFormed {op : BitOp}
    (given : (e.bitwise op left right).result = .ok o) : o.WellFormed e.word := by
  obtain ⟨⟨l, r⟩, _, computed⟩ := Logged.bind_result_ok_iff.mp given
  simp only at computed
  split at computed
  · next k a b storage _ _ =>
    cases computed
    rw [Object.WellFormed, storage]
    exact Value.keptAs_narrow ..
  · cases computed

theorem shift_wellFormed {op : ShiftOp}
    (given : (e.shift op left count).result = .ok o) : o.WellFormed e.word := by
  obtain ⟨l, _, computed⟩ := Logged.bind_result_ok_iff.mp given
  simp only at computed
  split at computed
  · cases computed
  · obtain ⟨n, _, shifted⟩ := Logged.bind_result_ok_iff.mp computed
    split at shifted
    · next k storage =>
      cases shifted
      rw [Object.WellFormed, storage]
      exact Value.keptAs_narrow ..
    · cases shifted

theorem apply_wellFormed {op : BinaryOp} (given : (e.apply op left right).result = .ok o) :
    o.WellFormed e.word := by
  cases op with
  | arithmetic op => exact arithmetic_wellFormed given
  | bit op => exact bitwise_wellFormed given
  | shift op => exact shift_wellFormed given

theorem compare_wellFormed {op : ComparisonOp} {result : Ty}
    (given : (e.compare op left right result).result = .ok o) : o.WellFormed e.word := by
  obtain ⟨b, _, truth⟩ := Logged.bind_result_ok_iff.mp given
  exact Object.ofTruth_wellFormed truth

/-! ## What an engine gives out -/

theorem gives_wellFormed (gives : e.Gives o) : o.WellFormed e.word := by
  cases gives with
  | binary left right token given =>
    rw [evaluateBinary_result] at given
    cases token with
    | binary op => exact apply_wellFormed given
    | _ => cases given
  | comparison left right token result given =>
    rw [evaluateComparison_result] at given
    cases token with
    | comparison op => exact compare_wellFormed given
    | _ => cases given
  | normalized x untyped given => exact normalize_wellFormed untyped given
  | represented x ty untyped given => exact represent_wellFormed untyped given

/-- Every object that an engine gives out is consistent, whatever goes in. -/
theorem gives_consistent (gives : e.Gives o) : o.Consistent e.word :=
  (gives_wellFormed gives).consistent

/-- With a word of 32 bits: a sum whose left operand is wider than the word, a comparison at a
declared truth type, a rune that is too large, and a complex constant facing bytes. -/
theorem gives_consistent_narrow_word :
    let e : Engine := { word := .w32 }
    let count : Ty := .named ⟨"Count", "main", 7⟩ (.basic (.integer .int))
    let flag : Ty := .named ⟨"Flag", "main", 21⟩ (.basic .bool)
    let sum : Object := ⟨.integer (.ofInt .int 12), count⟩
    let differs : Object := ⟨.bool true, flag⟩
    let rune : Object := ⟨.integer (.ofInt .int32 97), .basic .rune⟩
    let byte : Object := ⟨.integer (.ofInt .uint8 255), .basic (.integer .uint8)⟩
    (e.Gives sum ∧ sum.Consistent .w32) ∧ (e.Gives differs ∧ differs.Consistent .w32) ∧
      (e.Gives rune ∧ rune.Consistent .w32) ∧ (e.Gives byte ∧ byte.Consistent .w32) := by
  intro e count flag sum differs rune byte
  let wide : Object := ⟨.integer (.ofInt .int 1099511627781), count⟩
  let seven : Object := .constant .float (.rational 7)
  have added : e.Gives sum := .binary wide seven (.binary (.arithmetic .add))
    (Logged.ok_of_toOption (by decide +kernel))
  have compared : e.Gives differs := .comparison wide seven (.comparison .notEqual) flag
    (Logged.ok_of_toOption (by decide +kernel))
  have alone : e.Gives rune := .normalized (.constant .rune (.integer 1099511627873)) rfl
    (Logged.ok_of_toOption (by decide +kernel))
  have facing : e.Gives byte :=
    .represented (.constant .complex (.complex 511 0)) (.basic (.integer .uint8)) rfl
      (Logged.ok_of_toOption (by decide +kernel))
  exact ⟨⟨added, gives_consistent added⟩, ⟨compared, gives_consistent compared⟩,
    ⟨alone, gives_consistent alone⟩, ⟨facing, gives_consistent facing⟩⟩

end Engine

end TypedOps
