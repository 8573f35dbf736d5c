import TypedOps.Value.Basic
import TypedOps.Ieee.Text

/-!
The text of a value.
-/
namespace TypedOps.Value

/-- Numbers are written out, text is quoted, a reference is its kind with its handle in
hexadecimal digits, or nil. -/
def toText : Value → String
  | bool b => if b then "true" else "false"
  | integer i => toString i.val
  | float _ x => x.text
  | complex _ z => z.text
  | text s => Text.quoted s
  | reference _ none => "nil"
  | reference kind (some h) =>
    kind.name ++ "@0x" ++ String.ofList (Nat.toDigits 16 h.id)
  | constant c => c.toText

end TypedOps.Value
