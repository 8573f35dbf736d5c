import TypedOps.Fault

/-!
Slots. A slot is a value that is written over: a write of the slot's own class replaces what is
kept, narrowed to the slot's kind, and any other write is refused.
-/
namespace TypedOps

open Ieee (Binary Complex)

/-- What a slot is written with: floating-point data come in the wide format, integers as 64 bits
of which a slot keeps as many low ones as it has. -/
inductive Write
  | bool (b : Bool)
  | bits (b : BitVec 64)
  | float (x : Binary .binary64)
  | complex (z : Complex .binary64)
  | text (s : String)

/-- The class of slots that a write is for. -/
def Write.cls : Write → WriteClass
  | bool _ => .bool
  | bits _ => .integer
  | float _ => .float
  | complex _ => .complex
  | text _ => .string

namespace Value

/-- A zero slot for values of a kind. -/
def allocate (kind : Kind) : Except InternalFault Value :=
  match zero? kind.storage with
  | some v => .ok v
  | none => .error (.noStorage kind)

/-- The slot after a write. -/
def write (slot : Value) (w : Write) : Except InternalFault Value :=
  match slot, w with
  | bool _, .bool b => .ok (bool b)
  | integer i, .bits b => .ok (integer (.ofInt i.kind b.toInt))
  | float f _, .float x => .ok (float f x.convert)
  | complex f _, .complex z => .ok (complex f z.convert)
  | text _, .text s => .ok (text s)
  | slot, w => .error (.slotMismatch slot.kind? w.cls)

/-- The slot after a write, which a refused write leaves as it was. -/
def afterWrite (slot : Value) (w : Write) : Value :=
  match slot.write w with
  | .ok slot => slot
  | .error _ => slot

end Value

end TypedOps
