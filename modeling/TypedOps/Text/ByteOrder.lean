/-!
The order of texts by the bytes of their UTF-8 encodings.
-/
namespace TypedOps.Text

/-- The bytes of the UTF-8 encoding. -/
def bytes (s : String) : List Nat :=
  s.toUTF8.data.toList.map UInt8.toNat

/-- Whether the bytes of the first text come before those of the second: at the first place where
they differ the lower byte is first, and a text comes before its continuations. -/
def before (s t : String) : Bool :=
  decide (bytes s < bytes t)

end TypedOps.Text
