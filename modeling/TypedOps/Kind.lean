import TypedOps.Integer.Shape
import TypedOps.Ieee.Format

/-!
Kinds. A kind names a way of storing values, or a class of untyped constants. Many types share
one kind, so a kind has no identity of its own. `Kind.storage` is the kind that values of a kind
are kept as: a rune is kept as a 32-bit integer, every other kind as itself.
-/
namespace TypedOps

/-- The width of the integer kinds that follow the machine. -/
inductive WordSize
  | w32
  | w64
  deriving DecidableEq

/-- The machine width of a word. -/
def WordSize.width : WordSize → Width
  | w32 => .w32
  | w64 => .w64

/-- The integer kinds. -/
inductive IntKind
  | int
  | int8
  | int16
  | int32
  | int64
  | uint
  | uint8
  | uint16
  | uint32
  | uint64
  | uintptr
  deriving DecidableEq

namespace IntKind

/-- Whether the kind holds negative integers. -/
def signed : IntKind → Bool
  | int | int8 | int16 | int32 | int64 => true
  | uint | uint8 | uint16 | uint32 | uint64 | uintptr => false

/-- The width of the kind on a machine with the given word. -/
def width (word : WordSize) : IntKind → Width
  | int8 | uint8 => .w8
  | int16 | uint16 => .w16
  | int32 | uint32 => .w32
  | int64 | uint64 => .w64
  | int | uint | uintptr => word.width

/-- The shape that operators compute in. -/
def shape (word : WordSize) (k : IntKind) : Shape :=
  ⟨k.signed, k.width word⟩

/-- The shape that a value of the kind is kept in, whatever the word. -/
def cell (k : IntKind) : Shape :=
  k.shape .w64

/-- The name of an integer kind. -/
def name : IntKind → String
  | int => "int"
  | int8 => "int8"
  | int16 => "int16"
  | int32 => "int32"
  | int64 => "int64"
  | uint => "uint"
  | uint8 => "uint8"
  | uint16 => "uint16"
  | uint32 => "uint32"
  | uint64 => "uint64"
  | uintptr => "uintptr"

end IntKind

/-- The classes of untyped constants. -/
inductive UntypedKind
  | bool
  | int
  | float
  | complex
  | rune
  | string
  | nil
  deriving DecidableEq

/-- The name of a class of untyped constants. -/
def UntypedKind.name : UntypedKind → String
  | bool => "untyped bool"
  | int => "untyped int"
  | float => "untyped float"
  | complex => "untyped complex"
  | rune => "untyped rune"
  | string => "untyped string"
  | nil => "untyped nil"

/-- The kinds of references: a value is a handle or nil. -/
inductive RefKind
  | pointer
  | slice
  | map
  | chan
  | func
  | interface
  deriving DecidableEq

/-- The name of a reference kind. -/
def RefKind.name : RefKind → String
  | pointer => "pointer"
  | slice => "slice"
  | map => "map"
  | chan => "chan"
  | func => "func"
  | interface => "interface"

/-- The kinds. A complex kind is given by the format of its parts. -/
inductive Kind
  | bool
  | integer (k : IntKind)
  | float (f : Ieee.Format)
  | complex (f : Ieee.Format)
  | string
  | rune
  | untyped (u : UntypedKind)
  | reference (r : RefKind)
  deriving DecidableEq

namespace Kind

/-- All kinds in their order. -/
def all : List Kind :=
  [bool, integer .int, integer .int8, integer .int16, integer .int32, integer .int64,
    integer .uint, integer .uint8, integer .uint16, integer .uint32, integer .uint64,
    integer .uintptr, float .binary32, float .binary64, complex .binary32, complex .binary64,
    string, rune, untyped .bool, untyped .int, untyped .float, untyped .complex, untyped .rune,
    untyped .string, untyped .nil, reference .pointer, reference .slice, reference .map,
    reference .chan, reference .func, reference .interface]

/-- The place of a kind in the order of kinds. -/
def rank (k : Kind) : Nat :=
  all.idxOf k

/-- Kinds are ordered by rank. -/
instance : Ord Kind where
  compare a b := compare a.rank b.rank

/-- The name of a kind. A complex kind is named for the bits of both its parts. -/
def name : Kind → String
  | bool => "bool"
  | integer k => k.name
  | float .binary32 => "float32"
  | float .binary64 => "float64"
  | complex .binary32 => "complex64"
  | complex .binary64 => "complex128"
  | string => "string"
  | rune => "rune"
  | untyped u => u.name
  | reference r => r.name

/-- The kind of a given name. -/
def ofName? (s : String) : Option Kind :=
  all.find? fun k => k.name == s

/-- The kind that values of a kind are kept as. -/
def storage : Kind → Kind
  | rune => integer .int32
  | k => k

/-- What values are kept as is kept as itself. -/
theorem storage_storage (k : Kind) : k.storage.storage = k.storage := by
  cases k <;> rfl

/-! ## Classes of kinds -/

/-- Whether the kind is one of untyped constants. -/
def isUntyped : Kind → Bool
  | untyped _ => true
  | _ => false

/-- Whether the kind is one of signed integers; runes are. -/
def isSigned : Kind → Bool
  | integer k => k.signed
  | rune => true
  | _ => false

/-- Whether the kind is one of unsigned integers. -/
def isUnsigned : Kind → Bool
  | integer k => !k.signed
  | _ => false

/-- Whether the kind is one of integers. -/
def isInteger (k : Kind) : Bool :=
  k.isSigned || k.isUnsigned

/-- Whether the kind is one of floating-point numbers. -/
def isFloat : Kind → Bool
  | float _ => true
  | _ => false

/-- Whether the kind is one of complex numbers. -/
def isComplex : Kind → Bool
  | complex _ => true
  | _ => false

/-- Whether the kind is one of references. -/
def isReference : Kind → Bool
  | reference _ => true
  | _ => false

/-- Whether the kind is one of numbers. -/
def isNumeric (k : Kind) : Bool :=
  k.isInteger || k.isFloat || k.isComplex

@[simp] theorem isNumeric_integer (k : IntKind) : (integer k).isNumeric = true := by
  cases k <;> rfl

@[simp] theorem isNumeric_float (f : Ieee.Format) : (float f).isNumeric = true := rfl

@[simp] theorem isNumeric_complex (f : Ieee.Format) : (complex f).isNumeric = true := rfl

/-- Whether values of the kind are ordered. -/
def isOrdered (k : Kind) : Bool :=
  k.isInteger || k.isFloat || k == string

/-- The number of bits of a number of the kind; other kinds have no width. -/
def bitWidth (word : WordSize) : Kind → Option Nat
  | integer k => some (k.width word).bits
  | rune => some 32
  | float f => some f.bits
  | complex f => some (2 * f.bits)
  | _ => none

end Kind

end TypedOps
