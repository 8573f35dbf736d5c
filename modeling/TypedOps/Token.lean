/-!
Operator tokens. Binary operators fall into arithmetic, bit operators and shifts, and comparisons
into order and equality; a compound assignment is named by the operator it applies. Each token has
one spelling, and is found by it (`Token.ofSpelling?`).
-/
namespace TypedOps

/-- The operators on numbers. -/
inductive ArithmeticOp
  | add
  | sub
  | mul
  | quo
  | rem
  deriving DecidableEq

/-- The operators on bit patterns. -/
inductive BitOp
  | and
  | or
  | xor
  | andNot
  deriving DecidableEq

/-- The shifts. -/
inductive ShiftOp
  | left
  | right
  deriving DecidableEq

/-- The operators whose result has the type of an operand. -/
inductive BinaryOp
  | arithmetic (op : ArithmeticOp)
  | bit (op : BitOp)
  | shift (op : ShiftOp)
  deriving DecidableEq

/-- The comparisons by order. -/
inductive OrderOp
  | less
  | greater
  | lessEqual
  | greaterEqual
  deriving DecidableEq

/-- The operators whose result is a truth value. -/
inductive ComparisonOp
  | order (op : OrderOp)
  | equal
  | notEqual
  deriving DecidableEq

/-- A token. Logical operators and plain assignments are tokens without a meaning here. -/
inductive Token
  | binary (op : BinaryOp)
  | comparison (op : ComparisonOp)
  | logicalAnd
  | logicalOr
  | compound (op : BinaryOp)
  | assign
  | define
  deriving DecidableEq

/-! ## Spelling -/

/-- The spelling of an arithmetic operator. -/
def ArithmeticOp.spelling : ArithmeticOp → String
  | add => "+"
  | sub => "-"
  | mul => "*"
  | quo => "/"
  | rem => "%"

/-- The spelling of a bit operator. -/
def BitOp.spelling : BitOp → String
  | and => "&"
  | or => "|"
  | xor => "^"
  | andNot => "&^"

/-- The spelling of a shift. -/
def ShiftOp.spelling : ShiftOp → String
  | left => "<<"
  | right => ">>"

/-- The spelling of a comparison by order. -/
def OrderOp.spelling : OrderOp → String
  | less => "<"
  | greater => ">"
  | lessEqual => "<="
  | greaterEqual => ">="

namespace BinaryOp

/-- The spelling of a binary operator. -/
def spelling : BinaryOp → String
  | arithmetic op => op.spelling
  | bit op => op.spelling
  | shift op => op.spelling

/-- The binary operators in their order. -/
def all : List BinaryOp :=
  [arithmetic .add, arithmetic .sub, arithmetic .mul, arithmetic .quo, arithmetic .rem, bit .and,
    bit .or, bit .xor, bit .andNot, shift .left, shift .right]

end BinaryOp

namespace ComparisonOp

/-- The spelling of a comparison. -/
def spelling : ComparisonOp → String
  | order op => op.spelling
  | equal => "=="
  | notEqual => "!="

/-- The comparisons in their order. -/
def all : List ComparisonOp :=
  [order .less, order .greater, order .lessEqual, order .greaterEqual, equal, notEqual]

end ComparisonOp

namespace Token

/-- The spelling of a token: a compound assignment is its operator with an equals sign. -/
def spelling : Token → String
  | binary op => op.spelling
  | comparison op => op.spelling
  | logicalAnd => "&&"
  | logicalOr => "||"
  | compound op => op.spelling ++ "="
  | assign => "="
  | define => ":="

/-- The tokens in their order. -/
def all : List Token :=
  BinaryOp.all.map binary ++ ComparisonOp.all.map comparison ++ [logicalAnd, logicalOr]
    ++ BinaryOp.all.map compound ++ [assign, define]

/-- The token of a spelling. -/
def ofSpelling? (s : String) : Option Token :=
  all.find? fun t => t.spelling == s

/-- Whether the token is a comparison. -/
def isComparison : Token → Bool
  | comparison _ => true
  | _ => false

/-- The operator that a compound assignment applies. -/
def base? : Token → Option BinaryOp
  | compound op => some op
  | _ => none

end Token

end TypedOps
