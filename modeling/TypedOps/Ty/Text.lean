import TypedOps.Ty.Basic

/-!
The text of a type: declared types by their name, qualified by the package where there is one;
the others by their components.
-/
namespace TypedOps

/-- The name, qualified by the package where there is one. -/
def Declaration.text (d : Declaration) : String :=
  if d.package.isEmpty then d.name else d.package ++ "." ++ d.name

namespace Ty

mutual

/-- The text of a type. -/
def text : Ty → String
  | basic k => k.name
  | named d _ => d.text
  | pointer t => "*" ++ t.text
  | slice t => "[]" ++ t.text
  | map t u => "map[" ++ t.text ++ "]" ++ u.text
  | chan t => "chan " ++ t.text
  | func ts us => "func(" ++ commaText ts ++ ")" ++ resultText us
  | interface => "interface\x7b\x7d"

/-- The texts of a list of types, with commas between. -/
def commaText : List Ty → String
  | [] => ""
  | [t] => t.text
  | t :: ts => t.text ++ ", " ++ commaText ts

/-- The results of a function: none, one as it stands, or several between parentheses. -/
def resultText : List Ty → String
  | [] => ""
  | [t] => " " ++ t.text
  | t :: ts => " (" ++ t.text ++ ", " ++ commaText ts ++ ")"

end

end Ty

end TypedOps
