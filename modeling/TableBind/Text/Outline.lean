import TableBind.Text.Quoted

/-! Outlines: the one-line structural text of a value, used by the inspection outputs.
A record is its name and its fields `name: value` in braces, a variant with a payload is
its name and the payload in parentheses, a sequence is in brackets and a map is
`key: value` pairs in braces, all separated by a comma and a space. -/

namespace TableBind.Outline

/-- A record: `Name { a: x, b: y }`. -/
def record (name : String) (fields : List (String × String)) : String :=
  name ++ " \x7b " ++ ", ".intercalate (fields.map fun f => f.1 ++ ": " ++ f.2) ++ " \x7d"

def variant (name : String) (payload : List String) : String :=
  name ++ "(" ++ ", ".intercalate payload ++ ")"

def seq (items : List String) : String := "[" ++ ", ".intercalate items ++ "]"

/-- A map: `{k: v, ...}`, or `{}` when empty. -/
def map (entries : List (String × String)) : String :=
  "\x7b" ++ ", ".intercalate (entries.map fun e => e.1 ++ ": " ++ e.2) ++ "\x7d"

def option : Option String → String
  | some x => variant "Some" [x]
  | none => "None"

def bool (b : Bool) : String := if b then "true" else "false"

def text (s : String) : String := Text.quote s

end TableBind.Outline
