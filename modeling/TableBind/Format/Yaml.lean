import TableBind.Format.View
import TableBind.Format.Yaml.Node
import TableBind.Format.Yaml.Scalar

/-! YAML documents as data. Any scalar reads as a text; read first as a self-describing value, a
plain scalar that spells a null, boolean, integer or finite float is not one. A text loads when
it holds one document, or none. -/

namespace TableBind.Yaml

def typedTags : List String :=
  ["tag:yaml.org,2002:bool", "tag:yaml.org,2002:int", "tag:yaml.org,2002:float",
    "tag:yaml.org,2002:null"]

/-- The text of a node read first as a self-describing value: a scalar that is a text
there. A local tag (starting with `!`) makes any node a variant, and a typed tag a
non-text. -/
def Node.content? : Node → Option String
  | .scalar t _ (some tag) =>
    if tag.startsWith "!" || typedTags.contains tag then none else some t
  | .scalar t plain none => if plain && spellsValue t then none else some t
  | _ => none

def Node.text? : Node → Option String
  | .scalar t _ _ => some t
  | _ => none

def Node.isEmpty : Node → Bool
  | .scalar "" true _ => true
  | _ => false

/-- The members of a mapping whose keys are all scalars; the empty plain scalar has none. -/
def Node.fields? (n : Node) : Option (List (String × Node)) :=
  match n with
  | .map ps => ps.mapM fun p => do pure ((← p.1.text?), p.2)
  | _ => if n.isEmpty then some [] else none

def Node.items? (n : Node) : Option (List Node) :=
  match n with
  | .seq xs => some xs
  | _ => if n.isEmpty then some [] else none

def view : DataView Node where
  text? := Node.text?
  fields? := Node.fields?
  items? := Node.items?
  content? := Node.content?

/-- The characters a YAML stream may hold: tab, line feed, carriage return, printable ASCII,
next-line, and the rest of Unicode but for surrogates and the two last code points of the
basic plane. -/
def allowedChar (c : Char) : Bool :=
  let n := c.toNat
  n == 0x09 || n == 0x0A || n == 0x0D || (0x20 ≤ n && n ≤ 0x7E) || n == 0x85 ||
    (0xA0 ≤ n && n ≤ 0xD7FF) || (0xE000 ≤ n && n ≤ 0xFFFD) || (0x10000 ≤ n && n ≤ 0x10FFFF)

/-- The single document of a YAML text (the empty plain scalar when it has none), or no
answer when it holds a character not allowed, fails to scan or parse, or has more than one
document. A leading byte-order mark is dropped. -/
def load (src : String) : Option Node :=
  let src := if src.startsWith "\uFEFF" then String.ofList (src.toList.drop 1) else src
  if !src.all allowedChar then none
  else
    match tokenize src with
    | .error _ => none
    | .ok toks =>
      match readDocuments toks with
      | .ok [] => some Node.empty
      | .ok [d] => some d
      | _ => none

end TableBind.Yaml
