import TableBind.Derive.Token
import TableBind.Derive.Lexer

/-! The parsing state for item source: the tokens still to read and the tokens written back so
far, punctuation spaced so that the written stream prints as the item's canonical text. Also
here: the integer and string values of a literal's text. -/

namespace TableBind.Derive

open TableBind.Derive.Lex

/-- Words reserved by the language; they are not identifiers. -/
def keywords : List String :=
  ["_", "abstract", "as", "async", "await", "become", "box", "break", "const", "continue",
   "crate", "do", "dyn", "else", "enum", "extern", "false", "final", "fn", "for", "if", "impl",
   "in", "let", "loop", "macro", "match", "mod", "move", "mut", "override", "priv", "pub", "ref",
   "return", "Self", "self", "static", "struct", "super", "trait", "true", "try", "type",
   "typeof", "unsafe", "unsized", "use", "virtual", "where", "while", "yield"]

/-! ### Literal values -/

def isIdentText (cs : List Char) : Bool :=
  match cs with
  | c :: r => Text.isIdentStart c && r.all Text.isIdentContinue
  | [] => false

/-- The exponent scan of a decimal integer at an `e`: `none` when the text is a float,
`some ()` when the `e` starts the suffix. -/
def exponentEnds : List Char → Bool → Option Unit
  | [], seen => if seen then none else some ()
  | c :: r, seen =>
    if c = '_' then exponentEnds r seen
    else if c = '-' || c = '+' then none
    else if isDigit c then exponentEnds r true
    else if seen && isIdentText (c :: r) then none
    else some ()

def intBody (base : Nat) : List Char → Nat → Bool → Option (Nat × Bool × List Char)
  | [], v, d => some (v, d, [])
  | c :: r, v, d =>
    if c = '_' then intBody base r v d
    else if base = 10 && c = '.' then none
    else if base = 10 && (c = 'e' || c = 'E') then
      (exponentEnds r false).map fun _ => (v, d, c :: r)
    else
      let digit : Option Nat :=
        if isDigit c then some (c.toNat - '0'.toNat)
        else if base > 10 then hexVal c else none
      match digit with
      | none => some (v, d, c :: r)
      | some k => if k ≥ base then none else intBody base r (v * base + k) true

/-- The value and suffix of an integer literal's text (an optional `-`, a base prefix,
digits with `_`, then a suffix that is an identifier), or `none` if the text is not one. -/
def intLiteral (s : String) : Option (Int × String) :=
  let (neg, cs) : Bool × List Char := match s.toList with
    | '-' :: r => (true, r)
    | r => (false, r)
  let start : Option (Nat × List Char) := match cs with
    | '0' :: 'x' :: r => some (16, r)
    | '0' :: 'o' :: r => some (8, r)
    | '0' :: 'b' :: r => some (2, r)
    | c :: r => if isDigit c then some (10, c :: r) else none
    | [] => none
  match start with
  | none => none
  | some (base, body) =>
    match intBody base body 0 false with
    | some (v, true, sfx) =>
      if sfx.isEmpty || isIdentText sfx then
        some (if neg then -(v : Int) else v, String.ofList sfx)
      else none
    | _ => none

def isNumberText (s : String) : Bool :=
  match s.toList with
  | c :: _ => isDigit c
  | [] => false

def isStrText (s : String) : Bool :=
  match s.toList with
  | '"' :: _ => true
  | 'r' :: _ => true
  | _ => false

def cookStr : Nat → List Char → List Char
  | 0, _ => []
  | _, [] => []
  | n + 1, c :: r =>
    if c = '"' then []
    else if c = '\r' then '\n' :: cookStr n (r.drop 1)
    else if c = '\\' then
      match r with
      | 'x' :: a :: b :: r' =>
        Char.ofNat ((hexVal a).getD 0 * 16 + (hexVal b).getD 0) :: cookStr n r'
      | 'u' :: r' =>
        match unicodeEscape r' with
        | some (r'', v) => Char.ofNat v :: cookStr n r''
        | none => []
      | 'n' :: r' => '\n' :: cookStr n r'
      | 'r' :: r' => '\r' :: cookStr n r'
      | 't' :: r' => '\t' :: cookStr n r'
      | '0' :: r' => '\x00' :: cookStr n r'
      | '\n' :: r' => cookStr n (r'.dropWhile fun x => x = ' ' || x = '\t' || x = '\n' || x = '\r')
      | '\r' :: r' => cookStr n (r'.dropWhile fun x => x = ' ' || x = '\t' || x = '\n' || x = '\r')
      | e :: r' => e :: cookStr n r'
      | [] => []
    else c :: cookStr n r

/-- The text a string literal stands for: escapes decoded and `\r\n` read as `\n` in a
quoted string; the body as written in a raw one. `none` if the text is not a string. -/
def strValue (s : String) : Option String :=
  match s.toList with
  | '"' :: r => some (String.ofList (cookStr (r.length + 1) r))
  | 'r' :: r =>
    let hashes := (r.takeWhile (· = '#')).length
    let body := r.drop (hashes + 1)
    let close := body.length - 1 - ((body.reverse.takeWhile (· ≠ '"')).length)
    some (String.ofList (body.take close))
  | _ => none

/-! ### Peeking at the tokens ahead -/

namespace Peek

/-- Whether the tokens start with the punctuation `s`, all but its last character joint. -/
def op (s : String) (ts : List Tok) : Bool := go s.toList ts
where
  go : List Char → List Tok → Bool
    | [c], .punct c' _ :: _ => c == c'
    | c :: cs, .punct c' j :: rest => c == c' && j && go cs rest
    | _, _ => false

def kw (k : String) : List Tok → Bool
  | .ident n false :: _ => n == k
  | _ => false

def ident : List Tok → Bool
  | .ident n raw :: _ => raw || !keywords.contains n
  | _ => false

def anyIdent : List Tok → Bool
  | .ident _ _ :: _ => true
  | _ => false

def group (d : Delim) : List Tok → Bool
  | .group d' _ :: _ => d' == d
  | _ => false

def lifetime : List Tok → Bool
  | .punct '\x27' true :: .ident _ _ :: _ => true
  | _ => false

/-- Whether the tokens start with a literal: a literal token, `true`, `false`, or a minus
sign before a number. -/
def lit : List Tok → Bool
  | .lit _ :: _ => true
  | .ident n false :: _ => n == "true" || n == "false"
  | .punct '-' _ :: .lit t :: _ => isNumberText t
  | _ => false

def str : List Tok → Bool
  | .lit t :: _ => isStrText t
  | _ => false

/-- The tokens after the first one; a lifetime counts as one token. -/
def skip : List Tok → List Tok
  | .punct '\x27' true :: .ident _ _ :: r => r
  | _ :: r => r
  | [] => []

def skipN : Nat → List Tok → List Tok
  | 0, ts => ts
  | k + 1, ts => skipN k (skip ts)

end Peek

/-! ### The parser -/

/-- The tokens still to read, and the tokens written back so far. -/
structure Cursor where
  rest : List Tok
  out : Array Tok

/-- A parser over token trees; failures carry a message. -/
abbrev Parser := StateT Cursor (Except String)

namespace Parser

def ahead : Parser (List Tok) := do return (← get).rest

def peek (p : List Tok → Bool) : Parser Bool := do return p (← get).rest

def peekAt (k : Nat) (p : List Tok → Bool) : Parser Bool := do return p (Peek.skipN k (← get).rest)

def atEnd : Parser Bool := do return (← get).rest.isEmpty

/-- Fails with a message; at the end of the tokens the message says so. -/
def fail (msg : String) : Parser α := do
  if (← get).rest.isEmpty then throw ("unexpected end of input, " ++ msg) else throw msg

def emit (ts : List Tok) : Parser Unit :=
  modify fun c => { c with out := c.out ++ ts.toArray }

def pass : Parser Unit := do
  let c ← get
  match c.rest with
  | t :: r => set ({ rest := r, out := c.out.push t } : Cursor)
  | [] => fail "unexpected token"

/-- Reads the punctuation `s`, writing it back spaced as one token. -/
def op (s : String) : Parser Unit := do
  let c ← get
  if Peek.op s c.rest then
    set ({ rest := c.rest.drop s.length, out := c.out ++ (Tok.op s).toArray } : Cursor)
  else throw ("expected `" ++ s ++ "`")

def op? (s : String) : Parser Bool := do
  if ← peek (Peek.op s) then op s; return true else return false

def kw (k : String) : Parser Unit := do
  if ← peek (Peek.kw k) then pass else fail ("expected `" ++ k ++ "`")

def kw? (k : String) : Parser Bool := do
  if ← peek (Peek.kw k) then pass; return true else return false

def ident : Parser Tok := do
  match (← get).rest with
  | t@(.ident n raw) :: _ =>
    if raw || !keywords.contains n then pass; return t
    else fail ("expected identifier, found keyword `" ++ n ++ "`")
  | _ => fail "expected identifier"

def anyIdent : Parser Tok := do
  match (← get).rest with
  | t@(.ident _ _) :: _ => pass; return t
  | _ => fail "expected identifier"

def lifetime : Parser Unit := do
  if ← peek Peek.lifetime then pass; pass else fail "expected lifetime"

/-- Reads a literal, giving its text (with a leading `-` for a negative number). A
negative number is written back as a minus sign and the number. -/
def lit : Parser String := do
  match (← get).rest with
  | .lit t :: _ => pass; return t
  | .ident n false :: _ =>
    if n == "true" || n == "false" then pass; return n else fail "expected literal"
  | .punct '-' _ :: .lit t :: r =>
    if isNumberText t then
      modify fun c => { rest := r, out := c.out.push (.punct '-' false) |>.push (.lit t) }
      return "-" ++ t
    else fail "expected literal"
  | _ => fail "expected literal"

def groupMessage : Delim → String
  | .paren => "expected parentheses"
  | .bracket => "expected square brackets"
  | .brace => "expected curly braces"

/-- Reads a group of delimiter `d` and runs `p` on its contents, which must be read to the
end; the group is written back around what `p` wrote. -/
def inGroup (d : Delim) (p : Parser α) : Parser α := do
  let c ← get
  match c.rest with
  | .group d' inner :: rest =>
    if d' == d then
      match p.run ⟨inner, #[]⟩ with
      | .error e => throw e
      | .ok (a, c') =>
        if c'.rest.isEmpty then
          set ({ rest := rest, out := c.out.push (.group d c'.out.toList) } : Cursor)
          return a
        else throw "unexpected token"
    else fail (groupMessage d)
  | _ => fail (groupMessage d)

def rawGroup : Parser Delim := do
  match (← get).rest with
  | .group d _ :: _ => pass; return d
  | _ => fail "expected delimiter"

/-- Runs `p`; if it fails, nothing is read and the result is `none`. -/
def attempt (p : Parser α) : Parser (Option α) := do
  let c ← get
  match p.run c with
  | .ok (a, c') => set c'; return some a
  | .error _ => return none

/-- Runs `p`, giving also the tokens it wrote (which are written back as well). -/
def capture (p : Parser α) : Parser (α × List Tok) := do
  let c ← get
  set ({ c with out := #[] } : Cursor)
  let a ← p
  let c' ← get
  set ({ c' with out := c.out ++ c'.out } : Cursor)
  return (a, c'.out.toList)

/-- Runs `p` on the contents of a group's tokens from scratch, giving what it wrote. -/
def runOn (p : Parser α) (ts : List Tok) : Except String (α × List Tok) :=
  match p.run ⟨ts, #[]⟩ with
  | .ok (a, c) => if c.rest.isEmpty then .ok (a, c.out.toList) else .error "unexpected token"
  | .error e => .error e

end Parser

end TableBind.Derive
