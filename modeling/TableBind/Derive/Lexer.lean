import TableBind.Derive.Token
import TableBind.Text.Blank
import TableBind.Text.IdentChars
import TableBind.Text.Quoted

/-! Lexing item source into token trees. Blanks and plain comments are skipped; a doc
comment becomes a `#[doc = "..."]` attribute; literals are checked (escapes, raw-string
hashes, number forms) and kept as written. Every scanner takes the input and gives the rest,
so what it consumed is the prefix of the input the rest leaves over. -/

namespace TableBind.Derive.Lex

open TableBind.Text

def isPunctChar (c : Char) : Bool := "~!@#$%^&*-=+|;:,<.>/?\x27".toList.contains c

/-- Blank characters between tokens: Unicode white space and the two direction marks. -/
def isSpace (c : Char) : Bool := isBlank c || c = '\u200E' || c = '\u200F'

def starts (cs : List Char) (p : String) : Bool := p.toList.isPrefixOf cs

def hexVal (c : Char) : Option Nat :=
  if '0' ≤ c && c ≤ '9' then some (c.toNat - '0'.toNat)
  else if 'a' ≤ c && c ≤ 'f' then some (c.toNat - 'a'.toNat + 10)
  else if 'A' ≤ c && c ≤ 'F' then some (c.toNat - 'A'.toNat + 10)
  else none

def isHex (c : Char) : Bool := (hexVal c).isSome

def isDigit (c : Char) : Bool := '0' ≤ c && c ≤ '9'

def consumed (cs rest : List Char) : List Char := cs.take (cs.length - rest.length)

/-! ### Comments -/

def blockRest (depth : Nat) : List Char → Option (List Char)
  | '/' :: '*' :: rest => blockRest (depth + 1) rest
  | '*' :: '/' :: rest => if depth ≤ 1 then some rest else blockRest (depth - 1) rest
  | _ :: rest => blockRest depth rest
  | [] => none

def lineSplit : List Char → List Char × List Char
  | [] => ([], [])
  | '\n' :: r => ([], '\n' :: r)
  | '\r' :: '\n' :: r => ([], '\n' :: r)
  | c :: r => let p := lineSplit r; (c :: p.1, p.2)

/-- Skips blanks and comments that are not doc comments. An unclosed block comment stops
the skipping there (the lexer then fails on it). -/
def skipWs : Nat → List Char → List Char
  | 0, cs => cs
  | n + 1, cs =>
    match cs with
    | [] => []
    | c :: r =>
      if c = '/' then
        if starts cs "//" && (!starts cs "///" || starts cs "////") && !starts cs "//!" then
          skipWs n (lineSplit cs).2
        else if starts cs "/**/" then skipWs n (cs.drop 4)
        else if starts cs "/*" && (!starts cs "/**" || starts cs "/***") && !starts cs "/*!" then
          match blockRest 0 cs with
          | some rest => skipWs n rest
          | none => cs
        else cs
      else if isSpace c then skipWs n r
      else cs

def docContents (cs : List Char) : Option ((List Char × Bool) × List Char) :=
  let block (inner : Bool) : Option ((List Char × Bool) × List Char) :=
    (blockRest 0 cs).map fun rest =>
      let whole := consumed cs rest
      (((whole.drop 3).take (whole.length - 5), inner), rest)
  if starts cs "//!" then
    let p := lineSplit (cs.drop 3)
    some ((p.1, true), p.2)
  else if starts cs "/*!" then block true
  else if starts cs "///" then
    if starts (cs.drop 3) "/" then none
    else
      let p := lineSplit (cs.drop 3)
      some ((p.1, false), p.2)
  else if starts cs "/**" && !starts (cs.drop 3) "*" then block false
  else none

def noBareReturn : List Char → Bool
  | '\r' :: '\n' :: r => noBareReturn r
  | '\r' :: _ => false
  | _ :: r => noBareReturn r
  | [] => true

def docComment (cs : List Char) : Option (List Tok × List Char) := do
  let ((text, inner), rest) ← docContents cs
  if !noBareReturn text then none
  let attr := Tok.group .bracket
    [Tok.word "doc", .punct '=' false, .lit (quoteLiteral (String.ofList text))]
  some (.punct '#' false :: (if inner then [.punct '!' false] else []) ++ [attr], rest)

/-! ### Identifiers -/

def identPlain : List Char → Option (List Char × List Char)
  | c :: r =>
    if isIdentStart c then
      let t := r.takeWhile isIdentContinue
      some (c :: t, r.drop t.length)
    else none
  | [] => none

/-- An identifier, raw (`r#name`) or not. Raw identifiers may not be `_`, `super`, `self`,
`Self` or `crate`. -/
def identAny (cs : List Char) : Option (Tok × List Char) :=
  if starts cs "r#" then do
    let (name, rest) ← identPlain (cs.drop 2)
    let s := String.ofList name
    if ["_", "super", "self", "Self", "crate"].contains s then none
    some (.ident s true, rest)
  else do
    let (name, rest) ← identPlain cs
    some (.ident (String.ofList name) false, rest)

/-- An identifier token. Literal prefixes (`r"`, `b'`, `br#`, ...) do not start one. -/
def ident (cs : List Char) : Option (Tok × List Char) :=
  if ["r\"", "r#\"", "r##", "b\"", "b\x27", "br\"", "br#", "c\"", "cr\"", "cr#"].any (starts cs) then
    none
  else identAny cs

def suffix (cs : List Char) : List Char :=
  match identPlain cs with
  | some (_, rest) => rest
  | none => cs

/-! ### Escapes -/

/-- After `\u`: a braced code of one to six hex digits (`_` allowed after the first) naming
a character. Gives the rest after the brace and the code. -/
def unicodeDigits : List Char → Nat → Nat → Option (List Char × Nat)
  | [], _, _ => none
  | c :: r, value, len =>
    if c = '_' && len > 0 then unicodeDigits r value len
    else if c = '\x7d' && len > 0 then
      if value ≤ 0x10FFFF && !(0xD800 ≤ value && value ≤ 0xDFFF) then some (r, value) else none
    else match hexVal c with
      | some d => if len = 6 then none else unicodeDigits r (value * 16 + d) (len + 1)
      | none => none

def unicodeEscape : List Char → Option (List Char × Nat)
  | '\x7b' :: r => unicodeDigits r 0 0
  | _ => none

/-- Blanks after a backslash at a line end (`last` is the line-end character): skips blanks
and line ends, a `\r` only before `\n`; the input may not end there. -/
def afterBlanks : List Char → Option (List Char)
  | [] => none
  | c :: r =>
    if c = ' ' || c = '\t' || c = '\n' then afterBlanks r
    else if c = '\r' then
      match r with
      | '\n' :: r' => afterBlanks r'
      | _ => none
    else some (c :: r)

def lineContinuation (last : Char) (cs : List Char) : Option (List Char) :=
  if last = '\r' then
    match cs with
    | '\n' :: r => afterBlanks r
    | _ => none
  else afterBlanks cs

def isSimpleEscape (c : Char) : Bool := "nrt\\0\x27\"".toList.contains c

def strEscape : List Char → Option (List Char)
  | 'x' :: a :: b :: r => if '0' ≤ a && a ≤ '7' && isHex b then some r else none
  | 'u' :: r => (unicodeEscape r).map (·.1)
  | '\n' :: r => lineContinuation '\n' r
  | '\r' :: r => lineContinuation '\r' r
  | c :: r => if isSimpleEscape c then some r else none
  | [] => none

def byteEscape : List Char → Option (List Char)
  | 'x' :: a :: b :: r => if isHex a && isHex b then some r else none
  | '\n' :: r => lineContinuation '\n' r
  | '\r' :: r => lineContinuation '\r' r
  | c :: r => if isSimpleEscape c then some r else none
  | [] => none

/-- One escape of a C-string literal, after its backslash: no NUL, however written. -/
def cEscape : List Char → Option (List Char)
  | 'x' :: a :: b :: r => if isHex a && isHex b && !(a = '0' && b = '0') then some r else none
  | 'u' :: r => match unicodeEscape r with
    | some (r', v) => if v = 0 then none else some r'
    | none => none
  | '\n' :: r => lineContinuation '\n' r
  | '\r' :: r => lineContinuation '\r' r
  | c :: r => if c ≠ '0' && isSimpleEscape c then some r else none
  | [] => none

/-! ### Strings and characters -/

/-- The body of a quoted literal after its opening quote: `esc` reads one escape and `ok`
admits a plain character. Gives the rest after the closing quote and any suffix. -/
def quotedBody (esc : List Char → Option (List Char)) (ok : Char → Bool) :
    Nat → List Char → Option (List Char)
  | 0, _ => none
  | _, [] => none
  | n + 1, c :: r =>
    if c = '"' then some (suffix r)
    else if c = '\r' then
      match r with
      | '\n' :: r' => quotedBody esc ok n r'
      | _ => none
    else if c = '\\' then
      match esc r with
      | some r' => quotedBody esc ok n r'
      | none => none
    else if ok c then quotedBody esc ok n r
    else none

/-- The hashes opening a raw string, up to and past its quote (at most 255 hashes). -/
def rawOpening : Nat → List Char → Option (Nat × List Char)
  | n, '#' :: r => rawOpening (n + 1) r
  | n, '"' :: r => if n > 255 then none else some (n, r)
  | _, _ => none

def rawBody (hashes : Nat) (ok : Char → Bool) : List Char → Option (List Char)
  | [] => none
  | c :: r =>
    if c = '"' && (List.replicate hashes '#').isPrefixOf r then some (suffix (r.drop hashes))
    else if c = '\r' then
      match r with
      | '\n' :: r' => rawBody hashes ok r'
      | _ => none
    else if ok c then rawBody hashes ok r
    else none

def raw (ok : Char → Bool) (cs : List Char) : Option (List Char) := do
  let (n, r) ← rawOpening 0 cs
  rawBody n ok r

def string (cs : List Char) : Option (List Char) :=
  match cs with
  | '"' :: r => quotedBody strEscape (fun _ => true) (r.length + 1) r
  | 'r' :: r => raw (fun _ => true) r
  | _ => none

def byteString (cs : List Char) : Option (List Char) :=
  if starts cs "b\"" then quotedBody byteEscape (·.toNat < 128) cs.length (cs.drop 2)
  else if starts cs "br" then raw (·.toNat < 128) (cs.drop 2)
  else none

def cString (cs : List Char) : Option (List Char) :=
  if starts cs "c\"" then quotedBody cEscape (· ≠ '\x00') cs.length (cs.drop 2)
  else if starts cs "cr" then raw (· ≠ '\x00') (cs.drop 2)
  else none

def byteChar (cs : List Char) : Option (List Char) :=
  if !starts cs "b\x27" then none
  else
    let body := cs.drop 2
    let after : Option (List Char) :=
      match body with
      | '\\' :: 'x' :: a :: b :: r => if isHex a && isHex b then some r else none
      | '\\' :: c :: r => if isSimpleEscape c then some r else none
      | c :: r => if c.toNat < 128 then some r else none
      | [] => none
    match after with
    | some ('\x27' :: r) => some (suffix r)
    | _ => none

def charLit (cs : List Char) : Option (List Char) :=
  match cs with
  | '\x27' :: body =>
    let after : Option (List Char) :=
      match body with
      | '\\' :: 'x' :: a :: b :: r => if '0' ≤ a && a ≤ '7' && isHex b then some r else none
      | '\\' :: 'u' :: r => (unicodeEscape r).map (·.1)
      | '\\' :: c :: r => if isSimpleEscape c then some r else none
      | _ :: r => some r
      | [] => none
    match after with
    | some ('\x27' :: r) => some (suffix r)
    | _ => none
  | _ => none

/-! ### Numbers -/

def wordBreak (cs : List Char) : Option (List Char) :=
  match cs with
  | c :: _ => if isIdentContinue c then none else some cs
  | [] => some cs

def numberSuffix (cs : List Char) : Option (List Char) :=
  match cs with
  | c :: _ => if isIdentStart c then (identPlain cs).map (·.2) else some cs
  | [] => some cs

/-- The exponent digits of a float after `e`: `sign` and `value` say whether a sign and a
digit have been seen. `before` is the result when the exponent is malformed. -/
def expDigits (before : Option (List Char)) : Bool → Bool → List Char → Option (List Char)
  | sign, value, c :: r =>
    if c = '+' || c = '-' then
      if value then some (c :: r)
      else if sign then before
      else expDigits before true value r
    else if isDigit c then expDigits before sign true r
    else if c = '_' then expDigits before sign value r
    else if value then some (c :: r) else before
  | _, value, [] => if value then some [] else before

def floatTail (whole : List Char) : Bool → List Char → Option (List Char)
  | dot, c :: r =>
    if isDigit c || c = '_' then floatTail whole dot r
    else if c = '.' then
      if dot then some (c :: r)
      else
        match r with
        | d :: _ => if d = '.' || isIdentStart d then none else floatTail whole true r
        | [] => floatTail whole true r
    else if c = 'e' || c = 'E' then
      let before := if dot then some (c :: r) else none
      expDigits before false false r
    else if dot then some (c :: r) else none
  | dot, [] => if dot then some [] else none

def float (cs : List Char) : Option (List Char) :=
  match cs with
  | c :: r =>
    if isDigit c then do
      let rest ← floatTail cs false r
      let rest ← numberSuffix rest
      wordBreak rest
    else none
  | [] => none

def intDigits (base : Nat) : Bool → List Char → Option (List Char)
  | empty, c :: r =>
    if isDigit c then
      if c.toNat - '0'.toNat ≥ base then none else intDigits base false r
    else if isHex c then
      if base ≤ 10 then (if empty then none else some (c :: r)) else intDigits base false r
    else if c = '_' then
      if empty && base = 10 then none else intDigits base empty r
    else if empty then none else some (c :: r)
  | empty, [] => if empty then none else some []

def int (cs : List Char) : Option (List Char) := do
  let rest ←
    if starts cs "0x" then intDigits 16 true (cs.drop 2)
    else if starts cs "0o" then intDigits 8 true (cs.drop 2)
    else if starts cs "0b" then intDigits 2 true (cs.drop 2)
    else intDigits 10 true cs
  let rest ← numberSuffix rest
  wordBreak rest

/-- Any literal, tried in order: strings, byte strings, C strings, bytes, characters,
floats, integers. -/
def literal (cs : List Char) : Option (Tok × List Char) :=
  let rest := (string cs).orElse fun _ => (byteString cs).orElse fun _ =>
    (cString cs).orElse fun _ => (byteChar cs).orElse fun _ => (charLit cs).orElse fun _ =>
    (float cs).orElse fun _ => int cs
  rest.map fun r => (.lit (String.ofList (consumed cs r)), r)

/-! ### Punctuation and the token stream -/

def punctChar (cs : List Char) : Option (Char × List Char) :=
  if starts cs "//" || starts cs "/*" then none
  else
    match cs with
    | c :: r => if isPunctChar c then some (c, r) else none
    | [] => none

/-- A punctuation token, joint when punctuation follows. A quote must start a lifetime: an
identifier not followed by a quote (nor by `#` unless it was raw). -/
def punct (cs : List Char) : Option (Tok × List Char) := do
  let (c, r) ← punctChar cs
  if c = '\x27' then
    let (_, after) ← identAny r
    if starts after "\x27" || (starts after "#" && !starts r "r#") then none
    some (.punct c true, r)
  else
    some (.punct c (punctChar r).isSome, r)

def leaf (cs : List Char) : Option (Tok × List Char) :=
  (literal cs).orElse fun _ => (punct cs).orElse fun _ => ident cs

def opener : Char → Option Delim
  | '(' => some .paren
  | '[' => some .bracket
  | '\x7b' => some .brace
  | _ => none

def closer : Char → Option Delim
  | ')' => some .paren
  | ']' => some .bracket
  | '\x7d' => some .brace
  | _ => none

/-- The tokens up to the end of input (`close = none`) or up to the closing delimiter
`close`, and the rest after it. Delimiters must match. -/
def stream : Nat → Option Delim → List Char → Option (List Tok × List Char)
  | 0, _, _ => none
  | n + 1, close, input =>
    let cs := skipWs (input.length + 1) input
    match docComment cs with
    | some (ts, rest) => (stream n close rest).map fun p => (ts ++ p.1, p.2)
    | none =>
      match cs with
      | [] => if close.isNone then some ([], []) else none
      | c :: r =>
        match opener c with
        | some d => do
          let (inner, r') ← stream n (some d) r
          let (more, r'') ← stream n close r'
          some (.group d inner :: more, r'')
        | none =>
          match closer c with
          | some d => if close = some d then some ([], r) else none
          | none => do
            let (t, r') ← leaf cs
            let (more, r'') ← stream n close r'
            some (t :: more, r'')

/-- Lexes source text into token trees; `none` on a lexical error. A leading byte-order
mark is dropped. -/
def tokenize (src : String) : Option (List Tok) :=
  let cs := match src.toList with
    | '\uFEFF' :: r => r
    | l => l
  (stream (cs.length + 2) none cs).map (·.1)

end TableBind.Derive.Lex
