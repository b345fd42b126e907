/-! Token trees of item source: identifiers, punctuation with its spacing, literals kept as
written, and delimited groups; with the one-line text form they print as. -/

namespace TableBind.Derive

inductive Delim where
  | paren
  | bracket
  | brace
  deriving DecidableEq, Repr

/-- A token tree. Punctuation is one character; `joint` says the next token is punctuation
glued to it (as the two halves of `::`). A literal keeps the text it was written as. -/
inductive Tok where
  | ident (name : String) (raw : Bool)
  | punct (c : Char) (joint : Bool)
  | lit (text : String)
  | group (d : Delim) (inner : List Tok)
  deriving Repr, Inhabited

/-- The opening text of a delimiter. Braces pad their contents with a space. -/
def Delim.opening : Delim → String
  | .paren => "("
  | .bracket => "["
  | .brace => "\x7b "

def Delim.closing : Delim → String
  | .paren => ")"
  | .bracket => "]"
  | .brace => "\x7d"

namespace Tok

def word (s : String) : Tok := ident s false

/-- Punctuation written as one token: every character but the last is joint. -/
def puncts : List Char → List Tok
  | [] => []
  | [c] => [punct c false]
  | c :: cs => punct c true :: puncts cs

def op (s : String) : List Tok := puncts s.toList

def isJoint : Tok → Bool
  | punct _ j => j
  | _ => false

mutual

def render : Tok → String
  | ident n raw => (if raw then "r#" else "") ++ n
  | punct c _ => String.singleton c
  | lit t => t
  | group d inner =>
    d.opening ++ renderSeq true false inner ++
      (if d = .brace && !inner.isEmpty then " " else "") ++ d.closing

/-- The text of a token sequence: one space between tokens, none after a joint
punctuation character. `first` marks the start, `glued` that the last token was joint. -/
def renderSeq (first glued : Bool) : List Tok → String
  | [] => ""
  | t :: ts =>
    (if first || glued then "" else " ") ++ render t ++ renderSeq false t.isJoint ts

end

end Tok

def renderTokens (ts : List Tok) : String := Tok.renderSeq true false ts

end TableBind.Derive
