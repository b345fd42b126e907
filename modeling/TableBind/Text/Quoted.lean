import TableBind.Text.GraphemeExtend
import TableBind.Text.Printable

/-! Quoted text: between double quotes, with tab, line breaks, backslash, double quote and NUL
in backslash form, and characters that extend a grapheme or are unprintable as `\u` escapes of
their code points. -/

namespace TableBind.Text

def hexDigits (n : Nat) : List Char := Nat.toDigits 16 n

/-- The escaped form of one character other than NUL. -/
def escapeChar (c : Char) : List Char :=
  if c = '\t' then ['\\', 't']
  else if c = '\r' then ['\\', 'r']
  else if c = '\n' then ['\\', 'n']
  else if c = '\\' then ['\\', '\\']
  else if c = '"' then ['\\', '"']
  else if c = '\x00' then ['\\', '0']
  else if isGraphemeExtend c || !isPrintable c then
    ['\\', 'u', '\x7b'] ++ hexDigits c.toNat ++ ['\x7d']
  else [c]

def escapeAll (cs : List Char) : List Char := cs.flatMap escapeChar

def isOctalDigit (c : Char) : Bool := '0' ≤ c && c ≤ '7'

/-- Escapes every character; NUL is written `\0`, or `\x00` when an octal digit follows,
so that the escape cannot run into the digit. -/
def escapeLiteral : List Char → List Char
  | [] => []
  | c :: rest =>
    if c = '\x00' then
      (if (rest.head?.map isOctalDigit).getD false then ['\\', 'x', '0', '0'] else ['\\', '0'])
        ++ escapeLiteral rest
    else escapeChar c ++ escapeLiteral rest

def quote (s : String) : String := String.ofList ('"' :: escapeAll s.toList ++ ['"'])

def quoteLiteral (s : String) : String := String.ofList ('"' :: escapeLiteral s.toList ++ ['"'])

/-- A list of texts, each quoted, between brackets and separated by a comma and a space. -/
def quoteList (xs : List String) : String := "[" ++ ", ".intercalate (xs.map quote) ++ "]"

end TableBind.Text
