import TableBind.Format.View

/-! A strict JSON reader. It accepts exactly the JSON grammar: no trailing commas, no leading
zeros, no raw control characters in strings, nothing but blanks after the value, and at
most 127 nested arrays and objects. A string whose escapes leave a surrogate unpaired is
read, but has no text: it may be skipped, not used. Object keys must have a text. -/

namespace TableBind

/-- A JSON value. Numbers keep their text; a string is `none` when it cannot be a text. -/
inductive JsonValue where
  | null
  | bool (b : Bool)
  | number (text : String)
  | str (s : Option String)
  | arr (items : List JsonValue)
  | obj (fields : List (String × JsonValue))
  deriving Repr, Inhabited

namespace JsonValue

def isBlank (c : Char) : Bool := c = ' ' || c = '\t' || c = '\n' || c = '\r'

def skip (cs : List Char) : List Char := cs.dropWhile isBlank

def hexValue (c : Char) : Option Nat :=
  if '0' ≤ c ∧ c ≤ '9' then some (c.toNat - '0'.toNat)
  else if 'a' ≤ c ∧ c ≤ 'f' then some (c.toNat - 'a'.toNat + 10)
  else if 'A' ≤ c ∧ c ≤ 'F' then some (c.toNat - 'A'.toNat + 10)
  else none

def hex4 : List Char → Option (Nat × List Char)
  | a :: b :: c :: d :: rest => do
    pure ((((← hexValue a) * 16 + (← hexValue b)) * 16 + (← hexValue c)) * 16 + (← hexValue d), rest)
  | _ => none

def simpleEscape : Char → Option Char
  | '"' => some '"'
  | '\\' => some '\\'
  | '/' => some '/'
  | 'b' => some '\x08'
  | 'f' => some '\x0c'
  | 'n' => some '\n'
  | 'r' => some '\r'
  | 't' => some '\t'
  | _ => none

/-- Reads a string body after its opening quote. `acc` holds the characters read so far,
reversed, and `whole` whether every escape was a character. -/
def stringBody : Nat → List Char → Bool → List Char → Option (Option String × List Char)
  | 0, _, _, _ => none
  | _ + 1, _, _, [] => none
  | _ + 1, acc, whole, '"' :: rest => some (if whole then some (String.ofList acc.reverse) else none, rest)
  | n + 1, acc, whole, '\\' :: 'u' :: rest => do
    let (hi, rest) ← hex4 rest
    if 0xD800 ≤ hi ∧ hi < 0xDC00 then
      match rest with
      | '\\' :: 'u' :: rest' =>
        let (lo, rest'') ← hex4 rest'
        if 0xDC00 ≤ lo ∧ lo < 0xE000 then
          stringBody n (Char.ofNat (0x10000 + (hi - 0xD800) * 0x400 + (lo - 0xDC00)) :: acc) whole rest''
        else stringBody n acc false rest''
      | _ => stringBody n acc false rest
    else if 0xDC00 ≤ hi ∧ hi < 0xE000 then stringBody n acc false rest
    else stringBody n (Char.ofNat hi :: acc) whole rest
  | n + 1, acc, whole, '\\' :: e :: rest => do
    let c ← simpleEscape e
    stringBody n (c :: acc) whole rest
  | n + 1, acc, whole, c :: rest => if c.toNat < 0x20 then none else stringBody n (c :: acc) whole rest

def isDigit (c : Char) : Bool := '0' ≤ c && c ≤ '9'

def digits1 (cs : List Char) : Option (List Char × List Char) :=
  let ds := cs.takeWhile isDigit
  if ds.isEmpty then none else some (ds, cs.dropWhile isDigit)

/-- Reads a number: an optional minus, an integer part without leading zeros, an optional
fraction and an optional exponent. -/
def readNumber (cs : List Char) : Option (String × List Char) := do
  let (sign, cs1) := match cs with
    | '-' :: r => (['-'], r)
    | r => ([], r)
  let (intPart, cs2) ← match cs1 with
    | '0' :: r => some (['0'], r)
    | r => if (r.head?.map fun c => '1' ≤ c && c ≤ '9').getD false then digits1 r else none
  let (frac, cs3) ← match cs2 with
    | '.' :: r => (digits1 r).map fun (ds, r') => ('.' :: ds, r')
    | r => some ([], r)
  let (ex, cs4) ← match cs3 with
    | e :: r =>
      if e = 'e' ∨ e = 'E' then
        let (sg, r1) := match r with
          | '+' :: r' => (['+'], r')
          | '-' :: r' => (['-'], r')
          | r' => ([], r')
        (digits1 r1).map fun (ds, r') => (e :: sg ++ ds, r')
      else some ([], e :: r)
    | [] => some ([], [])
  pure (String.ofList (sign ++ intPart ++ frac ++ ex), cs4)

mutual
/-- Reads a value after blanks, with `n` steps of fuel and room for `depth` more nested
arrays and objects. -/
def value : Nat → Nat → List Char → Option (JsonValue × List Char)
  | 0, _, _ => none
  | n + 1, depth, cs =>
    match skip cs with
    | 'n' :: 'u' :: 'l' :: 'l' :: rest => some (.null, rest)
    | 't' :: 'r' :: 'u' :: 'e' :: rest => some (.bool true, rest)
    | 'f' :: 'a' :: 'l' :: 's' :: 'e' :: rest => some (.bool false, rest)
    | '"' :: rest => (stringBody n [] true rest).map fun (s, r) => (.str s, r)
    | '[' :: rest =>
      if depth ≤ 1 then none
      else
        match skip rest with
        | ']' :: r => some (.arr [], r)
        | _ => (items n (depth - 1) [] rest).map fun (xs, r) => (.arr xs, r)
    | '{' :: rest =>
      if depth ≤ 1 then none
      else
        match skip rest with
        | '}' :: r => some (.obj [], r)
        | _ => (members n (depth - 1) [] rest).map fun (fs, r) => (.obj fs, r)
    | cs' => (readNumber cs').map fun (t, r) => (.number t, r)
def items : Nat → Nat → List JsonValue → List Char → Option (List JsonValue × List Char)
  | 0, _, _, _ => none
  | n + 1, depth, acc, cs => do
    let (v, rest) ← value n depth cs
    match skip rest with
    | ',' :: r => items n depth (v :: acc) r
    | ']' :: r => some ((v :: acc).reverse, r)
    | _ => none
def members : Nat → Nat → List (String × JsonValue) → List Char →
    Option (List (String × JsonValue) × List Char)
  | 0, _, _, _ => none
  | n + 1, depth, acc, cs =>
    match skip cs with
    | '"' :: rest => do
      let (key, rest) ← stringBody n [] true rest
      let key ← key
      match skip rest with
      | ':' :: r => do
        let (v, rest) ← value n depth r
        match skip rest with
        | ',' :: r' => members n depth ((key, v) :: acc) r'
        | '}' :: r' => some (((key, v) :: acc).reverse, r')
        | _ => none
      | _ => none
    | _ => none
end

def parse? (s : String) : Option JsonValue :=
  let cs := s.toList
  match value (2 * cs.length + 2) 128 cs with
  | some (v, rest) => if (skip rest).isEmpty then some v else none
  | none => none

/-- JSON read as a document: strings with a text are texts (also when read as values first),
objects have members and arrays have items. -/
def view : DataView JsonValue where
  text? := fun
    | .str s => s
    | _ => none
  fields? := fun
    | .obj fs => some fs
    | _ => none
  items? := fun
    | .arr xs => some xs
    | _ => none
  content? := fun
    | .str s => s
    | _ => none

end JsonValue

end TableBind
