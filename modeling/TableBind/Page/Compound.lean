import TableBind.Page.Element
import TableBind.Text.Utf8

/-! Compound CSS selectors: an optional tag, then classes (`.name`), an id (`#name`) and
attribute tests (`[name]`, `[name=value]`). They are read by characters (`parseChars`), and by
byte offsets (`parseUtf8`), which can slice inside a character. -/

namespace TableBind

/-- A compound selector. An attribute test with no value asks only that the attribute is
present. -/
structure Compound where
  tag : Option String := none
  id : Option String := none
  classes : List String := []
  attrs : List (String × Option String) := []
  deriving DecidableEq, Repr

namespace Compound

def isMarker (c : Char) : Bool := c = '.' || c = '#' || c = '['

def isQuote (c : Char) : Bool := c = '"' || c = '\''

def stripQuotes (cs : List Char) : List Char :=
  ((cs.dropWhile isQuote).reverse.dropWhile isQuote).reverse

/-- Reads the inside of an attribute test: a name, and a value after the first `=`. -/
def attrTest (inner : List Char) : String × Option String :=
  match inner.span (· != '=') with
  | (name, _ :: value) =>
    (String.ofList (Text.trimChars name), some (String.ofList (stripQuotes (Text.trimChars value))))
  | (_, []) => (String.ofList (Text.trimChars inner), none)

/-- Reads the parts after the tag, adding them to `c`. -/
def parseParts (c : Compound) : List Char → Compound
  | [] => c
  | m :: body =>
    if m = '[' then
      let inner := body.takeWhile (· != ']')
      parseParts { c with attrs := c.attrs ++ [attrTest inner] } ((body.dropWhile (· != ']')).drop 1)
    else
      let name := String.ofList (body.takeWhile (!isMarker ·))
      let c' := if m = '.' then { c with classes := c.classes ++ [name] } else { c with id := some name }
      parseParts c' (body.dropWhile (!isMarker ·))
termination_by rest => rest.length
decreasing_by
  all_goals simp only [List.length_cons]
  · have := (List.dropWhile_suffix (p := (· != ']')) (l := body)).length_le
    simp only [List.length_drop]; omega
  · have := (List.dropWhile_suffix (p := (!isMarker ·)) (l := body)).length_le
    omega

def parseChars (cs : List Char) : Compound :=
  let tag := cs.takeWhile (!isMarker ·)
  parseParts { tag := if tag = [] ∨ tag = ['*'] then none else some (String.ofList tag) }
    (cs.dropWhile (!isMarker ·))

def parse (s : String) : Compound := parseChars s.toList

/-- Reads the parts after the tag the way the byte-offset scanner does: every slice is taken
at a byte offset and fails when the offset falls inside a character. After an attribute test
the next part is taken to start one byte into whatever character follows the `]`. -/
def partsUtf8 (c : Compound) (rest : List Char) : Except Text.SliceFault Compound :=
  match rest with
  | [] => .ok c
  | m :: tail =>
    if m = '[' then
      let close := Text.findByteOrEnd (· == ']') (m :: tail)
      match Text.sliceRange (m :: tail) 1 close with
      | .error f => .error f
      | .ok inner =>
        let c' := { c with attrs := c.attrs ++ [attrTest inner] }
        -- what follows the `]`, or nothing when there is no `]`
        match _hp : Text.splitAtByte (m :: tail) (close + 1) with
        | some p => partsUtf8 c' p.2
        | none => partsUtf8 c' []
    else
      -- the part's name starts one byte in
      match _hp : Text.splitAtByte (m :: tail) 1 with
      | none => .error ⟨m :: tail, 1⟩
      | some p =>
        let stop := Text.findByteOrEnd isMarker p.2
        match Text.sliceTo p.2 stop with
        | .error f => .error f
        | .ok name =>
          let c' := if m = '.' then { c with classes := c.classes ++ [String.ofList name] }
            else { c with id := some (String.ofList name) }
          match _hq : Text.splitAtByte p.2 stop with
          | none => .error ⟨p.2, stop⟩
          | some q => partsUtf8 c' q.2
termination_by rest.length
decreasing_by
  · exact Text.splitAtByte_length_lt _hp
  · simp
  · exact Nat.lt_of_le_of_lt (Text.splitAtByte_length_le _hq) (Text.splitAtByte_length_lt _hp)

/-- Reads a compound selector the way the byte-offset scanner does, or gives the slice that
falls inside a character. -/
def parseUtf8 (cs : List Char) : Except Text.SliceFault Compound :=
  let stop := Text.findByteOrEnd isMarker cs
  match Text.splitAtByte cs stop with
  | none => .error ⟨cs, stop⟩
  | some (tag, rest) =>
    partsUtf8 { tag := if tag = [] ∨ tag = ['*'] then none else some (String.ofList tag) } rest

/-- Writes a compound selector: the tag, each class after a `.`, the id after a `#`, then
each attribute test in brackets. -/
def render (c : Compound) : String :=
  c.tag.getD "" ++ String.join (c.classes.map ("." ++ ·)) ++ (c.id.map ("#" ++ ·)).getD "" ++
    String.join (c.attrs.map fun a => "[" ++ a.1 ++ (a.2.map ("=" ++ ·)).getD "" ++ "]")

def asciiLower (c : Char) : Char := if 'A' ≤ c ∧ c ≤ 'Z' then Char.ofNat (c.toNat + 32) else c

def sameIgnoringAsciiCase (a b : String) : Bool :=
  a.toList.map asciiLower == b.toList.map asciiLower

def passes (e : Element) (test : String × Option String) : Bool :=
  match test.2 with
  | some v => e.attrValue test.1 == some v
  | none => (e.attrValue test.1).isSome

/-- Whether an element matches: the tag up to ASCII case, the id, every class and every
attribute test. -/
def selects (c : Compound) (e : Element) : Bool :=
  (c.tag.all fun t => sameIgnoringAsciiCase e.tag t) &&
    (c.id.all fun i => e.id == some i) &&
    c.classes.all (· ∈ e.classes) &&
    c.attrs.all (passes e)

end Compound

end TableBind
