/-! Plain scalars that spell values: a null, a boolean, an integer in the range of 128-bit
integers with no redundant leading zero, or a finite float. Any other plain scalar is a text. -/

namespace TableBind.Yaml

/-- The empty plain scalar, or one of the spellings `~`, `null`, `Null`, `NULL`. -/
def spellsNull (s : String) : Bool := s.isEmpty || ["~", "null", "Null", "NULL"].contains s

def spellsBool (s : String) : Bool :=
  ["true", "True", "TRUE", "false", "False", "FALSE"].contains s

def digitIn (radix : Nat) (c : Char) : Option Nat :=
  let d := if '0' ≤ c && c ≤ '9' then c.toNat - '0'.toNat
    else if 'a' ≤ c && c ≤ 'z' then c.toNat - 'a'.toNat + 10
    else if 'A' ≤ c && c ≤ 'Z' then c.toNat - 'A'.toNat + 10
    else 36
  if d < radix then some d else none

def radixValue (radix : Nat) (cs : List Char) : Option Nat :=
  if cs.isEmpty then none
  else cs.foldlM (fun v c => do pure (v * radix + (← digitIn radix c))) 0

/-- An integer in the given radix with an optional sign, as a fixed-width integer parse reads
it. -/
def signedValue (radix : Nat) : List Char → Option Int
  | '-' :: ds => (radixValue radix ds).map fun v => -(v : Int)
  | '+' :: ds => (radixValue radix ds).map Int.ofNat
  | ds => (radixValue radix ds).map Int.ofNat

/-- A leading zero followed only by digits (after an optional sign): a text, not a number. -/
def digitsButNotNumber (s : List Char) : Bool :=
  let t := match s with
    | '-' :: r => r
    | '+' :: r => r
    | r => r
  t.length > 1 && t.head? == some '0' && (t.drop 1).all Char.isDigit

def radixPrefixes : List (String × Nat) := [("0x", 16), ("0o", 8), ("0b", 2)]

/-- An unsigned integer below `2 ^ 128`: an optional `+`, then `0x`, `0o` or `0b` digits, or
decimal digits that do not start with a redundant zero. -/
def spellsUnsigned (s : List Char) : Bool :=
  let u := match s with
    | '+' :: r => r
    | r => r
  let fits (v : Nat) : Bool := v < Nat.pow 2 128
  let radixed := radixPrefixes.findSome? fun (p, b) =>
    if p.toList.isPrefixOf u then
      let r := u.drop 2
      if r.head? == some '+' || r.head? == some '-' then some false
      else if ((signedValue b r).map fun v => v ≥ 0 && fits v.toNat).getD false then some true
      else none
    else none
  match radixed with
  | some b => b
  | none =>
    !(u.head? == some '+' || u.head? == some '-') && !digitsButNotNumber s &&
      ((radixValue 10 u).map fits).getD false

/-- A negative integer of at least `-2 ^ 127`: `-0x`, `-0o` or `-0b` digits, or a signed
decimal that does not start with a redundant zero. -/
def spellsNegative (s : List Char) : Bool :=
  let fits (v : Int) : Bool := -((Nat.pow 2 127 : Nat) : Int) ≤ v && v < ((Nat.pow 2 127 : Nat) : Int)
  let radixed := radixPrefixes.any fun (p, b) =>
    ('-' :: p.toList).isPrefixOf s && ((signedValue b ('-' :: s.drop 3)).map fits).getD false
  radixed || (!digitsButNotNumber s && ((signedValue 10 s).map fits).getD false)

/-- The largest finite double rounded up: `2 ^ 1024 - 2 ^ 970`, from which decimals round to
infinity. -/
def overflowBound : Nat := Nat.pow 2 1024 - Nat.pow 2 970

/-- Whether `m * 10 ^ e` (with `m` of `digits` significant digits) is below the overflow
bound. Values under `10 ^ 308` are; values of at least `10 ^ 309` are not; the decade in
between is compared exactly. -/
def finiteDecimal (m : Nat) (digits : Nat) (e : Int) : Bool :=
  if m == 0 then true
  else if (digits : Int) + e ≤ 308 then true
  else if (digits : Int) - 1 + e ≥ 309 then false
  else if e ≥ 0 then m * Nat.pow 10 e.toNat < overflowBound
  else m < overflowBound * Nat.pow 10 (-e).toNat

def spellsFiniteDecimal (s : List Char) : Bool :=
  let body := match s with
    | '-' :: r => r
    | '+' :: r => r
    | r => r
  let whole := body.takeWhile Char.isDigit
  let afterWhole := body.drop whole.length
  let (frac, afterFrac) := match afterWhole with
    | '.' :: r => (r.takeWhile Char.isDigit, r.drop (r.takeWhile Char.isDigit).length)
    | r => ([], r)
  let expo : Option Int := match afterFrac with
    | [] => some 0
    | c :: r => if c = 'e' || c = 'E' then signedValue 10 r else none
  match expo with
  | none => false
  | some e =>
    if whole.isEmpty && frac.isEmpty then false
    else
      let ds := (whole ++ frac).dropWhile (· = '0')
      let m := (radixValue 10 ds).getD 0
      finiteDecimal m ds.length (e - frac.length)

def spellsFloat (s : List Char) : Bool :=
  let u := match s with
    | '+' :: r => r
    | r => r
  if s.head? == some '+' && (u.head? == some '+' || u.head? == some '-') then false
  else
    [".inf", ".Inf", ".INF"].contains (String.ofList u) ||
    ["-.inf", "-.Inf", "-.INF", ".nan", ".NaN", ".NAN"].contains (String.ofList s) ||
    spellsFiniteDecimal u

/-- Whether a plain scalar reads as a null, boolean, integer or float rather than a text. -/
def spellsValue (s : String) : Bool :=
  let cs := s.toList
  spellsNull s || spellsBool s || spellsUnsigned cs || spellsNegative cs ||
    (!digitsButNotNumber cs && spellsFloat cs)

end TableBind.Yaml
