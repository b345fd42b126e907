/-! The YAML scanner: source text to tokens. Indentation opens and closes block collections, and
a simple key's `key` token is put in front of it once its `:` is seen. Tabs may separate tokens
but never indent. -/

namespace TableBind.Yaml

/-- A YAML token. A scalar keeps its text and whether it was plain (unquoted); a tag keeps
its handle (empty for a verbatim tag) and suffix. -/
inductive Token where
  | streamStart
  | streamEnd
  | versionDirective (major minor : Nat)
  | tagDirective (handle pfx : String)
  | docStart
  | docEnd
  | blockSeqStart
  | blockMapStart
  | blockEnd
  | flowSeqStart
  | flowSeqEnd
  | flowMapStart
  | flowMapEnd
  | blockEntry
  | flowEntry
  | key
  | value
  | aliasTo (name : String)
  | anchor (name : String)
  | tag (handle suffix : String)
  | scalar (text : String) (plain : Bool)
  deriving Repr, BEq, Inhabited

def isBreak (c : Char) : Bool :=
  c = '\r' || c = '\n' || c = '\u0085' || c = '\u2028' || c = '\u2029'

def isBlank (c : Char) : Bool := c = ' ' || c = '\t'

def blankz : List Char → Bool
  | [] => true
  | c :: _ => isBlank c || isBreak c

def blankAt : List Char → Bool
  | c :: _ => isBlank c
  | [] => false

def isWordChar (c : Char) : Bool := c.isAlphanum || c = '_' || c = '-'

def startsWith (cs : List Char) (p : String) : Bool := p.toList.isPrefixOf cs

/-- A place where a simple key may have started: the token number its `key` token goes
to, and its position. It is `required` when it stands at the block indentation. -/
structure SimpleKey where
  possible : Bool
  required : Bool
  number : Nat
  line : Nat
  col : Nat
  index : Nat
  deriving Inhabited

def SimpleKey.none : SimpleKey := ⟨false, false, 0, 0, 0, 0⟩

/-- The scanner state: the input left with its position, the tokens so far, the flow
nesting, the block indentation levels, whether a simple key may start here, and the simple
key candidate of each flow level (innermost first). -/
structure Scanner where
  rest : List Char
  line : Nat
  col : Nat
  index : Nat
  tokens : Array Token
  flow : Nat
  indent : Int
  indents : List Int
  allowed : Bool
  keys : List SimpleKey

abbrev ScanM := StateT Scanner (Except String)

namespace Scan

def rest : ScanM (List Char) := do return (← get).rest

def skip : ScanM Unit := modify fun s =>
  match s.rest with
  | _ :: r => { s with rest := r, col := s.col + 1, index := s.index + 1 }
  | [] => s

def skipWhile (p : Char → Bool) : ScanM Unit := modify fun s =>
  let k := (s.rest.takeWhile p).length
  { s with rest := s.rest.drop k, col := s.col + k, index := s.index + k }

/-- Moves past a line break (`\r\n` is one), giving it normalised: `\n`, or a line or
paragraph separator as it is. -/
def skipLine : ScanM String := do
  let s ← get
  match s.rest with
  | '\r' :: '\n' :: r =>
    set { s with rest := r, line := s.line + 1, col := 0, index := s.index + 2 }
    return "\n"
  | c :: r =>
    if isBreak c then
      set { s with rest := r, line := s.line + 1, col := 0, index := s.index + 1 }
      return (if c = '\u2028' || c = '\u2029' then String.singleton c else "\n")
    else return ""
  | [] => return ""

def push (t : Token) : ScanM Unit := modify fun s => { s with tokens := s.tokens.push t }

def insertAt (i : Nat) (t : Token) : ScanM Unit := modify fun s =>
  { s with tokens := (s.tokens.toList.take i ++ t :: s.tokens.toList.drop i).toArray }

def allow (b : Bool) : ScanM Unit := modify fun s => { s with allowed := b }

/-- Skips blanks (tabs only where they cannot indent), comments and line breaks up to the
next token; in block context a line break allows a simple key. -/
def toNextToken : Nat → ScanM Unit
  | 0 => pure ()
  | n + 1 => do
    let s ← get
    if s.col == 0 && s.rest.head? == some '\uFEFF' then skip
    let tabs := s.flow > 0 || !s.allowed
    skipWhile fun c => c = ' ' || (tabs && c = '\t')
    if (← rest).head? == some '#' then skipWhile fun c => !isBreak c
    match ← rest with
    | c :: _ =>
      if isBreak c then
        let _ ← skipLine
        if (← get).flow == 0 then allow true
        toNextToken n
    | [] => pure ()

/-- Drops simple key candidates that can no longer be keys (not on this line, or more than
1024 characters back); a required one is an error. -/
def staleKeys : ScanM Unit := do
  let s ← get
  let keys ← s.keys.mapM fun k =>
    if k.possible && (k.line < s.line || k.index + 1024 < s.index) then
      if k.required then throw "could not find expected ':'" else pure { k with possible := false }
    else pure k
  set { s with keys := keys }

def removeKey : ScanM Unit := do
  let s ← get
  match s.keys with
  | k :: more =>
    if k.possible && k.required then throw "could not find expected ':'"
    set { s with keys := { k with possible := false } :: more }
  | [] => pure ()

def saveKey : ScanM Unit := do
  let s ← get
  if s.allowed then
    removeKey
    let s ← get
    let k : SimpleKey :=
      ⟨true, s.flow == 0 && s.indent == (s.col : Int), s.tokens.size, s.line, s.col, s.index⟩
    set { s with keys := k :: s.keys.tail }

def closeLevels (col : Int) : Int → List Int → Array Token → Int × List Int × Array Token
  | ind, i :: is, toks =>
    if ind > col then closeLevels col i is (toks.push .blockEnd) else (ind, i :: is, toks)
  | ind, [], toks => (ind, [], toks)

def unrollIndent (col : Int) : ScanM Unit := do
  let s ← get
  if s.flow == 0 then
    let (ind, inds, toks) := closeLevels col s.indent s.indents s.tokens
    set { s with indent := ind, indents := inds, tokens := toks }

/-- In block context, opens a level at `col` if it is deeper, with the token `t` appended or
put at position `at?`. -/
def rollIndent (col : Int) (at? : Option Nat) (t : Token) : ScanM Unit := do
  let s ← get
  if s.flow == 0 && s.indent < col then
    set { s with indents := s.indent :: s.indents, indent := col }
    match at? with
    | none => push t
    | some i => insertAt i t

/-! ### Scalars -/

/-- Folds the line breaks between two parts of a flow or plain scalar: a single `\n` becomes
a space; further breaks are kept. -/
def fold (leading trailing : String) : String :=
  if leading == "\n" then (if trailing.isEmpty then " " else trailing) else leading ++ trailing

/-- The blanks and breaks between parts of a scalar: the blanks before the first break, the
first break, the later breaks, and whether a break was seen. -/
structure Gap where
  spaces : String := ""
  leading : String := ""
  trailing : String := ""
  broken : Bool := false

def Gap.text (g : Gap) : String := if g.broken then fold g.leading g.trailing else g.spaces

/-- Reads blanks and line breaks into a gap. In a plain scalar (`indent` given) a tab may
not start a continuation line left of the indentation. -/
def readGap (indent : Option Int) : Nat → Gap → ScanM Gap
  | 0, g => pure g
  | n + 1, g => do
    let s ← get
    match s.rest with
    | c :: _ =>
      if isBlank c then
        if g.broken && c = '\t' && (indent.map fun i => decide ((s.col : Int) < i)).getD false then
          throw "found a tab character that violates indentation"
        skip
        readGap indent n (if g.broken then g else { g with spaces := g.spaces.push c })
      else if isBreak c then
        let b ← skipLine
        readGap indent n (if g.broken then { g with trailing := g.trailing ++ b }
          else { g with spaces := "", leading := b, broken := true })
      else pure g
    | [] => pure g

def hexVal (c : Char) : Option Nat :=
  if '0' ≤ c && c ≤ '9' then some (c.toNat - '0'.toNat)
  else if 'a' ≤ c && c ≤ 'f' then some (c.toNat - 'a'.toNat + 10)
  else if 'A' ≤ c && c ≤ 'F' then some (c.toNat - 'A'.toNat + 10)
  else none

def hexDigits : Nat → List Char → Option Nat
  | 0, _ => some 0
  | k + 1, c :: r => do
    let d ← hexVal c
    let v ← hexDigits k r
    pure (d * Nat.pow 16 k + v)
  | _ + 1, [] => none

def escapeChar : Char → Option Char
  | '0' => some '\x00'
  | 'a' => some '\x07'
  | 'b' => some '\x08'
  | 't' => some '\t'
  | '\t' => some '\t'
  | 'n' => some '\n'
  | 'v' => some '\x0b'
  | 'f' => some '\x0c'
  | 'r' => some '\r'
  | 'e' => some '\x1b'
  | ' ' => some ' '
  | '"' => some '"'
  | '/' => some '/'
  | '\x27' => some '\x27'
  | '\\' => some '\\'
  | 'N' => some '\u0085'
  | '_' => some '\u00A0'
  | 'L' => some '\u2028'
  | 'P' => some '\u2029'
  | _ => none

def quotedRun (single : Bool) : Nat → String → ScanM (String × Bool)
  | 0, acc => pure (acc, false)
  | n + 1, acc => do
    let r ← rest
    if blankz r then return (acc, false)
    match r with
    | '\x27' :: '\x27' :: _ =>
      skip
      if single then skip
      quotedRun single n (acc.push '\x27')
    | c :: r' =>
      if c = (if single then '\x27' else '"') then return (acc, false)
      if !single && c = '\\' then
        match r' with
        | e :: _ =>
          if isBreak e then
            skip
            let _ ← skipLine
            return (acc, true)
          let code : Nat := if e = 'x' then 2 else if e = 'u' then 4 else if e = 'U' then 8 else 0
          if code > 0 then
            skip; skip
            match hexDigits code (← rest) with
            | some v =>
              if (0xD800 ≤ v && v ≤ 0xDFFF) || v > 0x10FFFF then
                throw "found invalid Unicode character escape code"
              for _ in [0:code] do skip
              quotedRun single n (acc.push (Char.ofNat v))
            | none => throw "did not find expected hexdecimal number"
          else
            match escapeChar e with
            | some ch =>
              skip; skip
              quotedRun single n (acc.push ch)
            | none => throw "found unknown escape character"
        | [] => throw "found unexpected end of stream"
      else
        skip
        quotedRun single n (acc.push c)
    | [] => return (acc, false)

def quotedBody (single : Bool) : Nat → String → ScanM String
  | 0, acc => pure acc
  | n + 1, acc => do
    let s ← get
    if s.col == 0 && (startsWith s.rest "---" || startsWith s.rest "...") && blankz (s.rest.drop 3) then
      throw "found unexpected document indicator"
    if s.rest.isEmpty then throw "found unexpected end of stream"
    let (part, escapedBreak) ← quotedRun single (s.rest.length + 1) ""
    let acc := acc ++ part
    if (← rest).head? == some (if single then '\x27' else '"') then
      skip
      return acc
    let g ← readGap none ((← rest).length + 1) (if escapedBreak then { broken := true } else {})
    quotedBody single n (acc ++ g.text)

/-- Reads a plain scalar. Continuation lines must be indented past the block level; in flow
context the flow indicators end it. The gap read after a run is joined in front of the next
run, so trailing blanks and breaks are dropped. Gives the text and whether it ended after a
line break. -/
def plainBody (indent : Int) : Nat → String → Gap → ScanM (String × Bool)
  | 0, acc, g => pure (acc, g.broken)
  | n + 1, acc, g => do
    let s ← get
    if s.col == 0 && (startsWith s.rest "---" || startsWith s.rest "...") && blankz (s.rest.drop 3) then
      return (acc, g.broken)
    if s.rest.head? == some '#' then return (acc, g.broken)
    let (acc, g) ← plainRun (s.flow > 0) (s.rest.length + 1) acc g
    let r ← rest
    if !(blankAt r || (r.head?.map isBreak).getD false) then return (acc, g.broken)
    let g ← readGap (some indent) (r.length + 1) g
    let s ← get
    if s.flow == 0 && (s.col : Int) < indent then return (acc, g.broken)
    plainBody indent n acc g
where
  /-- The characters of one run of a plain scalar, with the pending gap joined in front of
  the first of them. -/
  plainRun (flow : Bool) : Nat → String → Gap → ScanM (String × Gap)
    | 0, acc, g => pure (acc, g)
    | k + 1, acc, g => do
      let r ← rest
      if blankz r then return (acc, g)
      match r with
      | c :: r' =>
        if flow && c = ':' && (r'.head?.map fun x => ",?[]\x7b\x7d".toList.contains x).getD false then
          throw "found unexpected ':'"
        if (c = ':' && blankz r') || (flow && ",[]\x7b\x7d".toList.contains c) then
          return (acc, g)
        skip
        plainRun flow k ((acc ++ g.text).push c) {}
      | [] => return (acc, g)

/-! ### Block scalars -/

def blockBreaks (indent : Nat) : Nat → String → Nat → ScanM (String × Nat)
  | 0, breaks, maxCol => pure (breaks, maxCol)
  | n + 1, breaks, maxCol => do
    skipWhileCol
    let s ← get
    let maxCol := max maxCol s.col
    if (indent == 0 || s.col < indent) && s.rest.head? == some '\t' then
      throw "found a tab character where an indentation space is expected"
    match s.rest with
    | c :: _ =>
      if isBreak c then
        let b ← skipLine
        blockBreaks indent n (breaks ++ b) maxCol
      else pure (breaks, maxCol)
    | [] => pure (breaks, maxCol)
where
  /-- Skips spaces up to the indentation (all of them while it is unknown). -/
  skipWhileCol : ScanM Unit := do
    let s ← get
    let room := if indent == 0 then s.rest.length else indent - s.col
    let k := ((s.rest.take room).takeWhile (· = ' ')).length
    set { s with rest := s.rest.drop k, col := s.col + k, index := s.index + k }

/-- Reads the lines of a block scalar at indentation `indent`. `leading` is the break ending
the previous line, `trailing` the empty lines since, `leadBlank` whether the previous line
started with a blank. -/
def blockLines (literal : Bool) (indent : Nat) :
    Nat → String → String → String → Bool → ScanM (String × String × String)
  | 0, acc, leading, trailing, _ => pure (acc, leading, trailing)
  | n + 1, acc, leading, trailing, leadBlank => do
    let s ← get
    if s.col != indent || s.rest.isEmpty then return (acc, leading, trailing)
    let trailBlank := blankAt s.rest
    let acc := if !literal && leading == "\n" && !leadBlank && !trailBlank then
        acc ++ (if trailing.isEmpty then " " else "")
      else acc ++ leading
    let acc := acc ++ trailing
    let leadBlank := blankAt s.rest
    let line := s.rest.takeWhile fun c => !isBreak c
    skipWhile fun c => !isBreak c
    let b ← skipLine
    let (breaks, _) ← blockBreaks indent ((← rest).length + 1) "" 0
    blockLines literal indent n (acc ++ String.ofList line) b breaks leadBlank

/-- Reads a block scalar after `|` (literal) or `>` (folded): its header (chomping and
indentation indicators, then a comment or line end) and its lines. -/
def blockScalar (literal : Bool) : ScanM String := do
  skip
  let mut chomp : Int := 0
  let mut increment : Nat := 0
  let r ← rest
  match r with
  | c :: r' =>
    if c = '+' || c = '-' then
      chomp := if c = '+' then 1 else -1
      skip
      match r' with
      | d :: _ =>
        if '0' ≤ d && d ≤ '9' then
          if d = '0' then throw "found an indentation indicator equal to 0"
          increment := d.toNat - '0'.toNat
          skip
      | [] => pure ()
    else if '0' ≤ c && c ≤ '9' then
      if c = '0' then throw "found an indentation indicator equal to 0"
      increment := c.toNat - '0'.toNat
      skip
      match r' with
      | e :: _ =>
        if e = '+' || e = '-' then
          chomp := if e = '+' then 1 else -1
          skip
      | [] => pure ()
  | [] => pure ()
  skipWhile isBlank
  if (← rest).head? == some '#' then skipWhile fun c => !isBreak c
  match ← rest with
  | c :: _ => if !isBreak c then throw "did not find expected comment or line break"
  | [] => pure ()
  let _ ← skipLine
  let blockIndent := (← get).indent
  let given : Nat := if increment > 0 then
      (if blockIndent ≥ 0 then (blockIndent + increment).toNat else increment) else 0
  let (breaks, maxCol) ← blockBreaks given ((← rest).length + 1) "" 0
  let indent : Nat := if given > 0 then given else
    max 1 (max maxCol (blockIndent + 1).toNat)
  let (acc, leading, trailing) ← blockLines literal indent ((← rest).length + 1) "" "" breaks false
  let acc := if chomp != -1 then acc ++ leading else acc
  return if chomp == 1 then acc ++ trailing else acc

/-! ### Anchors, tags and directives -/

def anchorName : ScanM String := do
  skip
  let name := (← rest).takeWhile isWordChar
  skipWhile isWordChar
  let r ← rest
  if name.isEmpty || !(blankz r || (r.head?.map fun c => "?:,]\x7d%@\x60".toList.contains c).getD false) then
    throw "did not find expected alphabetic or numeric character"
  return String.ofList name

/-- Characters of tag URIs; `,`, `[` and `]` only in verbatim tags and directive prefixes. -/
def isUriChar (wide : Bool) (c : Char) : Bool :=
  isWordChar c || ";/?:@&=+$.%!~*\x27()".toList.contains c || (wide && ",[]".toList.contains c)

def octet : ScanM Nat := do
  match ← rest with
  | '%' :: a :: b :: _ =>
    match hexVal a, hexVal b with
    | some x, some y =>
      skip; skip; skip
      return x * 16 + y
    | _, _ => throw "did not find URI escaped octet"
  | _ => throw "did not find URI escaped octet"

def uriEscape : ScanM Char := do
  let b ← octet
  let width := if b < 0x80 then 1 else if b / 32 == 6 then 2 else if b / 16 == 14 then 3
    else if b / 8 == 30 then 4 else 0
  if width == 0 then throw "found an incorrect leading UTF-8 octet"
  let mut v := if width == 1 then b else b % Nat.pow 2 (7 - width)
  for _ in [1:width] do
    let t ← octet
    if t / 64 != 2 then throw "found an incorrect trailing UTF-8 octet"
    v := v * 64 + t % 64
  return Char.ofNat v

def uriText (wide : Bool) : Nat → String → ScanM String
  | 0, acc => pure acc
  | n + 1, acc => do
    match ← rest with
    | c :: _ =>
      if c = '%' then uriText wide n (acc.push (← uriEscape))
      else if isUriChar wide c then
        skip
        uriText wide n (acc.push c)
      else pure acc
    | [] => pure acc

def tagHandle : ScanM String := do
  skip
  let w := String.ofList ((← rest).takeWhile isWordChar)
  skipWhile isWordChar
  if (← rest).head? == some '!' then
    skip
    return "!" ++ w ++ "!"
  return "!" ++ w

def isNamedHandle (h : String) : Bool := h.length > 1 && h.endsWith "!"

/-- Reads a tag `!<uri>` (verbatim, empty handle), `!handle!suffix`, `!suffix` (handle `!`) or
a lone `!` (empty handle, suffix `!`). It must end at a blank, or a comma in flow context. -/
def tag : ScanM Token := do
  let flow := (← get).flow > 0
  let r ← rest
  let (handle, suffix) ← if startsWith r "!<" then do
      skip; skip
      let uri ← uriText true (r.length + 1) ""
      if uri.isEmpty then throw "did not find expected tag URI"
      if (← rest).head? != some '>' then throw "did not find the expected '>'"
      skip
      pure ("", uri)
    else do
      let h ← tagHandle
      if isNamedHandle h then
        let t ← uriText false (r.length + 1) ""
        if t.isEmpty then throw "did not find expected tag URI"
        pure (h, t)
      else
        let t ← uriText false (r.length + 1) ""
        let t := String.ofList (h.toList.drop 1) ++ t
        pure (if t.isEmpty then ("", "!") else ("!", t))
  let r ← rest
  if !blankz r && !(flow && r.head? == some ',') then
    throw "did not find expected whitespace or line break"
  return .tag handle suffix

def versionNumber : ScanM Nat := do
  let ds := (← rest).takeWhile Char.isDigit
  if ds.isEmpty then throw "did not find expected version number"
  if ds.length > 9 then throw "found extremely long version number"
  skipWhile Char.isDigit
  return ds.foldl (fun v d => 10 * v + (d.toNat - '0'.toNat)) 0

def directive : ScanM Token := do
  skip
  let name := String.ofList ((← rest).takeWhile isWordChar)
  skipWhile isWordChar
  if name.isEmpty then throw "could not find expected directive name"
  if !blankz (← rest) then throw "found unexpected non-alphabetical character"
  let t ← if name == "YAML" then do
      skipWhile isBlank
      let major ← versionNumber
      if (← rest).head? != some '.' then throw "did not find expected digit or '.' character"
      skip
      pure (Token.versionDirective major (← versionNumber))
    else if name == "TAG" then do
      skipWhile isBlank
      if (← rest).head? != some '!' then throw "did not find expected '!'"
      let h ← tagHandle
      if h != "!" && !isNamedHandle h then throw "did not find expected '!'"
      if !blankAt (← rest) then throw "did not find expected whitespace"
      skipWhile isBlank
      let p ← uriText true ((← rest).length + 1) ""
      if p.isEmpty then throw "did not find expected tag URI"
      if !blankz (← rest) then throw "did not find expected whitespace or line break"
      pure (Token.tagDirective h p)
    else throw "found unknown directive name"
  skipWhile isBlank
  if (← rest).head? == some '#' then skipWhile fun c => !isBreak c
  match ← rest with
  | c :: _ => if !isBreak c then throw "did not find expected comment or line break"
  | [] => pure ()
  let _ ← skipLine
  return t

/-! ### Tokens -/

/-- Fetches the tokens at the next position. -/
def fetch : ScanM Unit := do
  toNextToken ((← rest).length + 1)
  staleKeys
  unrollIndent (← get).col
  let s ← get
  let r := s.rest
  let flow := s.flow > 0
  match r with
  | [] =>
    if s.col != 0 then set { s with col := 0, line := s.line + 1 }
    unrollIndent (-1)
    removeKey
    allow false
    push .streamEnd
  | c :: r' =>
    if s.col == 0 && c = '%' then
      unrollIndent (-1); removeKey; allow false
      push (← directive)
    else if s.col == 0 && (startsWith r "---" || startsWith r "...") && blankz (r.drop 3) then
      unrollIndent (-1); removeKey; allow false
      skip; skip; skip
      push (if c = '-' then .docStart else .docEnd)
    else if c = '[' || c = '\x7b' then
      saveKey
      modify fun s => { s with flow := s.flow + 1, keys := SimpleKey.none :: s.keys }
      allow true
      skip
      push (if c = '[' then .flowSeqStart else .flowMapStart)
    else if c = ']' || c = '\x7d' then
      removeKey
      modify fun s => if s.flow > 0 then { s with flow := s.flow - 1, keys := s.keys.tail } else s
      allow false
      skip
      push (if c = ']' then .flowSeqEnd else .flowMapEnd)
    else if c = ',' then
      removeKey; allow true; skip
      push .flowEntry
    else if c = '-' && blankz r' then
      if !flow then
        if !s.allowed then throw "block sequence entries are not allowed in this context"
        rollIndent s.col none .blockSeqStart
      removeKey; allow true; skip
      push .blockEntry
    else if c = '?' && (flow || blankz r') then
      if !flow then
        if !s.allowed then throw "mapping keys are not allowed in this context"
        rollIndent s.col none .blockMapStart
      removeKey; allow !flow; skip
      push .key
    else if c = ':' && (flow || blankz r') then
      match s.keys with
      | k :: more =>
        if k.possible then
          insertAt k.number .key
          rollIndent k.col (some k.number) .blockMapStart
          modify fun s => { s with keys := { k with possible := false } :: more }
          allow false
        else
          if !flow then
            if !s.allowed then throw "mapping values are not allowed in this context"
            rollIndent s.col none .blockMapStart
          allow !flow
      | [] => allow !flow
      skip
      push .value
    else if c = '*' || c = '&' then
      saveKey; allow false
      let n ← anchorName
      push (if c = '*' then .aliasTo n else .anchor n)
    else if c = '!' then
      saveKey; allow false
      push (← tag)
    else if (c = '|' || c = '>') && !flow then
      removeKey; allow true
      push (.scalar (← blockScalar (c = '|')) false)
    else if c = '\x27' || c = '"' then
      saveKey; allow false
      skip
      push (.scalar (← quotedBody (c = '\x27') (r.length + 1) "") false)
    else if !(blankz r || "-?:,[]\x7b\x7d#&*!|>\x27\"%@\x60".toList.contains c) ||
        (c = '-' && !blankAt r') || (!flow && (c = '?' || c = ':') && !blankz r') then
      saveKey; allow false
      let (text, broken) ← plainBody (s.indent + 1) (r.length + 1) "" {}
      if broken then allow true
      push (.scalar text true)
    else throw "found character that cannot start any token"

def fetchAll : Nat → ScanM Unit
  | 0 => throw "input too long"
  | n + 1 => do
    fetch
    if (← get).tokens.back? != some .streamEnd then fetchAll n

end Scan

/-- The tokens of a YAML text, or the scanner's message. -/
def tokenize (src : String) : Except String (List Token) :=
  let start : Scanner := ⟨src.toList, 0, 0, 0, #[.streamStart], 0, -1, [], true, [SimpleKey.none]⟩
  match (Scan.fetchAll (src.length + 2)).run start with
  | .ok (_, s) => .ok s.tokens.toList
  | .error e => .error e

end TableBind.Yaml
