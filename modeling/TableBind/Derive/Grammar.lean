import TableBind.Derive.Cursor

/-! The grammar of expressions, types, patterns, statements and attributes, read over token
trees. Every rule writes back what it reads (see `Cursor`), so the written stream is the
canonical text of the piece. Rules carry a fuel argument bounding their nesting; every call
chain reads tokens as it goes, so a fuel of a few times the token count is never used up. -/

namespace TableBind.Derive

open TableBind.Derive.Parser

/-- What the grammar around an expression needs to know of it. -/
inductive Shape where
  /-- A literal, with its text (a negative number starts with `-`). -/
  | lit (text : String)
  /-- A unary minus, with the text of its operand when that is a literal. -/
  | neg (operand : Option String)
  /-- A range `a..b`: no binary operator may follow it. -/
  | range
  /-- A comparison: another comparison may not follow it. -/
  | compare
  /-- A block-like expression (`if`, `match`, loops, blocks): it ends a statement. -/
  | blockLike
  /-- A macro call; `brace` when its arguments are in braces. -/
  | macroCall (brace : Bool)
  /-- Anything else. -/
  | other
  deriving BEq, Inhabited, Repr

/-- The arguments of an attribute, or of an item inside one: none, a delimited token list
(kept as written), or `= value`. -/
inductive MetaArgs where
  | none
  | list (tokens : List Tok)
  | value (shape : Shape) (tokens : List Tok)
  deriving Inhabited

/-- An attribute's content `path`, `path(...)` or `path = value`. `name` is the path when it
is one plain identifier. -/
structure MetaItem where
  name : Option String
  args : MetaArgs
  deriving Inhabited

/-- What generic-argument and parenthesised-type parsing need to know of a type. -/
structure TyInfo where
  /-- A path of one segment, with no `::` prefix and no parenthesised arguments. -/
  single : Bool
  /-- A path without a qualified-self prefix. -/
  plainPath : Bool
  deriving Inhabited

/-- What is known of a parsed path. -/
structure PathInfo where
  /-- It starts with a qualified self `<T as Trait>::`. -/
  qself : Bool
  /-- One segment, no `::` prefix, no parenthesised arguments. -/
  single : Bool
  /-- No segment has generic arguments. -/
  modStyle : Bool
  /-- The last segment has no arguments. -/
  lastBare : Bool
  deriving Inhabited

def depthLimit : String := "nesting too deep"

/-! ### Operators -/

/-- Binary operators, longest spellings first, with their binding strength (weakest first):
compound assignment 1, `||` 3, `&&` 4, comparison 6, `|` 7, `^` 8, `&` 9, shifts 10,
`+ -` 11, `* / %` 12. (Plain assignment is 1, ranges 2, `let` 5, `as` 13.) -/
def binOps : List (String × Nat) :=
  [("+=", 1), ("-=", 1), ("*=", 1), ("/=", 1), ("%=", 1), ("^=", 1), ("&=", 1), ("|=", 1),
   ("<<=", 1), (">>=", 1), ("&&", 4), ("||", 3), ("<<", 10), (">>", 10), ("==", 6), ("<=", 6),
   ("!=", 6), (">=", 6), ("+", 11), ("-", 11), ("*", 12), ("/", 12), ("%", 12), ("^", 8),
   ("&", 9), ("|", 7), ("<", 6), (">", 6)]

def binOp? (ts : List Tok) : Option (String × Nat) := binOps.find? fun o => Peek.op o.1 ts

def peekPrec (ts : List Tok) : Nat :=
  match binOp? ts with
  | some (_, p) => p
  | none =>
    if Peek.op "=" ts && !Peek.op "=>" ts then 1
    else if Peek.op ".." ts then 2
    else if Peek.kw "as" ts then 13
    else 0

def canBeginExpr (ts : List Tok) : Bool :=
  Peek.anyIdent ts || Peek.group .paren ts || Peek.group .bracket ts || Peek.group .brace ts ||
  Peek.lit ts || (Peek.op "!" ts && !Peek.op "!=" ts) ||
  (Peek.op "-" ts && !Peek.op "-=" ts && !Peek.op "->" ts) || (Peek.op "*" ts && !Peek.op "*=" ts) ||
  (Peek.op "|" ts && !Peek.op "|=" ts) || (Peek.op "&" ts && !Peek.op "&=" ts) ||
  Peek.op ".." ts || (Peek.op "<" ts && !Peek.op "<=" ts && !Peek.op "<<=" ts) ||
  Peek.op "::" ts || Peek.lifetime ts || Peek.op "#" ts

def startsItem (ts : List Tok) : Bool :=
  let t2 := Peek.skip ts
  let t3 := Peek.skip t2
  Peek.kw "pub" ts || (Peek.kw "crate" ts && !Peek.op "::" t2) || Peek.kw "extern" ts ||
  Peek.kw "use" ts ||
  (Peek.kw "static" ts && (Peek.kw "mut" t2 || Peek.ident t2)) ||
  (Peek.kw "const" ts && !(Peek.group .brace t2 || Peek.kw "static" t2 ||
    (Peek.kw "async" t2 && !(Peek.kw "unsafe" t3 || Peek.kw "extern" t3 || Peek.kw "fn" t3)) ||
    Peek.kw "move" t2 || Peek.op "|" t2)) ||
  (Peek.kw "unsafe" ts && !Peek.group .brace t2) ||
  (Peek.kw "async" ts && (Peek.kw "unsafe" t2 || Peek.kw "extern" t2 || Peek.kw "fn" t2)) ||
  Peek.kw "fn" ts || Peek.kw "mod" ts || Peek.kw "type" ts || Peek.kw "struct" ts ||
  Peek.kw "enum" ts || (Peek.kw "union" ts && Peek.ident t2) ||
  (Peek.kw "auto" ts && Peek.kw "trait" t2) || Peek.kw "trait" ts ||
  (Peek.kw "default" ts && (Peek.kw "unsafe" t2 || Peek.kw "impl" t2)) || Peek.kw "impl" ts ||
  Peek.kw "macro" ts

/-- After a keyword, whether `<` opens generic parameters rather than a qualified path. -/
def genericsAfter (ts : List Tok) : Bool :=
  let t2 := Peek.skip ts
  let t3 := Peek.skip t2
  Peek.op "<" ts &&
    (Peek.op ">" t2 || Peek.op "#" t2 ||
      ((Peek.ident t2 || Peek.lifetime t2) &&
        (Peek.op ":" t3 || Peek.op "," t3 || Peek.op ">" t3 || Peek.op "=" t3)) ||
      Peek.kw "const" t2)

def rangeLimits : Parser Bool := do
  let ts ← ahead
  if Peek.op "..=" ts then op "..="; return true
  else if Peek.op ".." ts && !Peek.op "..." ts then op ".."; return false
  else if Peek.op ".." ts then fail "expected `..=`"
  else fail "expected `..`"

/-- Reads `..`, `..=` or the old `...` (written back as `..=`) of a range pattern, giving
whether the range is closed. -/
def patRangeLimits : Parser Bool := do
  let ts ← ahead
  if Peek.op "..=" ts then op "..="; return true
  else if Peek.op "..." ts then
    modify fun c => { rest := c.rest.drop 3, out := c.out ++ (Tok.op "..=").toArray }
    return true
  else if Peek.op ".." ts then op ".."; return false
  else fail "expected `..`"

/-- Refuses what may not follow a cast: a field, method call, `?`, index or call. -/
def checkCast : Parser Unit := do
  let ts ← ahead
  let t2 := Peek.skip ts
  let kind : Option String :=
    if Peek.op "." ts && !Peek.op ".." ts then
      some (if Peek.kw "await" t2 then "`.await`"
        else if Peek.ident t2 && (Peek.group .paren (Peek.skip t2) || Peek.op "::" (Peek.skip t2))
        then "a method call" else "a field access")
    else if Peek.op "?" ts then some "`?`"
    else if Peek.group .bracket ts then some "indexing"
    else if Peek.group .paren ts then some "a function call"
    else none
  match kind with
  | some k => fail ("casts cannot be followed by " ++ k)
  | none => pure ()

def indexValue (t : String) : Except String Nat :=
  match intLiteral t with
  | some (v, sfx) =>
    if !sfx.isEmpty then .error "expected unsuffixed integer"
    else if v < 0 || v ≥ 4294967296 then .error "number too large to fit in target type"
    else .ok v.toNat
  | none => .error "expected identifier or integer"

/-- Reads a field name: an identifier, or an integer index written back as its decimal
value. Gives whether it was a name. -/
def member : Parser Bool := do
  let ts ← ahead
  if Peek.ident ts then
    let _ ← ident
    return true
  match ts with
  | .lit t :: r =>
    match indexValue t with
    | .ok v =>
      modify fun c => { rest := r, out := c.out.push (.lit (toString v)) }
      return false
    | .error e => throw e
  | _ => fail "expected identifier or integer"

def modSegments : Nat → Parser (List Tok × Bool)
  | 0 => return ([], false)
  | n + 1 => do
    let ts ← ahead
    if Peek.ident ts || Peek.kw "super" ts || Peek.kw "self" ts || Peek.kw "Self" ts ||
        Peek.kw "crate" ts then
      let t ← anyIdent
      if ← op? "::" then
        let (more, trailing) ← modSegments n
        return (t :: more, more.isEmpty || trailing)
      else return ([t], false)
    else return ([], false)

def modPath : Parser (Option String) := do
  let lead ← op? "::"
  let (segs, trailing) ← modSegments (← ahead).length
  if segs.isEmpty then
    let _ ← ident
    fail "expected identifier"
  else if trailing then fail "expected path segment after `::`"
  else
    match lead, segs with
    | false, [.ident n false] => return some n
    | _, _ => return none

def metaPath : Parser (Option String) := do
  if ← kw? "unsafe" then return some "unsafe" else modPath

def label? : Parser Unit := do
  if ← peek Peek.lifetime then
    lifetime
    op ":"

mutual

-- Attributes

def attr : Nat → Parser MetaItem
  | 0 => throw depthLimit
  | n + 1 => do
    op "#"
    inGroup .bracket (metaItem n)

def metaItem : Nat → Parser MetaItem
  | 0 => throw depthLimit
  | n + 1 => do
    let name ← metaPath
    match ← ahead with
    | .group _ inner :: _ =>
      let _ ← rawGroup
      return ⟨name, .list inner⟩
    | _ =>
      if ← peek (Peek.op "=") then
        op "="
        let (shape, toks) ← capture (metaValue n)
        return ⟨name, .value shape toks⟩
      else return ⟨name, .none⟩

/-- Reads the value after `=` in an attribute: a literal when it is all that is left, an
expression otherwise. -/
def metaValue : Nat → Parser Shape
  | 0 => throw depthLimit
  | n + 1 => do
    let c ← get
    match Parser.lit.run c with
    | .ok (t, c') =>
      if c'.rest.isEmpty then
        set c'
        return .lit t
      else expr n true
    | .error _ =>
      if (← peek (Peek.op "#")) && (← peekAt 1 (Peek.group .bracket)) then
        fail "unexpected attribute inside of attribute"
      else expr n true

def attrs : Nat → Parser Unit
  | 0 => throw depthLimit
  | n + 1 => do
    if ← peek (Peek.op "#") then
      let _ ← attr n
      attrs n

def innerAttrs : Nat → Parser Unit
  | 0 => throw depthLimit
  | n + 1 => do
    if (← peek (Peek.op "#")) && (← peekAt 1 (Peek.op "!")) then
      op "#"
      op "!"
      let _ ← inGroup .bracket (metaItem n)
      innerAttrs n

-- Expressions

/-- Reads an expression; `st` says whether a struct literal may appear at the top. -/
def expr : Nat → Bool → Parser Shape
  | 0, _ => throw depthLimit
  | n + 1, st => do
    let lhs ← unary n st
    binLoop n st 0 lhs

/-- Reads binary operators, ranges and casts of strength at least `base` after `lhs`. -/
def binLoop : Nat → Bool → Nat → Shape → Parser Shape
  | 0, _, _, _ => throw depthLimit
  | n + 1, st, base, lhs => do
    if lhs == .range then return lhs
    let ts ← ahead
    match binOp? ts with
    | some (o, p) =>
      if p < base then return lhs
      if p == 6 && lhs == .compare then fail "comparison operators cannot be chained"
      op o
      let _ ← binRhs n st p
      binLoop n st base (if p == 6 then .compare else .other)
    | none =>
      if 1 ≥ base && Peek.op "=" ts && !Peek.op "=>" ts then
        op "="
        let _ ← binRhs n st 1
        binLoop n st base .other
      else if 2 ≥ base && Peek.op ".." ts then
        let closed ← rangeLimits
        rangeEnd n st closed
        binLoop n st base .range
      else if 13 ≥ base && Peek.kw "as" ts then
        kw "as"
        let _ ← ty n false
        checkCast
        binLoop n st base .other
      else return lhs

def binRhs : Nat → Bool → Nat → Parser Shape
  | 0, _, _ => throw depthLimit
  | n + 1, st, prec => do
    let rhs ← unary n st
    rhsLoop n st prec rhs

def rhsLoop : Nat → Bool → Nat → Shape → Parser Shape
  | 0, _, _, _ => throw depthLimit
  | n + 1, st, prec, rhs => do
    let next := peekPrec (← ahead)
    if next > prec || (next == prec && prec == 1) then
      let before := (← ahead).length
      let rhs' ← binLoop n st next rhs
      if (← ahead).length == before then return rhs'
      rhsLoop n st prec rhs'
    else return rhs

def rangeEnd : Nat → Bool → Bool → Parser Unit
  | 0, _, _ => throw depthLimit
  | n + 1, st, closed => do
    let ts ← ahead
    let stop := !closed && (ts.isEmpty || Peek.op "," ts || Peek.op ";" ts ||
      (Peek.op "." ts && !Peek.op ".." ts) || Peek.op "?" ts || Peek.op "=>" ts ||
      (!st && Peek.group .brace ts) || Peek.op "=" ts || Peek.op "+" ts || Peek.op "/" ts ||
      Peek.op "%" ts || Peek.op "^" ts || Peek.op ">" ts || Peek.op "<=" ts ||
      Peek.op "!=" ts || Peek.op "-=" ts || Peek.op "*=" ts || Peek.op "&=" ts ||
      Peek.op "|=" ts || Peek.op "<<=" ts || Peek.kw "as" ts)
    if !stop then
      let _ ← binRhs n st 2

def unary : Nat → Bool → Parser Shape
  | 0, _ => throw depthLimit
  | n + 1, st => do
    attrs n
    let ts ← ahead
    if Peek.op "&" ts then
      op "&"
      let ts ← ahead
      let isRaw := Peek.kw "raw" ts && (Peek.kw "mut" (Peek.skip ts) || Peek.kw "const" (Peek.skip ts))
      if isRaw then pass
      let m ← kw? "mut"
      if isRaw && !m then kw "const"
      let _ ← unary n st
      return .other
    else if Peek.op "*" ts || Peek.op "!" ts || Peek.op "-" ts then
      let neg := Peek.op "-" ts
      op (if neg then "-" else if Peek.op "*" ts then "*" else "!")
      let inner ← unary n st
      if neg then
        return .neg (match inner with
          | .lit t => some t
          | _ => none)
      else return .other
    else
      let a ← atom n st
      trailer n a

def trailer : Nat → Shape → Parser Shape
  | 0, _ => throw depthLimit
  | n + 1, e => do
    let ts ← ahead
    if Peek.group .paren ts then
      inGroup .paren (exprList n)
      trailer n .other
    else if Peek.op "." ts && !Peek.op ".." ts && e != .range then
      op "."
      match ← ahead with
      | .lit t :: r =>
        if (t.toList.contains '.' || t.toList.contains 'e' || t.toList.contains 'E') &&
            (intLiteral t).isNone then
          let trailingDot := t.toList.getLast? == some '.'
          let body := if trailingDot then t.toList.dropLast else t.toList
          let parts := (String.ofList body).splitOn "."
          let mut written : List Tok := []
          for part in parts do
            match indexValue part with
            | .ok v => written := written ++ [.punct '.' false, .lit (toString v)]
            | .error e => throw e
          modify fun c => { rest := r, out := c.out ++ (written.drop 1).toArray }
          if trailingDot then
            op "."
            memberAfterDot n
          else trailer n .other
        else memberAfterDot n
      | _ => memberAfterDot n
    else if Peek.group .bracket ts then
      inGroup .bracket (do let _ ← expr n true)
      trailer n .other
    else if Peek.op "?" ts && e != .range then
      op "?"
      trailer n .other
    else return e

def memberAfterDot : Nat → Parser Shape
  | 0 => throw depthLimit
  | n + 1 => do
    if ← kw? "await" then return ← trailer n .other
    let named ← member
    let turbofish ← if named && (← peek (Peek.op "::")) then
        op "::"
        angleArgs n
        pure true
      else pure false
    if named && (turbofish || (← peek (Peek.group .paren))) then
      inGroup .paren (exprList n)
    trailer n .other

def exprList : Nat → Parser Unit
  | 0 => throw depthLimit
  | n + 1 => do
    if ← atEnd then return
    let _ ← expr n true
    if ← atEnd then return
    op ","
    exprList n

def atom : Nat → Bool → Parser Shape
  | 0, _ => throw depthLimit
  | n + 1, st => do
    let ts ← ahead
    let t2 := Peek.skip ts
    if Peek.lit ts then
      let t ← lit
      return .lit t
    else if Peek.kw "async" ts &&
        (Peek.group .brace t2 || (Peek.kw "move" t2 && Peek.group .brace (Peek.skip t2))) then
      kw "async"
      let _ ← kw? "move"
      block n
      return .other
    else if Peek.kw "try" ts && Peek.group .brace t2 then
      kw "try"
      block n
      return .blockLike
    else if Peek.op "|" ts || Peek.kw "move" ts || (Peek.kw "for" ts && genericsAfter t2) ||
        (Peek.kw "const" ts && !Peek.group .brace t2) || Peek.kw "static" ts ||
        (Peek.kw "async" ts && (Peek.op "|" t2 || Peek.kw "move" t2)) then
      closure n st
    else if Peek.ident ts || Peek.op "::" ts || Peek.op "<" ts || Peek.kw "self" ts ||
        Peek.kw "Self" ts || Peek.kw "super" ts || Peek.kw "crate" ts ||
        (Peek.kw "try" ts && (Peek.op "!" t2 || Peek.op "::" t2)) then
      pathExpr n st
    else if Peek.group .paren ts then
      inGroup .paren (exprList n)
      return .other
    else if Peek.kw "break" ts then
      kw "break"
      let ts ← ahead
      if Peek.lifetime ts then
        if Peek.op ":" (Peek.skip ts) then fail "parentheses required"
        lifetime
      let ts ← ahead
      if canBeginExpr ts && (st || !Peek.group .brace ts) then
        let _ ← expr n true
      return .other
    else if Peek.kw "continue" ts then
      kw "continue"
      if ← peek Peek.lifetime then lifetime
      return .other
    else if Peek.kw "return" ts || Peek.kw "yield" ts || Peek.kw "become" ts then
      pass
      if canBeginExpr (← ahead) then
        let _ ← expr n st
      return .other
    else if Peek.group .bracket ts then
      inGroup .bracket (arrayBody n)
      return .other
    else if Peek.kw "let" ts then
      kw "let"
      patMulti n true
      op "="
      let lhs ← unary n st
      let _ ← binLoop n st 6 lhs
      return .other
    else if Peek.kw "if" ts then
      ifExpr n
      return .blockLike
    else if Peek.kw "while" ts || Peek.kw "for" ts || Peek.kw "loop" ts ||
        Peek.group .brace ts || Peek.lifetime ts then
      loopLike n
    else if Peek.kw "match" ts then
      matchExpr n
      return .blockLike
    else if Peek.kw "unsafe" ts || Peek.kw "const" ts then
      pass
      blockBody n
      return .blockLike
    else if Peek.op ".." ts then
      let closed ← rangeLimits
      rangeEnd n st closed
      return .range
    else if Peek.kw "_" ts then
      pass
      return .other
    else fail "expected an expression"

def pathExpr : Nat → Bool → Parser Shape
  | 0, _ => throw depthLimit
  | n + 1, st => do
    let info ← qpath n true
    if !info.qself && info.modStyle && (← peek (Peek.op "!")) && !(← peek (Peek.op "!=")) then
      op "!"
      let d ← rawGroup
      return .macroCall (d == .brace)
    if st && (← peek (Peek.group .brace)) then
      inGroup .brace (structFields n)
    return .other

def structFields : Nat → Parser Unit
  | 0 => throw depthLimit
  | n + 1 => do
    if ← atEnd then return
    if ← peek (Peek.op "..") then
      op ".."
      if !(← atEnd) then
        let _ ← expr n true
      return
    attrs n
    let named ← member
    if (← peek (Peek.op ":")) || !named then
      op ":"
      let _ ← expr n true
    if ← atEnd then return
    op ","
    structFields n

def arrayBody : Nat → Parser Unit
  | 0 => throw depthLimit
  | n + 1 => do
    if ← atEnd then return
    let _ ← expr n true
    if ← peek (Peek.op ";") then
      op ";"
      let _ ← expr n true
    else if (← atEnd) || (← peek (Peek.op ",")) then
      if ← atEnd then return
      op ","
      exprList n
    else fail "expected `,` or `;`"

def closure : Nat → Bool → Parser Shape
  | 0, _ => throw depthLimit
  | n + 1, st => do
    if ← peek (Peek.kw "for") then boundLifetimes n
    let _ ← kw? "const"
    let _ ← kw? "static"
    let _ ← kw? "async"
    let _ ← kw? "move"
    op "|"
    closureArgs n
    op "|"
    if ← peek (Peek.op "->") then
      op "->"
      let _ ← ty n true
      block n
    else
      let _ ← expr n st
    return .other

def closureArgs : Nat → Parser Unit
  | 0 => throw depthLimit
  | n + 1 => do
    if ← peek (Peek.op "|") then return
    attrs n
    pat n
    if ← peek (Peek.op ":") then
      op ":"
      let _ ← ty n true
    if ← peek (Peek.op "|") then return
    op ","
    closureArgs n

def ifExpr : Nat → Parser Unit
  | 0 => throw depthLimit
  | n + 1 => do
    kw "if"
    let _ ← expr n false
    block n
    if ← kw? "else" then
      if ← peek (Peek.kw "if") then ifExpr n
      else if ← peek (Peek.group .brace) then block n
      else fail "expected `if` or curly braces"

def loopLike : Nat → Parser Shape
  | 0 => throw depthLimit
  | n + 1 => do
    let labelled ← peek Peek.lifetime
    label?
    let ts ← ahead
    if Peek.kw "while" ts then
      kw "while"
      let _ ← expr n false
      blockBody n
    else if Peek.kw "for" ts then
      kw "for"
      patMulti n true
      kw "in"
      let _ ← expr n false
      blockBody n
    else if Peek.kw "loop" ts then
      kw "loop"
      blockBody n
    else if Peek.group .brace ts then blockBody n
    else if labelled then fail "expected loop or block expression"
    else fail "expected an expression"
    return .blockLike

def matchExpr : Nat → Parser Unit
  | 0 => throw depthLimit
  | n + 1 => do
    kw "match"
    let _ ← expr n false
    inGroup .brace (do innerAttrs n; arms n)

def arms : Nat → Parser Unit
  | 0 => throw depthLimit
  | n + 1 => do
    if ← atEnd then return
    attrs n
    patMulti n true
    if ← kw? "if" then
      let _ ← expr n true
    op "=>"
    let body ← earlyExpr n
    if body != .blockLike && !(← atEnd) then op ","
    else
      let _ ← op? ","
    arms n

def block : Nat → Parser Unit
  | 0 => throw depthLimit
  | n + 1 => inGroup .brace (stmts n)

def blockBody : Nat → Parser Unit
  | 0 => throw depthLimit
  | n + 1 => inGroup .brace (do innerAttrs n; stmts n)

def stmts : Nat → Parser Unit
  | 0 => throw depthLimit
  | n + 1 => do
    if ← op? ";" then return ← stmts n
    if ← atEnd then return
    let needsSemi ← stmt n
    if ← atEnd then return
    if needsSemi then fail "unexpected token, expected `;`"
    stmts n

/-- Reads one statement, giving whether it needs a `;` before the next one. -/
def stmt : Nat → Parser Bool
  | 0 => throw depthLimit
  | n + 1 => do
    attrs n
    -- a macro call in braces stands alone as a statement
    let c ← get
    match (modPath *> get).run c with
    | .ok (_, c') =>
      let r := c'.rest
      if Peek.op "!" r then
        let r2 := Peek.skip r
        if Peek.ident r2 || Peek.kw "try" r2 then fail "items are not supported here"
        let r3 := Peek.skip r2
        if Peek.group .brace r2 && !((Peek.op "." r3 && !Peek.op ".." r3) || Peek.op "?" r3) then
          set c'
          op "!"
          let _ ← rawGroup
          let _ ← op? ";"
          return false
    | .error _ => pure ()
    let ts ← ahead
    if Peek.kw "let" ts then
      kw "let"
      pat n
      if ← peek (Peek.op ":") then
        op ":"
        let _ ← ty n true
      if ← op? "=" then
        let e ← expr n true
        if e != .blockLike && (← peek (Peek.kw "else")) then
          kw "else"
          blockBody n
      op ";"
      return false
    else if startsItem ts then fail "items are not supported here"
    else
      let e ← earlyExpr n
      if ← op? ";" then return false
      return match e with
        | .blockLike => false
        | .macroCall true => false
        | _ => true

/-- Reads an expression in statement position: a block-like expression ends there unless
a method call or `?` follows. -/
def earlyExpr : Nat → Parser Shape
  | 0 => throw depthLimit
  | n + 1 => do
    attrs n
    let ts ← ahead
    let t2 := Peek.skip ts
    let blocky := Peek.kw "if" ts || Peek.kw "while" ts ||
      (Peek.kw "for" ts && !genericsAfter t2) || Peek.kw "loop" ts || Peek.kw "match" ts ||
      (Peek.kw "try" ts && Peek.group .brace t2) || Peek.kw "unsafe" ts ||
      (Peek.kw "const" ts && Peek.group .brace t2) || Peek.group .brace ts || Peek.lifetime ts
    if blocky then
      let e ← atom n true
      let ts ← ahead
      if (Peek.op "." ts && !Peek.op ".." ts) || Peek.op "?" ts then
        let e' ← trailer n e
        binLoop n true 0 e'
      else return e
    else
      let e ← unary n true
      binLoop n true 0 e

-- Types

/-- Reads a type; `plus` says whether `+` may join bounds at the top. -/
def ty : Nat → Bool → Parser TyInfo
  | 0, _ => throw depthLimit
  | n + 1, plus => do
    let hasFor ← peek (Peek.kw "for")
    if hasFor then
      boundLifetimes n
      let ts ← ahead
      if !(Peek.ident ts || Peek.kw "fn" ts || Peek.kw "unsafe" ts || Peek.kw "extern" ts ||
          Peek.kw "super" ts || Peek.kw "self" ts || Peek.kw "Self" ts || Peek.kw "crate" ts) then
        fail "expected one of: identifier, `fn`, `unsafe`, `extern`, `super`, `self`, `Self`, `crate`"
    let ts ← ahead
    let none : TyInfo := ⟨false, false⟩
    if Peek.group .paren ts then
      parenType n plus
      return none
    else if Peek.kw "fn" ts || Peek.kw "unsafe" ts || Peek.kw "extern" ts then
      bareFn n
      return none
    else if Peek.ident ts || Peek.kw "super" ts || Peek.kw "self" ts || Peek.kw "Self" ts ||
        Peek.kw "crate" ts || Peek.op "::" ts || Peek.op "<" ts then
      let info ← typePath n
      if info.qself then return none
      if info.modStyle && (← peek (Peek.op "!")) && !(← peek (Peek.op "!=")) then
        op "!"
        let _ ← rawGroup
        return none
      if hasFor || (plus && (← peek (Peek.op "+"))) then
        if plus then plusBounds n
        return none
      return ⟨info.single, true⟩
    else if Peek.kw "dyn" ts then
      kw "dyn"
      let _ ← op? "*"
      let anyTrait ← boundList n plus
      if !anyTrait then fail "at least one trait is required for an object type"
      return none
    else if Peek.group .bracket ts then
      inGroup .bracket (do
        let _ ← ty n true
        if ← op? ";" then
          let _ ← expr n true)
      return none
    else if Peek.op "*" ts then
      op "*"
      if !(← kw? "const") then
        if !(← kw? "mut") then fail "expected `const` or `mut`"
      let _ ← ty n false
      return none
    else if Peek.op "&" ts then
      op "&"
      if ← peek Peek.lifetime then lifetime
      let _ ← kw? "mut"
      let _ ← ty n false
      return none
    else if Peek.op "!" ts && !Peek.op "=" (Peek.skip ts) then
      op "!"
      return none
    else if Peek.kw "impl" ts then
      kw "impl"
      let anyTrait ← boundList n plus
      if !anyTrait then fail "at least one trait must be specified"
      return none
    else if Peek.kw "_" ts then
      pass
      return none
    else if Peek.lifetime ts then
      let anyTrait ← boundList n true
      if !anyTrait then fail "at least one trait is required for an object type"
      return none
    else fail "expected type"

def parenType : Nat → Bool → Parser Unit
  | 0, _ => throw depthLimit
  | n + 1, plus => do
    match ← ahead with
    | .group .paren inner :: _ =>
      if inner.isEmpty then
        pass
      else if Peek.lifetime inner then
        inGroup .paren (do
          let anyTrait ← boundList n true
          if !anyTrait then fail "at least one trait is required for an object type")
      else if Peek.op "?" inner then
        inGroup .paren (traitBound n)
        moreBounds n
      else
        let (tuple, first) ← inGroup .paren (do
          let first ← ty n true
          if ← peek (Peek.op ",") then
            op ","
            typeList n
            return (true, first)
          return (false, first))
        if !tuple && plus && first.plainPath && (← peek (Peek.op "+")) then moreBounds n
    | _ => fail "expected parentheses"

def moreBounds : Nat → Parser Unit
  | 0 => throw depthLimit
  | n + 1 => do
    if ← op? "+" then
      let _ ← bound n false
      moreBounds n

/-- Reads `+ bound` repeatedly after a path type; a `+` with no bound after it ends the list. -/
def plusBounds : Nat → Parser Unit
  | 0 => throw depthLimit
  | n + 1 => do
    if ← op? "+" then
      let ts ← ahead
      if Peek.anyIdent ts || Peek.op "::" ts || Peek.op "?" ts || Peek.lifetime ts ||
          Peek.group .paren ts then
        let _ ← bound n false
        plusBounds n

def typeList : Nat → Parser Unit
  | 0 => throw depthLimit
  | n + 1 => do
    if ← atEnd then return
    let _ ← ty n true
    if ← atEnd then return
    op ","
    typeList n

def bareFn : Nat → Parser Unit
  | 0 => throw depthLimit
  | n + 1 => do
    let _ ← kw? "unsafe"
    if ← kw? "extern" then
      if ← peek Peek.str then
        let _ ← lit
    kw "fn"
    inGroup .paren (bareArgs n)
    if ← op? "->" then
      let _ ← ty n false

def bareArgs : Nat → Parser Unit
  | 0 => throw depthLimit
  | n + 1 => do
    if ← atEnd then return
    attrs n
    let ts ← ahead
    let t2 := Peek.skip ts
    let named := (Peek.ident ts || Peek.kw "_" ts) && Peek.op ":" t2
    if Peek.op "..." ts || (named && Peek.op "..." (Peek.skip t2)) then
      if named then
        let _ ← anyIdent
        op ":"
      op "..."
      let _ ← op? ","
      return
    if (Peek.ident ts || Peek.kw "_" ts || Peek.kw "self" ts) && Peek.op ":" t2 &&
        !Peek.op "::" t2 then
      let _ ← anyIdent
      op ":"
    let _ ← ty n true
    if ← atEnd then return
    op ","
    bareArgs n

def typePath : Nat → Parser PathInfo
  | 0 => throw depthLimit
  | n + 1 => do
    let info ← qpath n false
    if info.qself then return info
    sugar n info

def sugar : Nat → PathInfo → Parser PathInfo
  | 0, _ => throw depthLimit
  | n + 1, info => do
    let ts ← ahead
    if info.lastBare &&
        (Peek.group .paren ts || (Peek.op "::" ts && Peek.group .paren (Peek.skipN 2 ts))) then
      let _ ← op? "::"
      let bareOutput ← parenArgs n
      if bareOutput then
        let more ← pathRest n false
        if more then return ← sugar n ⟨false, false, false, true⟩
      return ⟨false, false, false, false⟩
    return info

def parenArgs : Nat → Parser Bool
  | 0 => throw depthLimit
  | n + 1 => do
    inGroup .paren (typeList n)
    if ← op? "->" then
      let _ ← ty n false
      return false
    return true

/-- Reads a path, or a qualified path `<T as Trait>::rest`. In expressions (`expr`) generic
arguments need `::<`. -/
def qpath : Nat → Bool → Parser PathInfo
  | 0, _ => throw depthLimit
  | n + 1, exprStyle => do
    if ← peek (Peek.op "<") then
      op "<"
      let _ ← ty n true
      if ← kw? "as" then
        let _ ← path n false
      op ">"
      op "::"
      let _ ← segment n exprStyle
      let _ ← pathRest n exprStyle
      return ⟨true, false, false, false⟩
    else path n exprStyle

def path : Nat → Bool → Parser PathInfo
  | 0, _ => throw depthLimit
  | n + 1, exprStyle => do
    let lead ← op? "::"
    let args ← segment n exprStyle
    let (more, anyArgs, lastArgs) ← segments n exprStyle
    let lastBare := if more then !lastArgs else !args
    return ⟨false, !lead && !more, !args && !anyArgs, lastBare⟩

def segments : Nat → Bool → Parser (Bool × Bool × Bool)
  | 0, _ => throw depthLimit
  | n + 1, exprStyle => do
    let ts ← ahead
    if Peek.op "::" ts && !Peek.group .paren (Peek.skipN 2 ts) then
      op "::"
      let args ← segment n exprStyle
      let (more, anyArgs, lastArgs) ← segments n exprStyle
      return (true, args || anyArgs, if more then lastArgs else args)
    return (false, false, false)

def pathRest : Nat → Bool → Parser Bool
  | 0, _ => throw depthLimit
  | n + 1, exprStyle => do
    let (more, _, _) ← segments n exprStyle
    return more

def segment : Nat → Bool → Parser Bool
  | 0, _ => throw depthLimit
  | n + 1, exprStyle => do
    let ts ← ahead
    if Peek.kw "super" ts || Peek.kw "self" ts || Peek.kw "crate" ts || Peek.kw "try" ts then
      pass
      return false
    if Peek.kw "Self" ts then pass else
      let _ ← ident
    let ts ← ahead
    if (!exprStyle && Peek.op "<" ts && !Peek.op "<=" ts) ||
        (Peek.op "::" ts && Peek.op "<" (Peek.skipN 2 ts)) then
      angleArgs n
      return true
    return false

def angleArgs : Nat → Parser Unit
  | 0 => throw depthLimit
  | n + 1 => do
    let _ ← op? "::"
    op "<"
    genericArgs n
    op ">"

def genericArgs : Nat → Parser Unit
  | 0 => throw depthLimit
  | n + 1 => do
    if ← peek (Peek.op ">") then return
    genericArg n
    if ← peek (Peek.op ">") then return
    op ","
    genericArgs n

/-- Reads one generic argument: a lifetime, a constant, a type, an associated type or
constant binding, or a constraint. -/
def genericArg : Nat → Parser Unit
  | 0 => throw depthLimit
  | n + 1 => do
    let ts ← ahead
    if Peek.lifetime ts && !Peek.op "+" (Peek.skip ts) then
      lifetime
      return
    if Peek.lit ts || Peek.group .brace ts then
      constArg n
      return
    let info ← ty n true
    if info.single then
      if ← op? "=" then
        let ts ← ahead
        if Peek.lit ts || Peek.group .brace ts then constArg n
        else
          let _ ← ty n true
      else if ← op? ":" then
        constraintBounds n

def constraintBounds : Nat → Parser Unit
  | 0 => throw depthLimit
  | n + 1 => do
    if (← peek (Peek.op ",")) || (← peek (Peek.op ">")) then return
    let _ ← bound n false
    if ← op? "+" then constraintBounds n

def constArg : Nat → Parser Unit
  | 0 => throw depthLimit
  | n + 1 => do
    let ts ← ahead
    if Peek.lit ts then
      let _ ← lit
    else if Peek.ident ts then
      let _ ← ident
    else if Peek.group .brace ts then blockBody n
    else if ts.isEmpty then throw "unexpected end of input"
    else throw "unexpected token"

def boundList : Nat → Bool → Parser Bool
  | 0, _ => throw depthLimit
  | n + 1, plus => do
    let isTrait ← bound n false
    if !(plus && (← peek (Peek.op "+"))) then return isTrait
    op "+"
    let ts ← ahead
    if !(Peek.anyIdent ts || Peek.op "::" ts || Peek.op "?" ts || Peek.lifetime ts ||
        Peek.group .paren ts) then return isTrait
    let more ← boundList n plus
    return isTrait || more

/-- Reads one bound: a lifetime or a trait (maybe in parentheses, maybe `~const`); gives
whether it is a trait. -/
def bound : Nat → Bool → Parser Bool
  | 0, _ => throw depthLimit
  | n + 1, tilde => do
    let ts ← ahead
    if Peek.lifetime ts then
      lifetime
      return false
    if Peek.group .paren ts then
      inGroup .paren (traitBound n)
      return true
    if tilde && Peek.op "~" ts && Peek.kw "const" (Peek.skip ts) then
      op "~"
      kw "const"
    traitBound n
    return true

def traitBound : Nat → Parser Unit
  | 0 => throw depthLimit
  | n + 1 => do
    let _ ← op? "?"
    if ← peek (Peek.kw "for") then boundLifetimes n
    let info ← path n false
    let ts ← ahead
    if info.lastBare &&
        (Peek.group .paren ts || (Peek.op "::" ts && Peek.group .paren (Peek.skipN 2 ts))) then
      let _ ← op? "::"
      let _ ← parenArgs n

def boundLifetimes : Nat → Parser Unit
  | 0 => throw depthLimit
  | n + 1 => do
    kw "for"
    op "<"
    lifetimeList n
    op ">"

def lifetimeList : Nat → Parser Unit
  | 0 => throw depthLimit
  | n + 1 => do
    if ← peek (Peek.op ">") then return
    attrs n
    lifetime
    if ← peek (Peek.op ">") then return
    op ","
    lifetimeList n

-- Patterns

def patMulti : Nat → Bool → Parser Unit
  | 0, _ => throw depthLimit
  | n + 1, lead => do
    if lead then
      let _ ← op? "|"
    pat n
    orCases n

def orCases : Nat → Parser Unit
  | 0 => throw depthLimit
  | n + 1 => do
    let ts ← ahead
    if Peek.op "|" ts && !Peek.op "||" ts && !Peek.op "|=" ts then
      op "|"
      pat n
      orCases n

def pat : Nat → Parser Unit
  | 0 => throw depthLimit
  | n + 1 => do
    let ts ← ahead
    let t2 := Peek.skip ts
    if (Peek.ident ts && (Peek.op "::" t2 || Peek.op "!" t2 || Peek.group .brace t2 ||
          Peek.group .paren t2 || Peek.op ".." t2)) ||
        (Peek.kw "self" ts && Peek.op "::" t2) || Peek.op "::" ts || Peek.op "<" ts ||
        Peek.kw "Self" ts || Peek.kw "super" ts || Peek.kw "crate" ts then
      patPath n
    else if Peek.kw "_" ts then pass
    else if Peek.kw "box" ts then
      pass
      pat n
    else if Peek.op "-" ts || Peek.lit ts || Peek.kw "const" ts then
      let _ ← rangeBound n
      if ← peek (Peek.op "..") then
        let closed ← patRangeLimits
        let hasEnd ← rangeBound n
        if closed && !hasEnd then fail "expected range upper bound"
    else if Peek.kw "ref" ts || Peek.kw "mut" ts || Peek.kw "self" ts || Peek.ident ts then
      let _ ← kw? "ref"
      let _ ← kw? "mut"
      if ← peek (Peek.kw "self") then pass else
        let _ ← ident
      if ← op? "@" then pat n
    else if Peek.op "&" ts then
      op "&"
      let _ ← kw? "mut"
      pat n
    else if Peek.group .paren ts then inGroup .paren (patElems n)
    else if Peek.group .bracket ts then inGroup .bracket (patElems n)
    else if Peek.op ".." ts && !Peek.op "..." ts then
      let closed ← rangeLimits
      let hasEnd ← rangeBound n
      if closed && !hasEnd then fail "expected range upper bound"
    else fail "expected pattern"

def patPath : Nat → Parser Unit
  | 0 => throw depthLimit
  | n + 1 => do
    let info ← qpath n true
    if !info.qself && info.modStyle && (← peek (Peek.op "!")) && !(← peek (Peek.op "!=")) then
      op "!"
      let _ ← rawGroup
      return
    let ts ← ahead
    if Peek.group .brace ts then inGroup .brace (patFields n)
    else if Peek.group .paren ts then inGroup .paren (patElems n)
    else if Peek.op ".." ts then
      let closed ← patRangeLimits
      let hasEnd ← rangeBound n
      if closed && !hasEnd then fail "expected range upper bound"

def patElems : Nat → Parser Unit
  | 0 => throw depthLimit
  | n + 1 => do
    if ← atEnd then return
    patMulti n true
    if ← atEnd then return
    op ","
    patElems n

def patFields : Nat → Parser Unit
  | 0 => throw depthLimit
  | n + 1 => do
    if ← atEnd then return
    attrs n
    if ← op? ".." then return
    let boxed ← kw? "box"
    let byRef ← kw? "ref"
    let isMut ← kw? "mut"
    let plain := !boxed && !byRef && !isMut
    let named ← if plain then member else do let _ ← ident; pure true
    if (plain && (← peek (Peek.op ":"))) || !named then
      op ":"
      patMulti n true
    if ← atEnd then return
    op ","
    patFields n

def rangeBound : Nat → Parser Bool
  | 0 => throw depthLimit
  | n + 1 => do
    let ts ← ahead
    if ts.isEmpty || Peek.op "|" ts || Peek.op "=" ts || (Peek.op ":" ts && !Peek.op "::" ts) ||
        Peek.op "," ts || Peek.op ";" ts || Peek.kw "if" ts then return false
    if Peek.lit ts then
      let _ ← lit
      return true
    if Peek.ident ts || Peek.op "::" ts || Peek.op "<" ts || Peek.kw "self" ts ||
        Peek.kw "Self" ts || Peek.kw "super" ts || Peek.kw "crate" ts then
      attrs n
      let _ ← qpath n true
      return true
    if Peek.kw "const" ts then
      kw "const"
      blockBody n
      return true
    fail "expected range bound"

end

end TableBind.Derive
