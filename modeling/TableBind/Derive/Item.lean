import TableBind.Derive.Grammar

/-! Reading a type definition (a struct, enum or union) with its attributes, generic
parameters, where clause and fields, keeping what code generation needs: the attributes'
contents, the parameters as written, and the named fields' attributes and names. -/

namespace TableBind.Derive

open TableBind.Derive.Parser

inductive ParamKind where
  | lifetime
  | type
  | const
  deriving DecidableEq, Repr, Inhabited

/-- A generic parameter as written back: its attributes, its name (a lifetime or an
identifier), its bounds (`+` included; for a constant, its type), and whether a comma
follows it. -/
structure Param where
  kind : ParamKind
  attrs : List Tok
  name : List Tok
  bounds : List Tok
  comma : Bool
  deriving Inhabited

structure Field where
  attrs : List MetaItem
  name : Tok
  deriving Inhabited

inductive Body where
  | named (fields : List Field)
  | tuple
  | unit
  | enum
  | union
  deriving Inhabited

/-- A type definition, as far as code generation needs it. -/
structure Item where
  attrs : List MetaItem
  name : Tok
  params : List Param
  /-- The written where clause, empty when it has no predicates. -/
  whereClause : List Tok
  body : Body
  deriving Inhabited

def attrList (g : Nat) : Nat → Parser (List MetaItem)
  | 0 => throw depthLimit
  | n + 1 => do
    if ← peek (Peek.op "#") then
      let a ← attr g
      let more ← attrList g n
      return a :: more
    return []

/-- Reads a visibility: `pub`, `pub(crate)`, `pub(self)`, `pub(super)`, `pub(in path)`. -/
def visibility : Parser Unit := do
  if ← kw? "pub" then
    match ← ahead with
    | .group .paren inner :: _ =>
      if Peek.kw "crate" inner || Peek.kw "self" inner || Peek.kw "super" inner then
        if inner.length == 1 then pass
      else if Peek.kw "in" inner then
        inGroup .paren (do kw "in"; let _ ← modPath)
    | _ => pure ()

def lifetimeBounds : Nat → Parser Unit
  | 0 => throw depthLimit
  | n + 1 => do
    if (← peek (Peek.op ",")) || (← peek (Peek.op ">")) then return
    lifetime
    if ← op? "+" then lifetimeBounds n

def typeBounds (g : Nat) : Nat → Parser Unit
  | 0 => throw depthLimit
  | n + 1 => do
    if (← peek (Peek.op ",")) || (← peek (Peek.op ">")) || (← peek (Peek.op "=")) then return
    let _ ← bound g true
    if ← op? "+" then typeBounds g n

def param (g : Nat) : Parser Param := do
  let (_, attrToks) ← capture (attrs g)
  let ts ← ahead
  if Peek.lifetime ts then
    let (_, name) ← capture lifetime
    let (_, bounds) ← capture (do if ← op? ":" then lifetimeBounds ((← ahead).length + 1))
    let bounds := bounds.drop 1
    return ⟨.lifetime, attrToks, name, bounds, false⟩
  else if Peek.ident ts || Peek.kw "_" ts then
    let t ← anyIdent
    let (_, bounds) ← capture (do if ← op? ":" then typeBounds g ((← ahead).length + 1))
    let bounds := bounds.drop 1
    if ← op? "=" then
      let _ ← ty g true
    return ⟨.type, attrToks, [t], bounds, false⟩
  else if Peek.kw "const" ts then
    kw "const"
    let t ← ident
    op ":"
    let (_, tyToks) ← capture (ty g true)
    if ← op? "=" then constArg g
    return ⟨.const, attrToks, [t], tyToks, false⟩
  else fail "expected one of: lifetime, identifier, `const`"

def paramList (g : Nat) : Nat → Parser (List Param)
  | 0 => throw depthLimit
  | n + 1 => do
    if ← peek (Peek.op ">") then return []
    let p ← param g
    if ← peek (Peek.op ">") then return [p]
    op ","
    let more ← paramList g n
    return { p with comma := true } :: more

def generics (g : Nat) : Parser (List Param) := do
  if ← op? "<" then
    let ps ← paramList g ((← ahead).length + 1)
    op ">"
    return ps
  return []

def predicateLifetimes : Nat → Parser Unit
  | 0 => throw depthLimit
  | n + 1 => do
    let ts ← ahead
    if ts.isEmpty || Peek.group .brace ts || Peek.op "," ts || Peek.op ";" ts || Peek.op ":" ts ||
        Peek.op "=" ts then return
    lifetime
    if ← op? "+" then predicateLifetimes n

def predicateBounds (g : Nat) : Nat → Parser Unit
  | 0 => throw depthLimit
  | n + 1 => do
    let ts ← ahead
    if ts.isEmpty || Peek.group .brace ts || Peek.op "," ts || Peek.op ";" ts ||
        (Peek.op ":" ts && !Peek.op "::" ts) || Peek.op "=" ts then return
    let _ ← bound g true
    if ← op? "+" then predicateBounds g n

def predicates (g : Nat) : Nat → Parser Bool
  | 0 => throw depthLimit
  | n + 1 => do
    let ts ← ahead
    if ts.isEmpty || Peek.group .brace ts || Peek.op "," ts || Peek.op ";" ts ||
        (Peek.op ":" ts && !Peek.op "::" ts) || Peek.op "=" ts then return false
    if Peek.lifetime ts && Peek.op ":" (Peek.skip ts) then
      lifetime
      op ":"
      predicateLifetimes ((← ahead).length + 1)
    else
      if ← peek (Peek.kw "for") then boundLifetimes g
      let _ ← ty g true
      op ":"
      predicateBounds g ((← ahead).length + 1)
    if ← op? "," then
      let _ ← predicates g n
    return true

/-- Reads a where clause, giving what it writes back (nothing when it has no predicates). -/
def whereClause (g : Nat) : Parser (List Tok) := do
  let (any, toks) ← capture (do kw "where"; predicates g ((← ahead).length + 1))
  return if any then toks else []

def namedFields (g : Nat) : Nat → Parser (List Field)
  | 0 => throw depthLimit
  | n + 1 => do
    if ← atEnd then return []
    let as ← attrList g ((← ahead).length + 1)
    visibility
    let name ← if ← peek (Peek.kw "_") then anyIdent else ident
    op ":"
    let _ ← ty g true
    let f : Field := ⟨as, name⟩
    if ← atEnd then return [f]
    op ","
    let more ← namedFields g n
    return f :: more

def tupleFields (g : Nat) : Nat → Parser Unit
  | 0 => throw depthLimit
  | n + 1 => do
    if ← atEnd then return
    let _ ← attrList g ((← ahead).length + 1)
    visibility
    let _ ← ty g true
    if ← atEnd then return
    op ","
    tupleFields g n

def variants (g : Nat) : Nat → Parser Unit
  | 0 => throw depthLimit
  | n + 1 => do
    if ← atEnd then return
    let _ ← attrList g ((← ahead).length + 1)
    visibility
    let _ ← ident
    let ts ← ahead
    if Peek.group .brace ts then
      let _ ← inGroup .brace (do namedFields g ((← ahead).length + 1))
    else if Peek.group .paren ts then
      inGroup .paren (do tupleFields g ((← ahead).length + 1))
    if ← op? "=" then
      let _ ← expr g true
    if ← atEnd then return
    op ","
    variants g n

def whereClause? (g : Nat) : Parser (Option (List Tok)) := do
  if ← peek (Peek.kw "where") then return some (← whereClause g) else return none

/-- Reads a struct body: `{ fields }`, `( fields ) ;` or `;`, with its where clause. -/
def structBody (g : Nat) : Parser (List Tok × Body) := do
  let wc ← whereClause? g
  let ts ← ahead
  if wc.isNone && Peek.group .paren ts then
    inGroup .paren (do tupleFields g ((← ahead).length + 1))
    let wc ← whereClause? g
    op ";"
    return (wc.getD [], .tuple)
  else if Peek.group .brace ts then
    let fields ← inGroup .brace (do namedFields g ((← ahead).length + 1))
    return (wc.getD [], .named fields)
  else if Peek.op ";" ts then
    op ";"
    return (wc.getD [], .unit)
  else fail "expected curly braces or `;`"

def item (g : Nat) : Parser Item := do
  let as ← attrList g ((← ahead).length + 1)
  visibility
  let ts ← ahead
  if Peek.kw "struct" ts then
    kw "struct"
    let name ← ident
    let ps ← generics g
    let (wc, body) ← structBody g
    return ⟨as, name, ps, wc, body⟩
  else if Peek.kw "enum" ts then
    kw "enum"
    let name ← ident
    let ps ← generics g
    let wc ← whereClause? g
    inGroup .brace (do variants g ((← ahead).length + 1))
    return ⟨as, name, ps, wc.getD [], .enum⟩
  else if Peek.kw "union" ts then
    kw "union"
    let name ← ident
    let ps ← generics g
    let wc ← whereClause? g
    let _ ← inGroup .brace (do namedFields g ((← ahead).length + 1))
    return ⟨as, name, ps, wc.getD [], .union⟩
  else fail "expected one of: `struct`, `enum`, `union`"

def tokenCount : List Tok → Nat
  | [] => 0
  | .group _ inner :: rest => 1 + tokenCount inner + tokenCount rest
  | _ :: rest => 1 + tokenCount rest

/-- Fuel enough for any rule on these tokens: every call chain reads a token within a few
steps. -/
def fuelFor (ts : List Tok) : Nat := 64 * (tokenCount ts + 4)

/-- Reads a whole type definition from tokens; all tokens must be used. -/
def parseItem (ts : List Tok) : Except String Item :=
  (runOn (item (fuelFor ts)) ts).map (·.1)

end TableBind.Derive
