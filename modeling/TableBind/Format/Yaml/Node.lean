import TableBind.Format.Yaml.Token

/-! The YAML node grammar over scanner tokens. Each rule takes fuel and eats a token before it
calls another (but for an indentless sequence), so twice the token count is enough. An alias met
inside the node its anchor names reads as `cycle`. -/

namespace TableBind.Yaml

/-- A YAML node: a scalar with its text, whether it was plain, and its resolved tag; a
sequence; a mapping with its pairs in order; or an alias to a node still being read. -/
inductive Node where
  | scalar (text : String) (plain : Bool) (tag : Option String)
  | seq (items : List Node)
  | map (pairs : List (Node × Node))
  | cycle
  deriving Inhabited

/-- The empty plain scalar, which stands for a node left out. -/
def Node.empty : Node := .scalar "" true none

/-- The reading state: the tokens left, the anchors seen (latest first, with the node once
it is complete), the next anchor number, and the tag handles of the document. -/
structure Reader where
  toks : List Token
  anchors : List (String × Nat × Option Node)
  fresh : Nat
  handles : List (String × String)

abbrev ReadM := StateT Reader (Except String)

namespace Read

def peek : ReadM Token := do return (← get).toks.headD .streamEnd

def advance : ReadM Unit := modify fun r => { r with toks := r.toks.tail }

/-- Node properties: an anchor and a tag, in either order, each at most once. -/
def props : ReadM (Option String × Option (String × String)) := do
  match ← peek with
  | .anchor a =>
    advance
    match ← peek with
    | .tag h s =>
      advance
      return (some a, some (h, s))
    | _ => return (some a, none)
  | .tag h s =>
    advance
    match ← peek with
    | .anchor a =>
      advance
      return (some a, some (h, s))
    | _ => return (none, some (h, s))
  | _ => return (none, none)

def resolveTag : String × String → ReadM String
  | (h, s) =>
    if h.isEmpty then pure s
    else do
      match (← get).handles.lookup h with
      | some p => pure (p ++ s)
      | none => throw "found undefined tag handle"

def openAnchor (name : String) : ReadM Nat := do
  let r ← get
  set { r with anchors := (name, r.fresh, none) :: r.anchors, fresh := r.fresh + 1 }
  return r.fresh

def closeAnchor (n : Node) : Option Nat → ReadM Unit
  | none => pure ()
  | some k => modify fun r =>
    { r with anchors := r.anchors.map fun e => if e.2.1 == k then (e.1, k, some n) else e }

def aliased (name : String) : ReadM Node := do
  match (← get).anchors.find? (·.1 == name) with
  | some (_, _, some n) => pure n
  | some (_, _, none) => pure .cycle
  | none => throw "found undefined alias"

def endsBlockEntry : Token → Bool
  | .key | .value | .blockEnd => true
  | _ => false

mutual

/-- A node. `block` allows block collections; `indentless` allows a sequence whose `-`
entries stand at the indentation of the mapping key or value holding it. -/
def node (block indentless : Bool) : Nat → ReadM Node
  | 0 => throw "nesting too deep"
  | n + 1 => do
    if let .aliasTo a ← peek then
      advance
      return ← aliased a
    let (anchor, tag?) ← props
    let tag ← tag?.mapM resolveTag
    let k ← anchor.mapM openAnchor
    let v ← match ← peek with
      | .blockEntry =>
        if indentless then do pure (.seq (← indentlessSeq n []))
        else empty anchor tag?.isSome tag
      | .scalar text plain =>
        advance
        pure (.scalar text plain tag)
      | .flowSeqStart =>
        advance
        pure (.seq (← flowSeq n true []))
      | .flowMapStart =>
        advance
        pure (.map (← flowMap n true []))
      | .blockSeqStart =>
        if block then do
          advance
          pure (.seq (← blockSeq n []))
        else empty anchor tag?.isSome tag
      | .blockMapStart =>
        if block then do
          advance
          pure (.map (← blockMap n []))
        else empty anchor tag?.isSome tag
      | _ => empty anchor tag?.isSome tag
    closeAnchor v k
    return v

/-- A node with properties and no content is an empty scalar; without properties it is an
error. -/
def empty (anchor : Option String) (tagged : Bool) (tag : Option String) : ReadM Node :=
  if anchor.isSome || tagged then pure (.scalar "" true tag)
  else throw "did not find expected node content"

def blockSeq : Nat → List Node → ReadM (List Node)
  | 0, _ => throw "nesting too deep"
  | n + 1, acc => do
    match ← peek with
    | .blockEntry =>
      advance
      let item ← match ← peek with
        | .blockEntry | .blockEnd => pure Node.empty
        | _ => node true false n
      blockSeq n (acc ++ [item])
    | .blockEnd =>
      advance
      pure acc
    | _ => throw "did not find expected '-' indicator"

def indentlessSeq : Nat → List Node → ReadM (List Node)
  | 0, _ => throw "nesting too deep"
  | n + 1, acc => do
    match ← peek with
    | .blockEntry =>
      advance
      let item ← match ← peek with
        | .blockEntry | .key | .value | .blockEnd => pure Node.empty
        | _ => node true false n
      indentlessSeq n (acc ++ [item])
    | _ => pure acc

def blockMap : Nat → List (Node × Node) → ReadM (List (Node × Node))
  | 0, _ => throw "nesting too deep"
  | n + 1, acc => do
    match ← peek with
    | .key =>
      advance
      let k ← if endsBlockEntry (← peek) then pure Node.empty else node true true n
      let v ← match ← peek with
        | .value => do
          advance
          if endsBlockEntry (← peek) then pure Node.empty else node true true n
        | _ => pure Node.empty
      blockMap n (acc ++ [(k, v)])
    | .blockEnd =>
      advance
      pure acc
    | _ => throw "did not find expected key"

/-- The entries of a flow sequence, up to its `]`; an entry `k: v` is a one-pair mapping. -/
def flowSeq : Nat → Bool → List Node → ReadM (List Node)
  | 0, _, _ => throw "nesting too deep"
  | n + 1, first, acc => do
    if let .flowSeqEnd ← peek then
      advance
      return acc
    if !first then
      if let .flowEntry ← peek then advance
      else throw "did not find expected ',' or ']'"
    match ← peek with
    | .key =>
      advance
      let k ← match ← peek with
        | .value | .flowEntry | .flowSeqEnd => pure Node.empty
        | _ => node false false n
      let v ← match ← peek with
        | .value => do
          advance
          match ← peek with
          | .flowEntry | .flowSeqEnd => pure Node.empty
          | _ => node false false n
        | _ => pure Node.empty
      flowSeq n false (acc ++ [.map [(k, v)]])
    | .flowSeqEnd =>
      advance
      pure acc
    | _ =>
      let item ← node false false n
      flowSeq n false (acc ++ [item])

/-- The pairs of a flow mapping, up to its `}`; a key alone has an empty value. -/
def flowMap : Nat → Bool → List (Node × Node) → ReadM (List (Node × Node))
  | 0, _, _ => throw "nesting too deep"
  | n + 1, first, acc => do
    if let .flowMapEnd ← peek then
      advance
      return acc
    if !first then
      if let .flowEntry ← peek then advance
      else throw "did not find expected ',' or '\x7d'"
    match ← peek with
    | .key =>
      advance
      let k ← match ← peek with
        | .value | .flowEntry | .flowMapEnd => pure Node.empty
        | _ => node false false n
      let v ← match ← peek with
        | .value => do
          advance
          match ← peek with
          | .flowEntry | .flowMapEnd => pure Node.empty
          | _ => node false false n
        | _ => pure Node.empty
      flowMap n false (acc ++ [(k, v)])
    | .flowMapEnd =>
      advance
      pure acc
    | _ =>
      let k ← node false false n
      flowMap n false (acc ++ [(k, Node.empty)])

end

/-- The directives before an explicit document: at most one `%YAML` (version 1.1 or 1.2)
and `%TAG` handles declared once each. -/
def directives : Nat → Bool → List (String × String) → ReadM (List (String × String))
  | 0, _, hs => pure hs
  | n + 1, seenVersion, hs => do
    match ← peek with
    | .versionDirective major minor =>
      if seenVersion then throw "found duplicate %YAML directive"
      if major != 1 || (minor != 1 && minor != 2) then throw "found incompatible YAML document"
      advance
      directives n true hs
    | .tagDirective h p =>
      if hs.any (·.1 == h) then throw "found duplicate %TAG directive"
      advance
      directives n seenVersion (hs ++ [(h, p)])
    | _ => pure hs

def defaultHandles : List (String × String) := [("!", "!"), ("!!", "tag:yaml.org,2002:")]

def startsExplicit : Token → Bool
  | .versionDirective .. | .tagDirective .. | .docStart => true
  | _ => false

/-- The documents of a token stream. Only the first may be implicit (no `---`); later ones
need `---`, and stray `...` between documents are skipped. Anchors belong to one
document. -/
def documents (depth : Nat) : Nat → Bool → List Node → ReadM (List Node)
  | 0, _, docs => pure docs
  | n + 1, first, docs => do
    if !first then skipEnds n
    match ← peek with
    | .streamEnd => pure docs
    | t =>
      let implicit := first && !startsExplicit t
      let hs ← directives n false []
      modify fun r => { r with anchors := [], handles := hs ++ defaultHandles.filter fun d => !hs.any (·.1 == d.1) }
      let content ← if implicit then node true false depth
        else do
          if let .docStart ← peek then advance
          else throw "did not find expected <document start>"
          match ← peek with
          | .versionDirective .. | .tagDirective .. | .docStart | .docEnd | .streamEnd =>
            pure Node.empty
          | _ => node true false depth
      if let .docEnd ← peek then advance
      documents depth n false (docs ++ [content])
where
  /-- Skips `...` markers. -/
  skipEnds : Nat → ReadM Unit
    | 0 => pure ()
    | k + 1 => do
      if let .docEnd ← peek then
        advance
        skipEnds k

end Read

def readDocuments (toks : List Token) : Except String (List Node) :=
  let fuel := 2 * toks.length + 4
  match (Read.documents fuel fuel true []).run ⟨toks.drop 1, [], 0, []⟩ with
  | .ok (docs, _) => .ok docs
  | .error e => .error e

end TableBind.Yaml
