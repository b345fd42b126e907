import TableBind.Derive.Item

/-! The attributes that drive code generation: `#[table(...)]` on the struct, and
`#[cell(...)]`, `#[insert(...)]`, `#[filter(...)]` on its fields. Each attribute's argument
list is read as a whole first; its items are then checked left to right, and the first bad
one gives the error. -/

namespace TableBind.Derive

open TableBind.Derive.Parser

structure SectionAttr where
  name : String
  rows : String
  deriving Inhabited

/-- The struct's table attributes; several `#[table]` attributes merge. -/
structure TableAttr where
  container : Option String := none
  rows : Option String := none
  headerRow : Option String := none
  sections : List SectionAttr := []
  deriving Inhabited

/-- Merging: a value of the later attribute wins, sections accumulate in order. -/
def TableAttr.merge (a b : TableAttr) : TableAttr :=
  { container := b.container <|> a.container
    rows := b.rows <|> a.rows
    headerRow := b.headerRow <|> a.headerRow
    sections := a.sections ++ b.sections }

structure CellAttr where
  locator : Option String := none
  text : Option String := none
  header : Option String := none
  sectionName : Option String := none
  directText : Bool := false
  deriving Inhabited

/-- Where an insert or filter request goes: a registered component (kind and key), or a
custom function given as an expression. -/
inductive RouteTarget where
  | component (kind key : String)
  | custom (tokens : List Tok)
  deriving Inhabited

structure RouteAttr where
  target : RouteTarget
  order : Int
  deriving Inhabited

structure FieldAttrs where
  cell : Option CellAttr := none
  insert : Option RouteAttr := none
  filter : Option RouteAttr := none
  deriving Inhabited

def metaList (g : Nat) : Nat → Parser (List MetaItem)
  | 0 => throw depthLimit
  | n + 1 => do
    if ← atEnd then return []
    let m ← metaItem g
    if ← atEnd then return [m]
    op ","
    let more ← metaList g n
    return m :: more

def listItems (ts : List Tok) : Except String (List MetaItem) :=
  (runOn (metaList (fuelFor ts) (ts.length + 1)) ts).map (·.1)

def argItems (name : String) (m : MetaItem) : Except String (List MetaItem) :=
  match m.args with
  | .none => .error ("expected attribute arguments in parentheses: #[" ++ name ++ "(...)]")
  | .value _ _ => .error ("expected parentheses: #[" ++ name ++ "(...)]")
  | .list ts => listItems ts

def stringValue (key : String) (m : MetaItem) : Except String String :=
  let refuse : Except String String := .error (key ++ " must be a string literal")
  match m.args with
  | .value (.lit t) _ => if isStrText t then (strValue t).elim refuse .ok else refuse
  | _ => refuse

def fitI32 (v : Int) : Except String Int :=
  if v > 2147483647 then .error "number too large to fit in target type"
  else if v < -2147483648 then .error "number too small to fit in target type"
  else .ok v

/-- The value of `order = N`: an integer literal, maybe negated, that fits in 32 bits. -/
def orderValue : Shape → Except String Int
  | .lit t =>
    match intLiteral t with
    | some (v, _) => fitI32 v
    | none => .error "order must be an integer"
  | .neg (some t) =>
    match intLiteral t with
    | some (v, _) => (fitI32 v).map (- ·)
    | none => .error "order must be an integer"
  | _ => .error "order must be an integer"

def sectionStep (acc : Option String × Option String) (m : MetaItem) :
    Except String (Option String × Option String) :=
  match m.name, m.args with
  | some "name", .value _ _ => return (some (← stringValue "name" m), acc.2)
  | some "rows", .value _ _ => return (acc.1, some (← stringValue "rows" m))
  | _, _ => .error "unknown section attribute. Expected: name = \"...\" or rows = \"...\""

def tableStep (acc : TableAttr) (m : MetaItem) : Except String TableAttr :=
  match m.name, m.args with
  | some "container", .value _ _ => return { acc with container := some (← stringValue "container" m) }
  | some "rows", .value _ _ => return { acc with rows := some (← stringValue "rows" m) }
  | some "header_row", .value _ _ =>
    return { acc with headerRow := some (← stringValue "header_row" m) }
  | some "section", .list ts => do
    let items ← listItems ts
    match ← items.foldlM sectionStep (none, none) with
    | (some n, some r) => return { acc with sections := acc.sections ++ [⟨n, r⟩] }
    | _ => .error "section requires both name = \"...\" and rows = \"...\""
  | _, _ => .error "unknown table attribute. Expected: container, rows, header_row or section(...)"

def cellStep (acc : CellAttr) (m : MetaItem) : Except String CellAttr :=
  match m.name, m.args with
  | some "direct_text", .none => return { acc with directText := true }
  | some "locator", .value _ _ => return { acc with locator := some (← stringValue "locator" m) }
  | some "text", .value _ _ => return { acc with text := some (← stringValue "text" m) }
  | some "header", .value _ _ => return { acc with header := some (← stringValue "header" m) }
  | some "section", .value _ _ =>
    return { acc with sectionName := some (← stringValue "section" m) }
  | _, _ => .error "unknown cell attribute. Expected: locator, text, header, section or direct_text"

abbrev RouteItems := Option String × Option String × Option (List Tok) × Int

def routeStep (acc : RouteItems) (m : MetaItem) : Except String RouteItems :=
  let (component, key, custom, order) := acc
  match m.name, m.args with
  | some "component", .value _ _ => return (some (← stringValue "component" m), key, custom, order)
  | some "key", .value _ _ => return (component, some (← stringValue "key" m), custom, order)
  | some "custom", .value _ toks => return (component, key, some toks, order)
  | some "order", .value shape _ => return (component, key, custom, ← orderValue shape)
  | _, _ => .error "unknown route attribute. Expected: component, key, custom or order"

/-- A route from its items: exactly one of component and custom; a key only with a
component, defaulting to the kind. -/
def routeAttr (items : List MetaItem) : Except String RouteAttr := do
  let (component, key, custom, order) ← items.foldlM routeStep (none, none, none, 0)
  match component, custom with
  | some _, some _ => .error "a field may declare either component or custom, not both"
  | some kind, none => return ⟨.component kind (key.getD kind), order⟩
  | none, some c =>
    if key.isSome then .error "key is only valid with component" else return ⟨.custom c, order⟩
  | none, none => .error "expected component = \"...\" or custom = path::to::function"

def tableAttrs (attrs : List MetaItem) : Except String TableAttr :=
  attrs.foldlM (fun acc m =>
    if m.name == some "table" then do
      let items ← argItems "table" m
      return acc.merge (← items.foldlM tableStep {})
    else return acc) {}

/-- One attribute of a field: `cell`, `insert` or `filter` (each at most once); others are
left alone. -/
def fieldStep (acc : FieldAttrs) (m : MetaItem) : Except String FieldAttrs :=
  match m.name with
  | some "cell" =>
    if acc.cell.isSome then .error "duplicate #[cell] attribute"
    else match m.args with
      | .none => return { acc with cell := some {} }
      | _ => do
        let items ← argItems "cell" m
        return { acc with cell := some (← items.foldlM cellStep {}) }
  | some "insert" =>
    if acc.insert.isSome then .error "duplicate #[insert] attribute"
    else do return { acc with insert := some (← routeAttr (← argItems "insert" m)) }
  | some "filter" =>
    if acc.filter.isSome then .error "duplicate #[filter] attribute"
    else do return { acc with filter := some (← routeAttr (← argItems "filter" m)) }
  | _ => return acc

def fieldAttrs (attrs : List MetaItem) : Except String FieldAttrs :=
  attrs.foldlM fieldStep {}

end TableBind.Derive
