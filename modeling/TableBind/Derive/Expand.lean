import TableBind.Derive.Attrs
import TableBind.Text.Quoted
import TableBind.Text.Uppercase

/-! Code generation for a table row type. From a struct's attributes it writes one
`TableField` constant per bound field and the `TableRow` implementation that registers the
table descriptor, its sections and the field bindings. The code is built from templates
written in their printed form, with `$name` holes filled by token lists. -/

namespace TableBind.Derive

/-- Replaces each hole `$name` by the tokens `env` gives for the name, inside groups too. -/
def fill (env : List (String × List Tok)) : List Tok → List Tok
  | .punct '$' _ :: .ident k _ :: rest => (env.lookup k).getD [] ++ fill env rest
  | .group d inner :: rest => .group d (fill env inner) :: fill env rest
  | t :: rest => t :: fill env rest
  | [] => []

def template (text : String) (env : List (String × List Tok)) : List Tok :=
  fill env ((Lex.tokenize text).getD [])

def strTok (s : String) : Tok := .lit (Text.quoteLiteral s)

/-- The `i32` literal of an order; a negative one is a minus sign and the literal. -/
def orderToks (v : Int) : List Tok :=
  if v < 0 then [.punct '-' false, .lit (toString v.natAbs ++ "i32")]
  else [.lit (toString v.natAbs ++ "i32")]

/-- The constant name of a field: an underscore goes before an uppercase character that
follows a lowercase one, and ASCII letters are uppercased. -/
def screamingChars : List Char → Bool → List Char
  | [], _ => []
  | c :: r, afterLower =>
    if Text.isUppercase c then (if afterLower then ['_', c] else [c]) ++ screamingChars r false
    else if c = '_' then '_' :: screamingChars r false
    else c.toUpper :: screamingChars r true

def screaming (s : String) : String := String.ofList (screamingChars s.toList false)

/-- The generic parameters of the implementation: lifetimes first with their bounds, then
types with bounds and constants with types, defaults left off. -/
def implGenerics (ps : List Param) : List Tok :=
  if ps.isEmpty then [] else
  let lifetimes := ps.filter (·.kind == .lifetime)
  let others := ps.filter (·.kind != .lifetime)
  let comma (p : Param) := if p.comma then Tok.op "," else []
  let bounded (p : Param) := if p.bounds.isEmpty then [] else Tok.op ":" ++ p.bounds
  let first := lifetimes.flatMap fun p => p.attrs ++ p.name ++ bounded p ++ comma p
  let sep := if others.isEmpty || (lifetimes.getLast?.map (·.comma)).getD true then []
    else Tok.op ","
  let rest := others.flatMap fun p =>
    (match p.kind with
      | .const => p.attrs ++ [Tok.word "const"] ++ p.name ++ Tok.op ":" ++ p.bounds
      | _ => p.attrs ++ p.name ++ bounded p) ++ comma p
  Tok.op "<" ++ first ++ sep ++ rest ++ Tok.op ">"

def typeGenerics (ps : List Param) : List Tok :=
  if ps.isEmpty then [] else
  let lifetimes := ps.filter (·.kind == .lifetime)
  let others := ps.filter (·.kind != .lifetime)
  let named (p : Param) := p.name ++ if p.comma then Tok.op "," else []
  let sep := if others.isEmpty || (lifetimes.getLast?.map (·.comma)).getD true then []
    else Tok.op ","
  Tok.op "<" ++ lifetimes.flatMap named ++ sep ++ others.flatMap named ++ Tok.op ">"

def locatorToks (s : String) : List Tok :=
  template ":: rowbind :: Locator :: parse ($s)" [("s", [strTok s])]

def routeToks (kind : String) (r : RouteAttr) : List Tok :=
  match r.target with
  | .component k key =>
    template ":: rowbind :: $ty :: component ($kind , $key , $order)"
      [("ty", [Tok.word kind]), ("kind", [strTok k]), ("key", [strTok key]),
       ("order", orderToks r.order)]
  | .custom f =>
    template ":: rowbind :: $ty :: custom ($f , $order)"
      [("ty", [Tok.word kind]), ("f", f), ("order", orderToks r.order)]

def bindingCalls (cell : CellAttr) (fa : FieldAttrs) : List Tok :=
  let call (name : String) (args : List Tok) := template ". $m ($a)" [("m", [Tok.word name]), ("a", args)]
  (cell.locator.map fun l => call "cell" (locatorToks l)).getD [] ++
  (cell.text.map fun l => call "cell_text" (locatorToks l)).getD [] ++
  (cell.header.map fun l => call "header_cell" (locatorToks l)).getD [] ++
  (cell.sectionName.map fun s => call "section" [strTok s]).getD [] ++
  (if cell.directText then call "direct_text" [] else []) ++
  (fa.insert.map fun r => call "insertion" (routeToks "InsertionRoute" r)).getD [] ++
  (fa.filter.map fun r => call "filter" (routeToks "FilterRoute" r)).getD []

def Tok.bareName : Tok → String
  | .ident n _ => n
  | _ => ""

/-- The constant and the binding of one bound field. -/
def fieldCode (f : Field) (cell : CellAttr) (fa : FieldAttrs) : List Tok × List Tok :=
  let name := f.name.bareName
  let k := Tok.word (screaming name)
  let env := [("k", [k]), ("n", [strTok name]), ("f", [f.name]), ("calls", bindingCalls cell fa)]
  (template ("pub const $k : :: rowbind :: TableField < Self > = :: rowbind :: TableField :: new " ++
      "($n , | row , field , value | \x7b :: rowbind :: CellSlot :: write_slot " ++
      "(& mut row . $f , field , value) \x7d) ;") env,
   template (". field (:: rowbind :: FieldBinding :: new (Self :: $k , | row : & Self | & row . $f)" ++
      " $calls)") env)

/-- The constants and bindings of the fields, in order; the first attribute error stops. -/
def fieldsCode : List Field → Except String (List Tok × List Tok)
  | [] => .ok ([], [])
  | f :: rest => do
    let fa ← fieldAttrs f.attrs
    match fa.cell with
    | none =>
      if fa.insert.isSome || fa.filter.isSome then
        .error "#[insert] and #[filter] require a #[cell] attribute on the same field"
      else fieldsCode rest
    | some cell =>
      let (c, b) := fieldCode f cell fa
      let (cs, bs) ← fieldsCode rest
      return (c ++ cs, b ++ bs)

def required (key : String) : Option String → Except String String
  | some v => .ok v
  | none => .error ("missing #[table(" ++ key ++ " = \"...\")] attribute")

/-- The generated code for a type definition, or the first error. -/
def generate (it : Item) : Except String (List Tok) := do
  let fields ← match it.body with
    | .named fs => pure fs
    | .tuple | .unit => .error "TableRow can only be derived for structs with named fields"
    | .enum | .union => .error "TableRow can only be derived for structs"
  let table ← tableAttrs it.attrs
  let container ← required "container" table.container
  let rows ← required "rows" table.rows
  let header ← required "header_row" table.headerRow
  let sections := table.sections.flatMap fun s =>
    template ". section ($n , $l)" [("n", [strTok s.name]), ("l", locatorToks s.rows)]
  let (consts, bindings) ← fieldsCode fields
  return template
    ("impl $ig $name $tg $wc \x7b $consts \x7d impl $ig :: rowbind :: TableRow for $name $tg $wc " ++
     "\x7b fn table_schema () -> :: rowbind :: Result < :: rowbind :: TableSchema < Self >> " ++
     "\x7b let table = :: rowbind :: TableDescriptor :: new ($c , $r , $h ,) $sections ; " ++
     ":: rowbind :: TableSchema :: builder (table) $bindings . build () \x7d \x7d")
    [("ig", implGenerics it.params), ("name", [it.name]), ("tg", typeGenerics it.params),
     ("wc", it.whereClause), ("consts", consts), ("c", locatorToks container),
     ("r", locatorToks rows), ("h", locatorToks header), ("sections", sections),
     ("bindings", bindings)]

inductive Outcome where
  /-- The generated code, as printed tokens. -/
  | code (text : String)
  /-- The source is a type definition, but code generation refused it. -/
  | refused (message : String)
  /-- The source is not a type definition. -/
  | unparsable
  deriving Repr, Inhabited

/-- Derives the table row code for a type definition given as source text. -/
def derive (src : String) : Outcome :=
  match Lex.tokenize src with
  | none => .unparsable
  | some ts =>
    match parseItem ts with
    | .error _ => .unparsable
    | .ok it =>
      match generate it with
      | .ok code => .code (renderTokens code)
      | .error m => .refused m

end TableBind.Derive
