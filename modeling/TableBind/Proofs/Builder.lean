import Mathlib
import TableBind.Derive.Expand
import TableBind.Proofs.Literal
import TableBind.Table.Schema

/-! What generated code does when it runs: an evaluator of the builder calls it makes, from
`Locator::parse` and `TableDescriptor::new` to `TableSchema::builder` with `.field` and
`.build()`. `coll` says which field types hold a list of cells, and `act` gives a custom
function's action. -/

namespace TableBind.Derive.Builder

def isComma : Tok → Bool
  | .punct ',' _ => true
  | _ => false

def isSemi : Tok → Bool
  | .punct ';' _ => true
  | _ => false

def isImpl : Tok → Bool
  | .ident "impl" false => true
  | _ => false

def isAssign : Tok → Bool
  | .punct '=' _ => true
  | _ => false

/-- The arguments of a call, split at the top-level commas; a trailing comma is allowed. -/
def args (ts : List Tok) : List (List Tok) :=
  let ps := ts.splitOnP isComma
  if ps.getLast?.any List.isEmpty then ps.dropLast else ps

def lastArg (ts : List Tok) : Option (List Tok × List Tok) :=
  match ts.reverse.dropWhile (!isComma ·) with
  | _ :: front => some (front.reverse, (ts.reverse.takeWhile (!isComma ·)).reverse)
  | [] => none

def callToks (ty fn : String) (a : List Tok) : List Tok :=
  [.punct ':' true, .punct ':' false, .ident "rowbind" false, .punct ':' true,
   .punct ':' false, .ident ty false, .punct ':' true, .punct ':' false, .ident fn false,
   .group .paren a]

def methodToks (m : String) (a : List Tok) : List Tok :=
  [.punct '.' false, .ident m false, .group .paren a]

/-- The arguments of a call `:: rowbind :: ty :: fn (...)` at the start, and what follows. -/
def call? (ty fn : String) : List Tok → Option (List Tok × List Tok)
  | .punct ':' true :: .punct ':' false :: .ident "rowbind" false :: .punct ':' true ::
      .punct ':' false :: .ident t false :: .punct ':' true :: .punct ':' false ::
      .ident f false :: .group .paren a :: rest =>
    if t = ty ∧ f = fn then some (a, rest) else none
  | _ => none

def text? : List Tok → Option String
  | [.lit t] => if isStrText t then strValue t else none
  | _ => none

def int? : List Tok → Option Int
  | [.lit t] =>
    match intLiteral t with
    | some (v, "i32") => some v
    | _ => none
  | [.punct '-' _, .lit t] =>
    match intLiteral t with
    | some (v, "i32") => some (-v)
    | _ => none
  | _ => none

def locator? (ts : List Tok) : Option Locator :=
  match call? "Locator" "parse" ts with
  | some (a, []) =>
    match args a with
    | [s] => (text? s).map Locator.parse
    | _ => none
  | _ => none

/-- A route of the route type `ty`: `ty::component(kind, key, order)` or
`ty::custom(function, order)`. -/
def route? (act : List Tok → Action) (ty : String) (ts : List Tok) : Option Route :=
  match call? ty "component" ts with
  | some (a, []) =>
    match args a with
    | [k, key, o] => do
      let kind ← text? k
      let key ← text? key
      let order ← int? o
      pure ⟨.component ⟨kind, key⟩, order⟩
    | _ => none
  | _ =>
    match call? ty "custom" ts with
    | some (a, []) =>
      match lastArg a with
      | some (f, o) => (int? o).map fun order => ⟨.custom (act f), order⟩
      | none => none
    | _ => none

def setting (act : List Tok → Action) (m : String) (as : List (List Tok)) (b : Binding) :
    Option Binding :=
  match m, as with
  | "cell", [l] => (locator? l).map fun l => { b with place := { b.place with cell := some l } }
  | "cell_text", [l] =>
    (locator? l).map fun l => { b with place := { b.place with cellText := some l } }
  | "header_cell", [l] =>
    (locator? l).map fun l => { b with place := { b.place with headerCell := some l } }
  | "section", [s] =>
    (text? s).map fun s => { b with place := { b.place with sectionName := s } }
  | "direct_text", [] => some { b with place := { b.place with directText := true } }
  | "insertion", [r] => (route? act "InsertionRoute" r).map fun r => { b with insertion := some r }
  | "filter", [r] => (route? act "FilterRoute" r).map fun r => { b with filter := some r }
  | _, _ => none

def configure (act : List Tok → Action) : Binding → List Tok → Option Binding
  | b, [] => some b
  | b, .punct '.' false :: .ident m false :: .group .paren a :: rest =>
    (setting act m (args a) b).bind fun b' => configure act b' rest
  | _, _ => none

def getterToks (f : Tok) : List Tok :=
  [.punct '|' false, .ident "row" false, .punct ':' false, .punct '&' false, .ident "Self" false,
   .punct '|' false, .punct '&' false, .ident "row" false, .punct '.' false, f]

def selfConstToks (k : String) : List Tok :=
  [.ident "Self" false, .punct ':' true, .punct ':' false, .ident k false]

def getterField : List Tok → Option String
  | [.punct '|' false, .ident "row" false, .punct ':' false, .punct '&' false,
     .ident "Self" false, .punct '|' false, .punct '&' false, .ident "row" false,
     .punct '.' false, .ident f _] => some f
  | _ => none

/-- A field binding `FieldBinding::new(Self::K, getter)` with its configuring calls; the
constant `K` gives the name, the getter's field the shape. -/
def binding? (coll : String → Bool) (act : List Tok → Action) (consts : List (String × String))
    (ts : List Tok) : Option Binding :=
  match call? "FieldBinding" "new" ts with
  | some (a, calls) =>
    match args a with
    | [[.ident "Self" false, .punct ':' true, .punct ':' false, .ident k false], getter] => do
      let name ← consts.lookup k
      let f ← getterField getter
      configure act { name, place := { collection := coll f } } calls
    | _ => none
  | none => none

def withSections : Descriptor → List Tok → Option Descriptor
  | d, [] => some d
  | d, .punct '.' false :: .ident "section" false :: .group .paren a :: rest =>
    match args a with
    | [n, l] => do
      let name ← text? n
      let rows ← locator? l
      withSections { d with sections := d.sections ++ [⟨name, rows⟩] } rest
    | _ => none
  | _, _ => none

/-- A table descriptor `TableDescriptor::new(container, rows, header_row)` with its sections. -/
def descriptor? (ts : List Tok) : Option Descriptor :=
  match call? "TableDescriptor" "new" ts with
  | some (a, chain) =>
    match args a with
    | [c, r, h] => do
      let container ← locator? c
      let rows ← locator? r
      let headerRow ← locator? h
      withSections { container, rows, headerRow } chain
    | _ => none
  | none => none

def withFields (coll : String → Bool) (act : List Tok → Action) (consts : List (String × String))
    (d : Descriptor) : List Binding → List Tok → Option (Except TableError Schema)
  | bs, [.punct '.' false, .ident "build" false, .group .paren []] => some (Schema.build d bs)
  | bs, .punct '.' false :: .ident "field" false :: .group .paren a :: rest =>
    (binding? coll act consts a).bind fun b => withFields coll act consts d (bs ++ [b]) rest
  | _, _ => none

def schemaBody (coll : String → Bool) (act : List Tok → Action) (consts : List (String × String)) :
    List Tok → Option (Except TableError Schema)
  | .ident "let" false :: .ident "table" false :: .punct '=' false :: rest =>
    match rest.splitOnP isSemi with
    | [desc, build] => do
      let d ← descriptor? desc
      match call? "TableSchema" "builder" build with
      | some ([.ident "table" false], chain) => withFields coll act consts d [] chain
      | _ => none
    | _ => none
  | _ => none

def constant? : List Tok → Option (String × String)
  | .ident "pub" false :: .ident "const" false :: .ident k false :: rest =>
    match rest.dropWhile (!isAssign ·) with
    | _ :: e =>
      match call? "TableField" "new" e with
      | some (a, []) =>
        match args a with
        | n :: _ => (text? n).map (k, ·)
        | [] => none
      | _ => none
    | [] => none
  | _ => none

/-- The field constants of an implementation body, by name. -/
def constants (body : List Tok) : List (String × String) :=
  (body.splitOnP isSemi).filterMap constant?

/-- What `table_schema()` returns, for code made of an inherent implementation holding the
field constants and the implementation of the table row trait. -/
def tableSchema (coll : String → Bool) (act : List Tok → Action) (code : List Tok) :
    Option (Except TableError Schema) :=
  match code.splitOnP isImpl with
  | [[], inherent, rowImpl] =>
    match inherent.getLast?, rowImpl.getLast? with
    | some (.group .brace cs),
      some (.group .brace (.ident "fn" false :: .ident "table_schema" false :: .group .paren [] :: sig)) =>
      match sig.getLast? with
      | some (.group .brace body) => schemaBody coll act (constants cs) body
      | _ => none
    | _, _ => none
  | _ => none

/-! ### Reading literals and calls -/

theorem call?_callToks (ty fn : String) (a rest : List Tok) :
    call? ty fn (callToks ty fn a ++ rest) = some (a, rest) := by
  simp [call?, callToks]

theorem call?_callToks_of_ne {ty fn fn' : String} (h : fn' ≠ fn) (a rest : List Tok) :
    call? ty fn (callToks ty fn' a ++ rest) = none := by
  simp [call?, callToks, h]

theorem text?_strTok (s : String) : text? [strTok s] = some s := by
  simp [text?, strTok, isStrText_quoteLiteral, strValue_quoteLiteral]

theorem int?_orderToks (v : Int) : int? (orderToks v) = some v := by
  unfold orderToks
  split_ifs with hneg
  · simp only [int?, intLiteral_i32, Option.some.injEq]
    omega
  · simp only [int?, intLiteral_i32, Option.some.injEq]
    omega

theorem isSemi_callToks (ty fn : String) (a : List Tok) : ∀ t ∈ callToks ty fn a, isSemi t = false := by
  simp [callToks, isSemi]

theorem isSemi_methodToks (m : String) (a : List Tok) : ∀ t ∈ methodToks m a, isSemi t = false := by
  simp [methodToks, isSemi]

/-! ### Arguments -/

/-- Tokens with no top-level comma. -/
def CommaFree (ts : List Tok) : Prop := ∀ t ∈ ts, isComma t = false

theorem splitOnP_commaFree {a : List Tok} (ha : CommaFree a) (rest : List Tok) :
    (a ++ .punct ',' false :: rest).splitOnP isComma = a :: rest.splitOnP isComma :=
  List.splitOnP_append_cons_of_forall_mem ha _ rfl rest

@[simp] theorem args_nil : args [] = [] := rfl

theorem args_single {a : List Tok} (ha : CommaFree a) (hne : a ≠ []) : args a = [a] := by
  simp [args, List.splitOnP_eq_singleton ha, hne]

theorem args_append_comma {a : List Tok} (ha : CommaFree a) (rest : List Tok) :
    args (a ++ .punct ',' false :: rest) = a :: args rest := by
  -- the pieces of `rest` are never empty, so the trailing-comma check looks at them alone
  obtain ⟨q, qs, hq⟩ := List.exists_cons_of_ne_nil (List.splitOnP_ne_nil isComma rest)
  simp only [args, splitOnP_commaFree ha, hq, List.getLast?_cons_cons]
  split_ifs <;> simp

theorem args_strTok (s : String) : args [strTok s] = [[strTok s]] :=
  args_single (by simp [CommaFree, strTok, isComma]) (by simp)

theorem args_cons_comma {t : Tok} (ht : isComma t = false) (rest : List Tok) :
    args (t :: .punct ',' false :: rest) = [t] :: args rest :=
  args_append_comma (a := [t]) (by simpa [CommaFree] using ht) rest

theorem lastArg_append {o : List Tok} (ho : CommaFree o) (f : List Tok) :
    lastArg (f ++ .punct ',' false :: o) = some (f, o) := by
  have hpos : ∀ t ∈ o.reverse, (!isComma t) = true := by
    intro t ht
    simpa using ho t (List.mem_reverse.1 ht)
  simp only [lastArg, List.reverse_append, List.reverse_cons, List.append_assoc,
    List.singleton_append, List.dropWhile_append_of_pos hpos, List.takeWhile_append_of_pos hpos]
  simp [isComma]

theorem commaFree_orderToks (v : Int) : CommaFree (orderToks v) := by
  unfold orderToks
  split_ifs <;> simp [CommaFree, isComma]

theorem commaFree_callToks (ty fn : String) (a : List Tok) : CommaFree (callToks ty fn a) := by
  simp [CommaFree, callToks, isComma]

end TableBind.Derive.Builder
