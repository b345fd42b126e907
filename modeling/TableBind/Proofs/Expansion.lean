import TableBind.Proofs.Builder

/-! Generated code, read back with the builder evaluator. Each template has a fixed shape, so
each piece of code gives what its attribute says, and the whole code builds the schema of the
table attributes and the bound fields (`tableSchema_generate`). -/

namespace TableBind.Derive

open Builder

/-! ### The templates as tokens -/

private theorem tokenize_locatorCall :
    Lex.tokenize ":: rowbind :: Locator :: parse ($s)" =
      some (callToks "Locator" "parse" [.punct '$' false, .ident "s" false]) := by
  rfl

private theorem tokenize_componentCall :
    Lex.tokenize ":: rowbind :: $ty :: component ($kind , $key , $order)" =
      some [.punct ':' true, .punct ':' false, .ident "rowbind" false, .punct ':' true,
        .punct ':' false, .punct '$' false, .ident "ty" false, .punct ':' true, .punct ':' false,
        .ident "component" false,
        .group .paren [.punct '$' false, .ident "kind" false, .punct ',' false, .punct '$' false,
          .ident "key" false, .punct ',' false, .punct '$' false, .ident "order" false]] := by
  rfl

private theorem tokenize_customCall :
    Lex.tokenize ":: rowbind :: $ty :: custom ($f , $order)" =
      some [.punct ':' true, .punct ':' false, .ident "rowbind" false, .punct ':' true,
        .punct ':' false, .punct '$' false, .ident "ty" false, .punct ':' true, .punct ':' false,
        .ident "custom" false,
        .group .paren [.punct '$' false, .ident "f" false, .punct ',' false, .punct '$' false,
          .ident "order" false]] := by
  rfl

private theorem tokenize_methodCall :
    Lex.tokenize ". $m ($a)" =
      some [.punct '.' false, .punct '$' false, .ident "m" false,
        .group .paren [.punct '$' false, .ident "a" false]] := by
  rfl

private theorem tokenize_sectionCall :
    Lex.tokenize ". section ($n , $l)" =
      some (methodToks "section"
        [.punct '$' false, .ident "n" false, .punct ',' false, .punct '$' false, .ident "l" false]) := by
  rfl

set_option maxRecDepth 4000 in
private theorem tokenize_fieldConst :
    Lex.tokenize ("pub const $k : :: rowbind :: TableField < Self > = :: rowbind :: TableField :: new " ++
      "($n , | row , field , value | \x7b :: rowbind :: CellSlot :: write_slot " ++
      "(& mut row . $f , field , value) \x7d) ;") =
      some ([.ident "pub" false, .ident "const" false, .punct '$' false, .ident "k" false,
        .punct ':' false, .punct ':' true, .punct ':' false, .ident "rowbind" false,
        .punct ':' true, .punct ':' false, .ident "TableField" false, .punct '<' false,
        .ident "Self" false, .punct '>' false, .punct '=' false] ++
        callToks "TableField" "new" [.punct '$' false, .ident "n" false, .punct ',' false,
          .punct '|' false, .ident "row" false, .punct ',' false, .ident "field" false,
          .punct ',' false, .ident "value" false, .punct '|' false,
          .group .brace (callToks "CellSlot" "write_slot" [.punct '&' false, .ident "mut" false,
            .ident "row" false, .punct '.' false, .punct '$' false, .ident "f" false,
            .punct ',' false, .ident "field" false, .punct ',' false, .ident "value" false])] ++
        [.punct ';' false]) := by
  rfl

set_option maxRecDepth 4000 in
private theorem tokenize_fieldBinding :
    Lex.tokenize (". field (:: rowbind :: FieldBinding :: new (Self :: $k , | row : & Self | & row . $f)" ++
      " $calls)") =
      some (methodToks "field" (callToks "FieldBinding" "new" [.ident "Self" false,
        .punct ':' true, .punct ':' false, .punct '$' false, .ident "k" false, .punct ',' false,
        .punct '|' false, .ident "row" false, .punct ':' false, .punct '&' false,
        .ident "Self" false, .punct '|' false, .punct '&' false, .ident "row" false,
        .punct '.' false, .punct '$' false, .ident "f" false] ++
        [.punct '$' false, .ident "calls" false])) := by
  rfl

set_option maxRecDepth 8000 in
private theorem tokenize_rowImpl :
    Lex.tokenize
      ("impl $ig $name $tg $wc \x7b $consts \x7d impl $ig :: rowbind :: TableRow for $name $tg $wc " ++
       "\x7b fn table_schema () -> :: rowbind :: Result < :: rowbind :: TableSchema < Self >> " ++
       "\x7b let table = :: rowbind :: TableDescriptor :: new ($c , $r , $h ,) $sections ; " ++
       ":: rowbind :: TableSchema :: builder (table) $bindings . build () \x7d \x7d") =
      some [.ident "impl" false, .punct '$' false, .ident "ig" false, .punct '$' false,
        .ident "name" false, .punct '$' false, .ident "tg" false, .punct '$' false,
        .ident "wc" false, .group .brace [.punct '$' false, .ident "consts" false],
        .ident "impl" false, .punct '$' false, .ident "ig" false, .punct ':' true,
        .punct ':' false, .ident "rowbind" false, .punct ':' true, .punct ':' false,
        .ident "TableRow" false, .ident "for" false, .punct '$' false, .ident "name" false,
        .punct '$' false, .ident "tg" false, .punct '$' false, .ident "wc" false,
        .group .brace ([.ident "fn" false, .ident "table_schema" false, .group .paren [],
          .punct '-' true, .punct '>' false, .punct ':' true, .punct ':' false,
          .ident "rowbind" false, .punct ':' true, .punct ':' false, .ident "Result" false,
          .punct '<' false, .punct ':' true, .punct ':' false, .ident "rowbind" false,
          .punct ':' true, .punct ':' false, .ident "TableSchema" false, .punct '<' false,
          .ident "Self" false, .punct '>' true, .punct '>' false,
          .group .brace ([.ident "let" false, .ident "table" false, .punct '=' false] ++
            callToks "TableDescriptor" "new" [.punct '$' false, .ident "c" false,
              .punct ',' false, .punct '$' false, .ident "r" false, .punct ',' false,
              .punct '$' false, .ident "h" false, .punct ',' false] ++
            [.punct '$' false, .ident "sections" false, .punct ';' false] ++
            callToks "TableSchema" "builder" [.ident "table" false] ++
            [.punct '$' false, .ident "bindings" false] ++ methodToks "build" [])])] := by
  rfl

/-! ### Shapes of the generated pieces -/

theorem locatorToks_eq (s : String) : locatorToks s = callToks "Locator" "parse" [strTok s] := by
  simp [locatorToks, template, tokenize_locatorCall, callToks, fill]

theorem routeToks_component (ty k key : String) (order : Int) :
    routeToks ty ⟨.component k key, order⟩ =
      callToks ty "component"
        ([strTok k, .punct ',' false, strTok key, .punct ',' false] ++ orderToks order) := by
  simp [routeToks, template, tokenize_componentCall, callToks, fill, Tok.word, List.lookup]

theorem routeToks_custom (ty : String) (f : List Tok) (order : Int) :
    routeToks ty ⟨.custom f, order⟩ = callToks ty "custom" (f ++ .punct ',' false :: orderToks order) := by
  simp [routeToks, template, tokenize_customCall, callToks, fill, Tok.word, List.lookup]

theorem methodCall_eq (m : String) (a : List Tok) :
    template ". $m ($a)" [("m", [Tok.word m]), ("a", a)] = methodToks m a := by
  simp [template, tokenize_methodCall, methodToks, fill, Tok.word, List.lookup]

theorem sectionCall_eq (s : SectionAttr) :
    template ". section ($n , $l)" [("n", [strTok s.name]), ("l", locatorToks s.rows)] =
      methodToks "section" (strTok s.name :: .punct ',' false :: locatorToks s.rows) := by
  simp [template, tokenize_sectionCall, methodToks, fill, List.lookup]

/-! ### Reading the pieces back -/

theorem locator?_locatorToks (s : String) : locator? (locatorToks s) = some (Locator.parse s) := by
  rw [locatorToks_eq, locator?, ← List.append_nil (callToks _ _ _), call?_callToks]
  dsimp only
  rw [args_single (by simp [CommaFree, strTok, isComma]) (by simp)]
  simp [text?_strTok]

def RouteAttr.route (act : List Tok → Action) (r : RouteAttr) : Route :=
  match r.target with
  | .component k key => ⟨.component ⟨k, key⟩, r.order⟩
  | .custom f => ⟨.custom (act f), r.order⟩

theorem route?_routeToks (act : List Tok → Action) (ty : String) (r : RouteAttr) :
    route? act ty (routeToks ty r) = some (r.route act) := by
  obtain ⟨target, order⟩ := r
  cases target with
  | component k key =>
    have hargs : args ([strTok k, .punct ',' false, strTok key, .punct ',' false] ++ orderToks order) =
        [[strTok k], [strTok key], orderToks order] := by
      have hne : orderToks order ≠ [] := by unfold orderToks; split_ifs <;> simp
      simp only [List.cons_append, List.nil_append]
      rw [args_cons_comma rfl, args_cons_comma rfl, args_single (commaFree_orderToks order) hne]
    rw [routeToks_component, route?, ← List.append_nil (callToks _ _ _), call?_callToks]
    dsimp only
    rw [hargs]
    simp [text?_strTok, int?_orderToks, RouteAttr.route]
  | custom f =>
    rw [routeToks_custom, route?, ← List.append_nil (callToks _ _ _),
      call?_callToks_of_ne (by decide), call?_callToks]
    dsimp only
    rw [lastArg_append (commaFree_orderToks order)]
    simp [int?_orderToks, RouteAttr.route]

theorem args_locatorToks (s : String) : args (locatorToks s) = [locatorToks s] := by
  rw [locatorToks_eq]
  exact args_single (commaFree_callToks _ _ _) (by simp [callToks])

theorem args_routeToks (ty : String) (r : RouteAttr) : args (routeToks ty r) = [routeToks ty r] := by
  obtain ⟨target, order⟩ := r
  cases target with
  | component k key =>
    rw [routeToks_component]
    exact args_single (commaFree_callToks _ _ _) (by simp [callToks])
  | custom f =>
    rw [routeToks_custom]
    exact args_single (commaFree_callToks _ _ _) (by simp [callToks])

/-! ### The configuring calls of a binding -/

/-- The binding a bound field's code registers: the field's name and shape, the locators
and section of its cell attribute, and its routes. -/
def fieldBinding (coll : String → Bool) (act : List Tok → Action) (f : Field) (cell : CellAttr)
    (fa : FieldAttrs) : Binding where
  name := f.name.bareName
  place :=
    { cell := cell.locator.map Locator.parse
      cellText := cell.text.map Locator.parse
      headerCell := cell.header.map Locator.parse
      sectionName := cell.sectionName.getD ""
      collection := coll f.name.bareName
      directText := cell.directText }
  insertion := fa.insert.map (·.route act)
  filter := fa.filter.map (·.route act)

section Configure

variable (act : List Tok → Action)

theorem configure_methodToks (b : Binding) (m : String) (a rest : List Tok) :
    configure act b (methodToks m a ++ rest) =
      (setting act m (args a) b).bind fun b' => configure act b' rest := rfl

theorem configure_opt {α β : Type} (o : Option α) (m : String) (toks : α → List Tok)
    (g : α → β) (set : Option β → Binding → Binding) (b : Binding)
    (hset : ∀ x, setting act m (args (toks x)) b = some (set (some (g x)) b))
    (hnone : set none b = b) (rest : List Tok) :
    configure act b ((o.map fun x => methodToks m (toks x)).getD [] ++ rest) =
      configure act (set (o.map g) b) rest := by
  cases o with
  | none => simp [hnone]
  | some x => simp [configure_methodToks, hset]

theorem configure_directText (d : Bool) (b : Binding) (hb : b.place.directText = false)
    (rest : List Tok) :
    configure act b ((if d then methodToks "direct_text" [] else []) ++ rest) =
      configure act { b with place := { b.place with directText := d } } rest := by
  cases d with
  | false =>
    obtain ⟨name, ⟨c, t, h, s, coll, dt⟩, ins, fil, mis⟩ := b
    simp_all
  | true => simp [configure_methodToks, setting]

theorem configure_bindingCalls (coll : String → Bool) (f : Field) (cell : CellAttr)
    (fa : FieldAttrs) :
    configure act { name := f.name.bareName, place := { collection := coll f.name.bareName } }
      (bindingCalls cell fa) = some (fieldBinding coll act f cell fa) := by
  rw [← List.append_nil (bindingCalls cell fa)]
  simp only [bindingCalls, methodCall_eq, List.append_assoc]
  rw [configure_opt act cell.locator "cell" locatorToks Locator.parse
      (fun o b => { b with place := { b.place with cell := o } }) _
      (fun l => by simp [args_locatorToks, setting, locator?_locatorToks]) rfl,
    configure_opt act cell.text "cell_text" locatorToks Locator.parse
      (fun o b => { b with place := { b.place with cellText := o } }) _
      (fun l => by simp [args_locatorToks, setting, locator?_locatorToks]) rfl,
    configure_opt act cell.header "header_cell" locatorToks Locator.parse
      (fun o b => { b with place := { b.place with headerCell := o } }) _
      (fun l => by simp [args_locatorToks, setting, locator?_locatorToks]) rfl,
    configure_opt act cell.sectionName "section" (fun s => [strTok s]) id
      (fun o b => { b with place := { b.place with sectionName := o.getD "" } }) _
      (fun s => by simp [args_strTok, setting, text?_strTok]) rfl,
    configure_directText act cell.directText _ rfl,
    configure_opt act fa.insert "insertion" (routeToks "InsertionRoute") (·.route act)
      (fun o b => { b with insertion := o }) _
      (fun r => by simp [args_routeToks, setting, route?_routeToks]) rfl,
    configure_opt act fa.filter "filter" (routeToks "FilterRoute") (·.route act)
      (fun o b => { b with filter := o }) _
      (fun r => by simp [args_routeToks, setting, route?_routeToks]) rfl]
  simp [configure, fieldBinding]

end Configure

/-! ### A field's constant and binding -/

theorem fieldConst_reads (f : Field) (cell : CellAttr) (fa : FieldAttrs) :
    ∃ item, (fieldCode f cell fa).1 = item ++ [.punct ';' false] ∧ (∀ t ∈ item, isSemi t = false) ∧
      constant? item = some (screaming f.name.bareName, f.name.bareName) := by
  let writer : List Tok :=
    [.punct '|' false, .ident "row" false, .punct ',' false, .ident "field" false,
     .punct ',' false, .ident "value" false, .punct '|' false,
     .group .brace (callToks "CellSlot" "write_slot" [.punct '&' false, .ident "mut" false,
       .ident "row" false, .punct '.' false, f.name, .punct ',' false, .ident "field" false,
       .punct ',' false, .ident "value" false])]
  refine ⟨[.ident "pub" false, .ident "const" false, .ident (screaming f.name.bareName) false,
      .punct ':' false, .punct ':' true, .punct ':' false, .ident "rowbind" false,
      .punct ':' true, .punct ':' false, .ident "TableField" false, .punct '<' false,
      .ident "Self" false, .punct '>' false, .punct '=' false] ++
      callToks "TableField" "new" (strTok f.name.bareName :: .punct ',' false :: writer), ?_, ?_, ?_⟩
  · unfold fieldCode template
    rw [tokenize_fieldConst]
    simp [fill, List.lookup, callToks, Tok.word, writer]
  · simp [isSemi, callToks]
  · simp only [constant?]
    simp [isAssign, callToks, call?, args_cons_comma (t := strTok _) rfl, text?_strTok]

theorem fieldCode_snd (f : Field) (cell : CellAttr) (fa : FieldAttrs) :
    (fieldCode f cell fa).2 = methodToks "field" (callToks "FieldBinding" "new"
      (selfConstToks (screaming f.name.bareName) ++ .punct ',' false :: getterToks f.name) ++
        bindingCalls cell fa) := by
  unfold fieldCode template
  rw [tokenize_fieldBinding]
  simp [fill, List.lookup, callToks, methodToks, selfConstToks, getterToks, Tok.word]

theorem binding?_fieldCode (coll : String → Bool) (act : List Tok → Action)
    {consts : List (String × String)} {f : Field} {n : String} {raw : Bool}
    (hname : f.name = .ident n raw) (hk : consts.lookup (screaming n) = some n)
    (cell : CellAttr) (fa : FieldAttrs) :
    binding? coll act consts (callToks "FieldBinding" "new"
      (selfConstToks (screaming f.name.bareName) ++ .punct ',' false :: getterToks f.name) ++
        bindingCalls cell fa) = some (fieldBinding coll act f cell fa) := by
  have hbare : f.name.bareName = n := by simp [hname, Tok.bareName]
  have hargs : args (selfConstToks (screaming n) ++ .punct ',' false :: getterToks f.name) =
      [selfConstToks (screaming n), getterToks f.name] := by
    rw [args_append_comma (by simp [CommaFree, selfConstToks, isComma]),
      args_single (by simp [CommaFree, isComma, getterToks, hname]) (by simp [getterToks])]
  have hcalls := configure_bindingCalls act coll f cell fa
  rw [hbare] at hcalls
  rw [binding?, hbare, call?_callToks]
  dsimp only
  rw [hargs]
  simp [selfConstToks, hk, getterField, getterToks, hname, hcalls]

/-! ### All fields -/

theorem Except.bind_eq_ok {ε α β : Type} {x : Except ε α} {f : α → Except ε β} {b : β} :
    x >>= f = .ok b ↔ ∃ a, x = .ok a ∧ f a = .ok b := by
  cases x <;> simp [bind, Except.bind]

/-- The bound fields in order, each with the cell and route attributes code generation reads. -/
def boundFields (fs : List Field) : List (Field × CellAttr × FieldAttrs) :=
  fs.filterMap fun f =>
    match fieldAttrs f.attrs with
    | .ok fa => fa.cell.map fun cell => (f, cell, fa)
    | .error _ => none

/-- Generated constants and bindings: those of the bound fields, in order. -/
theorem fieldsCode_eq {fs : List Field} {cs bs : List Tok} (h : fieldsCode fs = .ok (cs, bs)) :
    cs = (boundFields fs).flatMap (fun x => (fieldCode x.1 x.2.1 x.2.2).1) ∧
      bs = (boundFields fs).flatMap (fun x => (fieldCode x.1 x.2.1 x.2.2).2) := by
  induction fs generalizing cs bs with
  | nil =>
    simp only [fieldsCode, Except.ok.injEq, Prod.mk.injEq] at h
    obtain ⟨rfl, rfl⟩ := h
    simp [boundFields]
  | cons f rest ih =>
    rw [fieldsCode, Except.bind_eq_ok] at h
    obtain ⟨fa, hfa, h⟩ := h
    cases hcell : fa.cell with
    | none =>
      rw [hcell] at h
      split_ifs at h
      have hskip : boundFields (f :: rest) = boundFields rest := by
        simp [boundFields, hfa, hcell]
      rw [hskip]
      exact ih h
    | some cell =>
      rw [hcell] at h
      simp only [Except.bind_eq_ok] at h
      obtain ⟨⟨cs', bs'⟩, hrest, h⟩ := h
      simp only [pure, Except.pure, Except.ok.injEq, Prod.mk.injEq] at h
      have hcons : boundFields (f :: rest) = (f, cell, fa) :: boundFields rest := by
        simp [boundFields, hfa, hcell]
      obtain ⟨rfl, rfl⟩ := ih hrest
      rw [hcons]
      simp [h]

theorem constants_semi {item : List Tok} (hitem : ∀ t ∈ item, isSemi t = false) (rest : List Tok) :
    constants (item ++ .punct ';' false :: rest) = (constant? item).toList ++ constants rest := by
  rw [constants, List.splitOnP_append_cons_of_forall_mem hitem _ rfl, List.filterMap_cons]
  cases constant? item <;> rfl

theorem constants_fieldCode (L : List (Field × CellAttr × FieldAttrs)) :
    constants (L.flatMap fun x => (fieldCode x.1 x.2.1 x.2.2).1) =
      L.map fun x => (screaming x.1.name.bareName, x.1.name.bareName) := by
  induction L with
  | nil => rfl
  | cons x L ih =>
    obtain ⟨item, hcode, hsemi, hconst⟩ := fieldConst_reads x.1 x.2.1 x.2.2
    rw [List.flatMap_cons, hcode, List.append_assoc, List.singleton_append, constants_semi hsemi,
      hconst, ih]
    rfl

theorem withFields_field (coll : String → Bool) (act : List Tok → Action)
    (consts : List (String × String)) (d : Descriptor) (acc : List Binding) (a rest : List Tok) :
    withFields coll act consts d acc (methodToks "field" a ++ rest) =
      (binding? coll act consts a).bind fun b => withFields coll act consts d (acc ++ [b]) rest := by
  simp [methodToks, withFields]

theorem withFields_fieldCode (coll : String → Bool) (act : List Tok → Action)
    (consts : List (String × String)) (d : Descriptor) (L : List (Field × CellAttr × FieldAttrs))
    (hL : ∀ x ∈ L, ∃ n raw, x.1.name = .ident n raw ∧ consts.lookup (screaming n) = some n)
    (acc : List Binding) :
    withFields coll act consts d acc
        ((L.flatMap fun x => (fieldCode x.1 x.2.1 x.2.2).2) ++ methodToks "build" []) =
      some (Schema.build d (acc ++ L.map fun x => fieldBinding coll act x.1 x.2.1 x.2.2)) := by
  induction L generalizing acc with
  | nil => simp [methodToks, withFields]
  | cons x L ih =>
    obtain ⟨n, raw, hname, hk⟩ := hL x List.mem_cons_self
    rw [List.flatMap_cons, fieldCode_snd, List.append_assoc, withFields_field,
      binding?_fieldCode coll act hname hk, Option.bind_some,
      ih (fun y hy => hL y (List.mem_cons_of_mem x hy))]
    simp

/-! ### The table descriptor -/

/-- The descriptor the table attributes describe, given their three locators. -/
def TableAttr.descriptor (t : TableAttr) (container rows headerRow : String) : Descriptor where
  container := Locator.parse container
  rows := Locator.parse rows
  headerRow := Locator.parse headerRow
  sections := t.sections.map fun s => ⟨s.name, Locator.parse s.rows⟩

theorem withSections_sections (d : Descriptor) (ss : List SectionAttr) (rest : List Tok) :
    withSections d ((ss.flatMap fun s =>
        template ". section ($n , $l)" [("n", [strTok s.name]), ("l", locatorToks s.rows)]) ++ rest) =
      withSections { d with sections := d.sections ++ ss.map fun s => ⟨s.name, Locator.parse s.rows⟩ }
        rest := by
  induction ss generalizing d with
  | nil => simp
  | cons s ss ih =>
    have hargs : args (strTok s.name :: .punct ',' false :: locatorToks s.rows) =
        [[strTok s.name], locatorToks s.rows] := by
      rw [args_cons_comma rfl, args_locatorToks]
    rw [List.flatMap_cons, sectionCall_eq, List.append_assoc]
    simp only [methodToks, List.cons_append, List.nil_append, withSections, hargs, text?_strTok,
      locator?_locatorToks, ih]
    simp

/-! ### The whole code -/

def schemaFnHead : List Tok :=
  [.ident "fn" false, .ident "table_schema" false, .group .paren [], .punct '-' true,
   .punct '>' false, .punct ':' true, .punct ':' false, .ident "rowbind" false, .punct ':' true,
   .punct ':' false, .ident "Result" false, .punct '<' false, .punct ':' true, .punct ':' false,
   .ident "rowbind" false, .punct ':' true, .punct ':' false, .ident "TableSchema" false,
   .punct '<' false, .ident "Self" false, .punct '>' true, .punct '>' false]

def tableRowFor : List Tok :=
  [.punct ':' true, .punct ':' false, .ident "rowbind" false, .punct ':' true, .punct ':' false,
   .ident "TableRow" false, .ident "for" false]

def schemaBodyToks (t : TableAttr) (c r h : String) (bindings : List Tok) : List Tok :=
  [.ident "let" false, .ident "table" false, .punct '=' false] ++
    callToks "TableDescriptor" "new"
      (locatorToks c ++ .punct ',' false :: (locatorToks r ++ .punct ',' false ::
        (locatorToks h ++ [.punct ',' false]))) ++
    (t.sections.flatMap fun s =>
      template ". section ($n , $l)" [("n", [strTok s.name]), ("l", locatorToks s.rows)]) ++
    .punct ';' false :: (callToks "TableSchema" "builder" [.ident "table" false] ++ bindings ++
      methodToks "build" [])

theorem required_eq_ok {key v : String} {o : Option String} :
    required key o = .ok v ↔ o = some v := by
  cases o <;> simp [required]

/-- What code generation gives for a struct with named fields: an inherent implementation with
the field constants, and the table row implementation registering the table. -/
theorem generate_ok {it : Item} {fs : List Field} {code : List Tok} (hbody : it.body = .named fs)
    (h : generate it = .ok code) :
    ∃ t c r hr cs bs, tableAttrs it.attrs = .ok t ∧ t.container = some c ∧ t.rows = some r ∧
      t.headerRow = some hr ∧ fieldsCode fs = .ok (cs, bs) ∧
      code = .ident "impl" false ::
        ((implGenerics it.params ++ it.name :: (typeGenerics it.params ++ it.whereClause) ++
            [.group .brace cs]) ++ .ident "impl" false ::
          (implGenerics it.params ++ tableRowFor ++ it.name :: (typeGenerics it.params ++
            it.whereClause) ++ [.group .brace (schemaFnHead ++ [.group .brace (schemaBodyToks t c r hr bs)])])) := by
  rw [generate, hbody] at h
  simp only [Except.bind_eq_ok, required_eq_ok] at h
  obtain ⟨fs', hfs, t, ht, c, hc, r, hr, hh, hhr, ⟨cs, bs⟩, hfields, hcode⟩ := h
  cases hfs
  refine ⟨t, c, r, hh, cs, bs, ht, hc, hr, hhr, hfields, ?_⟩
  simp only [pure, Except.pure, Except.ok.injEq] at hcode
  subst hcode
  rw [template, tokenize_rowImpl]
  simp [fill, List.lookup, schemaBodyToks, schemaFnHead, tableRowFor, callToks, methodToks]

theorem lookup_map_of_nodup {α : Type} (k v : α → String) {L : List α} (h : (L.map k).Nodup)
    {x : α} (hx : x ∈ L) : (L.map fun y => (k y, v y)).lookup (k x) = some (v x) := by
  induction L with
  | nil => cases hx
  | cons y L ih =>
    rw [List.map_cons, List.nodup_cons] at h
    rcases List.mem_cons.1 hx with rfl | hx
    · simp
    · have hne : k x ≠ k y := fun hxy => h.1 (hxy ▸ List.mem_map_of_mem hx)
      simp [List.lookup, beq_eq_false_iff_ne.2 hne, ih h.2 hx]

def descriptorArgs (c r h : String) : List Tok :=
  locatorToks c ++ .punct ',' false :: (locatorToks r ++ .punct ',' false ::
    (locatorToks h ++ [.punct ',' false]))

def sectionsToks (t : TableAttr) : List Tok :=
  t.sections.flatMap fun s =>
    template ". section ($n , $l)" [("n", [strTok s.name]), ("l", locatorToks s.rows)]

theorem descriptor?_generated (t : TableAttr) (c r h : String) :
    descriptor? (callToks "TableDescriptor" "new" (descriptorArgs c r h) ++ sectionsToks t) =
      some (t.descriptor c r h) := by
  have hargs : args (descriptorArgs c r h) = [locatorToks c, locatorToks r, locatorToks h] := by
    have hfree := fun s => (locatorToks_eq s ▸ commaFree_callToks "Locator" "parse" [strTok s] :
      CommaFree (locatorToks s))
    simp only [descriptorArgs, args_append_comma (hfree _), args_nil]
  rw [descriptor?, call?_callToks]
  dsimp only
  rw [hargs]
  simp only [locator?_locatorToks, Option.bind_eq_bind, Option.bind_some, sectionsToks]
  rw [← List.append_nil (List.flatMap _ _), withSections_sections]
  simp [withSections, TableAttr.descriptor]

theorem constants_lookup {L : List (Field × CellAttr × FieldAttrs)}
    (hL : ∀ x ∈ L, ∃ n raw, x.1.name = .ident n raw)
    (hnodup : (L.map fun x => screaming x.1.name.bareName).Nodup) :
    ∀ x ∈ L, ∃ n raw, x.1.name = .ident n raw ∧
      (constants (L.flatMap fun x => (fieldCode x.1 x.2.1 x.2.2).1)).lookup (screaming n) = some n := by
  intro x hx
  obtain ⟨n, raw, hname⟩ := hL x hx
  refine ⟨n, raw, hname, ?_⟩
  have hbare : x.1.name.bareName = n := by simp [hname, Tok.bareName]
  have hk := lookup_map_of_nodup (fun y : Field × CellAttr × FieldAttrs => screaming y.1.name.bareName)
    (fun y => y.1.name.bareName) hnodup hx
  rw [constants_fieldCode, ← hbare]
  exact hk

theorem schemaBody_generated (coll : String → Bool) (act : List Tok → Action)
    (t : TableAttr) (c r h : String) (L : List (Field × CellAttr × FieldAttrs))
    (hL : ∀ x ∈ L, ∃ n raw, x.1.name = .ident n raw)
    (hnodup : (L.map fun x => screaming x.1.name.bareName).Nodup) :
    schemaBody coll act (constants (L.flatMap fun x => (fieldCode x.1 x.2.1 x.2.2).1))
        (schemaBodyToks t c r h (L.flatMap fun x => (fieldCode x.1 x.2.1 x.2.2).2)) =
      some (Schema.build (t.descriptor c r h) (L.map fun x => fieldBinding coll act x.1 x.2.1 x.2.2)) := by
  let desc := callToks "TableDescriptor" "new" (descriptorArgs c r h) ++ sectionsToks t
  let build := callToks "TableSchema" "builder" [.ident "table" false] ++
    (L.flatMap fun x => (fieldCode x.1 x.2.1 x.2.2).2) ++ methodToks "build" []
  -- one semicolon parts the descriptor from the builder
  have hdescSemi : ∀ tok ∈ desc, isSemi tok = false := by
    intro tok htok
    rcases List.mem_append.1 htok with htok | htok
    · exact isSemi_callToks _ _ _ tok htok
    · obtain ⟨s, -, hs⟩ := List.mem_flatMap.1 htok
      rw [sectionCall_eq] at hs
      exact isSemi_methodToks _ _ tok hs
  have hbuildSemi : ∀ tok ∈ build, isSemi tok = false := by
    intro tok htok
    rcases List.mem_append.1 htok with htok | htok
    · rcases List.mem_append.1 htok with htok | htok
      · exact isSemi_callToks _ _ _ tok htok
      · obtain ⟨x, -, hx⟩ := List.mem_flatMap.1 htok
        rw [fieldCode_snd] at hx
        exact isSemi_methodToks _ _ tok hx
    · exact isSemi_methodToks _ _ tok htok
  have hsplit : (desc ++ .punct ';' false :: build).splitOnP isSemi = [desc, build] := by
    rw [List.splitOnP_append_cons_of_forall_mem hdescSemi _ rfl, List.splitOnP_eq_singleton hbuildSemi]
  have hbody : schemaBodyToks t c r h (L.flatMap fun x => (fieldCode x.1 x.2.1 x.2.2).2) =
      .ident "let" false :: .ident "table" false :: .punct '=' false ::
        (desc ++ .punct ';' false :: build) := by
    simp [schemaBodyToks, desc, descriptorArgs, sectionsToks, build]
  rw [hbody]
  simp only [schemaBody, hsplit, desc, descriptor?_generated, Option.bind_eq_bind, Option.bind_some]
  rw [show build = callToks "TableSchema" "builder" [.ident "table" false] ++
      ((L.flatMap fun x => (fieldCode x.1 x.2.1 x.2.2).2) ++ methodToks "build" []) by
    simp [build], call?_callToks]
  simp only [withFields_fieldCode coll act _ _ L (constants_lookup hL hnodup) [], List.nil_append]

/-- Generated code, when it runs, builds the schema of the descriptor that the table
attributes describe and of the bound fields' bindings in order. This needs three things.
The keyword `impl` does not stand at the top level of the generics or the where clause, so
the two implementations are told apart. The bound fields are identifiers. No two of them
share a constant name. -/
theorem tableSchema_generate {it : Item} {fs : List Field} {code : List Tok}
    (hbody : it.body = .named fs) (hgen : generate it = .ok code)
    (himpl : ∀ t ∈ implGenerics it.params ++ it.name :: (typeGenerics it.params ++ it.whereClause),
      isImpl t = false)
    (hidents : ∀ x ∈ boundFields fs, ∃ n raw, x.1.name = .ident n raw)
    (hnodup : ((boundFields fs).map fun x => screaming x.1.name.bareName).Nodup)
    (coll : String → Bool) (act : List Tok → Action) :
    ∃ t c r h, tableAttrs it.attrs = .ok t ∧ t.container = some c ∧ t.rows = some r ∧
      t.headerRow = some h ∧
      tableSchema coll act code = some (Schema.build (t.descriptor c r h)
        ((boundFields fs).map fun x => fieldBinding coll act x.1 x.2.1 x.2.2)) := by
  obtain ⟨t, c, r, h, cs, bs, ht, hc, hr, hh, hfields, rfl⟩ := generate_ok hbody hgen
  obtain ⟨rfl, rfl⟩ := fieldsCode_eq hfields
  refine ⟨t, c, r, h, ht, hc, hr, hh, ?_⟩
  -- the code is split at the two `impl` keywords into the two implementations
  have hfront := List.forall_mem_append.2 ⟨himpl, List.forall_mem_singleton.2
    (rfl : isImpl (.group .brace ((boundFields fs).flatMap fun x => (fieldCode x.1 x.2.1 x.2.2).1)) = false)⟩
  simp only [List.forall_mem_append, List.forall_mem_cons] at himpl
  have hback : ∀ tok ∈ implGenerics it.params ++ tableRowFor ++ it.name :: (typeGenerics it.params ++
      it.whereClause) ++ [.group .brace (schemaFnHead ++ [.group .brace (schemaBodyToks t c r h
        ((boundFields fs).flatMap fun x => (fieldCode x.1 x.2.1 x.2.2).2))])], isImpl tok = false := by
    simp only [List.forall_mem_append, List.forall_mem_cons]
    exact ⟨⟨⟨himpl.1, by simp [tableRowFor, isImpl]⟩, himpl.2⟩, rfl, by simp⟩
  have himplKw : isImpl (.ident "impl" false) = true := rfl
  rw [tableSchema, List.splitOnP_cons_eq_if_modifyHead, if_pos himplKw,
    List.splitOnP_append_cons_of_forall_mem hfront _ rfl,
    List.splitOnP_eq_singleton hback]
  simp only [List.getLast?_concat, schemaFnHead, List.cons_append, List.nil_append]
  simp [schemaBody_generated coll act t c r h _ hidents hnodup]

end TableBind.Derive
