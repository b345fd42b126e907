import TableBind.Proofs.Expansion
import TableBind.Proofs.TextTable

/-! The schema a derived implementation builds, said from the attributes alone: the table its
table attributes give, each key given last, and one binding per field with a cell attribute.
Each attribute fold is seen through views that keep the value given last. -/

namespace TableBind.Derive

open Builder

/-! ### What the attributes say -/

def MetaItem.items (m : MetaItem) : List MetaItem :=
  match m.args with
  | .list ts => (listItems ts).toOption.getD []
  | _ => []

/-- The value given last by the items for which `f` gives one. -/
def lastGiven {β : Type} (f : MetaItem → Option β) (items : List MetaItem) : Option β :=
  (items.filterMap f).getLast?

def textItem (key : String) (m : MetaItem) : Option String :=
  if m.name = some key then (stringValue key m).toOption else none

def lastText (key : String) (items : List MetaItem) : Option String :=
  lastGiven (textItem key) items

def sectionItem (m : MetaItem) : Option SectionAttr :=
  if m.name = some "section" then
    match lastText "name" m.items, lastText "rows" m.items with
    | some n, some r => some ⟨n, r⟩
    | _, _ => none
  else none

def tableItems (attrs : List MetaItem) : List MetaItem :=
  (attrs.filter (·.name == some "table")).flatMap MetaItem.items

/-- The table a struct's attributes describe: the container, rows and header row given last
across all its table attributes, and every section given, in order. -/
def describedTable (attrs : List MetaItem) : Option Descriptor := do
  let items := tableItems attrs
  let container ← lastText "container" items
  let rows ← lastText "rows" items
  let headerRow ← lastText "header_row" items
  pure
    { container := Locator.parse container
      rows := Locator.parse rows
      headerRow := Locator.parse headerRow
      sections := (items.filterMap sectionItem).map fun s => ⟨s.name, Locator.parse s.rows⟩ }

/-! ### Folds that keep the last value given -/

theorem foldlM_view {α β γ ε : Type} {f : β → α → Except ε β} (V : β → γ) (g : γ → α → γ)
    (hstep : ∀ acc m acc', f acc m = .ok acc' → V acc' = g (V acc) m) :
    ∀ (items : List α) (acc r : β), items.foldlM f acc = .ok r → V r = items.foldl g (V acc) := by
  intro items
  induction items with
  | nil =>
    intro acc r h
    cases h
    rfl
  | cons m items ih =>
    intro acc r h
    rw [List.foldlM_cons, Except.bind_eq_ok] at h
    obtain ⟨acc', hm, hrest⟩ := h
    rw [ih acc' r hrest, hstep acc m acc' hm, List.foldl_cons]

theorem foldl_or_lastGiven {β : Type} (f : MetaItem → Option β) (items : List MetaItem)
    (init : Option β) : items.foldl (fun o m => (f m).or o) init = (lastGiven f items).or init := by
  induction items generalizing init with
  | nil => simp [lastGiven]
  | cons m items ih =>
    rw [List.foldl_cons, ih]
    cases hm : f m <;> simp [lastGiven, hm, List.getLast?_cons]

theorem foldlM_lastGiven {β γ ε : Type} {f : β → MetaItem → Except ε β} (V : β → Option γ)
    (g : MetaItem → Option γ) (hstep : ∀ acc m acc', f acc m = .ok acc' → V acc' = (g m).or (V acc))
    {items : List MetaItem} {acc r : β} (h : items.foldlM f acc = .ok r) :
    V r = (lastGiven g items).or (V acc) := by
  rw [foldlM_view V (fun o m => (g m).or o) hstep items acc r h, foldl_or_lastGiven]

theorem bind_pure_ok {ε α β : Type} {x : Except ε α} {g : α → β} {r : β}
    (h : (x >>= fun v => pure (g v)) = .ok r) : ∃ v, x = .ok v ∧ g v = r := by
  obtain ⟨v, hv, hr⟩ := Except.bind_eq_ok.1 h
  exact ⟨v, hv, by simpa [pure, Except.pure] using hr⟩

theorem foldl_append_filterMap {β : Type} (f : MetaItem → Option β) (items : List MetaItem)
    (init : List β) : items.foldl (fun l m => l ++ (f m).toList) init = init ++ items.filterMap f := by
  induction items generalizing init with
  | nil => simp
  | cons m items ih =>
    rw [List.foldl_cons, ih]
    cases hm : f m <;> simp [hm]

theorem lastGiven_append {β : Type} (f : MetaItem → Option β) (l₁ l₂ : List MetaItem) :
    lastGiven f (l₁ ++ l₂) = (lastGiven f l₂).or (lastGiven f l₁) := by
  simp [lastGiven, List.filterMap_append, List.getLast?_append]

theorem textItem_of_stringValue {key : String} {m : MetaItem} {v : String}
    (hname : m.name = some key) (hv : stringValue key m = .ok v) : textItem key m = some v := by
  simp [textItem, hname, hv, Except.toOption]

/-! ### Sections -/

theorem sectionStep_view {acc acc' : Option String × Option String} {m : MetaItem}
    (h : sectionStep acc m = .ok acc') :
    acc'.1 = (textItem "name" m).or acc.1 ∧ acc'.2 = (textItem "rows" m).or acc.2 := by
  unfold sectionStep at h
  split at h
  case h_3 => cases h
  -- a name or rows item sets the text it gives
  all_goals
    rename_i hname _
    obtain ⟨v, hv, rfl⟩ := bind_pure_ok h
    rw [textItem_of_stringValue hname hv]
    simp [textItem, hname]

theorem foldlM_sectionStep {items : List MetaItem} {acc r : Option String × Option String}
    (h : items.foldlM sectionStep acc = .ok r) :
    r.1 = (lastText "name" items).or acc.1 ∧ r.2 = (lastText "rows" items).or acc.2 := by
  exact ⟨foldlM_lastGiven Prod.fst (textItem "name") (fun _ _ _ h => (sectionStep_view h).1) h,
    foldlM_lastGiven Prod.snd (textItem "rows") (fun _ _ _ h => (sectionStep_view h).2) h⟩

theorem items_of_list {m : MetaItem} {ts : List Tok} {items : List MetaItem}
    (hargs : m.args = .list ts) (h : listItems ts = .ok items) : m.items = items := by
  simp [MetaItem.items, hargs, h, Except.toOption]

/-! ### Table attributes -/

theorem tableStep_view {acc acc' : TableAttr} {m : MetaItem} (h : tableStep acc m = .ok acc') :
    acc'.container = (textItem "container" m).or acc.container ∧
      acc'.rows = (textItem "rows" m).or acc.rows ∧
      acc'.headerRow = (textItem "header_row" m).or acc.headerRow ∧
      acc'.sections = acc.sections ++ (sectionItem m).toList := by
  unfold tableStep at h
  split at h
  case h_5 => cases h
  case h_4 ts hname hargs =>
    obtain ⟨items, hitems, h⟩ := Except.bind_eq_ok.1 h
    obtain ⟨⟨n, r⟩, hfold, h⟩ := Except.bind_eq_ok.1 h
    obtain ⟨hn, hr⟩ := foldlM_sectionStep hfold
    simp only [Option.or_none] at hn hr
    -- a section needs both its name and its rows
    cases n with
    | none => simp at h
    | some n =>
      cases r with
      | none => simp at h
      | some r =>
        simp only [pure, Except.pure, Except.ok.injEq] at h
        subst h
        have hsec : sectionItem m = some ⟨n, r⟩ := by
          simp [sectionItem, hname, items_of_list hargs hitems, ← hn, ← hr]
        simp [hsec, textItem, hname]
  -- each other item sets the text it gives
  all_goals
    rename_i hname _
    obtain ⟨v, hv, rfl⟩ := bind_pure_ok h
    rw [textItem_of_stringValue hname hv]
    simp [textItem, sectionItem, hname]

theorem foldlM_tableStep {items : List MetaItem} {acc r : TableAttr}
    (h : items.foldlM tableStep acc = .ok r) :
    r.container = (lastText "container" items).or acc.container ∧
      r.rows = (lastText "rows" items).or acc.rows ∧
      r.headerRow = (lastText "header_row" items).or acc.headerRow ∧
      r.sections = acc.sections ++ items.filterMap sectionItem := by
  refine ⟨foldlM_lastGiven TableAttr.container (textItem "container")
      (fun _ _ _ h => (tableStep_view h).1) h,
    foldlM_lastGiven TableAttr.rows (textItem "rows") (fun _ _ _ h => (tableStep_view h).2.1) h,
    foldlM_lastGiven TableAttr.headerRow (textItem "header_row")
      (fun _ _ _ h => (tableStep_view h).2.2.1) h, ?_⟩
  rw [foldlM_view TableAttr.sections (fun l m => l ++ (sectionItem m).toList)
    (fun _ _ _ h => (tableStep_view h).2.2.2) items acc r h, foldl_append_filterMap]

theorem items_of_argItems {name : String} {m : MetaItem} {items : List MetaItem}
    (h : argItems name m = .ok items) : m.items = items := by
  unfold argItems at h
  split at h
  · cases h
  · cases h
  · rename_i ts hargs
    exact items_of_list hargs h

/-- The merged table attributes hold the values given last across all table attributes, and
every section given, in order. -/
theorem tableAttrs_spec {attrs : List MetaItem} {t : TableAttr} (h : tableAttrs attrs = .ok t) :
    t.container = lastText "container" (tableItems attrs) ∧
      t.rows = lastText "rows" (tableItems attrs) ∧
      t.headerRow = lastText "header_row" (tableItems attrs) ∧
      t.sections = (tableItems attrs).filterMap sectionItem := by
  -- the run over the attributes, from any merged value so far
  suffices hrun : ∀ (attrs : List MetaItem) (acc t : TableAttr), attrs.foldlM (fun acc m =>
      if m.name == some "table" then do
        let items ← argItems "table" m
        return acc.merge (← items.foldlM tableStep {})
      else return acc) acc = .ok t →
      t.container = (lastText "container" (tableItems attrs)).or acc.container ∧
      t.rows = (lastText "rows" (tableItems attrs)).or acc.rows ∧
      t.headerRow = (lastText "header_row" (tableItems attrs)).or acc.headerRow ∧
      t.sections = acc.sections ++ (tableItems attrs).filterMap sectionItem by
    simpa using hrun attrs {} t h
  intro attrs
  induction attrs with
  | nil =>
    intro acc t h
    cases h
    simp [tableItems, lastText, lastGiven]
  | cons m attrs ih =>
    intro acc t h
    rw [List.foldlM_cons, Except.bind_eq_ok] at h
    obtain ⟨acc', hm, hrest⟩ := h
    obtain ⟨hc, hr, hh, hs⟩ := ih acc' t hrest
    by_cases htable : (m.name == some "table") = true
    · rw [if_pos htable] at hm
      obtain ⟨items, hitems, hm⟩ := Except.bind_eq_ok.1 hm
      obtain ⟨b, hb, hm⟩ := Except.bind_eq_ok.1 hm
      simp only [pure, Except.pure, Except.ok.injEq] at hm
      subst hm
      obtain ⟨hbc, hbr, hbh, hbs⟩ := foldlM_tableStep hb
      have hitems' : tableItems (m :: attrs) = items ++ tableItems attrs := by
        simp [tableItems, htable, items_of_argItems hitems]
      simp only [lastText] at hc hr hh hbc hbr hbh ⊢
      simp [hitems', lastGiven_append, hc, hr, hh, hs, hbc, hbr, hbh, hbs, TableAttr.merge,
        Option.or_assoc]
    · rw [if_neg htable] at hm
      simp only [pure, Except.pure, Except.ok.injEq] at hm
      subst hm
      have hitems' : tableItems (m :: attrs) = tableItems attrs := by
        simp [tableItems, htable]
      rw [hitems']
      exact ⟨hc, hr, hh, hs⟩

/-! ### Cell attributes -/

def isDirectText (m : MetaItem) : Bool := m.name == some "direct_text"

def cellAttrOf (items : List MetaItem) : CellAttr where
  locator := lastText "locator" items
  text := lastText "text" items
  header := lastText "header" items
  sectionName := lastText "section" items
  directText := items.any isDirectText

theorem foldl_or_any (p : MetaItem → Bool) (items : List MetaItem) (init : Bool) :
    items.foldl (fun d m => d || p m) init = (init || items.any p) := by
  induction items generalizing init with
  | nil => simp
  | cons m items ih =>
    rw [List.foldl_cons, ih]
    simp [Bool.or_assoc]

theorem cellStep_view {acc acc' : CellAttr} {m : MetaItem} (h : cellStep acc m = .ok acc') :
    acc'.locator = (textItem "locator" m).or acc.locator ∧
      acc'.text = (textItem "text" m).or acc.text ∧
      acc'.header = (textItem "header" m).or acc.header ∧
      acc'.sectionName = (textItem "section" m).or acc.sectionName ∧
      acc'.directText = (acc.directText || isDirectText m) := by
  unfold cellStep at h
  split at h
  case h_6 => cases h
  case h_1 hname _ =>
    simp only [pure, Except.pure, Except.ok.injEq] at h
    subst h
    simp [textItem, isDirectText, hname]
  -- each other item sets the text it gives
  all_goals
    rename_i hname _
    obtain ⟨v, hv, rfl⟩ := bind_pure_ok h
    rw [textItem_of_stringValue hname hv]
    simp [textItem, isDirectText, hname]

theorem foldlM_cellStep {items : List MetaItem} {c : CellAttr}
    (h : items.foldlM cellStep {} = .ok c) : c = cellAttrOf items := by
  have hloc := foldlM_lastGiven CellAttr.locator (textItem "locator")
    (fun _ _ _ h => (cellStep_view h).1) h
  have htext := foldlM_lastGiven CellAttr.text (textItem "text")
    (fun _ _ _ h => (cellStep_view h).2.1) h
  have hheader := foldlM_lastGiven CellAttr.header (textItem "header")
    (fun _ _ _ h => (cellStep_view h).2.2.1) h
  have hsection := foldlM_lastGiven CellAttr.sectionName (textItem "section")
    (fun _ _ _ h => (cellStep_view h).2.2.2.1) h
  have hdirect := foldlM_view CellAttr.directText (fun d m => d || isDirectText m)
    (fun _ _ _ h => (cellStep_view h).2.2.2.2) items {} c h
  rw [foldl_or_any] at hdirect
  obtain ⟨l, t, hd, s, d⟩ := c
  simp_all [cellAttrOf, lastText]

/-! ### Route attributes -/

def customItem (m : MetaItem) : Option (List Tok) :=
  if m.name = some "custom" then
    match m.args with
    | .value _ ts => some ts
    | _ => none
  else none

def orderItem (m : MetaItem) : Option Int :=
  if m.name = some "order" then
    match m.args with
    | .value s _ => (orderValue s).toOption
    | _ => none
  else none

/-- The route its items describe: the component given last, keyed by the key given last or
else by its kind, or failing a component the custom function given last; with the order
given last, or 0. -/
def describedRoute (act : List Tok → Action) (items : List MetaItem) : Option Route :=
  let order := (lastGiven orderItem items).getD 0
  match lastText "component" items, lastGiven customItem items with
  | some kind, _ => some ⟨.component ⟨kind, (lastText "key" items).getD kind⟩, order⟩
  | none, some f => some ⟨.custom (act f), order⟩
  | none, none => none

theorem routeStep_view {acc acc' : RouteItems} {m : MetaItem} (h : routeStep acc m = .ok acc') :
    acc'.1 = (textItem "component" m).or acc.1 ∧ acc'.2.1 = (textItem "key" m).or acc.2.1 ∧
      acc'.2.2.1 = (customItem m).or acc.2.2.1 ∧
      some acc'.2.2.2 = (orderItem m).or (some acc.2.2.2) := by
  obtain ⟨component, key, custom, order⟩ := acc
  unfold routeStep at h
  dsimp only at h
  split at h
  case h_5 => cases h
  case h_3 _ ts hname hargs =>
    simp only [pure, Except.pure, Except.ok.injEq] at h
    subst h
    simp [textItem, customItem, orderItem, hname, hargs]
  case h_4 shape _ hname hargs =>
    obtain ⟨v, hv, rfl⟩ := bind_pure_ok h
    simp [textItem, customItem, orderItem, hname, hargs, hv, Except.toOption]
  -- a component or key item sets the text it gives
  all_goals
    rename_i hname _
    obtain ⟨v, hv, rfl⟩ := bind_pure_ok h
    rw [textItem_of_stringValue hname hv]
    simp [textItem, customItem, orderItem, hname]

/-- A route attribute reads as the route its items describe. -/
theorem routeAttr_spec (act : List Tok → Action) {items : List MetaItem} {r : RouteAttr}
    (h : routeAttr items = .ok r) : describedRoute act items = some (r.route act) := by
  rw [routeAttr, Except.bind_eq_ok] at h
  obtain ⟨⟨component, key, custom, order⟩, hfold, h⟩ := h
  have hc := foldlM_lastGiven Prod.fst (textItem "component")
    (fun _ _ _ h => (routeStep_view h).1) hfold
  have hk := foldlM_lastGiven (fun acc : RouteItems => acc.2.1) (textItem "key")
    (fun _ _ _ h => (routeStep_view h).2.1) hfold
  have hcu := foldlM_lastGiven (fun acc : RouteItems => acc.2.2.1) customItem
    (fun _ _ _ h => (routeStep_view h).2.2.1) hfold
  have ho := foldlM_lastGiven (fun acc : RouteItems => some acc.2.2.2) orderItem
    (fun _ _ _ h => (routeStep_view h).2.2.2) hfold
  simp only [Option.or_none] at hc hk hcu
  have horder : (lastGiven orderItem items).getD 0 = order := by
    cases hl : lastGiven orderItem items <;> simp_all
  simp only [describedRoute, lastText, ← hc, ← hk, ← hcu, horder]
  dsimp only at h
  -- exactly one of component and custom; a key only with a component
  cases component with
  | some kind =>
    cases custom with
    | some f => cases h
    | none =>
      simp only [pure, Except.pure, Except.ok.injEq] at h
      subst h
      rfl
  | none =>
    cases custom with
    | none => cases h
    | some f =>
      split_ifs at h
      simp only [pure, Except.pure, Except.ok.injEq] at h
      subst h
      rfl

/-! ### Field attributes -/

def cellItem (m : MetaItem) : Option CellAttr :=
  if m.name = some "cell" then some (cellAttrOf m.items) else none

def routeItem (act : List Tok → Action) (name : String) (m : MetaItem) : Option Route :=
  if m.name = some name then describedRoute act m.items else none

theorem fieldStep_view (act : List Tok → Action) {acc acc' : FieldAttrs} {m : MetaItem}
    (h : fieldStep acc m = .ok acc') :
    acc'.cell = (cellItem m).or acc.cell ∧
      acc'.insert.map (·.route act) = (routeItem act "insert" m).or (acc.insert.map (·.route act)) ∧
      acc'.filter.map (·.route act) = (routeItem act "filter" m).or (acc.filter.map (·.route act)) := by
  unfold fieldStep at h
  split at h
  case h_1 hname =>
    split_ifs at h
    split at h
    case h_1 hargs =>
      simp only [pure, Except.pure, Except.ok.injEq] at h
      subst h
      simp [cellItem, routeItem, hname, MetaItem.items, hargs, cellAttrOf, lastText, lastGiven]
    case h_2 =>
      obtain ⟨items, hitems, h⟩ := Except.bind_eq_ok.1 h
      obtain ⟨c, hc, rfl⟩ := bind_pure_ok h
      simp [cellItem, routeItem, hname, items_of_argItems hitems, foldlM_cellStep hc]
  case h_4 hcell hinsert hfilter =>
    simp only [pure, Except.pure, Except.ok.injEq] at h
    subst h
    simp [cellItem, routeItem, if_neg hcell, if_neg hinsert, if_neg hfilter]
  -- an insert or filter attribute sets the route it describes
  all_goals
    rename_i hname
    split_ifs at h
    obtain ⟨items, hitems, h⟩ := Except.bind_eq_ok.1 h
    obtain ⟨r, hr, rfl⟩ := bind_pure_ok h
    simp [cellItem, routeItem, hname, items_of_argItems hitems, routeAttr_spec act hr]

theorem fieldAttrs_cell {attrs : List MetaItem} {fa : FieldAttrs} (h : fieldAttrs attrs = .ok fa) :
    fa.cell = lastGiven cellItem attrs := by
  -- the cell view does not depend on how actions are read
  have hc := foldlM_lastGiven FieldAttrs.cell cellItem
    (fun _ _ _ h => (fieldStep_view (fun _ => .record) h).1) h
  rwa [Option.or_none] at hc

theorem fieldAttrs_routes (act : List Tok → Action) {attrs : List MetaItem} {fa : FieldAttrs}
    (h : fieldAttrs attrs = .ok fa) :
    fa.insert.map (·.route act) = lastGiven (routeItem act "insert") attrs ∧
      fa.filter.map (·.route act) = lastGiven (routeItem act "filter") attrs := by
  have hi := foldlM_lastGiven (fun a : FieldAttrs => a.insert.map (·.route act))
    (routeItem act "insert") (fun _ _ _ h => (fieldStep_view act h).2.1) h
  have hf := foldlM_lastGiven (fun a : FieldAttrs => a.filter.map (·.route act))
    (routeItem act "filter") (fun _ _ _ h => (fieldStep_view act h).2.2) h
  simp only [Option.map_none, Option.or_none] at hi hf
  exact ⟨hi, hf⟩

/-! ### Bindings -/

/-- A field is bound when it carries a cell attribute. -/
def Field.bound (f : Field) : Bool := f.attrs.any fun m => m.name == some "cell"

/-- The binding a bound field describes: named by its identifier, placed by its cell
attribute's locators and section, its shape read by `coll`, and routed by its insert and
filter attributes. -/
def describedBinding (coll : String → Bool) (act : List Tok → Action) (f : Field) : Option Binding :=
  (lastGiven cellItem f.attrs).map fun cell =>
    { name := f.name.bareName
      place :=
        { cell := cell.locator.map Locator.parse
          cellText := cell.text.map Locator.parse
          headerCell := cell.header.map Locator.parse
          sectionName := cell.sectionName.getD ""
          collection := coll f.name.bareName
          directText := cell.directText }
      insertion := lastGiven (routeItem act "insert") f.attrs
      filter := lastGiven (routeItem act "filter") f.attrs }

theorem isSome_lastGiven_cellItem (attrs : List MetaItem) :
    (lastGiven cellItem attrs).isSome = attrs.any fun m => m.name == some "cell" := by
  rw [Bool.eq_iff_iff]
  simp [lastGiven, cellItem, Option.isSome_iff_ne_none, List.findSome?_eq_none_iff]

theorem describedBinding_of_fieldAttrs (coll : String → Bool) (act : List Tok → Action) {f : Field}
    {fa : FieldAttrs} (h : fieldAttrs f.attrs = .ok fa) :
    describedBinding coll act f = fa.cell.map fun cell => fieldBinding coll act f cell fa := by
  obtain ⟨hi, hf⟩ := fieldAttrs_routes act h
  simp only [describedBinding, ← fieldAttrs_cell h, hi, hf, fieldBinding]

theorem bound_of_fieldAttrs {f : Field} {fa : FieldAttrs} (h : fieldAttrs f.attrs = .ok fa) :
    fa.cell.isSome = f.bound := by
  rw [fieldAttrs_cell h, isSome_lastGiven_cellItem, Field.bound]

theorem fieldAttrs_of_fieldsCode {fs : List Field} {p : List Tok × List Tok} (h : fieldsCode fs = .ok p) :
    ∀ f ∈ fs, ∃ fa, fieldAttrs f.attrs = .ok fa := by
  induction fs generalizing p with
  | nil => simp
  | cons f rest ih =>
    rw [fieldsCode, Except.bind_eq_ok] at h
    obtain ⟨fa, hfa, h⟩ := h
    -- bound or not, the field is followed by the code of the rest
    have hrest : ∃ p', fieldsCode rest = .ok p' := by
      cases hcell : fa.cell with
      | none =>
        rw [hcell] at h
        split_ifs at h
        exact ⟨p, h⟩
      | some cell =>
        rw [hcell] at h
        simp only [Except.bind_eq_ok] at h
        obtain ⟨p', hp', -⟩ := h
        exact ⟨p', hp'⟩
    obtain ⟨p', hp'⟩ := hrest
    intro g hg
    rcases List.mem_cons.1 hg with rfl | hg
    · exact ⟨fa, hfa⟩
    · exact ih hp' g hg

theorem boundFields_cons {f : Field} {fa : FieldAttrs} (hfa : fieldAttrs f.attrs = .ok fa)
    (rest : List Field) :
    boundFields (f :: rest) = (fa.cell.map fun cell => (f, cell, fa)).toList ++ boundFields rest := by
  cases hcell : fa.cell <;> simp [boundFields, hfa, hcell]

section BoundFields

variable {fs : List Field} (hfs : ∀ f ∈ fs, ∃ fa, fieldAttrs f.attrs = .ok fa)
include hfs

theorem boundFields_fst : (boundFields fs).map Prod.fst = fs.filter Field.bound := by
  induction fs with
  | nil => rfl
  | cons f rest ih =>
    obtain ⟨fa, hfa⟩ := hfs f List.mem_cons_self
    have hrest := ih fun g hg => hfs g (List.mem_cons_of_mem _ hg)
    have hb := bound_of_fieldAttrs hfa
    rw [boundFields_cons hfa, List.map_append, hrest, List.filter_cons, ← hb]
    cases fa.cell <;> simp

theorem boundFields_bindings (coll : String → Bool) (act : List Tok → Action) :
    (boundFields fs).map (fun x => fieldBinding coll act x.1 x.2.1 x.2.2) =
      fs.filterMap (describedBinding coll act) := by
  induction fs with
  | nil => rfl
  | cons f rest ih =>
    obtain ⟨fa, hfa⟩ := hfs f List.mem_cons_self
    have hrest := ih fun g hg => hfs g (List.mem_cons_of_mem _ hg)
    rw [boundFields_cons hfa, List.map_append, hrest, List.filterMap_cons,
      describedBinding_of_fieldAttrs coll act hfa]
    cases fa.cell <;> simp

end BoundFields

/-- The table a struct's attributes describe is the one its code registers. -/
theorem describedTable_eq {attrs : List MetaItem} {t : TableAttr} {c r h : String}
    (ht : tableAttrs attrs = .ok t) (hc : t.container = some c) (hr : t.rows = some r)
    (hh : t.headerRow = some h) : describedTable attrs = some (t.descriptor c r h) := by
  obtain ⟨hc', hr', hh', hs'⟩ := tableAttrs_spec ht
  simp [describedTable, ← hc', ← hr', ← hh', hc, hr, hh, hs', TableAttr.descriptor]

/-! ### When the schema builds -/

theorem rowsFor_isSome_iff (d : Descriptor) (name : String) :
    (d.rowsFor name).isSome ↔ name = "" ∨ ∃ s ∈ d.sections, s.name = name := by
  by_cases h : name = "" <;> simp [Descriptor.rowsFor, h, List.find?_isSome]

/-- Bindings of distinct names build a schema exactly when each one's section is the
table's own rows or a declared section. -/
theorem build_ok_iff {d : Descriptor} {bs : List Binding} (hnd : (bs.map Binding.name).Nodup) :
    (∃ s, Schema.build d bs = .ok s) ↔
      ∀ b ∈ bs, b.place.sectionName = "" ∨ ∃ sec ∈ d.sections, sec.name = b.place.sectionName := by
  constructor
  · rintro ⟨s, hs⟩ b hb
    obtain ⟨rfl, hwf⟩ := Schema.build_ok hs
    exact (rowsFor_isSome_iff _ _).1 (hwf.declared b hb)
  · intro h
    refine ⟨⟨d, bs⟩, ?_⟩
    rw [Schema.build, Schema.checkBindings_of_valid hnd (by simp) fun b hb => (rowsFor_isSome_iff _ _).2 (h b hb)]
    rfl

theorem exists_generate_eq_ok {it : Item} {fs : List Field} {t : TableAttr} {c r h : String}
    {p : List Tok × List Tok} (hbody : it.body = .named fs) (ht : tableAttrs it.attrs = .ok t)
    (hc : t.container = some c) (hr : t.rows = some r) (hh : t.headerRow = some h)
    (hf : fieldsCode fs = .ok p) : ∃ code, generate it = .ok code := by
  rw [generate, hbody]
  simp only [Except.bind_eq_ok, required_eq_ok]
  exact ⟨_, _, rfl, t, ht, c, hc, r, hr, h, hh, p, hf, rfl⟩

/-! ### The schema a derived implementation builds -/

/-- Code generated for a struct with named fields builds, when it runs, the schema its
attributes describe: the table its table attributes give, and one binding per field with a
cell attribute, in field order. So the schema builds exactly when each of these bindings
lies in the table's rows or in a declared section. The code is read as it compiles: the
keyword `impl` is not among the generics or the where clause, the fields are identifiers,
and no two bound fields share a constant name. -/
theorem generated_schema_spec {it : Item} {fs : List Field} {code : List Tok}
    (hbody : it.body = .named fs) (hgen : generate it = .ok code)
    (himpl : ∀ t ∈ implGenerics it.params ++ it.name :: (typeGenerics it.params ++ it.whereClause),
      isImpl t = false)
    (hidents : ∀ f ∈ fs, ∃ n raw, f.name = .ident n raw)
    (hnodup : ((fs.filter Field.bound).map fun f => screaming f.name.bareName).Nodup)
    (coll : String → Bool) (act : List Tok → Action) :
    ∃ d, describedTable it.attrs = some d ∧
      tableSchema coll act code = some (Schema.build d (fs.filterMap (describedBinding coll act))) ∧
      ((∃ s, Schema.build d (fs.filterMap (describedBinding coll act)) = .ok s) ↔
        ∀ b ∈ fs.filterMap (describedBinding coll act),
          b.place.sectionName = "" ∨ ∃ sec ∈ d.sections, sec.name = b.place.sectionName) := by
  obtain ⟨-, -, -, -, cs, bs, -, -, -, -, hfields, -⟩ := generate_ok hbody hgen
  have hfs := fieldAttrs_of_fieldsCode hfields
  have hfst := boundFields_fst hfs
  -- the conditions on the fields, moved to the bound ones
  have hidents' : ∀ x ∈ boundFields fs, ∃ n raw, x.1.name = .ident n raw := fun x hx =>
    hidents x.1 (List.mem_of_mem_filter (hfst ▸ List.mem_map_of_mem hx))
  have hnodup' : ((boundFields fs).map fun x => screaming x.1.name.bareName).Nodup := by
    rw [← hfst, List.map_map] at hnodup
    exact hnodup
  obtain ⟨t, c, r, h, ht, hc, hr, hh, hschema⟩ :=
    tableSchema_generate hbody hgen himpl hidents' hnodup' coll act
  rw [boundFields_bindings hfs coll act] at hschema
  have hnames : ((fs.filterMap (describedBinding coll act)).map Binding.name).Nodup := by
    rw [← boundFields_bindings hfs coll act]
    refine List.Nodup.of_map screaming ?_
    rw [List.map_map, List.map_map]
    exact hnodup'
  exact ⟨t.descriptor c r h, describedTable_eq ht hc hr hh, hschema, build_ok_iff hnames⟩

def orderLineFields : List Field := [
    ⟨[⟨some "cell", .list [.ident "locator" false, .punct '=' false, .lit "\"td.sku\""]⟩,
      ⟨some "insert", .list [.ident "component" false, .punct '=' false, .lit "\"input\"",
        .punct ',' false, .ident "key" false, .punct '=' false, .lit "\"sku\"", .punct ',' false,
        .ident "order" false, .punct '=' false, .lit "2"]⟩], .ident "sku" false⟩,
    ⟨[⟨some "cell", .list [.ident "locator" false, .punct '=' false, .lit "\"td.qty\"",
        .punct ',' false, .ident "section" false, .punct '=' false, .lit "\"totals\""]⟩,
      ⟨some "filter", .list [.ident "custom" false, .punct '=' false, .ident "apply_qty" false,
        .punct ',' false, .ident "order" false, .punct '=' false, .punct '-' false, .lit "1"]⟩],
      .ident "qty" false⟩,
    ⟨[], .ident "note" false⟩]

/-- The struct `OrderLine`, whose second table attribute gives `rows` again and declares the
`totals` section. -/
def orderLineItem : Item where
  attrs := [⟨some "table", .list [.ident "container" false, .punct '=' false, .lit "\"orders\"",
      .punct ',' false, .ident "rows" false, .punct '=' false, .lit "\"tbody tr\""]⟩,
    ⟨some "table", .list [.ident "rows" false, .punct '=' false, .lit "\"tr.line\"",
      .punct ',' false, .ident "header_row" false, .punct '=' false, .lit "\"thead tr\"",
      .punct ',' false, .ident "section" false,
      .group .paren [.ident "name" false, .punct '=' false, .lit "\"totals\"", .punct ',' false,
        .ident "rows" false, .punct '=' false, .lit "\"tfoot tr\""]]⟩]
  name := .ident "OrderLine" false
  params := []
  whereClause := []
  body := .named orderLineFields

theorem generated_schema_orderLine : ∃ code, generate orderLineItem = .ok code ∧
    ∃ d, describedTable orderLineItem.attrs = some d ∧ d.rows = Locator.parse "tr.line" ∧
      d.sections = [⟨"totals", Locator.parse "tfoot tr"⟩] ∧
      ∃ s, tableSchema (fun _ => false) (fun _ => .record) code = some (.ok s) ∧
        s.bindings.map (·.place.sectionName) = ["", "totals"] := by
  have hbody : orderLineItem.body = .named orderLineFields := rfl
  obtain ⟨code, hgen⟩ := exists_generate_eq_ok hbody rfl rfl rfl rfl rfl
  obtain ⟨d, hd, hschema, hbuild⟩ := generated_schema_spec hbody hgen (by decide)
    (by simp [orderLineFields]) (by decide) (fun _ => false) (fun _ => .record)
  have hd0 : describedTable orderLineItem.attrs = some
      { container := Locator.parse "orders", rows := Locator.parse "tr.line",
        headerRow := Locator.parse "thead tr",
        sections := [⟨"totals", Locator.parse "tfoot tr"⟩] } := by
    decide +kernel
  rw [hd0, Option.some.injEq] at hd
  subst hd
  have hsecs : (orderLineFields.filterMap (describedBinding (fun _ => false) fun _ => .record)).map
      (·.place.sectionName) = ["", "totals"] := by
    decide +kernel
  -- the quantity lies in the declared totals section, the sku in the table's rows
  obtain ⟨s, hs⟩ := hbuild.2 fun b hb => by
    have hsec := List.mem_map_of_mem (f := (·.place.sectionName)) hb
    rw [hsecs, List.mem_cons, List.mem_singleton] at hsec
    rcases hsec with h | h
    · exact .inl h
    · exact .inr ⟨_, List.mem_singleton_self _, h.symm⟩
  obtain ⟨rfl, -⟩ := Schema.build_ok hs
  exact ⟨code, hgen, _, rfl, rfl, rfl, _, hschema.trans (congrArg some hs), hsecs⟩

end TableBind.Derive
