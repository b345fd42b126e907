import Mathlib
import TableBind.Proofs.Search
import TableBind.Proofs.Read

/-! Reading back a table of texts. Over `Element.textTable id columns rows`, a schema reading
each column from the row's `td.column` cell reads one record per row, each column's field
holding that row's trimmed value, or unset. -/

namespace TableBind

namespace Text

theorem wordsFrom_plain (cur cs : List Char) (h : ∀ ch ∈ cs, isBlank ch = false) :
    wordsFrom cur cs = if cur = [] ∧ cs = [] then [] else [cur.reverse ++ cs] := by
  induction cs generalizing cur with
  | nil => cases cur <;> simp [wordsFrom]
  | cons c rest ih =>
    rw [wordsFrom, if_neg (by simp [h c List.mem_cons_self]),
      ih _ fun ch hch => h ch (List.mem_cons_of_mem _ hch)]
    simp

theorem words_plain {s : String} (hs : s ≠ "") (h : ∀ ch ∈ s.toList, isBlank ch = false) :
    words s = [s] := by
  have hne : s.toList ≠ [] := by simpa using hs
  simp [words, wordsFrom_plain [] s.toList h, hne]

end Text

namespace Compound

theorem parse_td_class {col : String} (h : ∀ ch ∈ col.toList, isMarker ch = false) :
    parse ("td." ++ col) = { tag := some "td", classes := [col] } := by
  have htake : col.toList.takeWhile (fun ch => !isMarker ch) = col.toList :=
    List.takeWhile_eq_self_iff.2 fun ch hch => by simp [h ch hch]
  have hdrop : col.toList.dropWhile (fun ch => !isMarker ch) = [] :=
    List.dropWhile_eq_nil_iff.2 fun ch hch => by simp [h ch hch]
  rw [parse, String.toList_append, show "td.".toList = ['t', 'd', '.'] from rfl]
  simp only [parseChars, List.cons_append, List.nil_append]
  rw [show List.takeWhile (fun c => !isMarker c) ('t' :: 'd' :: '.' :: col.toList) = ['t', 'd'] by
    simp [List.takeWhile, isMarker]]
  rw [show List.dropWhile (fun c => !isMarker c) ('t' :: 'd' :: '.' :: col.toList) =
    '.' :: col.toList by simp [List.dropWhile, isMarker]]
  rw [parseParts]
  simp [htake, hdrop, parseParts]

theorem selects_tag (t : String) (e : Element) :
    ({ tag := some t } : Compound).selects e = sameIgnoringAsciiCase e.tag t := by
  simp [selects]

theorem selects_tag_class (t c : String) (e : Element) :
    ({ tag := some t, classes := [c] } : Compound).selects e =
      (sameIgnoringAsciiCase e.tag t && decide (c ∈ e.classes)) := by
  simp [selects]

end Compound

namespace Element

section Filter

variable {p : Element → Bool}

theorem map_snd_filter_prefix (l : List (Path × Element)) (i : Nat) :
    ((l.map fun n => (i :: n.1, n.2)).filter (p ·.2)).map (·.2) = (l.filter (p ·.2)).map (·.2) := by
  induction l with
  | nil => rfl
  | cons n l ih => by_cases h : p n.2 <;> simp [h, ih]

theorem map_snd_filter_childNodes (k : Nat) (cs : List Element) :
    ((childNodes k cs).filter (p ·.2)).map (·.2) =
      cs.flatMap fun c => (c.nodes.filter (p ·.2)).map (·.2) := by
  induction cs generalizing k with
  | nil => rfl
  | cons c cs ih =>
    rw [childNodes_cons, List.filter_append, List.map_append, map_snd_filter_prefix, ih,
      List.flatMap_cons]

theorem map_snd_filter_nodes (e : Element) :
    (e.nodes.filter (p ·.2)).map (·.2) =
      (if p e then [e] else []) ++ e.children.flatMap fun c => (c.nodes.filter (p ·.2)).map (·.2) := by
  rw [nodes_eq, List.filter_cons, descendants_eq, ← map_snd_filter_childNodes 0]
  by_cases h : p e <;> simp [h]

theorem map_snd_filter_descendants (e : Element) :
    (e.descendants.filter (p ·.2)).map (·.2) =
      e.children.flatMap fun c => (c.nodes.filter (p ·.2)).map (·.2) := by
  rw [descendants_eq, map_snd_filter_childNodes]

theorem map_snd_filter_nodes_of_leaf {e : Element} (h : e.children = []) :
    (e.nodes.filter (p ·.2)).map (·.2) = if p e then [e] else [] := by
  rw [map_snd_filter_nodes, h, List.flatMap_nil, List.append_nil]

theorem map_snd_filter_childNodes_leaves {k : Nat} {cs : List Element}
    (h : ∀ c ∈ cs, c.children = []) : ((childNodes k cs).filter (p ·.2)).map (·.2) = cs.filter p := by
  rw [map_snd_filter_childNodes]
  induction cs with
  | nil => rfl
  | cons c cs ih =>
    rw [List.flatMap_cons, map_snd_filter_nodes_of_leaf (h c List.mem_cons_self),
      ih fun c' hc' => h c' (List.mem_cons_of_mem _ hc'), List.filter_cons]
    cases p c <;> rfl

theorem map_snd_filter_nodes_of_leaf_children {e : Element} (h : ∀ c ∈ e.children, c.children = []) :
    (e.nodes.filter (p ·.2)).map (·.2) = (if p e then [e] else []) ++ e.children.filter p := by
  rw [map_snd_filter_nodes, ← map_snd_filter_childNodes 0, map_snd_filter_childNodes_leaves h]

end Filter

theorem renderedText_of_leaf {e : Element} (h : e.children = []) :
    e.renderedText = Text.trim e.text := by
  rw [renderedText_eq, h]
  cases ht : (Text.trim e.text).isEmpty
  · simp [renderedTexts]
  · simp [renderedTexts, String.isEmpty_iff.1 ht]

def textCell (p : String × String) : Element := { tag := "td", classes := [p.1], text := p.2 }

/-- The row of a text table holding a row of values, one cell per column while both last. -/
def textRow (columns row : List String) : Element :=
  { tag := "tr", children := (columns.zip row).map textCell }

def textHeader (columns : List String) : Element :=
  { tag := "tr", children := columns.map fun c => { tag := "th", classes := [c], text := c } }

theorem textRow_children_leaves (columns row : List String) :
    ∀ c ∈ (textRow columns row).children, c.children = [] := by
  intro c hc
  obtain ⟨q, -, rfl⟩ := List.mem_map.1 hc
  rfl

theorem textTable_eq (id : String) (columns : List String) (rows : List (List String)) :
    textTable id columns rows =
      { tag := "table", id := some id, children :=
        [{ tag := "thead", children := [textHeader columns] },
         { tag := "tbody", children := rows.map (textRow columns) }] } := rfl

theorem findAll_two_steps {e : Element} {s : String} {c₁ c₂ : Compound} {x : Element}
    (hsteps : cssSteps s = [c₁, c₂])
    (hfirst : (e.descendants.filter (c₁.selects ·.2)).map (·.2) = [x]) :
    e.findAll (Locator.css s) = (x.descendants.filter (c₂.selects ·.2)).map (·.2) := by
  obtain ⟨⟨q, y⟩, hq, rfl⟩ := List.map_eq_singleton_iff.1 hfirst
  have hnodup := ((matchesBelow_sorted (c := c₂) (q, y)).map Prod.fst fun _ _ h => h).nodup
  simp only [findAll, locateAll, Locator.css, selectCss_eq, hsteps, List.foldl_cons, List.foldl_nil,
    hq, stepBelow_eq, addNew_eq [] hnodup, List.any_nil, Bool.not_false, List.filter_true,
    List.nil_append]
  rw [matchesBelow, List.map_map]
  rfl

/-- The `tbody tr` rows of a text table are its rows of values, in order. -/
theorem findAll_tbody_tr (id : String) (columns : List String) (rows : List (List String)) :
    (textTable id columns rows).findAll (Locator.css "tbody tr") = rows.map (textRow columns) := by
  have hsteps : cssSteps "tbody tr" = [{ tag := some "tbody" }, { tag := some "tr" }] := by
    decide +kernel
  -- the header, like the rows, has leaves as children: cells
  have hheader : ∀ c ∈ (textHeader columns).children, c.children = [] := by
    intro c hc
    obtain ⟨q, -, rfl⟩ := List.mem_map.1 hc
    rfl
  have hrow : ∀ (t : String) row,
      ((textRow columns row).nodes.filter (({ tag := some t } : Compound).selects ·.2)).map (·.2) =
        (if Compound.sameIgnoringAsciiCase "tr" t then [textRow columns row] else []) ++
          if Compound.sameIgnoringAsciiCase "td" t then (columns.zip row).map textCell else [] := by
    intro t row
    rw [map_snd_filter_nodes_of_leaf_children (textRow_children_leaves columns row), Compound.selects_tag]
    congr 1
    cases h : Compound.sameIgnoringAsciiCase "td" t <;>
      simp [textRow, textCell, Compound.selects_tag, h, List.filter_map, Function.comp_def]
  have hbody : ∀ t, (({ tag := "tbody", children := rows.map (textRow columns) } : Element).nodes.filter
      (({ tag := some t } : Compound).selects ·.2)).map (·.2) =
        (if Compound.sameIgnoringAsciiCase "tbody" t then
          [{ tag := "tbody", children := rows.map (textRow columns) }] else []) ++
        rows.flatMap fun row =>
          ((textRow columns row).nodes.filter (({ tag := some t } : Compound).selects ·.2)).map (·.2) := by
    intro t
    rw [map_snd_filter_nodes, List.flatMap_map, Compound.selects_tag]
  have hthead : (({ tag := "thead", children := [textHeader columns] } : Element).nodes.filter
      (({ tag := some "tbody" } : Compound).selects ·.2)).map (·.2) = [] := by
    rw [map_snd_filter_nodes, List.flatMap_cons, List.flatMap_nil, List.append_nil,
      map_snd_filter_nodes_of_leaf_children hheader]
    simp [textHeader, List.filter_map, Function.comp_def, Compound.selects_tag,
      show Compound.sameIgnoringAsciiCase "thead" "tbody" = false by decide,
      show Compound.sameIgnoringAsciiCase "tr" "tbody" = false by decide,
      show Compound.sameIgnoringAsciiCase "th" "tbody" = false by decide]
  have htr : Compound.sameIgnoringAsciiCase "tr" "tr" = true := by decide
  have htdtr : Compound.sameIgnoringAsciiCase "td" "tr" = false := by decide
  have htrb : Compound.sameIgnoringAsciiCase "tr" "tbody" = false := by decide
  have htdb : Compound.sameIgnoringAsciiCase "td" "tbody" = false := by decide
  have hbb : Compound.sameIgnoringAsciiCase "tbody" "tbody" = true := by decide
  -- only the body is a `tbody`; below it, the `tr`s are the rows
  rw [findAll_two_steps hsteps (x := { tag := "tbody", children := rows.map (textRow columns) })]
  · rw [map_snd_filter_descendants, List.flatMap_map]
    simp [hrow, htr, htdtr, List.map_eq_flatMap]
  · rw [textTable_eq, map_snd_filter_descendants, List.flatMap_cons, List.flatMap_cons,
      List.flatMap_nil, List.append_nil, hthead, hbody]
    simp [hrow, htrb, htdb, hbb]

theorem find?_zip_column {columns row : List String} (hcols : columns.Nodup) {j : Nat}
    {col : String} (hj : columns[j]? = some col) :
    (columns.zip row).find? (fun p => p.1 == col) = row[j]?.map (col, ·) := by
  induction columns generalizing row j with
  | nil => cases hj
  | cons c cs ih =>
    cases row with
    | nil => simp
    | cons v vs =>
      rw [List.zip_cons_cons]
      cases j with
      | zero =>
        obtain rfl : c = col := by simpa using hj
        rw [List.find?_cons_of_pos (by simp)]
        rfl
      | succ j =>
        have hcol : col ∈ cs := List.mem_of_getElem? hj
        have hc : c ≠ col := fun h => (List.nodup_cons.1 hcols).1 (h ▸ hcol)
        rw [List.find?_cons_of_neg (by simpa using hc)]
        exact ih (List.nodup_cons.1 hcols).2 hj

theorem find?_td_column {columns row : List String} (hcols : columns.Nodup) {j : Nat}
    {col : String} (hj : columns[j]? = some col)
    (hplain : ∀ ch ∈ col.toList, Text.isBlank ch = false ∧ Compound.isMarker ch = false) :
    (textRow columns row).find? (Locator.css ("td." ++ col)) = row[j]?.map fun v => textCell (col, v) := by
  have hne : "td." ++ col ≠ "" := fun h => by simpa using congrArg String.length h
  have hprefix : ∀ ch ∈ "td.".toList, Text.isBlank ch = false := by
    rw [show "td.".toList = ['t', 'd', '.'] from rfl]
    simp [Text.isBlank]
  have hblank : ∀ ch ∈ ("td." ++ col).toList, Text.isBlank ch = false := by
    intro ch hch
    rw [String.toList_append] at hch
    rcases List.mem_append.1 hch with hch | hch
    · exact hprefix ch hch
    · exact (hplain ch hch).1
  have hgt : ("td." ++ col != ">") = true := by
    refine bne_iff_ne.2 fun h => ?_
    have := congrArg (fun s => s.toList.length) h
    simp only [String.toList_append, show "td.".toList = ['t', 'd', '.'] from rfl,
      show ">".toList = ['>'] from rfl, List.length_append, List.length_cons, List.length_nil] at this
    omega
  have hsteps : cssSteps ("td." ++ col) = [{ tag := some "td", classes := [col] }] := by
    rw [cssSteps, Text.words_plain hne hblank, List.filter_cons, if_pos hgt, List.filter_nil,
      List.map_singleton, Compound.parse_td_class fun ch hch => (hplain ch hch).2]
  have htd : Compound.sameIgnoringAsciiCase "td" "td" = true := by decide
  have hfound : (textRow columns row).findAll (Locator.css ("td." ++ col)) =
      ((columns.zip row).map textCell).filter fun x => x.classes = [col] := by
    simp only [findAll, locateAll, Locator.css, selectCss_eq, hsteps, List.foldl_nil]
    rw [descendants_eq, map_snd_filter_childNodes_leaves (textRow_children_leaves columns row)]
    refine List.filter_congr fun x hx => ?_
    obtain ⟨q, -, rfl⟩ := List.mem_map.1 hx
    rw [Compound.selects_tag_class]
    simp [textCell, htd, eq_comm]
  have hfind : (textRow columns row).find? (Locator.css ("td." ++ col)) =
      ((textRow columns row).findAll (Locator.css ("td." ++ col))).head? := by
    simp [find?, findAll, locate?, List.head?_map]
  rw [hfind, hfound, List.filter_map, List.head?_map, List.head?_filter]
  have hzip : ((columns.zip row).find? fun p => decide ((textCell p).classes = [col])) =
      (columns.zip row).find? fun p => p.1 == col := by
    congr 1
    funext p
    simp [textCell, Bool.beq_eq_decide_eq]
  simp only [Function.comp_def]
  rw [hzip, find?_zip_column hcols hj, Option.map_map]
  rfl

end Element

namespace Schema

theorem checkBindings_of_valid {t : Descriptor} {seen : List String} {bs : List Binding}
    (hnd : (bs.map Binding.name).Nodup) (hfresh : ∀ b ∈ bs, b.name ∉ seen)
    (hdecl : ∀ b ∈ bs, (t.rowsFor b.place.sectionName).isSome) :
    checkBindings t seen bs = .ok () := by
  induction bs generalizing seen with
  | nil => rfl
  | cons b rest ih =>
    rw [List.map_cons, List.nodup_cons] at hnd
    have hb := hdecl b List.mem_cons_self
    rw [checkBindings, if_neg (hfresh b List.mem_cons_self),
      if_neg (by cases h : t.rowsFor b.place.sectionName <;> simp_all)]
    refine ih hnd.2 (fun x hx hxs => ?_) fun x hx => hdecl x (List.mem_cons_of_mem _ hx)
    rcases List.mem_cons.1 hxs with h | h
    · exact hnd.1 (h ▸ List.mem_map_of_mem hx)
    · exact hfresh x (List.mem_cons_of_mem _ hx) h

end Schema

theorem groupBySection_default {bs : List Binding} (hne : bs ≠ [])
    (h : ∀ b ∈ bs, b.place.sectionName = "") : groupBySection bs = [("", bs)] := by
  obtain ⟨b, rest, rfl⟩ := List.exists_cons_of_ne_nil hne
  -- the default section is the only one, and it is kept once
  have hkeys : ((b :: rest).map (·.place.sectionName)).eraseDups = [""] := by
    have hrest : (rest.map (·.place.sectionName)).filter (fun s => !s == "") = [] := by
      simpa using fun x hx => h x (List.mem_cons_of_mem _ hx)
    rw [List.map_cons, h b List.mem_cons_self, List.eraseDups_cons, hrest]
    rfl
  rw [groupBySection_eq, hkeys, List.map_singleton, List.filter_eq_self.2 (by simpa using h)]

theorem rangeCount_default {d : Descriptor} {c : Element} {bs : List Binding}
    (h : ∀ b ∈ bs, b.place.sectionName = "") : rangeCount d c bs = (d.rowsIn c "").length := by
  unfold rangeCount
  by_cases hbs : bs = []
  · rw [hbs]
    rfl
  · rw [groupBySection_default hbs h]
    simp

theorem rangePositions_whole {n : Nat} (h : n < 2 ^ 64) :
    rangePositions 1 (Nat.pow 2 64 - 1) n = List.range n := by
  unfold rangePositions resolveRange
  by_cases h0 : n = 0
  · simp [h0]
  · have hpow : Nat.pow 2 64 = 2 ^ 64 := rfl
    rw [if_neg (by omega), Nat.min_eq_right (by omega)]
    simp [List.range_eq_range', Nat.sub_add_cancel (Nat.pos_of_ne_zero h0)]

/-- The field of a column of a text table: read from the row's `td` classed with the column. -/
def columnBinding (name column : String) : Binding :=
  { name, place := { cell := some (Locator.css ("td." ++ column)) } }

/-- Reading every row of a text table. For a page whose first element with id `id` is
`textTable id columns rows`, and an engine whose table is found by that id, whose rows are
`tbody tr` and whose fields are the columns, the field of column `col` named `name col` and
read from `td.col`: reading the whole table gives one row record per row of values, in order,
in which the field of the `j`-th column holds the cell on the row's `j`-th `td` with the
trimmed `j`-th value as text, and is unset when the row has fewer values. -/
theorem readTable_textTable (e : Engine) (id : String) (columns : List String)
    (rows : List (List String)) (name : String → String) (path : Path) (ss : Session)
    (hcontainer : e.table.container = ⟨.id, id⟩) (hrows : e.table.rows = Locator.css "tbody tr")
    (hbindings : e.bindings = columns.map fun col => columnBinding (name col) col)
    (hnames : (columns.map name).Nodup)
    (hplain : ∀ col ∈ columns, ∀ ch ∈ col.toList,
      Text.isBlank ch = false ∧ ch ≠ '.' ∧ ch ≠ '#' ∧ ch ≠ '[')
    (hpage : e.root.locate? ⟨.id, id⟩ = some (path, Element.textTable id columns rows))
    (hcount : rows.length < 2 ^ 64) :
    ∃ L : List Row, ((e.readTable []).run ss).1 = .ok L ∧ L.length = rows.length ∧
      ∀ (k : Nat) (row : List String), rows[k]? = some row → ∃ r : Row, L[k]? = some r ∧
        ∀ (j : Nat) (col : String), columns[j]? = some col →
          r.get (name col) = row[j]?.map fun v =>
            CellValue.single ⟨Text.trim v, some { tag := "td", classes := [col], text := v }⟩ := by
  set T := Element.textTable id columns rows
  set bs := columns.map fun col => columnBinding (name col) col
  have hcols : columns.Nodup := List.Nodup.of_map name hnames
  have hbnames : (bs.map Binding.name).Nodup := by
    simpa [bs, List.map_map, Function.comp_def, columnBinding] using hnames
  have hdefault : ∀ b ∈ bs, b.place.sectionName = "" := by
    intro b hb
    obtain ⟨col, -, rfl⟩ := List.mem_map.1 hb
    rfl
  have hs : Schema.build e.table e.bindings = .ok ⟨e.table, bs⟩ := by
    rw [Schema.build, hbindings,
      Schema.checkBindings_of_valid hbnames (fun _ _ h => by cases h)
        fun b hb => by simp [hdefault b hb, Descriptor.rowsFor]]
    rfl
  have hsel : (⟨e.table, bs⟩ : Schema).select [] = .ok bs := rfl
  have hc : e.root.locate? e.table.container = some (path, T) := by rw [hcontainer, hpage]
  have hwf := (Schema.build_ok hs).2
  -- every field reads the default section's rows, the rows of values
  have hdefrows : e.table.rowsIn T "" = rows.map (Element.textRow columns) := by
    rw [Descriptor.rowsIn, Descriptor.sectionLocator_default, hrows]
    exact Element.findAll_tbody_tr id columns rows
  have hcount' : rangeCount e.table T bs = rows.length := by
    rw [rangeCount_default hdefault, hdefrows, List.length_map]
  -- a value read is one cell, which a field of one cell accepts
  have hnone : ∀ p, (readsAt e.table T bs p).findSome? (fun r => r.1.refusal r.2) = none := by
    intro p
    refine List.findSome?_eq_none_iff.2 fun r hr => ?_
    obtain ⟨hb, hv⟩ := mem_readsAt.1 hr
    obtain ⟨col, -, hcol⟩ := List.mem_map.1 hb
    have hshape : r.2.shape = Shape.single := by
      obtain ⟨row, -, hread⟩ := Option.bind_eq_some_iff.1 hv
      rw [Place.readValue_shape hread, ← hcol]
      rfl
    rw [Binding.refusal_eq, if_pos (by rw [hshape, ← hcol]; rfl)]
  refine ⟨(List.range rows.length).map (rowRead e.table T bs), ?_, by simp, ?_⟩
  · unfold Engine.readTable
    rw [Engine.readTableRange_run_groups e _ _ [] ss hs hsel hc, hcount', rangePositions_whole hcount,
      mapM_except fun p => rowAt_groups hwf (List.Sublist.refl _),
      List.findSome?_eq_none_iff.2 fun p _ => hnone p]
    rfl
  · intro k row hk
    have hlt : k < rows.length := (List.getElem?_eq_some_iff.1 hk).1
    refine ⟨rowRead e.table T bs k, by simp [hlt], fun j col hj => ?_⟩
    have hcolmem : col ∈ columns := List.mem_of_getElem? hj
    have hplain' : ∀ ch ∈ col.toList, Text.isBlank ch = false ∧ Compound.isMarker ch = false := by
      intro ch hch
      obtain ⟨hb, hdot, hhash, hbr⟩ := hplain col hcolmem ch hch
      exact ⟨hb, by simp [Compound.isMarker, hdot, hhash, hbr]⟩
    -- the field named `name col` is the column's binding, read in the row's `td.col` cell
    have hfind : bs.find? (·.name == name col) = some (columnBinding (name col) col) :=
      (find?_name_eq_some_iff hbnames).2 ⟨List.mem_map_of_mem hcolmem, rfl⟩
    have hcell : ∀ v, ({ cell := some (Locator.css ("td." ++ col)) } : Place).readCell
        (Element.textCell (col, v)) = some ⟨Text.trim v, some (Element.textCell (col, v))⟩ := by
      intro v
      have hleaf : (Element.textCell (col, v)).renderedText = Text.trim v :=
        Element.renderedText_of_leaf rfl
      simp only [Place.readCell, Option.map_some, Bool.false_eq_true, if_false, hleaf]
    show (bs.find? (·.name == name col)).bind (readAt e.table T k) = _
    rw [hfind, Option.bind_some, readAt]
    show ((e.table.rowsIn T "")[k]?).bind _ = _
    rw [hdefrows, List.getElem?_map, hk, Option.map_some, Option.bind_some]
    simp only [columnBinding, Place.readValue, Bool.false_eq_true, if_false, Place.cellIn?,
      Element.find?_td_column hcols hj hplain']
    cases row[j]? with
    | none => rfl
    | some v =>
      simp [hcell]
      rfl

/-- A page with a table of users, by name and email; the second user has no email. -/
def usersEngine : Engine where
  root := { tag := "body", children :=
    [Element.textTable "users" ["name", "email"] [["Ann", "ann@example.com"], ["Bob"]]] }
  table :=
    { container := ⟨.id, "users"⟩
      rows := Locator.css "tbody tr"
      headerRow := Locator.css "thead tr" }
  bindings := ["name", "email"].map fun col => columnBinding col col

/-- Reading the users back: two records, the second with its email unset. -/
theorem readTable_users : ∃ L : List Row, ((usersEngine.readTable []).run {}).1 = .ok L ∧ L.length = 2 ∧
    ∀ (k : Nat) (row : List String), [["Ann", "ann@example.com"], ["Bob"]][k]? = some row →
      ∃ r : Row, L[k]? = some r ∧ ∀ (j : Nat) (col : String), ["name", "email"][j]? = some col →
        r.get col = row[j]?.map fun v =>
          CellValue.single ⟨Text.trim v, some { tag := "td", classes := [col], text := v }⟩ := by
  have hplain : ∀ col ∈ ["name", "email"], ∀ ch ∈ col.toList,
      Text.isBlank ch = false ∧ ch ≠ '.' ∧ ch ≠ '#' ∧ ch ≠ '[' := by
    intro col hcol
    simp only [List.mem_cons, List.not_mem_nil, or_false] at hcol
    rcases hcol with rfl | rfl
    · rw [show "name".toList = ['n', 'a', 'm', 'e'] from rfl]
      simp [Text.isBlank]
    · rw [show "email".toList = ['e', 'm', 'a', 'i', 'l'] from rfl]
      simp [Text.isBlank]
  exact readTable_textTable usersEngine "users" ["name", "email"] [["Ann", "ann@example.com"], ["Bob"]]
    (fun col => col) [0] {} rfl rfl rfl (by decide) hplain rfl (by decide)

end TableBind
