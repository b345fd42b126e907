import Mathlib
import TableBind.Proofs.Search
import TableBind.Proofs.Write

/-! Rows found by their own texts. Every text read from a row lies inside the row's rendered
text, so criteria made of such texts pick that row or an earlier one. -/

namespace TableBind

namespace Element

theorem mem_findAll_of_find? {e x : Element} {l : Locator} (h : e.find? l = some x) :
    x ∈ e.findAll l := by
  simp only [find?, locate?, Option.map_eq_some_iff] at h
  obtain ⟨n, hn, rfl⟩ := h
  exact List.mem_map_of_mem (List.mem_of_mem_head? hn)

theorem renderedText_infix_of_mem_findAll {e x : Element} {l : Locator} (h : x ∈ e.findAll l) :
    x.renderedText.toList <:+: e.renderedText.toList := by
  obtain ⟨n, hn, rfl⟩ := List.mem_map.1 h
  exact renderedText_infix_of_mem_descendants (p := n.1) (mem_descendants_of_mem_locateAll hn)

end Element

namespace Place

variable {p : Place} {row : Element}

theorem renderedText_infix_of_mem_cellsIn {x : Element} (h : x ∈ p.cellsIn row) :
    x.renderedText.toList <:+: row.renderedText.toList := by
  unfold cellsIn at h
  split at h
  · exact Element.renderedText_infix_of_mem_findAll h
  · obtain rfl := List.mem_singleton.1 h
    exact List.infix_refl _

theorem renderedText_infix_of_cellIn? {x : Element} (h : p.cellIn? row = some x) :
    x.renderedText.toList <:+: row.renderedText.toList := by
  unfold cellIn? at h
  split at h
  · exact Element.renderedText_infix_of_mem_findAll (Element.mem_findAll_of_find? h)
  · cases h
    exact List.infix_refl _

theorem readCell_text_infix_renderedText {x : Element} {cell : Cell} (h : p.readCell x = some cell) :
    cell.text.toList <:+: x.renderedText.toList := by
  unfold readCell at h
  obtain ⟨src, hsrc, rfl⟩ := Option.map_eq_some_iff.1 h
  have hinside : src.renderedText.toList <:+: x.renderedText.toList := by
    split at hsrc
    · exact Element.renderedText_infix_of_mem_findAll (Element.mem_findAll_of_find? hsrc)
    · cases hsrc
      exact List.infix_refl _
  dsimp only
  split
  · exact (Element.ownText_infix_renderedText src).trans hinside
  · exact hinside

/-- Every text a field reads from a row lies inside the row's rendered text. -/
theorem readValue_texts_infix_renderedText {v : CellValue} (h : p.readValue row = some v) :
    ∀ t ∈ v.texts, t.toList <:+: row.renderedText.toList := by
  unfold readValue at h
  split at h
  · cases h
    intro t ht
    obtain ⟨cell, hcell, rfl⟩ := List.mem_map.1 ht
    obtain ⟨x, hx, hread⟩ := List.mem_filterMap.1 hcell
    exact (readCell_text_infix_renderedText hread).trans (renderedText_infix_of_mem_cellsIn hx)
  · obtain ⟨cell, hcell, rfl⟩ := Option.map_eq_some_iff.1 h
    obtain ⟨x, hx, hread⟩ := Option.bind_eq_some_iff.1 hcell
    intro t ht
    obtain rfl := List.mem_singleton.1 ht
    exact (readCell_text_infix_renderedText hread).trans (renderedText_infix_of_cellIn? hx)

end Place

theorem RowSelector.firstFit_le {ks texts : List String} {k : Nat} {t : String}
    (ht : texts[k]? = some t) (hfit : RowSelector.fits ks t = true) :
    ∃ p ≤ k, RowSelector.firstFit ks texts = some p := by
  induction texts generalizing k with
  | nil => cases ht
  | cons t' ts ih =>
    unfold RowSelector.firstFit
    split
    · exact ⟨0, Nat.zero_le _, rfl⟩
    · rename_i hno
      cases k with
      | zero =>
        cases ht
        exact absurd hfit hno
      | succ k =>
        obtain ⟨p, hp, hfirst⟩ := ih (by simpa using ht)
        exact ⟨p + 1, by omega, by rw [hfirst]; rfl⟩

namespace Engine

theorem readRow_run_of_position_eq (e : Engine) {sel sel' : RowSelector} (fields : List String)
    (ss : Session)
    (h : ∀ c, e.root.locate? e.table.container = some c →
      sel.position ((e.table.rowsIn c.2 "").map Element.renderedText) =
        sel'.position ((e.table.rowsIn c.2 "").map Element.renderedText)) :
    (e.readRow sel fields).run ss = (e.readRow sel' fields).run ss := by
  unfold readRow
  cases hs : Schema.build e.table e.bindings with
  | error err => simp [hs]
  | ok s =>
    obtain ⟨rfl, -⟩ := Schema.build_ok hs
    cases hbs : Schema.select ⟨e.table, e.bindings⟩ fields with
    | error err => simp [hs, hbs]
    | ok bs =>
      cases hc : e.root.locate? e.table.container with
      | none => simp [hs, hbs, hc]
      | some c =>
        simp only [run_bind, schema_run, hs, run_lift, hbs, container_run, hc,
          sectionRows_default_run, pick_run]
        rw [h c hc]

/-- Texts read from the default section's row at `k` lie inside its rendered text, through any
field's cell locator, text locator and choice of own text. So criteria made of such texts pick
a row at `k` or before, and a row read by them reads the row at that position. -/
theorem criteria_of_read_texts (e : Engine) (fields : List String) (ss : Session)
    {c : Path × Element} (hc : e.root.locate? e.table.container = some c) {k : Nat}
    {row : Element} (hrow : (e.table.rowsIn c.2 "")[k]? = some row) (ts : List String)
    (hts : ∀ t ∈ ts, ∃ (pl : Place) (v : CellValue), pl.readValue row = some v ∧ t ∈ v.texts) :
    (∀ (pl : Place) (v : CellValue), pl.readValue row = some v →
      ∀ t ∈ v.texts, Text.contains row.renderedText t = true) ∧
    ∃ p ≤ k, (RowSelector.criteria ts).position
        ((e.table.rowsIn c.2 "").map Element.renderedText) = .ok p ∧
      (e.readRow (.criteria ts) fields).run ss = (e.readRow (.index (p + 1)) fields).run ss := by
  have hcontains : ∀ (pl : Place) (v : CellValue), pl.readValue row = some v →
      ∀ t ∈ v.texts, Text.contains row.renderedText t = true :=
    fun pl v hv t ht => (Text.occursIn_iff _ _).2 (Place.readValue_texts_infix_renderedText hv t ht)
  refine ⟨hcontains, ?_⟩
  have hfit : RowSelector.fits ts row.renderedText = true := by
    refine List.all_eq_true.2 fun t ht => ?_
    obtain ⟨pl, v, hv, htv⟩ := hts t ht
    exact hcontains pl v hv t htv
  have hrowText : ((e.table.rowsIn c.2 "").map Element.renderedText)[k]? = some row.renderedText := by
    rw [List.getElem?_map, hrow]
    rfl
  obtain ⟨p, hpk, hfirst⟩ := RowSelector.firstFit_le hrowText hfit
  have hpos : (RowSelector.criteria ts).position ((e.table.rowsIn c.2 "").map Element.renderedText) =
      .ok p := by
    simp [RowSelector.position, hfirst]
  have hlen : k < (e.table.rowsIn c.2 "").length := (List.getElem?_eq_some_iff.1 hrow).1
  refine ⟨p, hpk, hpos, readRow_run_of_position_eq e fields ss fun c' hc' => ?_⟩
  -- the container found is `c`, and index `p + 1` is in range since `p ≤ k`
  rw [hc] at hc'
  cases hc'
  rw [hpos]
  simp only [RowSelector.position, List.length_map]
  rw [if_pos ⟨by omega, by omega⟩]
  rfl

/-- A second stock row, again a pen with a blue tag. -/
def restockRow : Element :=
  { tag := "tr", attrs := [("data-testid", "item")], children :=
    [{ tag := "td", id := some "pen2", attrs := [("data-testid", "name")], text := "pen" },
     { tag := "td", id := some "blue2", attrs := [("data-testid", "tag")], text := "blue" }] }

def restockTable : Element :=
  { tag := "table", id := some "stock", children := [stockRow, restockRow] }

def restockEngine : Engine := { stockEngine with root := { tag := "body", children := [restockTable] } }

/-- The texts of the second row pick the first row, which they fit too. -/
theorem criteria_of_read_texts_restock :
    restockEngine.root.locate? restockEngine.table.container = some ([0], restockTable) ∧
    (restockEngine.table.rowsIn restockTable "")[1]? = some restockRow ∧
    (∀ t ∈ ["pen", "blue"], ∃ (pl : Place) (v : CellValue), pl.readValue restockRow = some v ∧
      t ∈ v.texts) ∧
    (∀ (pl : Place) (v : CellValue), pl.readValue restockRow = some v →
      ∀ t ∈ v.texts, Text.contains restockRow.renderedText t = true) ∧
    (RowSelector.criteria ["pen", "blue"]).position
        ((restockEngine.table.rowsIn restockTable "").map Element.renderedText) = .ok 0 ∧
    (restockEngine.readRow (.criteria ["pen", "blue"]) []).run {} =
      (restockEngine.readRow (.index 1) []).run {} := by
  have hts : ∀ t ∈ ["pen", "blue"], ∃ (pl : Place) (v : CellValue),
      pl.readValue restockRow = some v ∧ t ∈ v.texts := by
    intro t ht
    simp only [List.mem_cons, List.not_mem_nil, or_false] at ht
    rcases ht with rfl | rfl
    · exact ⟨stockName.place, _, rfl, by decide⟩
    · exact ⟨stockTags.place, _, rfl, by decide⟩
  obtain ⟨hcontains, p, -, hpos, hread⟩ :=
    @criteria_of_read_texts restockEngine [] {} ([0], restockTable) rfl 1 restockRow rfl _ hts
  -- the texts of the second row already fit the first
  have hfirst : (RowSelector.criteria ["pen", "blue"]).position
      ((restockEngine.table.rowsIn restockTable "").map Element.renderedText) = .ok 0 := by
    rfl
  rw [hfirst, Except.ok.injEq] at hpos
  subst hpos
  exact ⟨rfl, rfl, hts, hcontains, hfirst, hread⟩

end Engine

end TableBind
