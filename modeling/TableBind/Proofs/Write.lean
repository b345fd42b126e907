import Mathlib
import TableBind.Proofs.Read

/-! Writing through an engine, as the calls it makes. Inserting a row record makes exactly the
calls of `planRun` over the insertion plan, waiting on each section it reaches; inserting into
one cell dispatches once on the cell at that index among those its locator finds. -/

namespace TableBind

def CellValue.cells : CellValue → List Cell
  | .single c => [c]
  | .list cs => cs

def Call.cellLabel : Call → String
  | .insert cell .. => cell
  | .filter cell .. => cell
  | .sort cell _ => cell

/-- The errors a plan step can stop an insertion with. -/
inductive StepFailure : TableError → Prop where
  | rowNotInSection (position : Nat) (sectionName : String) :
      StepFailure (.rowNotInSection position sectionName)
  | cellNotFound (field : String) (cell : Option Locator) : StepFailure (.cellNotFound field cell)
  | registryUnavailable (field : String) : StepFailure (.registryUnavailable .insert field)
  | registryLookup (c : Component) : StepFailure (.registryLookup .insert c)
  | cellOperation (field message : String) : StepFailure (.cellOperation field message)

section Plan

theorem planSteps_mem {data : Row} {bs : List Binding} {steps : List Step}
    (h : planSteps data bs = .ok steps) :
    ∀ st ∈ steps, st.binding ∈ bs ∧ st.binding.insertion.isSome := by
  induction bs generalizing steps with
  | nil =>
    cases h
    simp
  | cons b rest ih =>
    cases hv : b.get data with
    | none =>
      simp only [planSteps, hv] at h
      intro st hst
      obtain ⟨hmem, hroute⟩ := ih h st hst
      exact ⟨List.mem_cons_of_mem _ hmem, hroute⟩
    | some v =>
      simp only [planSteps, hv] at h
      by_cases hr : b.insertion.isNone
      · rw [if_pos hr] at h
        cases h
      · rw [if_neg hr] at h
        cases hrest : planSteps data rest with
        | error err =>
          rw [hrest] at h
          cases h
        | ok steps' =>
          rw [hrest] at h
          cases h
          intro st hst
          rcases List.mem_cons.1 hst with rfl | hst
          · exact ⟨List.mem_cons_self, Option.ne_none_iff_isSome.1 (by simpa using hr)⟩
          · obtain ⟨hmem, hroute⟩ := ih hrest st hst
            exact ⟨List.mem_cons_of_mem _ hmem, hroute⟩

theorem insertionPlan_mem {s : Schema} {data : Row} {plan : List Step}
    (h : insertionPlan s data = .ok plan) :
    ∀ st ∈ plan, st.binding ∈ s.bindings ∧ st.binding.insertion.isSome := by
  unfold insertionPlan at h
  cases hsteps : planSteps data s.bindings with
  | error err =>
    rw [hsteps] at h
    cases h
  | ok steps =>
    rw [hsteps] at h
    cases h
    intro st hst
    exact planSteps_mem hsteps st (List.mem_mergeSort.1 hst)

end Plan

namespace Engine

/-- The call a binding's insertion route makes on a cell, with the action that answers it,
or the error that stops the dispatch before any call. -/
def dispatchCall (e : Engine) (b : Binding) (cell : Element) (values : List String) :
    Except TableError (Call × Action) :=
  match b.insertion with
  | none => .error (.noInsertionRoute b.name)
  | some r =>
    match r.target with
    | .component comp =>
      match e.registry with
      | none => .error (.registryUnavailable .insert b.name)
      | some reg =>
        match reg.service? .insert comp.kind with
        | none => .error (.registryLookup .insert comp)
        | some a => .ok (.insert cell.label (some comp) values, a)
    | .custom a => .ok (.insert cell.label none values, a)

theorem dispatchInsert_run (e : Engine) (b : Binding) (cell : Element) (values : List String)
    (ss : Session) :
    (e.dispatchInsert b cell values).run ss = match e.dispatchCall b cell values with
      | .error err => (.error err, ss)
      | .ok (call, a) => (a.answer b.name, { ss with calls := ss.calls ++ [call] }) := by
  unfold dispatchInsert dispatchCall
  rcases b.insertion with _ | ⟨comp | a, _⟩
  · rfl
  · cases e.registry with
    | none => rfl
    | some reg => cases hs : reg.service? .insert comp.kind <;> simp [hs]
  · simp

theorem dispatchCall_failure {e : Engine} {b : Binding} {cell : Element} {values : List String}
    {err : TableError} (hroute : b.insertion.isSome) (h : e.dispatchCall b cell values = .error err) :
    StepFailure err := by
  unfold dispatchCall at h
  obtain ⟨r, hr⟩ := Option.isSome_iff_exists.1 hroute
  rw [hr] at h
  dsimp only at h
  split at h
  · split at h
    · cases h
      exact .registryUnavailable _
    · split at h
      · cases h
        exact .registryLookup _
      · cases h
  · cases h

/-- The wait that reaching a row of a section adds: none for the default section, whose rows
are known already, and one on the container for the rows of any other. -/
def sectionWait (path : Path) (d : Descriptor) (name : String) : List (Path × Locator) :=
  if name = "" then [] else [(path, d.sectionLocator name)]

theorem rowIn_run {c : Path × Element} {d : Descriptor} {name : String}
    (h : (d.rowsFor name).isSome) (p : Nat) (ss : Session) :
    (rowIn c d (d.rowsIn c.2 "") name p).run ss =
      (match (d.rowsIn c.2 name)[p]? with
        | some row => .ok row
        | none => .error (.rowNotInSection (p + 1) name),
        { ss with waits := ss.waits ++ sectionWait c.1 d name }) := by
  unfold rowIn sectionWait
  by_cases hn : name = ""
  · subst hn
    simp only [if_pos, run_bind, run_pure, List.append_nil]
    cases (d.rowsIn c.2 "")[p]? <;> rfl
  · simp only [if_neg hn, run_bind, sectionRows_run h]
    cases (d.rowsIn c.2 name)[p]? <;> rfl

/-- The call a plan step makes at position `p` of a container, with the action that answers
it, or the error that stops the step before its call: no row at `p` in the step's section, no
cell of the field in that row, or a route that cannot be dispatched. -/
def stepDispatch (e : Engine) (d : Descriptor) (c : Element) (p : Nat) (st : Step) :
    Except TableError (Call × Action) :=
  match (d.rowsIn c st.binding.place.sectionName)[p]? with
  | none => .error (.rowNotInSection (p + 1) st.binding.place.sectionName)
  | some row =>
    match st.binding.place.cellIn? row with
    | none => .error (.cellNotFound st.binding.name st.binding.place.cell)
    | some cell => e.dispatchCall st.binding cell st.values

theorem stepDispatch_failure {e : Engine} {d : Descriptor} {c : Element} {p : Nat} {st : Step}
    {err : TableError} (hroute : st.binding.insertion.isSome)
    (h : e.stepDispatch d c p st = .error err) : StepFailure err := by
  unfold stepDispatch at h
  split at h
  · cases h
    exact .rowNotInSection _ _
  · split at h
    · cases h
      exact .cellNotFound _ _
    · exact dispatchCall_failure hroute h

theorem runStep_run (e : Engine) {c : Path × Element} {d : Descriptor} (p : Nat) (st : Step)
    (h : (d.rowsFor st.binding.place.sectionName).isSome) (ss : Session) :
    (e.runStep c d (d.rowsIn c.2 "") p st).run ss =
      let ss' := { ss with waits := ss.waits ++ sectionWait c.1 d st.binding.place.sectionName }
      match e.stepDispatch d c.2 p st with
      | .error err => (.error err, ss')
      | .ok (call, a) => (a.answer st.binding.name, { ss' with calls := ss.calls ++ [call] }) := by
  unfold runStep stepDispatch
  rw [run_bind, rowIn_run h]
  cases (d.rowsIn c.2 st.binding.place.sectionName)[p]? with
  | none => rfl
  | some row =>
    dsimp only
    cases st.binding.place.cellIn? row with
    | none => rfl
    | some cell =>
      dsimp only
      rw [dispatchInsert_run]

/-- What running plan steps in order did: the steps started, the calls made, and how it
ended. -/
structure PlanTrace where
  started : List Step
  calls : List Call
  outcome : Except TableError Unit

/-- Runs plan steps in order. A step that fails before its call ends the run without a call;
a call answered by a failing action ends it after the call. -/
def planRun (e : Engine) (d : Descriptor) (c : Element) (p : Nat) : List Step → PlanTrace
  | [] => ⟨[], [], .ok ()⟩
  | st :: rest =>
    match e.stepDispatch d c p st with
    | .error err => ⟨[st], [], .error err⟩
    | .ok (call, .fail m) => ⟨[st], [call], .error (.cellOperation st.binding.name m)⟩
    | .ok (call, .record) =>
      let r := planRun e d c p rest
      ⟨st :: r.started, call :: r.calls, r.outcome⟩

theorem planRun_failure (e : Engine) (d : Descriptor) (c : Element) (p : Nat)
    {plan : List Step} (hroute : ∀ st ∈ plan, st.binding.insertion.isSome) {err : TableError}
    (h : (e.planRun d c p plan).outcome = .error err) : StepFailure err := by
  induction plan with
  | nil => cases h
  | cons st rest ih =>
    unfold planRun at h
    cases hd : e.stepDispatch d c p st with
    | error err' =>
      rw [hd] at h
      cases h
      exact stepDispatch_failure (hroute st List.mem_cons_self) hd
    | ok r =>
      obtain ⟨call, _ | m⟩ := r
      · rw [hd] at h
        exact ih (fun st' hst' => hroute st' (List.mem_cons_of_mem _ hst')) h
      · rw [hd] at h
        cases h
        exact .cellOperation _ _

/-- Running plan steps whose sections are declared: each started step of another section
than the default one waits on the container, and the calls are the trace's. -/
theorem forM_runStep_run (e : Engine) {c : Path × Element} {d : Descriptor} (p : Nat)
    (plan : List Step) (h : ∀ st ∈ plan, (d.rowsFor st.binding.place.sectionName).isSome)
    (ss : Session) :
    (plan.forM (e.runStep c d (d.rowsIn c.2 "") p)).run ss =
      let r := e.planRun d c.2 p plan
      (r.outcome, { ss with
        waits := ss.waits ++ r.started.flatMap fun st => sectionWait c.1 d st.binding.place.sectionName
        calls := ss.calls ++ r.calls }) := by
  induction plan generalizing ss with
  | nil => simp [planRun]
  | cons st rest ih =>
    rw [List.forM.eq_2, run_bind, runStep_run e p st (h st List.mem_cons_self)]
    unfold planRun
    cases e.stepDispatch d c.2 p st with
    | error err => simp
    | ok r =>
      obtain ⟨call, _ | m⟩ := r
      · dsimp only [Action.answer]
        rw [ih (fun st' hst' => h st' (List.mem_cons_of_mem _ hst'))]
        simp
      · simp [Action.answer]

/-- Inserting a row record, as the calls and waits it makes. The schema, the plan and the
container are checked in that order, before any call; the default section's rows are then
fetched with one wait and the selector picks a position among them. The plan's steps run at
that position as `planRun` says, each started step of another section waiting on its rows
first, and the insertion ends as the trace does. A plan that is made fails only as a plan step
may. -/
theorem insertRow_trace (e : Engine) (sel : RowSelector) (data : Row) (ss : Session) :
    ((e.insertRow sel data).run ss =
      match Schema.build e.table e.bindings with
      | .error err => (.error err, ss)
      | .ok s =>
        match insertionPlan s data, e.root.locate? e.table.container with
        | .error err, _ => (.error err, Session.afterSchema e ss)
        | .ok _, none => (.error (.containerNotFound e.table.container), Session.afterSchema e ss)
        | .ok plan, some c =>
          let ss' := { Session.afterSchema e ss with waits := ss.waits ++ [(c.1, e.table.rows)] }
          match sel.position ((e.table.rowsIn c.2 "").map Element.renderedText) with
          | .error err => (.error err, ss')
          | .ok p =>
            let r := e.planRun e.table c.2 p plan
            (r.outcome, { ss' with
              waits := ss'.waits ++ r.started.flatMap fun st =>
                sectionWait c.1 e.table st.binding.place.sectionName
              calls := ss.calls ++ r.calls })) ∧
    ∀ s plan, insertionPlan s data = .ok plan → ∀ d c p err,
      (e.planRun d c p plan).outcome = .error err → StepFailure err := by
  refine ⟨?_, fun s plan hplan d c p err h =>
    planRun_failure e d c p (fun st hst => (insertionPlan_mem hplan st hst).2) h⟩
  unfold insertRow
  cases hs : Schema.build e.table e.bindings with
  | error err => simp [hs]
  | ok s =>
    obtain ⟨rfl, hwf⟩ := Schema.build_ok hs
    cases hplan : insertionPlan ⟨e.table, e.bindings⟩ data with
    | error err => simp [hs, hplan]
    | ok plan =>
      cases hc : e.root.locate? e.table.container with
      | none => simp [hs, hplan, hc]
      | some c =>
        simp only [run_bind, schema_run, hs, run_lift, hplan, container_run, hc,
          sectionRows_default_run, pick_run]
        cases hp : sel.position ((e.table.rowsIn c.2 "").map Element.renderedText) with
        | error err => rfl
        | ok p =>
          -- every step is a schema binding's, so its section is declared
          have hdecl : ∀ st ∈ plan, (e.table.rowsFor st.binding.place.sectionName).isSome :=
            fun st hst => hwf.declared _ (insertionPlan_mem hplan st hst).1
          dsimp only
          rw [forM_runStep_run e p plan hdecl]
          simp [Session.afterSchema]

/-- One item row of a stock table: a name cell and two tag cells, found by test id. -/
def stockRow : Element :=
  { tag := "tr", attrs := [("data-testid", "item")], children :=
    [{ tag := "td", id := some "pen", attrs := [("data-testid", "name")], text := "pen" },
     { tag := "td", id := some "red", attrs := [("data-testid", "tag")], text := "red" },
     blueTag] }
where
  blueTag : Element := { tag := "td", id := some "blue", attrs := [("data-testid", "tag")], text := "blue" }

def stockTable : Element := { tag := "table", id := some "stock", children := [stockRow] }

def stockName : Binding :=
  { name := "name", place := { cell := some ⟨.testId, "name"⟩ }, insertion := some ⟨.custom .record, 0⟩ }

def stockTags : Binding :=
  { name := "tags", place := { cell := some ⟨.testId, "tag"⟩, collection := true },
    insertion := some ⟨.component ⟨"chip", "tags"⟩, 1⟩ }

def stockEngine : Engine where
  root := { tag := "body", children := [stockTable] }
  table := { container := ⟨.id, "stock"⟩, rows := ⟨.testId, "item"⟩, headerRow := ⟨.testId, "head"⟩ }
  bindings := [stockName, stockTags]
  registry := some { insertion := [("chip", .fail "read-only")] }

def stockRecord : Row :=
  (Row.empty.put "name" (.single ⟨"ink", none⟩)).put "tags" (.list [⟨"x", none⟩])

/-- Inserting the record runs the name's step, then the tags' step, whose service fails. -/
theorem insertRow_trace_stock :
    insertionPlan ⟨stockEngine.table, stockEngine.bindings⟩ stockRecord =
        .ok [⟨stockName, ["ink"]⟩, ⟨stockTags, ["x"]⟩] ∧
      (stockEngine.planRun stockEngine.table stockTable 0
          [⟨stockName, ["ink"]⟩, ⟨stockTags, ["x"]⟩]).outcome =
        .error (.cellOperation "tags" "read-only") ∧
      StepFailure (.cellOperation "tags" "read-only") := by
  have hplan : insertionPlan ⟨stockEngine.table, stockEngine.bindings⟩ stockRecord =
      .ok [⟨stockName, ["ink"]⟩, ⟨stockTags, ["x"]⟩] := by
    rw [insertionPlan, show planSteps stockRecord stockEngine.bindings =
      .ok [⟨stockName, ["ink"]⟩, ⟨stockTags, ["x"]⟩] from rfl]
    -- the steps are in route order already
    refine congrArg Except.ok ?_
    simp [List.mergeSort, Step.order, stockName, stockTags]
  have hrun : (stockEngine.planRun stockEngine.table stockTable 0
      [⟨stockName, ["ink"]⟩, ⟨stockTags, ["x"]⟩]).outcome =
      .error (.cellOperation "tags" "read-only") := rfl
  exact ⟨hplan, hrun, (insertRow_trace stockEngine (.index 1) stockRecord {}).2 _ _ hplan _ _ _ _ hrun⟩

end Engine

section Cells

theorem Place.readCell_source {p : Place} {x : Element} {cell : Cell}
    (h : p.readCell x = some cell) : cell.source = some x := by
  unfold Place.readCell at h
  obtain ⟨t, -, rfl⟩ := Option.map_eq_some_iff.1 h
  rfl

theorem Place.filterMap_readCell_source (p : Place) (xs : List Element) :
    (xs.filterMap p.readCell).map Cell.source =
      (xs.filter fun x => (p.readCell x).isSome).map some := by
  induction xs with
  | nil => rfl
  | cons x xs ih =>
    cases hx : p.readCell x with
    | none => simp [hx, ih]
    | some cell => simp [hx, ih, readCell_source hx]

theorem Place.cellIn?_eq_head? (p : Place) (row : Element) :
    p.cellIn? row = (p.cellsIn row).head? := by
  unfold Place.cellIn? Place.cellsIn
  cases p.cell with
  | none => rfl
  | some l => simp [Element.find?, Element.findAll, Element.locate?, List.head?_map]

/-- A value read from a row reports the cells found there that hold the text element: all of
them for a list field, the first cell found for a single-cell field. -/
theorem Place.readValue_sources {p : Place} {row : Element} {v : CellValue}
    (h : p.readValue row = some v) :
    v.cells.map Cell.source =
      (((p.cellsIn row).take (if p.collection then (p.cellsIn row).length else 1)).filter
        fun x => (p.readCell x).isSome).map some := by
  unfold Place.readValue at h
  by_cases hcol : p.collection
  · rw [if_pos hcol] at h
    cases h
    rw [if_pos hcol, List.take_length, CellValue.cells, filterMap_readCell_source]
  · rw [if_neg hcol] at h
    obtain ⟨cell, hcell, rfl⟩ := Option.map_eq_some_iff.1 h
    obtain ⟨x, hx, hxc⟩ := Option.bind_eq_some_iff.1 hcell
    rw [cellIn?_eq_head?] at hx
    obtain ⟨rest, hcells⟩ := List.head?_eq_some_iff.1 hx
    rw [if_neg hcol, hcells]
    simp [CellValue.cells, hxc, readCell_source hxc]

theorem Schema.binding_mem {s : Schema} {f : String} {b : Binding} (h : s.binding f = .ok b) :
    b ∈ s.bindings ∧ b.name = f := by
  unfold Schema.binding at h
  cases hb : s.bindings.find? (·.name == f) with
  | none =>
    rw [hb] at h
    cases h
  | some b' =>
    rw [hb] at h
    cases h
    exact ⟨List.mem_of_find?_eq_some hb, by simpa using List.find?_some hb⟩

theorem Schema.select_bound {s : Schema} {f : String} {b : Binding} (h : s.binding f = .ok b) :
    ∃ bs, s.select [f] = .ok bs ∧ b ∈ bs := by
  obtain ⟨hmem, rfl⟩ := Schema.binding_mem h
  have hany : s.bindings.any (·.name == b.name) = true := List.any_eq_true.2 ⟨b, hmem, by simp⟩
  refine ⟨s.bindings.filter fun x => [b.name].contains x.name, ?_, ?_⟩
  · simp [Schema.select, hany]
  · simp [hmem]

namespace Engine

theorem readRow_get {e : Engine} {sel : RowSelector} {fields : List String} {ss : Session}
    {s : Schema} {bs : List Binding} {c : Path × Element} {p : Nat} {r : Row}
    (hs : Schema.build e.table e.bindings = .ok s) (hbs : s.select fields = .ok bs)
    (hc : e.root.locate? e.table.container = some c)
    (hp : sel.position ((e.table.rowsIn c.2 "").map Element.renderedText) = .ok p)
    (hr : ((e.readRow sel fields).run ss).1 = .ok r) {b : Binding} (hb : b ∈ bs) :
    r.get b.name = readAt e.table c.2 p b := by
  rw [readRow_run_fst e sel fields ss hs hbs hc, hp, except_ok_bind] at hr
  obtain ⟨rfl, hwf⟩ := Schema.build_ok hs
  rw [rowAt_groups hwf (Schema.select_sublist hbs)] at hr
  have hnd : (bs.map Binding.name).Nodup := hwf.nodup.sublist ((Schema.select_sublist hbs).map _)
  cases hrefused : (readsAt e.table c.2 bs p).findSome? (fun r => r.1.refusal r.2) with
  | some err =>
    rw [hrefused, orFailure_some] at hr
    cases hr
  | none =>
    rw [hrefused, orFailure_none] at hr
    cases hr
    show (bs.find? (·.name == b.name)).bind (readAt e.table c.2 p) = _
    rw [(find?_name_eq_some_iff hnd).2 ⟨hb, rfl⟩]
    rfl

theorem insertCellValue_run {e : Engine} {sel : RowSelector} {f : String} {s : Schema}
    {b : Binding} {c : Path × Element} {p : Nat} {row : Element}
    (hs : Schema.build e.table e.bindings = .ok s) (hb : s.binding f = .ok b)
    (hroute : b.insertion.isSome) (hc : e.root.locate? e.table.container = some c)
    (hp : sel.position ((e.table.rowsIn c.2 "").map Element.renderedText) = .ok p)
    (hrow : (e.table.rowsIn c.2 b.place.sectionName)[p]? = some row)
    (k : Nat) (values : List String) (ss : Session) :
    (e.insertCellValue sel f k values).run ss =
      let ss' : Session := { Session.afterSchema e ss with
        waits := ss.waits ++ (c.1, e.table.rows) :: sectionWait c.1 e.table b.place.sectionName }
      match (b.place.cellsIn row)[k - 1]? with
      | some x =>
        if k = 0 then (.error (.invalidCellIndex k), ss') else (e.dispatchInsert b x values).run ss'
      | none => (.error (.invalidCellIndex k), ss') := by
  obtain ⟨rfl, hwf⟩ := Schema.build_ok hs
  have hdecl := hwf.declared b (Schema.binding_mem hb).1
  have hnone : b.insertion.isNone = false := by
    simpa [Option.isNone_iff_eq_none, ← Option.ne_none_iff_isSome] using hroute
  unfold insertCellValue
  simp only [run_bind, schema_run, hs, run_lift, hb, hnone, Bool.false_eq_true, if_false,
    container_run, hc, sectionRows_default_run, pick_run, hp, rowIn_run hdecl, hrow]
  cases (b.place.cellsIn row)[k - 1]? with
  | none => simp [Session.afterSchema]
  | some x => by_cases hk : k = 0 <;> simp [hk, Session.afterSchema]

/-- Writing through a field addresses the cells its locator finds in the row the selector
picks, `cells` below. A row read reports those of them that hold the field's text element,
all for a list field and the first for a single-cell field. A row insert's step for the field
acts on the first of `cells`. Writing into cell `k` dispatches once on the `k`-th of `cells`,
for a list field or `k = 1`; for `k = 0` and every `k` past `cells` it fails with the invalid
index error and makes no call. -/
theorem cellWrites_address_located_cells (e : Engine) (sel : RowSelector) (f : String)
    (ss : Session) {s : Schema} {b : Binding} {c : Path × Element} {p : Nat} {row : Element}
    (hs : Schema.build e.table e.bindings = .ok s) (hb : s.binding f = .ok b)
    (hroute : b.insertion.isSome) (hc : e.root.locate? e.table.container = some c)
    (hp : sel.position ((e.table.rowsIn c.2 "").map Element.renderedText) = .ok p)
    (hrow : (e.table.rowsIn c.2 b.place.sectionName)[p]? = some row) :
    let ss' : Session := { Session.afterSchema e ss with
      waits := ss.waits ++ (c.1, e.table.rows) :: sectionWait c.1 e.table b.place.sectionName }
    (∀ r v, ((e.readRow sel [f]).run ss).1 = .ok r → r.get f = some v →
      v.cells.map Cell.source =
        (((b.place.cellsIn row).take
          (if b.place.collection then (b.place.cellsIn row).length else 1)).filter
            fun x => (b.place.readCell x).isSome).map some) ∧
    (∀ data plan, insertionPlan s data = .ok plan → ∀ st ∈ plan, st.binding.name = f →
      e.stepDispatch e.table c.2 p st = match (b.place.cellsIn row).head? with
        | none => .error (.cellNotFound f b.place.cell)
        | some x => e.dispatchCall b x st.values) ∧
    (∀ k values x, 1 ≤ k → (b.place.collection ∨ k = 1) → (b.place.cellsIn row)[k - 1]? = some x →
      (e.insertCellValue sel f k values).run ss = (e.dispatchInsert b x values).run ss') ∧
    (∀ k values, k = 0 ∨ (b.place.cellsIn row).length < k →
      (e.insertCellValue sel f k values).run ss = (.error (.invalidCellIndex k), ss') ∧
        (TableError.invalidCellIndex k).kind = "IndexRange" ∧
        (TableError.invalidCellIndex k).message = "Invalid cell index: " ++ toString k) := by
  intro ss'
  obtain ⟨hbmem, hbname⟩ := Schema.binding_mem hb
  have hrun := insertCellValue_run hs hb hroute hc hp hrow
  refine ⟨?_, ?_, ?_, ?_⟩
  · -- a row read holds, for the field, what its binding reads in the row
    intro r v hr hv
    obtain ⟨bs, hbs, hbbs⟩ := Schema.select_bound hb
    have hget := readRow_get hs hbs hc hp hr hbbs
    rw [hbname, hv] at hget
    have hread : b.place.readValue row = some v := by
      rw [hget]
      simp [readAt, hrow]
    exact Place.readValue_sources hread
  · -- the field's step is its binding's, since the schema's names are distinct
    intro data plan hplan st hst hname
    have hwf := (Schema.build_ok hs).2
    have hstb : st.binding = b :=
      List.inj_on_of_nodup_map hwf.nodup (insertionPlan_mem hplan st hst).1 hbmem
        (hname.trans hbname.symm)
    unfold stepDispatch
    rw [hstb, hrow]
    dsimp only
    rw [Place.cellIn?_eq_head?, ← hbname]
  · intro k values x hk _ hx
    rw [hrun k values ss]
    dsimp only
    rw [hx]
    exact if_neg (by omega)
  · intro k values hk
    refine ⟨?_, rfl, rfl⟩
    rw [hrun k values ss]
    dsimp only
    rcases hk with rfl | hk
    · cases (b.place.cellsIn row)[0 - 1]? <;> rfl
    · rw [List.getElem?_eq_none (by omega)]

theorem cellWrites_address_located_cells_stock :
    Schema.build stockEngine.table stockEngine.bindings =
        .ok ⟨stockEngine.table, stockEngine.bindings⟩ ∧
      (⟨stockEngine.table, stockEngine.bindings⟩ : Schema).binding "tags" = .ok stockTags ∧
      stockTags.insertion.isSome ∧
      stockEngine.root.locate? stockEngine.table.container = some ([0], stockTable) ∧
      (RowSelector.index 1).position
          ((stockEngine.table.rowsIn stockTable "").map Element.renderedText) = .ok 0 ∧
      (stockEngine.table.rowsIn stockTable stockTags.place.sectionName)[0]? = some stockRow ∧
      (stockEngine.insertCellValue (.index 1) "tags" 2 ["x"]).run {} =
        (stockEngine.dispatchInsert stockTags stockRow.blueTag ["x"]).run
          { waits := [([0], stockEngine.table.rows)] } :=
  ⟨rfl, rfl, rfl, rfl, rfl, rfl,
    (@cellWrites_address_located_cells stockEngine (.index 1) "tags" {}
      ⟨stockEngine.table, stockEngine.bindings⟩ stockTags ([0], stockTable) 0 stockRow
      rfl rfl rfl rfl rfl rfl).2.2.1 2 ["x"] stockRow.blueTag (by decide) (Or.inl rfl) rfl⟩

/-- A list of two tags whose first cell holds its text directly and whose second holds it in
a span, read through a span text locator. -/
def spanTagsEngine : Engine where
  root := { tag := "body", children := [{ tag := "table", id := some "t", children :=
    [{ tag := "tbody", children := [{ tag := "tr", children :=
      [{ tag := "td", id := some "a", classes := ["tag"], text := "A" },
       { tag := "td", id := some "b", classes := ["tag"], children := [{ tag := "span", text := "B" }] }] }] }] }] }
  table := { container := ⟨.id, "t"⟩, rows := ⟨.css, "tbody tr"⟩, headerRow := ⟨.css, "thead tr"⟩ }
  bindings :=
    [{ name := "tags",
       place := { cell := some ⟨.css, "td.tag"⟩, cellText := some ⟨.css, "span"⟩, collection := true },
       insertion := some ⟨.custom .record, 0⟩ }]

/-- A text locator that the first cell lacks shifts the cells a row read reports against those
written: the read reports cell `b` first, while writing cell 1, or the row, acts on cell `a`. -/
theorem textLocator_shifts_written_cell :
    (((spanTagsEngine.readRow (.index 1) ["tags"]).run {}).1.toOption.bind
        fun r => r.get "tags").map
        (fun v => v.cells.filterMap fun c => c.source.map Element.label) = some ["b"] ∧
      ((spanTagsEngine.insertCellValue (.index 1) "tags" 1 ["v"]).run {}).2.calls.map
        Call.cellLabel = ["a"] ∧
      ((spanTagsEngine.insertRow (.index 1) (Row.empty.put "tags" (.list [⟨"v", none⟩]))).run
        {}).2.calls.map Call.cellLabel = ["a"] := by
  decide +kernel

end Engine

end Cells

end TableBind
