import Mathlib
import TableBind.Proofs.Run

/-! Reading rows through an engine. For a schema that builds, a range read gives one row record
per clamped position, each binding holding what it reads in its section's row there, unless a
writer refuses a value first. Reading one row gives what the range read of its position gives.
-/

namespace TableBind

section Spec

variable (d : Descriptor) (c : Element) (bs : List Binding)

def readAt (p : Nat) (b : Binding) : Option CellValue :=
  ((d.rowsIn c b.place.sectionName)[p]?).bind b.place.readValue

/-- The row record at a position: each binding holds what it reads there, every other field
is unset. -/
def rowRead (p : Nat) : Row :=
  ⟨fun n => (bs.find? (·.name == n)).bind (readAt d c p)⟩

def readsAt (p : Nat) : List (Binding × CellValue) :=
  (groupBySection bs).flatMap fun g => g.2.filterMap fun b => (readAt d c p b).map (b, ·)

/-- The number of rows a range read clamps to: that of the longest section of the bindings,
or of the default section when there are no bindings. -/
def rangeCount : Nat :=
  match groupBySection bs with
  | [] => (d.rowsIn c "").length
  | gs => (gs.map fun g => (d.rowsIn c g.1).length).foldl max 0

/-- The 0-based positions of the rows `start..stop` (1-based, both included) among `count`
rows. -/
def rangePositions (start stop count : Nat) : List Nat :=
  match resolveRange start stop count with
  | some (first, last) => List.range' first (last + 1 - first)
  | none => []

/-- What a range read gives: the refusal of the first value read, in position, group and
binding order, that its binding's writer rejects; otherwise one row record per position. -/
def rangeRead (start stop : Nat) : Except TableError (List Row) :=
  let ps := rangePositions start stop (rangeCount d c bs)
  orFailure ((ps.flatMap (readsAt d c bs)).findSome? fun r => r.1.refusal r.2)
    (ps.map (rowRead d c bs))

/-- The waits of a range read on the container at `path`: one per section group with the
section's rows locator, or one for the default section when there are no bindings. -/
def rangeWaits (path : Path) : List (Path × Locator) :=
  match groupBySection bs with
  | [] => [(path, d.rows)]
  | gs => gs.map fun g => (path, d.sectionLocator g.1)

end Spec

section Populate

variable (row : Element)

def putRead (r : Row) (b : Binding) : Row :=
  match b.place.readValue row with
  | some v => r.put b.name v
  | none => r

/-- Reading a row for some bindings fails at the first value a writer refuses, and otherwise
writes every value read. -/
theorem populate_eq (ms : List Binding) :
    populate row ms = orFailure ((ms.filterMap fun b => (b.place.readValue row).map (b, ·)).findSome?
        fun r => r.1.refusal r.2) (ms.foldl (putRead row) Row.empty) := by
  have herr : (ms.filterMap fun b => (b.place.readValue row).map (b, ·)).findSome?
      (fun r => r.1.refusal r.2) = ms.findSome? fun b => (b.place.readValue row).bind b.refusal := by
    rw [findSome?_filterMap]
    congr 1
    funext b
    cases b.place.readValue row <;> rfl
  rw [herr]
  unfold populate
  apply foldlM_except
  intro r b
  unfold putRead
  cases hv : b.place.readValue row with
  | none => rfl
  | some v =>
    dsimp only [Option.bind_some]
    exact Binding.set_of_shape b r (Place.readValue_shape hv)

theorem foldl_putRead_get (ms : List Binding) (r : Row) (hnd : (ms.map Binding.name).Nodup)
    (n : String) :
    (ms.foldl (putRead row) r).get n =
      ((ms.find? (·.name == n)).bind fun b => b.place.readValue row).or (r.get n) := by
  induction ms generalizing r with
  | nil => simp
  | cons b ms ih =>
    rw [List.map_cons, List.nodup_cons] at hnd
    rw [List.foldl_cons, ih _ hnd.2, List.find?_cons]
    by_cases hn : b.name = n
    · subst hn
      have hnone : ms.find? (·.name == b.name) = none :=
        List.find?_eq_none.2 fun x hx heq => hnd.1 (List.mem_map.2 ⟨x, hx, beq_iff_eq.1 heq⟩)
      cases hv : b.place.readValue row <;> simp [putRead, hv, hnone]
    · have hb : (b.name == n) = false := beq_eq_false_iff_ne.2 hn
      cases hv : b.place.readValue row <;> simp [putRead, hv, hb, Ne.symm hn]

end Populate

section RowAt

variable (s : Schema) (d : Descriptor) (c : Element) (p : Nat)

def groupRefusal (g : List Element × List Binding) : Option TableError :=
  match g.1[p]? with
  | some row => (g.2.filterMap fun b => (b.place.readValue row).map (b, ·)).findSome?
      fun r => r.1.refusal r.2
  | none => none

def groupMerge (acc : Option Row) (g : List Element × List Binding) : Option Row :=
  match g.1[p]? with
  | some row => s.merge acc (some (g.2.foldl (putRead row) Row.empty))
  | none => acc

theorem rowAt_eq (groups : List (List Element × List Binding)) :
    Engine.rowAt s groups p =
      orFailure (groups.findSome? (groupRefusal p)) ((groups.foldl (groupMerge s p) none).getD Row.empty) := by
  unfold Engine.rowAt
  rw [@foldlM_except _ _ _ (groupRefusal p) _ (groupMerge s p), orFailure_map]
  intro acc g
  unfold groupRefusal groupMerge
  cases g.1[p]? with
  | none => rfl
  | some row =>
    dsimp only
    rw [populate_eq, orFailure_map]

variable {s d c p}

theorem readAt_of_sorted {g : String × List Binding} (hsec : ∀ b ∈ g.2, b.place.sectionName = g.1)
    {b : Binding} (hb : b ∈ g.2) :
    readAt d c p b = ((d.rowsIn c g.1)[p]?).bind b.place.readValue := by
  simp [readAt, hsec b hb]

theorem groupRefusal_rows {g : String × List Binding}
    (hsec : ∀ b ∈ g.2, b.place.sectionName = g.1) :
    groupRefusal p (d.rowsIn c g.1, g.2) =
      (g.2.filterMap fun b => (readAt d c p b).map (b, ·)).findSome? fun r => r.1.refusal r.2 := by
  unfold groupRefusal
  dsimp only
  simp only [findSome?_filterMap]
  cases hrow : (d.rowsIn c g.1)[p]? with
  | none =>
    symm
    apply List.findSome?_eq_none_iff.2
    intro b hb
    rw [readAt_of_sorted hsec hb, hrow]
    rfl
  | some row =>
    apply findSome?_congr
    intro b hb
    rw [readAt_of_sorted hsec hb, hrow]
    rfl

theorem findSome?_groupRefusal (bs : List Binding) :
    ((groupBySection bs).map fun g => (d.rowsIn c g.1, g.2)).findSome? (groupRefusal p) =
      (readsAt d c bs p).findSome? fun r => r.1.refusal r.2 := by
  rw [List.findSome?_map, readsAt, findSome?_flatMap]
  apply findSome?_congr
  intro g hg
  exact groupRefusal_rows (groupBySection_sorted bs g hg)

theorem mergeable_putRead (hwf : s.WellFormed) {ms : List Binding} (row : Element)
    (hnd : (ms.map Binding.name).Nodup) (hsub : ∀ b ∈ ms, b ∈ s.bindings)
    (hok : ∀ b ∈ ms, ∀ v, b.place.readValue row = some v → b.refusal v = none) :
    s.Mergeable (ms.foldl (putRead row) Row.empty) := by
  have hfound : ∀ n v, (ms.foldl (putRead row) Row.empty).get n = some v →
      ∃ b ∈ ms, b.name = n ∧ b.place.readValue row = some v := by
    intro n v hv
    rw [foldl_putRead_get row ms Row.empty hnd, Row.get_empty, Option.or_none] at hv
    obtain ⟨b, hb, hbv⟩ := Option.bind_eq_some_iff.1 hv
    obtain ⟨hmem, hname⟩ := (find?_name_eq_some_iff hnd).1 hb
    exact ⟨b, hmem, hname, hbv⟩
  constructor
  · intro n v hv
    obtain ⟨b, hb, rfl, -⟩ := hfound n v hv
    exact List.mem_map.2 ⟨b, hsub b hb, rfl⟩
  · intro bd hbd v hv m
    obtain ⟨b, hb, hname, hbv⟩ := hfound bd.name v hv
    have hsame : b = bd := List.inj_on_of_nodup_map hwf.nodup (hsub b hb) hbd hname
    subst hsame
    rw [Binding.set_of_shape b m (Place.readValue_shape hbv), hok b hb v hbv, orFailure_none]

theorem groupMerge_get (hwf : s.WellFormed) (g : String × List Binding) (acc : Option Row)
    (done : List Binding) (hsec : ∀ b ∈ g.2, b.place.sectionName = g.1)
    (hnd : ((done ++ g.2).map Binding.name).Nodup) (hsub : ∀ b ∈ g.2, b ∈ s.bindings)
    (hok : ∀ b ∈ g.2, ∀ v, readAt d c p b = some v → b.refusal v = none)
    (hacc : ∀ n, (acc.getD Row.empty).get n = (done.find? (·.name == n)).bind (readAt d c p))
    (n : String) :
    ((groupMerge s p acc (d.rowsIn c g.1, g.2)).getD Row.empty).get n =
      ((done ++ g.2).find? (·.name == n)).bind (readAt d c p) := by
  rw [List.map_append] at hnd
  have hndg : (g.2.map Binding.name).Nodup := (List.nodup_append.1 hnd).2.1
  -- a name found among the bindings done is not a name of the group
  have hdisj : ∀ b, done.find? (·.name == n) = some b → g.2.find? (·.name == n) = none := by
    intro b hb
    apply List.find?_eq_none.2
    intro x hx hxn
    have hbn : b.name = n := by simpa using List.find?_some hb
    exact (List.nodup_append.1 hnd).2.2 _ (List.mem_map.2 ⟨b, List.mem_of_find?_eq_some hb, rfl⟩)
      _ (List.mem_map.2 ⟨x, hx, rfl⟩) (hbn.trans (beq_iff_eq.1 hxn).symm)
  rw [List.find?_append]
  unfold groupMerge
  dsimp only
  cases hrow : (d.rowsIn c g.1)[p]? with
  | none =>
    dsimp only
    rw [hacc n]
    cases hd : done.find? (·.name == n) with
    | some b => rfl
    | none =>
      cases hm : g.2.find? (·.name == n) with
      | none => rfl
      | some b =>
        rw [Option.none_or, Option.bind_none, Option.bind_some,
          readAt_of_sorted hsec (List.mem_of_find?_eq_some hm), hrow, Option.bind_none]
  | some row =>
    dsimp only
    have hok' : ∀ b ∈ g.2, ∀ v, b.place.readValue row = some v → b.refusal v = none := by
      intro b hb v hv
      exact hok b hb v (by rw [readAt_of_sorted hsec hb, hrow, Option.bind_some, hv])
    rw [Schema.merge_getD_get s _ acc (mergeable_putRead hwf row hndg hsub hok') n,
      hacc n, foldl_putRead_get row g.2 Row.empty hndg, Row.get_empty, Option.or_none]
    cases hd : done.find? (·.name == n) with
    | some b =>
      rw [hdisj b hd, Option.bind_none, Option.or_none, Option.some_or]
    | none =>
      rw [Option.bind_none, Option.none_or, Option.none_or]
      cases hm : g.2.find? (·.name == n) with
      | none => rfl
      | some b =>
        rw [Option.bind_some, Option.bind_some,
          readAt_of_sorted hsec (List.mem_of_find?_eq_some hm), hrow, Option.bind_some]

theorem foldl_groupMerge_get (hwf : s.WellFormed) (G : List (String × List Binding))
    (acc : Option Row) (done : List Binding) (hsorted : GroupsSorted G)
    (hnd : ((done ++ G.flatMap (·.2)).map Binding.name).Nodup)
    (hsub : ∀ b ∈ G.flatMap (·.2), b ∈ s.bindings)
    (hok : ∀ b ∈ G.flatMap (·.2), ∀ v, readAt d c p b = some v → b.refusal v = none)
    (hacc : ∀ n, (acc.getD Row.empty).get n = (done.find? (·.name == n)).bind (readAt d c p))
    (n : String) :
    (((G.map fun g => (d.rowsIn c g.1, g.2)).foldl (groupMerge s p) acc).getD Row.empty).get n =
      ((done ++ G.flatMap (·.2)).find? (·.name == n)).bind (readAt d c p) := by
  induction G generalizing acc done with
  | nil => simpa using hacc n
  | cons g G ih =>
    rw [List.flatMap_cons] at hnd hsub hok
    have hG : GroupsSorted G := fun g' hg' => hsorted g' (List.mem_cons_of_mem _ hg')
    have hnd' : ((done ++ g.2 ++ G.flatMap (·.2)).map Binding.name).Nodup := by
      rwa [List.append_assoc]
    have hndg : ((done ++ g.2).map Binding.name).Nodup := by
      rw [List.map_append] at hnd'
      exact (List.nodup_append.1 hnd').1
    rw [List.map_cons, List.foldl_cons, List.flatMap_cons, ← List.append_assoc]
    apply ih _ _ hG hnd' (fun b hb => hsub b (List.mem_append_right _ hb))
      (fun b hb => hok b (List.mem_append_right _ hb))
    exact groupMerge_get hwf g acc done (hsorted g List.mem_cons_self) hndg
      (fun b hb => hsub b (List.mem_append_left _ hb))
      (fun b hb => hok b (List.mem_append_left _ hb)) hacc

theorem mem_readsAt {bs : List Binding} {b : Binding} {v : CellValue} :
    (b, v) ∈ readsAt d c bs p ↔ b ∈ bs ∧ readAt d c p b = some v := by
  have hmem : b ∈ (groupBySection bs).flatMap (·.2) ↔ b ∈ bs := (groupBySection_members bs).mem_iff
  simp only [List.mem_flatMap] at hmem
  simp only [readsAt, List.mem_flatMap, List.mem_filterMap, Option.map_eq_some_iff,
    Prod.mk.injEq]
  constructor
  · rintro ⟨g, hg, a, ha, w, hw, rfl, rfl⟩
    exact ⟨hmem.1 ⟨g, hg, ha⟩, hw⟩
  · rintro ⟨hb, hv⟩
    obtain ⟨g, hg, hbg⟩ := hmem.2 hb
    exact ⟨g, hg, b, hbg, v, hv, rfl, rfl⟩

/-- The row record at `p` of a range read: the first value read there that a writer refuses,
or else every binding holding what it reads. -/
theorem rowAt_groups (hwf : s.WellFormed) {bs : List Binding} (hbs : bs.Sublist s.bindings) :
    Engine.rowAt s ((groupBySection bs).map fun g => (d.rowsIn c g.1, g.2)) p =
      orFailure ((readsAt d c bs p).findSome? fun r => r.1.refusal r.2) (rowRead d c bs p) := by
  rw [rowAt_eq, findSome?_groupRefusal]
  cases hr : (readsAt d c bs p).findSome? (fun r => r.1.refusal r.2) with
  | some err => rfl
  | none =>
    rw [orFailure_none, orFailure_none]
    congr 1
    have hperm := groupBySection_members bs
    have hnd : (bs.map Binding.name).Nodup := hwf.nodup.sublist (hbs.map _)
    have hok : ∀ b ∈ (groupBySection bs).flatMap (·.2), ∀ v, readAt d c p b = some v →
        b.refusal v = none := by
      intro b hb v hv
      exact List.findSome?_eq_none_iff.1 hr (b, v) (mem_readsAt.2 ⟨hperm.mem_iff.1 hb, hv⟩)
    apply Row.ext
    intro n
    rw [foldl_groupMerge_get hwf (groupBySection bs) none [] (groupBySection_sorted bs)
      (by simpa using (hperm.map Binding.name).nodup_iff.2 hnd)
      (fun b hb => hbs.subset (hperm.mem_iff.1 hb)) hok (fun n => rfl) n, List.nil_append,
      find?_name_perm hperm ((hperm.map Binding.name).nodup_iff.2 hnd)]
    rfl

end RowAt

namespace Engine

theorem resolveRange_zero (start stop : Nat) : resolveRange start stop 0 = none := by
  simp [resolveRange]

theorem groups_declared {s : Schema} {fields : List String} {bs : List Binding}
    (hwf : s.WellFormed) (hbs : s.select fields = .ok bs) :
    ∀ g ∈ groupBySection bs, (s.table.rowsFor g.1).isSome := by
  intro g hg
  obtain ⟨b, hb, hsec⟩ := groupBySection_section hg
  exact hsec ▸ hwf.declared b ((Schema.select_sublist hbs).subset hb)

/-- A range read as the engine runs it: each section group's rows are fetched with one wait,
and the row records of the clamped positions are read from them. -/
theorem readTableRange_run_groups (e : Engine) (start stop : Nat) (fields : List String)
    (ss : Session) {s : Schema} {bs : List Binding} {c : Path × Element}
    (hs : Schema.build e.table e.bindings = .ok s) (hbs : s.select fields = .ok bs)
    (hc : e.root.locate? e.table.container = some c) :
    (e.readTableRange start stop fields).run ss =
      ((rangePositions start stop (rangeCount e.table c.2 bs)).mapM
          (rowAt s ((groupBySection bs).map fun g => (e.table.rowsIn c.2 g.1, g.2))),
        { Session.afterSchema e ss with waits := ss.waits ++ rangeWaits e.table bs c.1 }) := by
  obtain ⟨rfl, hwf⟩ := Schema.build_ok hs
  have hdecl := groups_declared hwf hbs
  unfold readTableRange
  simp only [run_bind, schema_run, hs, run_lift, hbs, container_run, hc]
  rw [mapM_waits_run (h := fun g => (e.table.rowsIn c.2 g.1, g.2))
    (w := fun g => (c.1, e.table.sectionLocator g.1)) _ ?hf]
  case hf =>
    intro g hg ss'
    simp [sectionRows_run (hdecl g hg)]
  dsimp only
  -- with no group the count is the default section's; otherwise the longest group's
  cases hG : groupBySection bs with
  | nil =>
    simp only [List.map_nil, List.isEmpty_nil, if_true, run_bind, sectionRows_default_run,
      run_pure, rangeCount, rangeWaits, hG, List.append_nil, Session.afterSchema]
    by_cases h0 : (e.table.rowsIn c.2 "").length = 0
    · rw [if_pos h0, h0, rangePositions, resolveRange_zero]
      rfl
    · rw [if_neg h0]
      unfold rangePositions
      cases resolveRange start stop (e.table.rowsIn c.2 "").length <;> rfl
  | cons g gs =>
    simp only [List.map_cons, List.isEmpty_cons, Bool.false_eq_true, if_false, run_bind,
      run_pure, rangeCount, rangeWaits, List.map_map, hG, Function.comp_def, Session.afterSchema]
    by_cases h0 : List.foldl max 0 ((e.table.rowsIn c.2 g.1).length ::
        List.map (fun g => (e.table.rowsIn c.2 g.1).length) gs) = 0
    · rw [if_pos h0, h0, rangePositions, resolveRange_zero]
      rfl
    · rw [if_neg h0]
      unfold rangePositions
      cases resolveRange start stop _ <;> rfl

/-- A range read, for a schema that builds, bound fields and a container found on the page:
one row record per position of the clamped range, in which each selected binding holds what
it reads in its section's row there and every other field is unset, unless a binding's
writer refuses a value read, the first such refusal in position, group and binding order
being the error. The container gets one wait per section group, and nothing else changes. -/
theorem readTableRange_run (e : Engine) (start stop : Nat) (fields : List String) (ss : Session)
    {s : Schema} {bs : List Binding} {c : Path × Element}
    (hs : Schema.build e.table e.bindings = .ok s) (hbs : s.select fields = .ok bs)
    (hc : e.root.locate? e.table.container = some c) :
    (e.readTableRange start stop fields).run ss =
      (rangeRead e.table c.2 bs start stop,
        { ss with waits := ss.waits ++ rangeWaits e.table bs c.1, cached := e.caching || ss.cached }) := by
  rw [readTableRange_run_groups e start stop fields ss hs hbs hc]
  obtain ⟨rfl, hwf⟩ := Schema.build_ok hs
  have hrow : ∀ p, rowAt ⟨e.table, e.bindings⟩
      ((groupBySection bs).map fun g => (e.table.rowsIn c.2 g.1, g.2)) p =
        orFailure ((readsAt e.table c.2 bs p).findSome? fun r => r.1.refusal r.2)
          (rowRead e.table c.2 bs p) :=
    fun p => rowAt_groups hwf (Schema.select_sublist hbs)
  rw [mapM_except hrow, rangeRead, findSome?_flatMap]
  rfl

/-- An orders table: two item rows in its body and a totals section of one row. -/
def ordersPage : Element :=
  { tag := "body", children := [ordersTableElement] }
where
  ordersTableElement : Element :=
    { tag := "table", id := some "orders", children :=
      [{ tag := "tbody", children :=
          [{ tag := "tr", children := [{ tag := "td", classes := ["name"], text := "pen" },
              { tag := "td", classes := ["qty"], text := "2" }] },
           { tag := "tr", children := [{ tag := "td", classes := ["name"], text := "ink" }] }] },
       { tag := "tfoot", children :=
          [{ tag := "tr", children := [{ tag := "td", id := some "sum", classes := ["total"], text := "7" }] }] }] }

def ordersEngine : Engine where
  root := ordersPage
  table := ⟨⟨.id, "orders"⟩, ⟨.css, "tbody tr"⟩, ⟨.css, "thead tr"⟩, [⟨"totals", ⟨.css, "tfoot tr"⟩⟩]⟩
  bindings :=
    [{ name := "name", place := { cell := some ⟨.css, "td.name"⟩ },
       insertion := some ⟨.custom .record, 0⟩ },
     { name := "qty", place := { cell := some ⟨.css, "td.qty"⟩ } },
     { name := "total", place := { cell := some ⟨.css, "td.total"⟩, sectionName := "totals" },
       insertion := some ⟨.component ⟨"input", "money"⟩, 1⟩ }]

theorem readTableRange_run_orders :
    Schema.build ordersEngine.table ordersEngine.bindings =
        .ok ⟨ordersEngine.table, ordersEngine.bindings⟩ ∧
      (⟨ordersEngine.table, ordersEngine.bindings⟩ : Schema).select [] = .ok ordersEngine.bindings ∧
      ordersEngine.root.locate? ordersEngine.table.container =
        some ([0], ordersPage.ordersTableElement) ∧
      (ordersEngine.readTableRange 1 2 []).run {} =
        (rangeRead ordersEngine.table ordersPage.ordersTableElement ordersEngine.bindings 1 2,
          { waits := rangeWaits ordersEngine.table ordersEngine.bindings [0] }) :=
  ⟨rfl, rfl, rfl, @readTableRange_run ordersEngine 1 2 [] {} ⟨ordersEngine.table, ordersEngine.bindings⟩
    ordersEngine.bindings ([0], ordersPage.ordersTableElement) rfl rfl rfl⟩


theorem RowSelector.firstFit_lt {ks texts : List String} {p : Nat}
    (h : RowSelector.firstFit ks texts = some p) : p < texts.length := by
  induction texts generalizing p with
  | nil => cases h
  | cons t ts ih =>
    unfold RowSelector.firstFit at h
    split at h
    · cases h
      simp
    · obtain ⟨q, hq, rfl⟩ := Option.map_eq_some_iff.1 h
      simpa using ih hq

theorem RowSelector.position_lt {texts : List String} {sel : RowSelector} {p : Nat}
    (h : sel.position texts = .ok p) : p < texts.length := by
  cases sel with
  | index i =>
    simp only [RowSelector.position] at h
    by_cases hi : 1 ≤ i ∧ i ≤ texts.length
    · rw [if_pos hi] at h
      cases h
      omega
    · rw [if_neg hi] at h
      cases h
  | criteria ks =>
    cases hf : RowSelector.firstFit ks texts with
    | none => simp [RowSelector.position, hf] at h
    | some q =>
      simp only [RowSelector.position, hf, Except.ok.injEq] at h
      exact h ▸ RowSelector.firstFit_lt hf

theorem le_foldl_max (l : List Nat) (init : Nat) :
    init ≤ l.foldl max init ∧ ∀ x ∈ l, x ≤ l.foldl max init := by
  induction l generalizing init with
  | nil => simp
  | cons y l ih =>
    obtain ⟨hinit, hl⟩ := ih (max init y)
    refine ⟨le_trans (le_max_left _ _) hinit, ?_⟩
    intro x hx
    rcases List.mem_cons.1 hx with rfl | hx
    · exact le_trans (le_max_right _ _) hinit
    · exact hl x hx

theorem length_le_rangeCount (d : Descriptor) (c : Element) (bs : List Binding)
    {g : String × List Binding} (hg : g ∈ groupBySection bs) :
    (d.rowsIn c g.1).length ≤ rangeCount d c bs := by
  unfold rangeCount
  split
  · rename_i hG
    rw [hG] at hg
    cases hg
  · exact (le_foldl_max _ 0).2 _ (List.mem_map.2 ⟨g, hg, rfl⟩)

theorem rangePositions_single (p count : Nat) :
    rangePositions (p + 1) (p + 1) count = if p < count then [p] else [] := by
  unfold rangePositions resolveRange
  by_cases hp : p < count
  · have hlast : min (p + 1) count = p + 1 := by omega
    rw [if_neg (by omega), if_pos hp]
    simp [hlast]
  · rw [if_pos (by omega), if_neg hp]

theorem rowAt_past_rows (s : Schema) (groups : List (List Element × List Binding)) (p : Nat)
    (h : ∀ g ∈ groups, g.1.length ≤ p) : rowAt s groups p = .ok Row.empty := by
  have hnone : ∀ g ∈ groups, g.1[p]? = none := fun g hg => List.getElem?_eq_none (h g hg)
  have hfold : ∀ acc, groups.foldl (groupMerge s p) acc = acc := by
    intro acc
    induction groups generalizing acc with
    | nil => rfl
    | cons g gs ih =>
      rw [List.foldl_cons, ih (fun g' hg' => h g' (List.mem_cons_of_mem _ hg'))
        (fun g' hg' => hnone g' (List.mem_cons_of_mem _ hg'))]
      simp [groupMerge, hnone g List.mem_cons_self]
  have herr : groups.findSome? (groupRefusal p) = none := by
    apply List.findSome?_eq_none_iff.2
    intro g hg
    simp [groupRefusal, hnone g hg]
  rw [rowAt_eq, herr, hfold, orFailure_none]
  rfl

theorem readRow_run_fst (e : Engine) (sel : RowSelector) (fields : List String) (ss : Session)
    {s : Schema} {bs : List Binding} {c : Path × Element}
    (hs : Schema.build e.table e.bindings = .ok s) (hbs : s.select fields = .ok bs)
    (hc : e.root.locate? e.table.container = some c) :
    ((e.readRow sel fields).run ss).1 =
      sel.position ((e.table.rowsIn c.2 "").map Element.renderedText) >>=
        rowAt s ((groupBySection bs).map fun g => (e.table.rowsIn c.2 g.1, g.2)) := by
  obtain ⟨rfl, hwf⟩ := Schema.build_ok hs
  have hdecl := groups_declared hwf hbs
  unfold readRow
  simp only [run_bind, schema_run, hs, run_lift, hbs, container_run, hc, sectionRows_default_run,
    pick_run]
  cases hp : sel.position ((e.table.rowsIn c.2 "").map Element.renderedText) with
  | error err => rfl
  | ok p =>
    simp only [except_ok_bind]
    rw [foldlM_run (h := fun acc g => orFailure (groupRefusal p (e.table.rowsIn c.2 g.1, g.2))
      (groupMerge ⟨e.table, e.bindings⟩ p acc (e.table.rowsIn c.2 g.1, g.2))) _ ?hf]
    case hf =>
      intro acc g hg ss'
      -- the default section's rows are known already; another section's are fetched
      split
      on_goal 1 => rw [run_bind, run_pure, ← ‹g.1 = ""›]
      on_goal 2 => rw [run_bind, sectionRows_run (hdecl g hg)]
      all_goals
        dsimp only
        unfold groupRefusal groupMerge
        dsimp only
        cases (e.table.rowsIn c.2 g.1)[p]? with
        | none => rfl
        | some row =>
          simp only [run_bind, run_lift, populate_eq]
          generalize List.findSome? _ _ = refused
          cases refused <;> rfl
    rw [foldlM_except (fun acc g => rfl), rowAt_eq, List.findSome?_map, List.foldl_map]
    simp only [Function.comp_def]
    cases List.findSome? (fun g => groupRefusal p (e.table.rowsIn c.2 g.1, g.2)) (groupBySection bs) <;> rfl

/-- The position a row read reads: once the schema, the fields and the container are checked,
the selector picks it among the default section's rows. -/
def rowPosition (e : Engine) (sel : RowSelector) (fields : List String) :
    Except TableError Nat := do
  let s ← Schema.build e.table e.bindings
  let _ ← s.select fields
  match e.root.locate? e.table.container with
  | none => .error (.containerNotFound e.table.container)
  | some c => sel.position ((e.table.rowsIn c.2 "").map Element.renderedText)

/-- Reading the row a selector picks gives what the range read of that one position gives: its
row record, or the empty row when every section of the fields is shorter, or its refusal. A
selector that picks no row fails as the selection does, after the same schema, field and
container checks. -/
theorem readRow_eq_readTableRange (e : Engine) (sel : RowSelector) (fields : List String)
    (ss : Session) :
    ((e.readRow sel fields).run ss).1 =
      e.rowPosition sel fields >>= fun p =>
        ((e.readTableRange (p + 1) (p + 1) fields).run ss).1.map (·.headD Row.empty) := by
  unfold rowPosition
  cases hs : Schema.build e.table e.bindings with
  | error err => simp [readRow, hs]
  | ok s =>
    obtain ⟨rfl, -⟩ := Schema.build_ok hs
    cases hbs : Schema.select ⟨e.table, e.bindings⟩ fields with
    | error err => simp [readRow, hs, hbs]
    | ok bs =>
      cases hc : e.root.locate? e.table.container with
      | none => simp [readRow, hs, hbs, hc]
      | some c =>
        rw [readRow_run_fst e sel fields ss hs hbs hc]
        simp only [except_ok_bind, hbs]
        cases hp : sel.position ((e.table.rowsIn c.2 "").map Element.renderedText) with
        | error err => rfl
        | ok p =>
          have hlt : p < (e.table.rowsIn c.2 "").length := by
            simpa using RowSelector.position_lt hp
          simp only [except_ok_bind]
          rw [readTableRange_run_groups e _ _ fields ss hs hbs hc, rangePositions_single]
          split
          · rw [List.mapM_cons, List.mapM_nil]
            generalize rowAt _ _ p = r
            cases r <;> rfl
          · rename_i hN
            -- past the longest group: no group has a row there, and some group is selected
            rw [rowAt_past_rows]
            · rfl
            · intro g hg
              obtain ⟨g', hg', rfl⟩ := List.mem_map.1 hg
              exact le_trans (length_le_rangeCount _ _ bs hg') (by omega)

end Engine

end TableBind
