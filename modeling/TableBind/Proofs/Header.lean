import Mathlib
import TableBind.Engine.Header
import TableBind.Proofs.Run

/-! Filtering and sorting, as the checks they make and the one call they end with. The first
check that fails gives the error and no call; otherwise exactly one call is made, on the header
cell. -/

namespace TableBind

namespace Registry

theorem service?_eq_some_iff (r : Registry) (op : Operation) (kind : String) (a : Action) :
    r.service? op kind = some a ↔
      ∃ pre post, r.entries op = pre ++ (kind, a) :: post ∧ ∀ x ∈ post, x.1 ≠ kind := by
  -- the last entry of the kind is the first one found in the reversed entries
  unfold service?
  rw [List.getLast?_eq_head?_reverse, ← List.filter_reverse, List.head?_filter,
    Option.map_eq_some_iff]
  constructor
  · rintro ⟨⟨k, b⟩, hfind, rfl⟩
    obtain ⟨hk, later, earlier, heq, hlater⟩ := List.find?_eq_some_iff_append.1 hfind
    obtain rfl : k = kind := by simpa using hk
    refine ⟨earlier.reverse, later.reverse, ?_, fun x hx => ?_⟩
    · rw [← List.reverse_reverse (r.entries op), heq]
      simp
    · simpa using hlater x (List.mem_reverse.1 hx)
  · rintro ⟨pre, post, heq, hpost⟩
    refine ⟨(kind, a), List.find?_eq_some_iff_append.2 ⟨by simp, post.reverse, pre.reverse, ?_,
      fun x hx => by simpa using hpost x (List.mem_reverse.1 hx)⟩, rfl⟩
    simp [heq]

end Registry

namespace Engine

/-- The header cell of a binding, or the first check of its resolution that fails: the
header locator, the container, the header row in the container, the header cell in the
header row. -/
def headerCellOf (root : Element) (d : Descriptor) (b : Binding) : Except TableError Element :=
  match b.place.headerCell with
  | none => .error (.noHeaderLocator b.name)
  | some l =>
    match root.locate? d.container with
    | none => .error (.containerNotFound d.container)
    | some c =>
      match c.2.find? d.headerRow with
      | none => .error (.headerRowNotFound d.headerRow)
      | some hr =>
        match hr.find? l with
        | none => .error (.headerCellNotFound b.name l)
        | some h => .ok h

def headerWait (root : Element) (d : Descriptor) (b : Binding) : List (Path × Locator) :=
  match b.place.headerCell, root.locate? d.container with
  | some _, some c => [(c.1, d.headerRow)]
  | _, _ => []

/-- The component and action a route calls for an operation, or why it cannot: a component
needs a registry holding a service of its kind for the operation. -/
def routeService (e : Engine) (op : Operation) (field : String) (r : Route) :
    Except TableError (Option Component × Action) :=
  match r.target with
  | .component c =>
    match e.registry with
    | none => .error (.registryUnavailable op field)
    | some reg =>
      match reg.service? op c.kind with
      | none => .error (.registryLookup op c)
      | some a => .ok (some c, a)
  | .custom a => .ok (none, a)

theorem headerCell_run (e : Engine) (d : Descriptor) (b : Binding) (ss : Session) :
    (e.headerCell d b).run ss =
      (headerCellOf e.root d b, { ss with waits := ss.waits ++ headerWait e.root d b }) := by
  unfold headerCell headerCellOf headerWait
  cases b.place.headerCell with
  | none => simp
  | some l =>
    simp only [run_bind, container_run]
    cases e.root.locate? d.container with
    | none => simp
    | some c =>
      simp only [waitFor_run]
      cases c.2.find? d.headerRow with
      | none => rfl
      | some hr =>
        dsimp only
        cases hr.find? l <;> rfl

theorem headerCellOf_error_kind {root : Element} {d : Descriptor} {b : Binding}
    {err : TableError} (h : headerCellOf root d b = .error err) :
    err.kind = "Configuration" ∨ err.kind = "NotFound" := by
  unfold headerCellOf at h
  split at h
  · cases h
    exact .inl rfl
  · split at h
    · cases h
      exact .inr rfl
    · split at h
      · cases h
        exact .inr rfl
      · split at h <;> cases h
        exact .inr rfl

theorem routeService_error_kind {e : Engine} {op : Operation} {field : String} {r : Route}
    {err : TableError} (h : e.routeService op field r = .error err) :
    err.kind = "RegistryUnavailable" ∨ err.kind = "RegistryLookup" := by
  unfold routeService at h
  split at h
  · split at h
    · cases h
      exact .inl rfl
    · split at h <;> cases h
      exact .inr rfl
  · cases h

theorem checkBindings_error_kind {d : Descriptor} {seen : List String} {bs : List Binding}
    {err : TableError} (h : Schema.checkBindings d seen bs = .error err) :
    err.kind = "Configuration" := by
  induction bs generalizing seen with
  | nil => cases h
  | cons b rest ih =>
    unfold Schema.checkBindings at h
    split at h
    · cases h
      rfl
    · split at h
      · cases h
        rfl
      · exact ih h

theorem build_error_kind {d : Descriptor} {bs : List Binding} {err : TableError}
    (h : Schema.build d bs = .error err) : err.kind = "Configuration" := by
  unfold Schema.build at h
  cases hc : Schema.checkBindings d [] bs with
  | error err' =>
    rw [hc] at h
    cases h
    exact checkBindings_error_kind hc
  | ok u =>
    rw [hc] at h
    cases h

theorem binding_error_kind {s : Schema} {field : String} {err : TableError}
    (h : s.binding field = .error err) : err.kind = "Configuration" := by
  unfold Schema.binding at h
  split at h <;> cases h
  rfl

/-- Filtering by a field, as the checks it makes and its one call. The schema, the binding,
its filter route, the header cell (with its wait) and the route's service are checked in
that order, and the first that fails gives the error with no call. Otherwise one call is made
on the header cell, carrying the route's component, the mode and the values, and the filter
ends as the service or action answers it. -/
theorem filterTable_run (e : Engine) (field : String) (mode : FilterMode) (values : List String)
    (ss : Session) :
    (e.filterTable field mode values).run ss =
      match Schema.build e.table e.bindings with
      | .error err => (.error err, ss)
      | .ok s =>
        match s.binding field with
        | .error err => (.error err, Session.afterSchema e ss)
        | .ok b =>
          match b.filter with
          | none => (.error (.noFilterRoute b.name), Session.afterSchema e ss)
          | some r =>
            let ss' := { Session.afterSchema e ss with
              waits := ss.waits ++ headerWait e.root e.table b }
            match headerCellOf e.root e.table b, e.routeService .filter b.name r with
            | .error err, _ => (.error err, ss')
            | .ok _, .error err => (.error err, ss')
            | .ok h, .ok (c, a) =>
              (a.answer b.name, { ss' with calls := ss.calls ++ [.filter h.label c mode values] }) := by
  unfold filterTable
  cases hs : Schema.build e.table e.bindings with
  | error err => simp [hs]
  | ok s =>
    cases hb : s.binding field with
    | error err => simp [hs, hb]
    | ok b =>
      cases hr : b.filter with
      | none => simp [hs, hb, hr]
      | some r =>
        obtain ⟨rfl, -⟩ := Schema.build_ok hs
        simp only [run_bind, schema_run, hs, run_lift, hb, hr, headerCell_run]
        cases headerCellOf e.root e.table b with
        | error err => rfl
        | ok h =>
          dsimp only
          unfold routeService
          rcases r with ⟨c | a, order⟩
          · dsimp only
            cases e.registry with
            | none => rfl
            | some reg =>
              dsimp only
              cases reg.service? .filter c.kind with
              | none => rfl
              | some a => simp [Session.afterSchema]
          · simp [Session.afterSchema]

/-- Sorting by a field: the schema, the binding, the sorter and the header cell (with its
wait) are checked in that order, and the first that fails gives the error with no call;
otherwise the sorter is called once on the header cell. -/
theorem sortTable_run (e : Engine) (field : String) (order : SortOrder) (ss : Session) :
    (e.sortTable field order).run ss =
      match Schema.build e.table e.bindings with
      | .error err => (.error err, ss)
      | .ok s =>
        match s.binding field, e.sorter with
        | .error err, _ => (.error err, Session.afterSchema e ss)
        | .ok b, none => (.error (.sorterNotConfigured b.name), Session.afterSchema e ss)
        | .ok b, some a =>
          let ss' := { Session.afterSchema e ss with
            waits := ss.waits ++ headerWait e.root e.table b }
          match headerCellOf e.root e.table b with
          | .error err => (.error err, ss')
          | .ok h => (a.answer b.name, { ss' with calls := ss.calls ++ [.sort h.label order] }) := by
  unfold sortTable
  cases hs : Schema.build e.table e.bindings with
  | error err => simp [hs]
  | ok s =>
    cases hb : s.binding field with
    | error err => simp [hs, hb]
    | ok b =>
      cases ha : e.sorter with
      | none => simp [hs, hb]
      | some a =>
        obtain ⟨rfl, -⟩ := Schema.build_ok hs
        simp only [run_bind, schema_run, hs, run_lift, hb, headerCell_run]
        cases headerCellOf e.root e.table b with
        | error err => rfl
        | ok h => simp [Session.afterSchema]

/-- An operation run from `ss` either stops at one of its checks, with an error of one of
`kinds` and no call, or makes exactly one call and then fails only as a cell operation. -/
def ChecksThenOneCall (kinds : List String) (ss : Session) (r : Except TableError Unit × Session) :
    Prop :=
  (∀ err, r.1 = .error err →
    (err.kind ∈ kinds ∧ r.2.calls = ss.calls) ∨
    (err.kind = "CellOperation" ∧ ∃ call, r.2.calls = ss.calls ++ [call])) ∧
  (r.1 = .ok () → ∃ call, r.2.calls = ss.calls ++ [call])

namespace ChecksThenOneCall

variable {kinds : List String} {ss ss' : Session}

theorem check {err : TableError} (hk : err.kind ∈ kinds) (hc : ss'.calls = ss.calls) :
    ChecksThenOneCall kinds ss (.error err, ss') :=
  ⟨fun err' h => by cases h; exact .inl ⟨hk, hc⟩, fun h => by cases h⟩

theorem call (a : Action) (field : String) {c : Call} (hc : ss'.calls = ss.calls ++ [c]) :
    ChecksThenOneCall kinds ss (a.answer field, ss') := by
  refine ⟨fun err h => .inr ⟨?_, c, hc⟩, fun _ => ⟨c, hc⟩⟩
  cases a <;> cases h
  rfl

end ChecksThenOneCall

theorem filterTable_checks (e : Engine) (field : String) (mode : FilterMode)
    (values : List String) (ss : Session) :
    ChecksThenOneCall ["Configuration", "NotFound", "RegistryUnavailable", "RegistryLookup"] ss
      ((e.filterTable field mode values).run ss) := by
  rw [filterTable_run]
  -- each branch of the run is a failed check with the calls untouched, or the one call
  split
  · next err hs => exact .check (by simp [build_error_kind hs]) rfl
  · split
    · next err hb => exact .check (by simp [binding_error_kind hb]) rfl
    · split
      · exact .check (by simp [TableError.kind]) rfl
      · split
        · next err _ hh =>
          exact .check (by rcases headerCellOf_error_kind hh with hk | hk <;> simp [hk]) rfl
        · next err _ hr =>
          exact .check (by rcases routeService_error_kind hr with hk | hk <;> simp [hk]) rfl
        · exact .call _ _ rfl

theorem sortTable_checks (e : Engine) (field : String) (order : SortOrder) (ss : Session) :
    ChecksThenOneCall ["Configuration", "SorterNotConfigured", "NotFound"] ss
      ((e.sortTable field order).run ss) := by
  rw [sortTable_run]
  split
  · next err hs => exact .check (by simp [build_error_kind hs]) rfl
  · split
    · next err _ hb => exact .check (by simp [binding_error_kind hb]) rfl
    · exact .check (by simp [TableError.kind]) rfl
    · split
      · next err hh =>
        exact .check (by rcases headerCellOf_error_kind hh with hk | hk <;> simp [hk]) rfl
      · exact .call _ _ rfl

/-- Filtering and sorting through a field's header cell. A filter checks the schema, the
binding, its filter route, the header cell (waiting once on the container for the header row)
and then the service of its route: the filter service registered last for a component's kind,
whatever the insertion services. A sort checks the schema, the binding, the sorter and then
the header cell. The first check that fails gives the error and no call is made; otherwise
exactly one call is made on the header cell, and the operation fails only as that call does. -/
theorem filter_sort_checks_then_call (e : Engine) (field : String) (mode : FilterMode)
    (values : List String) (order : SortOrder) (ss : Session) :
    ((e.filterTable field mode values).run ss =
      match Schema.build e.table e.bindings with
      | .error err => (.error err, ss)
      | .ok s =>
        match s.binding field with
        | .error err => (.error err, Session.afterSchema e ss)
        | .ok b =>
          match b.filter with
          | none => (.error (.noFilterRoute b.name), Session.afterSchema e ss)
          | some r =>
            let ss' := { Session.afterSchema e ss with
              waits := ss.waits ++ headerWait e.root e.table b }
            match headerCellOf e.root e.table b, e.routeService .filter b.name r with
            | .error err, _ => (.error err, ss')
            | .ok _, .error err => (.error err, ss')
            | .ok h, .ok (c, a) =>
              (a.answer b.name, { ss' with calls := ss.calls ++ [.filter h.label c mode values] })) ∧
    ((e.sortTable field order).run ss =
      match Schema.build e.table e.bindings with
      | .error err => (.error err, ss)
      | .ok s =>
        match s.binding field, e.sorter with
        | .error err, _ => (.error err, Session.afterSchema e ss)
        | .ok b, none => (.error (.sorterNotConfigured b.name), Session.afterSchema e ss)
        | .ok b, some a =>
          let ss' := { Session.afterSchema e ss with
            waits := ss.waits ++ headerWait e.root e.table b }
          match headerCellOf e.root e.table b with
          | .error err => (.error err, ss')
          | .ok h => (a.answer b.name, { ss' with calls := ss.calls ++ [.sort h.label order] })) ∧
    (∀ (reg : Registry) kind a, reg.service? .filter kind = some a ↔
      ∃ pre post, reg.filter = pre ++ (kind, a) :: post ∧ ∀ x ∈ post, x.1 ≠ kind) ∧
    ChecksThenOneCall ["Configuration", "NotFound", "RegistryUnavailable", "RegistryLookup"] ss
      ((e.filterTable field mode values).run ss) ∧
    ChecksThenOneCall ["Configuration", "SorterNotConfigured", "NotFound"] ss
      ((e.sortTable field order).run ss) :=
  ⟨filterTable_run e field mode values ss, sortTable_run e field order ss,
    fun reg kind a => reg.service?_eq_some_iff .filter kind a,
    filterTable_checks e field mode values ss, sortTable_checks e field order ss⟩

end Engine

end TableBind
