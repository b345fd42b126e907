import Mathlib
import TableBind.Proofs.Write

/-! Sections as the operations ask for them. Building a schema checks every binding's section,
and the row operations ask only for the rows of the default section and of schema bindings'
sections, so no operation ends with `unknownSection`. -/

namespace TableBind

section Outcomes

variable {α β : Type}

def TableError.isUnknownSection : TableError → Bool
  | .unknownSection _ => true
  | _ => false

/-- An outcome other than the error for the rows of an undeclared section. -/
def NoUnknownSection (x : Except TableError α) : Prop :=
  ∀ err, x = .error err → err.isUnknownSection = false

theorem noUnknownSection_ok (a : α) : NoUnknownSection (.ok a : Except TableError α) :=
  fun _ h => by cases h

theorem noUnknownSection_error {err : TableError} (h : err.isUnknownSection = false) :
    NoUnknownSection (.error err : Except TableError α) := by
  intro err' h'
  cases h'
  exact h

theorem NoUnknownSection.ne {x : Except TableError α} (hx : NoUnknownSection x) (name : String) :
    x ≠ .error (.unknownSection name) :=
  fun h => Bool.false_ne_true ((hx _ h).symm)

theorem NoUnknownSection.bind {x : Except TableError α} {f : α → Except TableError β}
    (hx : NoUnknownSection x) (hf : ∀ a, x = .ok a → NoUnknownSection (f a)) :
    NoUnknownSection (x >>= f) := by
  cases x with
  | error err =>
    rw [except_error_bind]
    exact noUnknownSection_error (hx err rfl)
  | ok a => exact hf a rfl

theorem NoUnknownSection.map {x : Except TableError α} (hx : NoUnknownSection x) (f : α → β) :
    NoUnknownSection (x.map f) := by
  cases x with
  | error err => exact noUnknownSection_error (hx err rfl)
  | ok a => exact noUnknownSection_ok _

theorem noUnknownSection_orFailure {failure : Option TableError}
    (h : ∀ err, failure = some err → err.isUnknownSection = false) (a : α) :
    NoUnknownSection (orFailure failure a) := by
  cases failure with
  | none => exact noUnknownSection_ok a
  | some err => exact noUnknownSection_error (h err rfl)

theorem noUnknownSection_mapM {f : α → Except TableError β} {xs : List α}
    (h : ∀ a ∈ xs, NoUnknownSection (f a)) : NoUnknownSection (xs.mapM f) := by
  induction xs with
  | nil => exact noUnknownSection_ok _
  | cons x xs ih =>
    rw [List.mapM_cons]
    refine (h x List.mem_cons_self).bind fun b _ => ?_
    refine (ih fun a ha => h a (List.mem_cons_of_mem _ ha)).bind fun bs _ => ?_
    exact noUnknownSection_ok _

end Outcomes

section Steps

theorem Binding.refusal_isUnknownSection {b : Binding} {v : CellValue} {err : TableError}
    (h : b.refusal v = some err) : err.isUnknownSection = false := by
  rw [Binding.refusal_eq] at h
  split at h
  · cases h
  · cases h
    rfl

theorem StepFailure.isUnknownSection {err : TableError} (h : StepFailure err) :
    err.isUnknownSection = false := by
  cases h <;> rfl

theorem Action.noUnknownSection_answer (a : Action) (field : String) :
    NoUnknownSection (a.answer field) := by
  cases a with
  | record => exact noUnknownSection_ok _
  | fail m => exact noUnknownSection_error rfl

theorem Schema.noUnknownSection_build (t : Descriptor) (bs : List Binding) :
    NoUnknownSection (Schema.build t bs) := by
  have hcheck : ∀ seen, NoUnknownSection (Schema.checkBindings t seen bs) := by
    induction bs with
    | nil => exact fun _ => noUnknownSection_ok _
    | cons b rest ih =>
      intro seen
      unfold Schema.checkBindings
      split
      · exact noUnknownSection_error rfl
      · split
        · exact noUnknownSection_error rfl
        · exact ih _
  exact (hcheck []).map _

theorem Schema.noUnknownSection_select (s : Schema) (names : List String) :
    NoUnknownSection (s.select names) := by
  unfold Schema.select
  split
  · exact noUnknownSection_ok _
  · split
    · exact noUnknownSection_error rfl
    · exact noUnknownSection_ok _

theorem Schema.noUnknownSection_binding (s : Schema) (name : String) :
    NoUnknownSection (s.binding name) := by
  unfold Schema.binding
  split
  · exact noUnknownSection_ok _
  · exact noUnknownSection_error rfl

theorem RowSelector.noUnknownSection_position (sel : RowSelector) (texts : List String) :
    NoUnknownSection (sel.position texts) := by
  cases sel with
  | index i =>
    by_cases h : 1 ≤ i ∧ i ≤ texts.length
    · rw [RowSelector.position, if_pos h]
      exact noUnknownSection_ok _
    · rw [RowSelector.position, if_neg h]
      exact noUnknownSection_error rfl
  | criteria ks =>
    cases hf : RowSelector.firstFit ks texts with
    | none =>
      simp only [RowSelector.position, hf]
      exact noUnknownSection_error rfl
    | some p =>
      simp only [RowSelector.position, hf]
      exact noUnknownSection_ok _

theorem noUnknownSection_insertionPlan (s : Schema) (data : Row) :
    NoUnknownSection (insertionPlan s data) := by
  have hsteps : ∀ bs, NoUnknownSection (planSteps data bs) := by
    intro bs
    induction bs with
    | nil => exact noUnknownSection_ok _
    | cons b rest ih =>
      unfold planSteps
      split
      · exact ih
      · split
        · exact noUnknownSection_error rfl
        · exact ih.map _
  exact (hsteps s.bindings).map _

theorem Engine.noUnknownSection_rowAt (s : Schema) (groups : List (List Element × List Binding))
    (p : Nat) : NoUnknownSection (Engine.rowAt s groups p) := by
  rw [rowAt_eq]
  refine noUnknownSection_orFailure (fun err h => ?_) _
  obtain ⟨g, -, hg⟩ := List.exists_of_findSome?_eq_some h
  unfold groupRefusal at hg
  split at hg
  · obtain ⟨r, -, hr⟩ := List.exists_of_findSome?_eq_some hg
    exact Binding.refusal_isUnknownSection hr
  · cases hg

end Steps

namespace Engine

theorem readTableRange_noUnknownSection (e : Engine) (start stop : Nat) (fields : List String)
    (ss : Session) : NoUnknownSection ((e.readTableRange start stop fields).run ss).1 := by
  cases hs : Schema.build e.table e.bindings with
  | error err =>
    simp only [readTableRange, run_bind, schema_run, hs]
    exact noUnknownSection_error (Schema.noUnknownSection_build _ _ err hs)
  | ok s =>
    cases hbs : s.select fields with
    | error err =>
      simp only [readTableRange, run_bind, schema_run, hs, run_lift, hbs]
      exact noUnknownSection_error (Schema.noUnknownSection_select _ _ err hbs)
    | ok bs =>
      obtain ⟨rfl, -⟩ := Schema.build_ok hs
      cases hc : e.root.locate? e.table.container with
      | none =>
        simp only [readTableRange, run_bind, schema_run, hs, run_lift, hbs, container_run, hc]
        exact noUnknownSection_error rfl
      | some c =>
        rw [readTableRange_run_groups e start stop fields ss hs hbs hc]
        exact noUnknownSection_mapM fun p _ => noUnknownSection_rowAt _ _ p

theorem readRow_noUnknownSection (e : Engine) (sel : RowSelector) (fields : List String)
    (ss : Session) : NoUnknownSection ((e.readRow sel fields).run ss).1 := by
  cases hs : Schema.build e.table e.bindings with
  | error err =>
    simp only [readRow, run_bind, schema_run, hs]
    exact noUnknownSection_error (Schema.noUnknownSection_build _ _ err hs)
  | ok s =>
    cases hbs : s.select fields with
    | error err =>
      simp only [readRow, run_bind, schema_run, hs, run_lift, hbs]
      exact noUnknownSection_error (Schema.noUnknownSection_select _ _ err hbs)
    | ok bs =>
      obtain ⟨rfl, -⟩ := Schema.build_ok hs
      cases hc : e.root.locate? e.table.container with
      | none =>
        simp only [readRow, run_bind, schema_run, hs, run_lift, hbs, container_run, hc]
        exact noUnknownSection_error rfl
      | some c =>
        rw [readRow_run_fst e sel fields ss hs hbs hc]
        exact (RowSelector.noUnknownSection_position _ _).bind fun p _ => noUnknownSection_rowAt _ _ p

theorem insertRow_noUnknownSection (e : Engine) (sel : RowSelector) (data : Row) (ss : Session) :
    NoUnknownSection ((e.insertRow sel data).run ss).1 := by
  cases hs : Schema.build e.table e.bindings with
  | error err =>
    simp only [insertRow, run_bind, schema_run, hs]
    exact noUnknownSection_error (Schema.noUnknownSection_build _ _ err hs)
  | ok s =>
    obtain ⟨rfl, hwf⟩ := Schema.build_ok hs
    cases hplan : insertionPlan ⟨e.table, e.bindings⟩ data with
    | error err =>
      simp only [insertRow, run_bind, schema_run, hs, run_lift, hplan]
      exact noUnknownSection_error (noUnknownSection_insertionPlan _ _ err hplan)
    | ok plan =>
      cases hc : e.root.locate? e.table.container with
      | none =>
        simp only [insertRow, run_bind, schema_run, hs, run_lift, hplan, container_run, hc]
        exact noUnknownSection_error rfl
      | some c =>
        simp only [insertRow, run_bind, schema_run, hs, run_lift, hplan, container_run, hc,
          sectionRows_default_run, pick_run]
        cases hp : sel.position ((e.table.rowsIn c.2 "").map Element.renderedText) with
        | error err =>
          exact noUnknownSection_error (RowSelector.noUnknownSection_position _ _ err hp)
        | ok p =>
          -- every step is a schema binding's, so its section is declared
          have hdecl : ∀ st ∈ plan, (e.table.rowsFor st.binding.place.sectionName).isSome :=
            fun st hst => hwf.declared _ (insertionPlan_mem hplan st hst).1
          dsimp only
          rw [forM_runStep_run e p plan hdecl]
          intro err herr
          exact (planRun_failure e _ _ p (fun st hst => (insertionPlan_mem hplan st hst).2)
            herr).isUnknownSection

theorem insertCellValue_noUnknownSection (e : Engine) (sel : RowSelector) (f : String) (k : Nat)
    (values : List String) (ss : Session) :
    NoUnknownSection ((e.insertCellValue sel f k values).run ss).1 := by
  cases hs : Schema.build e.table e.bindings with
  | error err =>
    simp only [insertCellValue, run_bind, schema_run, hs]
    exact noUnknownSection_error (Schema.noUnknownSection_build _ _ err hs)
  | ok s =>
    cases hb : s.binding f with
    | error err =>
      simp only [insertCellValue, run_bind, schema_run, hs, run_lift, hb]
      exact noUnknownSection_error (Schema.noUnknownSection_binding _ _ err hb)
    | ok b =>
      obtain ⟨rfl, hwf⟩ := Schema.build_ok hs
      have hdecl := hwf.declared b (Schema.binding_mem hb).1
      cases hr : b.insertion with
      | none =>
        simp only [insertCellValue, run_bind, schema_run, hs, run_lift, hb, hr, Option.isNone_none,
          if_true, run_throw]
        exact noUnknownSection_error rfl
      | some r =>
        have hroute : b.insertion.isSome := by rw [hr]; rfl
        cases hc : e.root.locate? e.table.container with
        | none =>
          simp only [insertCellValue, run_bind, schema_run, hs, run_lift, hb, hr, Option.isNone_some,
            Bool.false_eq_true, if_false, container_run, hc]
          exact noUnknownSection_error rfl
        | some c =>
          cases hp : sel.position ((e.table.rowsIn c.2 "").map Element.renderedText) with
          | error err =>
            simp only [insertCellValue, run_bind, schema_run, hs, run_lift, hb, hr,
              Option.isNone_some, Bool.false_eq_true, if_false, container_run, hc,
              sectionRows_default_run, pick_run, hp]
            exact noUnknownSection_error (RowSelector.noUnknownSection_position _ _ err hp)
          | ok p =>
            cases hrow : (e.table.rowsIn c.2 b.place.sectionName)[p]? with
            | none =>
              simp only [insertCellValue, run_bind, schema_run, hs, run_lift, hb, hr,
                Option.isNone_some, Bool.false_eq_true, if_false, container_run, hc,
                sectionRows_default_run, pick_run, hp, rowIn_run hdecl, hrow]
              exact noUnknownSection_error rfl
            | some row =>
              rw [insertCellValue_run hs hb hroute hc hp hrow k values ss]
              dsimp only
              -- the cell index is checked, then the field's route is dispatched
              split
              · split
                · exact noUnknownSection_error rfl
                · rw [dispatchInsert_run]
                  split
                  · rename_i err herr
                    exact noUnknownSection_error (dispatchCall_failure hroute herr).isUnknownSection
                  · exact Action.noUnknownSection_answer _ _
              · exact noUnknownSection_error rfl

end Engine

/-- The rows of a built schema's fields: the rows locator of the first section declared with
the field's section name, or the table's rows for the default section. -/
theorem Schema.rowsFor_of_build {t : Descriptor} {bs : List Binding} {s : Schema}
    (h : Schema.build t bs = .ok s) {b : Binding} (hb : b ∈ s.bindings) :
    ∃ l, s.table.rowsFor b.place.sectionName = some l ∧
      s.table.sectionLocator b.place.sectionName = l ∧
      (b.place.sectionName = "" → l = s.table.rows) ∧
      (b.place.sectionName ≠ "" →
        ∃ sec, s.table.sections.find? (·.name == b.place.sectionName) = some sec ∧ l = sec.rows) := by
  obtain ⟨l, hl⟩ := Option.isSome_iff_exists.1 ((Schema.build_ok h).2.declared b hb)
  refine ⟨l, hl, Descriptor.sectionLocator_of_rowsFor hl, fun hdef => ?_, fun hdef => ?_⟩
  · rw [Descriptor.rowsFor, if_pos hdef] at hl
    exact (Option.some.inj hl).symm
  · rw [Descriptor.rowsFor, if_neg hdef] at hl
    obtain ⟨sec, hsec, rfl⟩ := Option.map_eq_some_iff.1 hl
    exact ⟨sec, hsec, rfl⟩

/-- Every section an operation asks rows of is declared. Once a schema builds, the section of
each field resolves to the first section declared with its name, or to the table's rows for the
default section; and no read or write of rows ends with the error for an undeclared section,
whatever the engine, the session and the arguments. -/
theorem sections_always_declared (e : Engine) (ss : Session) :
    (∀ s, Schema.build e.table e.bindings = .ok s → ∀ b ∈ s.bindings,
      ∃ l, s.table.rowsFor b.place.sectionName = some l ∧
        s.table.sectionLocator b.place.sectionName = l ∧
        (b.place.sectionName = "" → l = s.table.rows) ∧
        (b.place.sectionName ≠ "" →
          ∃ sec, s.table.sections.find? (·.name == b.place.sectionName) = some sec ∧
            l = sec.rows)) ∧
    ∀ name,
      (∀ fields, ((e.readTable fields).run ss).1 ≠ .error (.unknownSection name)) ∧
      (∀ start stop fields,
        ((e.readTableRange start stop fields).run ss).1 ≠ .error (.unknownSection name)) ∧
      (∀ sel fields, ((e.readRow sel fields).run ss).1 ≠ .error (.unknownSection name)) ∧
      (∀ sel data, ((e.insertRow sel data).run ss).1 ≠ .error (.unknownSection name)) ∧
      (∀ sel field k values,
        ((e.insertCellValue sel field k values).run ss).1 ≠ .error (.unknownSection name)) :=
  ⟨fun _ hs _ hb => Schema.rowsFor_of_build hs hb, fun name =>
    ⟨fun fields => (Engine.readTableRange_noUnknownSection e _ _ fields ss).ne name,
      fun start stop fields => (Engine.readTableRange_noUnknownSection e start stop fields ss).ne name,
      fun sel fields => (Engine.readRow_noUnknownSection e sel fields ss).ne name,
      fun sel data => (Engine.insertRow_noUnknownSection e sel data ss).ne name,
      fun sel field k values =>
        (Engine.insertCellValue_noUnknownSection e sel field k values ss).ne name⟩⟩

end TableBind
