import Mathlib
import TableBind.Engine.Read
import TableBind.Engine.Write
import TableBind.Proofs.Schema

/-! Engine operations as functions of the session. Each primitive gets one equation giving
its result and the session after it; the proofs about whole operations rewrite with these
and never unfold a primitive. Searches are `Element.findAll`, so these statements describe
runs whose locators have no `Locator.searchFault?`. -/

namespace TableBind

/-- How an action answers a call made for a field: a failing action fails for that field. -/
def Action.answer (a : Action) (field : String) : Except TableError Unit :=
  match a with
  | .record => .ok ()
  | .fail m => .error (.cellOperation field m)

namespace Engine

variable {α β : Type}

@[simp] theorem run_pure (a : α) (ss : Session) : (pure a : Run α).run ss = (.ok a, ss) := rfl

@[simp] theorem run_throw (err : TableError) (ss : Session) :
    (throw err : Run α).run ss = (.error err, ss) := rfl

@[simp] theorem run_lift (x : Except TableError α) (ss : Session) :
    (ExceptT.mk (pure x) : Run α).run ss = (x, ss) := rfl

@[simp] theorem run_bind (x : Run α) (f : α → Run β) (ss : Session) :
    (x >>= f).run ss = match x.run ss with
      | (.ok a, ss') => (f a).run ss'
      | (.error e, ss') => (.error e, ss') := by
  rw [ExceptT.run_bind]
  show StateT.bind (ExceptT.run x) (ExceptT.bindCont f) ss = _
  simp only [StateT.bind]
  rcases x.run ss with ⟨_ | a, ss'⟩ <;> rfl

@[simp] theorem run_map (f : α → β) (x : Run α) (ss : Session) :
    (f <$> x).run ss = match x.run ss with
      | (.ok a, ss') => (.ok (f a), ss')
      | (.error e, ss') => (.error e, ss') := by
  rw [← bind_pure_comp, run_bind]
  rfl

/-- The session after a successful schema build: the cache flag is set when caching is on. -/
def Session.afterSchema (e : Engine) (ss : Session) : Session :=
  { ss with cached := e.caching || ss.cached }

@[simp] theorem schema_run (e : Engine) (ss : Session) :
    e.schema.run ss = match Schema.build e.table e.bindings with
      | .ok s => (.ok s, Session.afterSchema e ss)
      | .error err => (.error err, ss) := by
  unfold schema Session.afterSchema
  cases Schema.build e.table e.bindings <;> cases e.caching <;> rfl

@[simp] theorem container_run (e : Engine) (d : Descriptor) (ss : Session) :
    (e.container d).run ss = match e.root.locate? d.container with
      | some c => (.ok c, ss)
      | none => (.error (.containerNotFound d.container), ss) := by
  unfold container
  cases e.root.locate? d.container <;> rfl

@[simp] theorem waitFor_run (path : Path) (l : Locator) (ss : Session) :
    (waitFor path l).run ss = (.ok (), { ss with waits := ss.waits ++ [(path, l)] }) := rfl

@[simp] theorem note_run (c : Call) (ss : Session) :
    (note c).run ss = (.ok (), { ss with calls := ss.calls ++ [c] }) := rfl

/-- The rows of a declared section: one wait on the container for the section's rows
locator, and every match of it. -/
theorem sectionRows_run {c : Path × Element} {d : Descriptor} {name : String}
    (h : (d.rowsFor name).isSome) (ss : Session) :
    (sectionRows c d name).run ss =
      (.ok (d.rowsIn c.2 name), { ss with waits := ss.waits ++ [(c.1, d.sectionLocator name)] }) := by
  obtain ⟨l, hl⟩ := Option.isSome_iff_exists.1 h
  simp only [sectionRows, hl, run_bind, waitFor_run, run_pure, Descriptor.rowsIn,
    Descriptor.sectionLocator_of_rowsFor hl]

theorem sectionRows_default_run (c : Path × Element) (d : Descriptor) (ss : Session) :
    (sectionRows c d "").run ss =
      (.ok (d.rowsIn c.2 ""), { ss with waits := ss.waits ++ [(c.1, d.rows)] }) := by
  rw [sectionRows_run (by simp [Descriptor.rowsFor]), Descriptor.sectionLocator_default]

@[simp] theorem pick_run (rows : List Element) (sel : RowSelector) (ss : Session) :
    (pick rows sel).run ss = (sel.position (rows.map Element.renderedText), ss) := rfl

/-- An action records its call first, so the call stays even when the action fails. -/
@[simp] theorem perform_run (a : Action) (field : String) (c : Call) (ss : Session) :
    (perform a field c).run ss = (a.answer field, { ss with calls := ss.calls ++ [c] }) := by
  cases a <;> rfl

theorem mapM_waits_run {f : α → Run β} {h : α → β} {w : α → Path × Locator} (xs : List α)
    (hf : ∀ a ∈ xs, ∀ ss, (f a).run ss = (.ok (h a), { ss with waits := ss.waits ++ [w a] }))
    (ss : Session) :
    (xs.mapM f).run ss = (.ok (xs.map h), { ss with waits := ss.waits ++ xs.map w }) := by
  induction xs generalizing ss with
  | nil => simp
  | cons a xs ih =>
    rw [List.mapM_cons, run_bind, hf a List.mem_cons_self]
    dsimp only
    rw [run_bind, ih (fun x hx => hf x (List.mem_cons_of_mem _ hx))]
    simp

theorem foldlM_run_fst {f : β → α → Run β} {h : β → α → Except TableError β} (xs : List α)
    (hf : ∀ acc, ∀ a ∈ xs, ∀ ss, ((f acc a).run ss).1 = h acc a) (acc : β) (ss : Session) :
    ((xs.foldlM f acc).run ss).1 = xs.foldlM h acc := by
  induction xs generalizing acc ss with
  | nil => rfl
  | cons a xs ih =>
    rw [List.foldlM_cons, List.foldlM_cons, run_bind]
    have ha := hf acc a List.mem_cons_self ss
    rcases hrun : (f acc a).run ss with ⟨_ | acc', ss'⟩ <;> rw [hrun] at ha <;> rw [← ha]
    · rfl
    · exact ih (fun acc x hx => hf acc x (List.mem_cons_of_mem _ hx)) acc' ss'

theorem foldlM_run {f : β → α → Run β} {h : β → α → Except TableError β} (xs : List α)
    (hf : ∀ acc, ∀ a ∈ xs, ∀ ss, ((f acc a).run ss).1 = h acc a) (acc : β) (ss : Session) :
    (xs.foldlM f acc).run ss = (xs.foldlM h acc, ((xs.foldlM f acc).run ss).2) :=
  Prod.ext (foldlM_run_fst xs hf acc ss) rfl

end Engine

section ExceptFolds

variable {ε α β : Type} {err : α → Option ε}

/-- A fold whose step fails on an element regardless of the accumulator fails at the first
such element, and otherwise is the plain fold of the successful steps. -/
theorem foldlM_except {f : β → α → Except ε β} {g : β → α → β}
    (hf : ∀ acc a, f acc a = orFailure (err a) (g acc a)) (xs : List α) (init : β) :
    xs.foldlM f init = orFailure (xs.findSome? err) (xs.foldl g init) := by
  induction xs generalizing init with
  | nil => rfl
  | cons x xs ih =>
    rw [List.foldlM_cons, hf, List.findSome?_cons]
    cases err x with
    | some e => rfl
    | none => exact ih (g init x)

theorem mapM_except {f : α → Except ε β} {g : α → β}
    (hf : ∀ a, f a = orFailure (err a) (g a)) (xs : List α) :
    xs.mapM f = orFailure (xs.findSome? err) (xs.map g) := by
  induction xs with
  | nil => rfl
  | cons x xs ih =>
    rw [List.mapM_cons, hf, List.findSome?_cons]
    cases err x with
    | some e => rfl
    | none =>
      simp only [ih]
      cases xs.findSome? err <;> rfl

theorem findSome?_flatMap {γ : Type} (xs : List α) (r : α → List γ) (h : γ → Option ε) :
    (xs.flatMap r).findSome? h = xs.findSome? fun x => (r x).findSome? h := by
  induction xs with
  | nil => rfl
  | cons x xs ih =>
    rw [List.flatMap_cons, List.findSome?_append, ih, List.findSome?_cons]
    cases (r x).findSome? h <;> rfl

theorem findSome?_filterMap {γ : Type} (xs : List α) (r : α → Option γ) (h : γ → Option ε) :
    (xs.filterMap r).findSome? h = xs.findSome? fun x => (r x).bind h := by
  induction xs with
  | nil => rfl
  | cons x xs ih =>
    rw [List.filterMap_cons, List.findSome?_cons]
    cases r x with
    | none => exact ih
    | some y =>
      rw [List.findSome?_cons, ih]
      rfl

theorem findSome?_congr {f g : α → Option ε} {xs : List α} (h : ∀ x ∈ xs, f x = g x) :
    xs.findSome? f = xs.findSome? g := by
  induction xs with
  | nil => rfl
  | cons x xs ih =>
    rw [List.findSome?_cons, List.findSome?_cons, h x List.mem_cons_self,
      ih fun y hy => h y (List.mem_cons_of_mem _ hy)]

end ExceptFolds

end TableBind
