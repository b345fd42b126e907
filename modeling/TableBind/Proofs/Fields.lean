import Mathlib
import TableBind.Proofs.Read
import TableBind.Proofs.TextTable
import TableBind.Proofs.Derive

/-! Building a schema and choosing the bindings of a call. Building reports the first binding
that repeats a name or names an undeclared section; a call works on the named bindings in schema
order, so reads depend only on the set of names. -/

namespace TableBind

/-- A section name the table declares: the default section `""`, or the name of a declared
section. -/
def Descriptor.Declares (t : Descriptor) (name : String) : Prop :=
  name = "" ∨ ∃ sec ∈ t.sections, sec.name = name

instance (t : Descriptor) (name : String) : Decidable (t.Declares name) :=
  inferInstanceAs (Decidable (_ ∨ _))

theorem Descriptor.declares_iff (t : Descriptor) (name : String) :
    t.Declares name ↔ (t.rowsFor name).isSome :=
  (Derive.rowsFor_isSome_iff t name).symm

namespace Schema

section Build

variable {t : Descriptor} {seen : List String} {pre rest : List Binding}

theorem checkBindings_append (hnd : (pre.map Binding.name).Nodup)
    (hfresh : ∀ b ∈ pre, b.name ∉ seen)
    (hdecl : ∀ b ∈ pre, t.Declares b.place.sectionName) :
    checkBindings t seen (pre ++ rest) =
      checkBindings t ((pre.map Binding.name).reverse ++ seen) rest := by
  induction pre generalizing seen with
  | nil => rfl
  | cons b pre ih =>
    rw [List.map_cons, List.nodup_cons] at hnd
    have hb : (t.rowsFor b.place.sectionName).isNone = false := by
      simpa using (Descriptor.declares_iff t _).1 (hdecl b List.mem_cons_self)
    rw [List.cons_append, checkBindings, if_neg (hfresh b List.mem_cons_self),
      if_neg (by simp [hb])]
    have hfresh' : ∀ x ∈ pre, x.name ∉ b.name :: seen := by
      intro x hx hxs
      rcases List.mem_cons.1 hxs with h | h
      · exact hnd.1 (h ▸ List.mem_map_of_mem hx)
      · exact hfresh x (List.mem_cons_of_mem _ hx) h
    rw [ih hnd.2 hfresh' fun x hx => hdecl x (List.mem_cons_of_mem _ hx)]
    simp

theorem build_duplicate {b : Binding} {post : List Binding} (hnd : (pre.map Binding.name).Nodup)
    (hdecl : ∀ x ∈ pre, t.Declares x.place.sectionName)
    (hdup : b.name ∈ pre.map Binding.name) :
    build t (pre ++ b :: post) = .error (.duplicateField b.name) := by
  unfold build
  rw [checkBindings_append hnd (fun _ _ h => by cases h) hdecl, checkBindings,
    if_pos (by simpa using hdup)]
  rfl

theorem build_undeclared {b : Binding} {post : List Binding} (hnd : (pre.map Binding.name).Nodup)
    (hdecl : ∀ x ∈ pre, t.Declares x.place.sectionName) (hnew : b.name ∉ pre.map Binding.name)
    (hsec : ¬ t.Declares b.place.sectionName) :
    build t (pre ++ b :: post) = .error (.undeclaredSection b.name b.place.sectionName) := by
  have hnone : (t.rowsFor b.place.sectionName).isNone = true := by
    simpa [Descriptor.declares_iff] using hsec
  unfold build
  rw [checkBindings_append hnd (fun _ _ h => by cases h) hdecl, checkBindings,
    if_neg (by simpa using hnew), if_pos hnone]
  rfl

/-- A schema builds, as the table and the bindings unchanged, exactly when the names are
distinct and every section is declared. -/
theorem build_eq_ok_iff (t : Descriptor) (bs : List Binding) :
    build t bs = .ok ⟨t, bs⟩ ↔
      (bs.map Binding.name).Nodup ∧ ∀ b ∈ bs, t.Declares b.place.sectionName := by
  constructor
  · intro h
    have hwf := (build_ok h).2
    exact ⟨hwf.nodup, fun b hb => (Descriptor.declares_iff t _).2 (hwf.declared b hb)⟩
  · rintro ⟨hnd, hdecl⟩
    unfold build
    rw [checkBindings_of_valid hnd (fun _ _ h => by cases h)
      fun b hb => (Descriptor.declares_iff t _).1 (hdecl b hb)]
    rfl

end Build

/-- Building a schema checks the bindings in order. It gives the table and the bindings
unchanged exactly when the names are distinct and every section is declared, and gives
nothing else. Otherwise the first binding that breaks a rule, after bindings that keep them,
is reported as a configuration error: as bound more than once when its name repeats an
earlier binding's, whatever its section, and else for its undeclared section. -/
theorem build_reports_first_invalid (t : Descriptor) (bs : List Binding) :
    (build t bs = .ok ⟨t, bs⟩ ↔
      (bs.map Binding.name).Nodup ∧ ∀ b ∈ bs, t.Declares b.place.sectionName) ∧
      (∀ s, build t bs = .ok s → s = ⟨t, bs⟩) ∧
      ∀ pre b post, bs = pre ++ b :: post → (pre.map Binding.name).Nodup →
        (∀ x ∈ pre, t.Declares x.place.sectionName) →
        (b.name ∈ pre.map Binding.name → ∃ err, build t bs = .error err ∧
          err.kind = "Configuration" ∧
          err.message = "configuration error: field '" ++ b.name ++ "' is bound more than once") ∧
        (b.name ∉ pre.map Binding.name → ¬ t.Declares b.place.sectionName →
          ∃ err, build t bs = .error err ∧ err.kind = "Configuration" ∧
            err.message = "configuration error: field '" ++ b.name ++
              "' belongs to undeclared section '" ++ b.place.sectionName ++ "'") := by
  refine ⟨build_eq_ok_iff t bs, fun s h => (build_ok h).1, ?_⟩
  rintro pre b post rfl hnd hdecl
  exact ⟨fun hdup => ⟨_, build_duplicate hnd hdecl hdup, rfl, rfl⟩,
    fun hnew hsec => ⟨_, build_undeclared hnd hdecl hnew hsec, rfl, rfl⟩⟩

/-- A table with a footer section. -/
def invoiceTable : Descriptor where
  container := ⟨.id, "invoice"⟩
  rows := ⟨.css, "tbody tr"⟩
  headerRow := ⟨.css, "thead tr"⟩
  sections := [⟨"totals", ⟨.css, "tfoot tr"⟩⟩]

def invoiceBindings : List Binding :=
  [{ name := "item" }, { name := "sum", place := { sectionName := "totals" } }]

def itemNote : Binding := { name := "item", place := { sectionName := "notes" } }

/-- After the invoice bindings, `itemNote` both repeats a name and lies in an undeclared
section: the repeat is reported. -/
theorem build_reports_first_invalid_invoice :
    (invoiceBindings.map Binding.name).Nodup ∧
      (∀ x ∈ invoiceBindings, invoiceTable.Declares x.place.sectionName) ∧
      ∃ err, build invoiceTable (invoiceBindings ++ [itemNote]) = .error err ∧
        err.kind = "Configuration" ∧
        err.message = "configuration error: field 'item' is bound more than once" := by
  have hnd : (invoiceBindings.map Binding.name).Nodup := by decide
  have hdecl : ∀ x ∈ invoiceBindings, invoiceTable.Declares x.place.sectionName := by
    intro x hx
    simp only [invoiceBindings, List.mem_cons, List.not_mem_nil, or_false] at hx
    rcases hx with rfl | rfl
    · exact Or.inl rfl
    · exact Or.inr ⟨_, List.mem_cons_self, rfl⟩
  refine ⟨hnd, hdecl, ?_⟩
  exact ((build_reports_first_invalid invoiceTable _).2.2 invoiceBindings itemNote [] rfl hnd
    hdecl).1 (by decide)

section Select

variable {s : Schema} {names : List String}

theorem find?_unbound_eq_none {l : List String}
    (h : ∀ n ∈ l, n ∈ s.bindings.map Binding.name) :
    l.find? (fun n => !s.bindings.any (·.name == n)) = none := by
  rw [List.find?_eq_none]
  intro n hn
  obtain ⟨b, hb, rfl⟩ := List.mem_map.1 (h n hn)
  simpa using ⟨b, hb, rfl⟩

theorem select_of_bound (hne : names ≠ [])
    (hbound : ∀ n ∈ names, n ∈ s.bindings.map Binding.name) :
    s.select names = .ok (s.bindings.filter fun b => b.name ∈ names) := by
  unfold select
  rw [if_neg (by simpa using hne), find?_unbound_eq_none hbound]
  simp

theorem select_of_unbound {pre post : List String} {x : String} (hsplit : names = pre ++ x :: post)
    (hpre : ∀ n ∈ pre, n ∈ s.bindings.map Binding.name)
    (hx : x ∉ s.bindings.map Binding.name) :
    s.select names = .error (.unboundField x) := by
  have hx_found : (!s.bindings.any (·.name == x)) = true := by
    simp only [Bool.not_eq_true', List.any_eq_false, beq_iff_eq]
    exact fun b hb hname => hx (hname ▸ List.mem_map_of_mem hb)
  subst hsplit
  unfold select
  rw [if_neg (by simp), List.find?_append, find?_unbound_eq_none hpre, Option.none_or,
    List.find?_cons]
  simp only [hx_found]

theorem select_congr {other : List String} (hne : names ≠ []) (hne' : other ≠ [])
    (hsame : ∀ n, n ∈ names ↔ n ∈ other)
    (hbound : ∀ n ∈ names, n ∈ s.bindings.map Binding.name) :
    s.select names = s.select other := by
  rw [select_of_bound hne hbound, select_of_bound hne' fun n hn => hbound n ((hsame n).2 hn)]
  simp only [hsame]

end Select

end Schema

namespace Engine

variable {β : Type} (e : Engine) {names other : List String}

/-- An operation that first builds the schema and selects the call's bindings depends on the
names only through the bindings selected. -/
theorem schema_select_congr (k : Schema → List Binding → Run β)
    (h : ∀ s, Schema.build e.table e.bindings = .ok s → s.select names = s.select other) :
    (e.schema >>= fun s => ExceptT.mk (pure (s.select names)) >>= k s) =
      (e.schema >>= fun s => ExceptT.mk (pure (s.select other)) >>= k s) := by
  apply ExceptT.ext
  funext ss
  rw [run_bind, run_bind, schema_run]
  cases hs : Schema.build e.table e.bindings with
  | error err => rfl
  | ok s =>
    dsimp only
    rw [run_bind, run_bind, h s hs]

theorem readTableRange_congr
    (h : ∀ s, Schema.build e.table e.bindings = .ok s → s.select names = s.select other)
    (start stop : Nat) : e.readTableRange start stop names = e.readTableRange start stop other := by
  unfold readTableRange
  exact schema_select_congr e _ h

theorem readRow_congr
    (h : ∀ s, Schema.build e.table e.bindings = .ok s → s.select names = s.select other)
    (rs : RowSelector) : e.readRow rs names = e.readRow rs other := by
  unfold readRow
  exact schema_select_congr e _ h

end Engine

namespace Schema

/-- The bindings a call works on. With no names, every binding. With names that are all
bound, the bindings they name, in schema order and each once. Otherwise the call is refused
with a configuration error for the first name, in the call's order, that is not bound. So
every read gives the same answer for two calls that name the same set of bound fields. -/
theorem select_named_fields (e : Engine) {s : Schema} (hs : build e.table e.bindings = .ok s)
    (names : List String) :
    (names = [] → s.select names = .ok s.bindings) ∧
      (names ≠ [] → (∀ n ∈ names, n ∈ s.bindings.map Binding.name) →
        ∃ chosen, s.select names = .ok chosen ∧ chosen.Sublist s.bindings ∧
          (∀ b ∈ s.bindings, b ∈ chosen ↔ b.name ∈ names) ∧
          (chosen.map Binding.name).Nodup) ∧
      (∀ pre x post, names = pre ++ x :: post →
        (∀ n ∈ pre, n ∈ s.bindings.map Binding.name) →
        x ∉ s.bindings.map Binding.name →
        ∃ err, s.select names = .error err ∧ err.kind = "Configuration" ∧
          err.message = "configuration error: field '" ++ x ++ "' is not bound to a table cell") ∧
      ∀ other, names ≠ [] → other ≠ [] → (∀ n, n ∈ names ↔ n ∈ other) →
        (∀ n ∈ names, n ∈ s.bindings.map Binding.name) →
        (∀ start stop, e.readTableRange start stop names = e.readTableRange start stop other) ∧
          e.readTable names = e.readTable other ∧
          ∀ rs, e.readRow rs names = e.readRow rs other := by
  have hnd := (build_ok hs).2.nodup
  refine ⟨fun h => h ▸ rfl, fun hne hbound => ?_, fun pre x post hsplit hpre hx => ?_, ?_⟩
  · refine ⟨_, select_of_bound hne hbound, List.filter_sublist, fun b hb => ?_, ?_⟩
    · simp [hb]
    · exact hnd.sublist (List.filter_sublist.map _)
  · exact ⟨_, select_of_unbound hsplit hpre hx, rfl, rfl⟩
  · intro other hne hne' hsame hbound
    -- the engine's schema is `s`, on which the two calls select the same bindings
    have hsel : ∀ s', build e.table e.bindings = .ok s' →
        s'.select names = s'.select other := by
      intro s' hs'
      rw [hs, Except.ok.injEq] at hs'
      subst hs'
      exact select_congr hne hne' hsame hbound
    exact ⟨Engine.readTableRange_congr e hsel, Engine.readTableRange_congr e hsel _ _,
      Engine.readRow_congr e hsel⟩

end Schema

namespace Engine

/-- Naming `total` twice and `name` once, or `name` then `total`, reads the same. -/
theorem select_named_fields_orders :
    Schema.build ordersEngine.table ordersEngine.bindings =
        .ok ⟨ordersEngine.table, ordersEngine.bindings⟩ ∧
      ["total", "name", "total"] ≠ [] ∧ ["name", "total"] ≠ [] ∧
      (∀ n, n ∈ ["total", "name", "total"] ↔ n ∈ ["name", "total"]) ∧
      (∀ n ∈ ["total", "name", "total"], n ∈ ordersEngine.bindings.map Binding.name) ∧
      ordersEngine.readRow (.index 1) ["total", "name", "total"] =
        ordersEngine.readRow (.index 1) ["name", "total"] := by
  have hsame : ∀ n, n ∈ ["total", "name", "total"] ↔ n ∈ ["name", "total"] := by
    intro n
    simp only [List.mem_cons, List.not_mem_nil, or_false]
    tauto
  have hbound :
      ∀ n ∈ ["total", "name", "total"], n ∈ ordersEngine.bindings.map Binding.name := by
    decide
  exact ⟨rfl, by simp, by simp, hsame, hbound,
    ((Schema.select_named_fields ordersEngine rfl _).2.2.2 _ (by simp) (by simp) hsame
      hbound).2.2 _⟩

end Engine

end TableBind
