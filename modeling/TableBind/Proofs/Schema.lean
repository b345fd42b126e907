import Mathlib
import TableBind.Table.Read

/-! Schemas as the engine relies on them: a built schema is well formed, a call's bindings are a
sublist of the schema's, grouping by section partitions the bindings, and merging two rows
follows a field law. -/

namespace TableBind

section OrFailure

variable {ε α β : Type}

def orFailure (failure : Option ε) (a : α) : Except ε α :=
  match failure with
  | some e => .error e
  | none => .ok a

@[simp] theorem orFailure_none (a : α) : orFailure (none : Option ε) a = .ok a := rfl

@[simp] theorem orFailure_some (e : ε) (a : α) : orFailure (some e) a = .error e := rfl

theorem orFailure_map (failure : Option ε) (a : α) (f : α → β) :
    (orFailure failure a).map f = orFailure failure (f a) := by
  cases failure <;> rfl

@[simp] theorem except_ok_bind (a : α) (f : α → Except ε β) : (Except.ok a >>= f) = f a := rfl

@[simp] theorem except_error_bind (e : ε) (f : α → Except ε β) :
    (Except.error e >>= f) = .error e := rfl

end OrFailure

namespace Row

theorem ext {r r' : Row} (h : ∀ n, r.get n = r'.get n) : r = r' := by
  cases r; cases r'
  congr
  funext n
  exact h n

@[simp] theorem get_empty (n : String) : empty.get n = none := rfl

@[simp] theorem get_put (r : Row) (name n : String) (v : CellValue) :
    (r.put name v).get n = if n = name then some v else r.get n := rfl

end Row

theorem Shape.flip_ne (s : Shape) : s.flip ≠ s := by
  cases s <;> decide

theorem Place.readValue_shape {p : Place} {row : Element} {v : CellValue}
    (h : p.readValue row = some v) : v.shape = Shape.ofCollection p.collection := by
  unfold Place.readValue at h
  cases hc : p.collection <;> simp only [hc, Bool.false_eq_true, ite_false, ite_true] at h
  · obtain ⟨c, -, rfl⟩ := Option.map_eq_some_iff.1 h
    rfl
  · cases h
    rfl

namespace Binding

/-- The error the field's writer gives for a value; it does not depend on the row. -/
def refusal (b : Binding) (v : CellValue) : Option TableError :=
  match b.set Row.empty v with
  | .ok _ => none
  | .error err => some err

theorem refusal_eq (b : Binding) (v : CellValue) :
    b.refusal v = if v.shape = b.accepts then none else some (.typeMismatch b.name b.accepts v.shape) := by
  unfold refusal set
  by_cases h : v.shape = b.accepts <;> simp [h]

theorem set_of_shape (b : Binding) (r : Row) {v : CellValue} (hv : v.shape = b.shape) :
    b.set r v = orFailure (b.refusal v) (r.put b.name v) := by
  rw [refusal_eq]
  unfold set accepts
  cases hm : b.mismatched
  · simp [hv]
  · have : v.shape ≠ b.shape.flip := hv ▸ (Shape.flip_ne v.shape).symm
    simp [this]

/-- Whether a write of the value through the binding is stored where the binding reads:
the writer takes the value's shape and is not mismatched. -/
def stores (bd : Binding) (v : CellValue) : Bool := !bd.mismatched && v.shape == bd.shape

/-- A write that succeeds changes the row only in the binding's own field, and only when
the binding stores the value. -/
theorem set_ok_get {bd : Binding} {m m' : Row} {v : CellValue} (h : bd.set m v = .ok m')
    (n : String) : m'.get n = if bd.name = n ∧ bd.stores v = true then some v else m.get n := by
  unfold set at h
  split at h
  · rename_i haccept
    cases h
    cases hm : bd.mismatched
    · have hv : v.shape = bd.shape := by simpa [accepts, hm] using haccept
      by_cases hn : bd.name = n
      · subst hn
        simp [stores, hm, hv]
      · simp [hn, Ne.symm hn]
    · simp [stores, hm]
  · cases h

theorem stores_of_set_error {bd : Binding} {m : Row} {v : CellValue} {err : TableError}
    (h : bd.set m v = .error err) : bd.stores v = false := by
  unfold set at h
  split at h
  · cases h
  · rename_i hrefuse
    cases hm : bd.mismatched
    · have hv : v.shape ≠ bd.shape := by simpa [accepts, hm] using hrefuse
      simp [stores, hm, hv]
    · simp [stores, hm]

end Binding

namespace Descriptor

/-- The rows locator of a section; the table's rows stand in for an undeclared one. -/
def sectionLocator (d : Descriptor) (name : String) : Locator := (d.rowsFor name).getD d.rows

def rowsIn (d : Descriptor) (c : Element) (name : String) : List Element :=
  c.findAll (d.sectionLocator name)

theorem sectionLocator_default (d : Descriptor) : d.sectionLocator "" = d.rows := by
  simp [sectionLocator, rowsFor]

theorem sectionLocator_of_rowsFor {d : Descriptor} {name : String} {l : Locator}
    (h : d.rowsFor name = some l) : d.sectionLocator name = l := by
  simp [sectionLocator, h]

end Descriptor

namespace Schema

/-- What building a schema checks: field names are distinct and every binding's section is
declared by the table. -/
structure WellFormed (s : Schema) : Prop where
  nodup : (s.bindings.map Binding.name).Nodup
  declared : ∀ b ∈ s.bindings, (s.table.rowsFor b.place.sectionName).isSome

theorem checkBindings_ok {t : Descriptor} {seen : List String} {bs : List Binding}
    (h : checkBindings t seen bs = .ok ()) :
    (bs.map Binding.name).Nodup ∧ (∀ b ∈ bs, b.name ∉ seen) ∧
      ∀ b ∈ bs, (t.rowsFor b.place.sectionName).isSome := by
  induction bs generalizing seen with
  | nil => simp
  | cons b rest ih =>
    simp only [checkBindings] at h
    split at h
    · cases h
    rename_i hfresh
    split at h
    · cases h
    rename_i hdecl
    obtain ⟨hnd, hseen, hrest⟩ := ih h
    refine ⟨List.nodup_cons.2 ⟨fun hb => ?_, hnd⟩, ?_, ?_⟩
    · obtain ⟨b', hb', heq⟩ := List.mem_map.1 hb
      exact hseen b' hb' (heq ▸ List.mem_cons_self)
    · intro x hx
      rcases List.mem_cons.1 hx with rfl | hx
      · exact hfresh
      · exact fun hs => hseen x hx (List.mem_cons_of_mem _ hs)
    · intro x hx
      rcases List.mem_cons.1 hx with rfl | hx
      · exact Option.ne_none_iff_isSome.1 (by simpa using hdecl)
      · exact hrest x hx

/-- A schema that builds is the descriptor with the bindings unchanged, and well formed. -/
theorem build_ok {t : Descriptor} {bs : List Binding} {s : Schema} (h : build t bs = .ok s) :
    s = ⟨t, bs⟩ ∧ s.WellFormed := by
  unfold build at h
  cases hc : checkBindings t [] bs with
  | error err => simp [hc] at h; cases h
  | ok u =>
    simp only [hc] at h
    cases h
    obtain ⟨hnd, -, hdecl⟩ := checkBindings_ok hc
    exact ⟨rfl, hnd, hdecl⟩

theorem select_sublist {s : Schema} {names : List String} {bs : List Binding}
    (h : s.select names = .ok bs) : bs.Sublist s.bindings := by
  unfold select at h
  split at h
  · cases h
    exact List.Sublist.refl _
  · split at h
    · cases h
    · cases h
      exact List.filter_sublist

end Schema

section FindByName

variable {l l₁ l₂ : List Binding} {n : String} {b : Binding}

theorem find?_name_eq_some_iff (h : (l.map Binding.name).Nodup) :
    l.find? (·.name == n) = some b ↔ b ∈ l ∧ b.name = n := by
  induction l with
  | nil => simp
  | cons x l ih =>
    rw [List.map_cons, List.nodup_cons] at h
    rw [List.find?_cons]
    by_cases hx : x.name = n
    · simp only [hx, beq_self_eq_true, Option.some.injEq, List.mem_cons]
      constructor
      · rintro rfl
        exact ⟨Or.inl rfl, hx⟩
      · rintro ⟨rfl | hb, hbn⟩
        · rfl
        · exact absurd (List.mem_map.2 ⟨b, hb, hbn.trans hx.symm⟩) h.1
    · have hb : (x.name == n) = false := beq_eq_false_iff_ne.2 hx
      simp only [hb, ih h.2, List.mem_cons]
      constructor
      · exact fun hb => ⟨Or.inr hb.1, hb.2⟩
      · rintro ⟨rfl | hb, hbn⟩
        · exact absurd hbn hx
        · exact ⟨hb, hbn⟩

theorem find?_name_perm (hp : l₁.Perm l₂) (h : (l₁.map Binding.name).Nodup) (n : String) :
    l₁.find? (·.name == n) = l₂.find? (·.name == n) := by
  have h₂ : (l₂.map Binding.name).Nodup := ((hp.map _).nodup_iff).1 h
  apply Option.ext
  intro b
  rw [find?_name_eq_some_iff h, find?_name_eq_some_iff h₂, hp.mem_iff]

end FindByName

section FirstSeen

variable {α : Type} [BEq α] [LawfulBEq α]

theorem eraseDups_concat (l : List α) (a : α) :
    (l ++ [a]).eraseDups = if a ∈ l then l.eraseDups else l.eraseDups ++ [a] := by
  rw [List.eraseDups_append]
  by_cases h : a ∈ l
  · simp [h, List.removeAll]
  · simp [h, List.removeAll, List.eraseDups_cons]

theorem nodup_eraseDups (l : List α) : l.eraseDups.Nodup := by
  induction l using List.reverseRecOn with
  | nil => exact List.nodup_nil
  | append_singleton l a ih =>
    rw [eraseDups_concat]
    split
    · exact ih
    · rename_i h
      exact ih.append (List.nodup_singleton a) (by simpa using h)

theorem eraseDups_pairwise_idxOf (l : List α) :
    l.eraseDups.Pairwise fun s t => l.idxOf s < l.idxOf t := by
  induction l using List.reverseRecOn with
  | nil => exact List.Pairwise.nil
  | append_singleton l a ih =>
    -- positions of values already in `l` are unchanged by the new last value
    have hold : ∀ s ∈ l.eraseDups, (l ++ [a]).idxOf s = l.idxOf s := fun s hs =>
      List.idxOf_append_of_mem (List.mem_eraseDups.1 hs)
    have hold' : l.eraseDups.Pairwise fun s t => (l ++ [a]).idxOf s < (l ++ [a]).idxOf t :=
      (ih.imp_of_mem fun hs ht hst => by rwa [hold _ hs, hold _ ht])
    rw [eraseDups_concat]
    split
    · exact hold'
    · rename_i h
      refine List.pairwise_append.2 ⟨hold', List.pairwise_singleton _ _, ?_⟩
      intro s hs t ht
      rw [List.mem_singleton] at ht
      subst ht
      rw [hold _ hs, List.idxOf_append_of_notMem h]
      have := List.idxOf_lt_length_of_mem (List.mem_eraseDups.1 hs)
      omega

end FirstSeen

section Groups

/-- Every group holds bindings of its own section. -/
def GroupsSorted (gs : List (String × List Binding)) : Prop :=
  ∀ g ∈ gs, ∀ b ∈ g.2, b.place.sectionName = g.1

theorem addToGroup_members (b : Binding) (gs : List (String × List Binding)) :
    ((addToGroup b gs).flatMap (·.2)).Perm (gs.flatMap (·.2) ++ [b]) := by
  induction gs with
  | nil => simp [addToGroup]
  | cons g gs ih =>
    unfold addToGroup
    split
    · simp only [List.flatMap_cons, List.append_assoc]
      exact List.Perm.append_left _ List.perm_append_comm
    · simp only [List.flatMap_cons, List.append_assoc]
      exact List.Perm.append_left _ ih

theorem foldl_addToGroup_members (bs : List Binding) (gs : List (String × List Binding)) :
    ((bs.foldl (fun gs b => addToGroup b gs) gs).flatMap (·.2)).Perm (gs.flatMap (·.2) ++ bs) := by
  induction bs generalizing gs with
  | nil => simp
  | cons b bs ih =>
    refine (ih (addToGroup b gs)).trans ?_
    have := (addToGroup_members b gs).append_right bs
    simpa [List.append_assoc] using this

section Partition

variable {f : String → List Binding} {ks : List String} (b : Binding)

theorem addToGroup_map_of_mem (hks : ks.Nodup) (hb : b.place.sectionName ∈ ks) :
    addToGroup b (ks.map fun s => (s, f s)) =
      ks.map fun s => (s, if s = b.place.sectionName then f s ++ [b] else f s) := by
  induction ks with
  | nil => cases hb
  | cons k ks ih =>
    rw [List.nodup_cons] at hks
    rw [List.map_cons, addToGroup]
    by_cases hk : k = b.place.sectionName
    · -- the first group is the binding's; the others keep their members
      subst hk
      have hrest : ∀ s ∈ ks, s ≠ b.place.sectionName := fun s hs hsb => hks.1 (hsb ▸ hs)
      simp only [beq_self_eq_true, if_true, List.map_cons, List.cons.injEq, true_and]
      exact List.map_congr_left fun s hs => by rw [if_neg (hrest s hs)]
    · have hb' : b.place.sectionName ∈ ks := (List.mem_cons.1 hb).resolve_left (Ne.symm hk)
      simp [hk, ih hks.2 hb']

theorem addToGroup_map_of_not_mem (hb : b.place.sectionName ∉ ks) :
    addToGroup b (ks.map fun s => (s, f s)) =
      ks.map (fun s => (s, f s)) ++ [(b.place.sectionName, [b])] := by
  induction ks with
  | nil => rfl
  | cons k ks ih =>
    rw [List.mem_cons, not_or] at hb
    rw [List.map_cons, addToGroup, if_neg (by simpa using Ne.symm hb.1), ih hb.2]
    rfl

end Partition

/-- Grouping by section partitions the bindings by section: one group per section, the
sections in order of first appearance, each group holding its section's bindings in input
order. -/
theorem groupBySection_eq (bs : List Binding) :
    groupBySection bs = (bs.map (·.place.sectionName)).eraseDups.map fun s =>
      (s, bs.filter (·.place.sectionName == s)) := by
  induction bs using List.reverseRecOn with
  | nil => rfl
  | append_singleton bs b ih =>
    have hstep : groupBySection (bs ++ [b]) = addToGroup b (groupBySection bs) := by
      rw [groupBySection, List.foldl_append]
      rfl
    -- the new binding's group gets it at the end; the other groups are unchanged
    have hfilter : ∀ s, (bs ++ [b]).filter (·.place.sectionName == s) =
        if s = b.place.sectionName then bs.filter (·.place.sectionName == s) ++ [b]
        else bs.filter (·.place.sectionName == s) := by
      intro s
      rw [List.filter_append, List.filter_singleton]
      by_cases hs : s = b.place.sectionName
      · subst hs
        simp
      · have hbs : (b.place.sectionName == s) = false := by simpa using Ne.symm hs
        simp [hs, hbs]
    rw [hstep, ih, List.map_append, List.map_singleton, eraseDups_concat]
    simp only [hfilter]
    split
    · rename_i hmem
      exact addToGroup_map_of_mem b (nodup_eraseDups _) (List.mem_eraseDups.2 hmem)
    · rename_i hmem
      have hnone : bs.filter (·.place.sectionName == b.place.sectionName) = [] := by
        simpa using fun x hx => fun h => hmem (List.mem_map.2 ⟨x, hx, h⟩)
      rw [addToGroup_map_of_not_mem b (mt List.mem_eraseDups.1 hmem), List.map_append,
        List.map_singleton, if_pos rfl, hnone]
      congr 1
      exact List.map_congr_left fun s hs => by
        rw [if_neg fun (h : s = b.place.sectionName) => hmem (List.mem_eraseDups.1 (h ▸ hs))]

theorem groupBySection_mem {bs : List Binding} {g : String × List Binding}
    (hg : g ∈ groupBySection bs) :
    g.1 ∈ bs.map (·.place.sectionName) ∧ g.2 = bs.filter (·.place.sectionName == g.1) := by
  rw [groupBySection_eq] at hg
  obtain ⟨s, hs, rfl⟩ := List.mem_map.1 hg
  exact ⟨List.mem_eraseDups.1 hs, rfl⟩

theorem groupBySection_sorted (bs : List Binding) : GroupsSorted (groupBySection bs) := by
  intro g hg b hb
  rw [(groupBySection_mem hg).2, List.mem_filter] at hb
  simpa using hb.2

theorem groupBySection_members (bs : List Binding) :
    ((groupBySection bs).flatMap (·.2)).Perm bs := by
  simpa [groupBySection] using foldl_addToGroup_members bs []

theorem groupBySection_section {bs : List Binding} {g : String × List Binding}
    (hg : g ∈ groupBySection bs) : ∃ b ∈ bs, b.place.sectionName = g.1 :=
  List.mem_map.1 (groupBySection_mem hg).1

/-- Grouping by section gives one group per section of the bindings, the sections distinct and
in order of their first bindings, each group holding exactly its section's bindings in input
order; together the groups hold every binding once. -/
theorem groupBySection_partition (bs : List Binding) :
    ((groupBySection bs).map Prod.fst).Nodup ∧
      (∀ s, s ∈ (groupBySection bs).map Prod.fst ↔ ∃ b ∈ bs, b.place.sectionName = s) ∧
      ((groupBySection bs).map Prod.fst).Pairwise (fun s t =>
        (bs.map (·.place.sectionName)).idxOf s < (bs.map (·.place.sectionName)).idxOf t) ∧
      (∀ g ∈ groupBySection bs, g.2 = bs.filter (·.place.sectionName == g.1)) ∧
      ((groupBySection bs).flatMap (·.2)).Perm bs := by
  have hkeys : (groupBySection bs).map Prod.fst = (bs.map (·.place.sectionName)).eraseDups := by
    rw [groupBySection_eq, List.map_map]
    exact List.map_id' _
  refine ⟨hkeys ▸ nodup_eraseDups _, fun s => ?_, hkeys ▸ eraseDups_pairwise_idxOf _, ?_,
    groupBySection_members bs⟩
  · rw [hkeys, List.mem_eraseDups, List.mem_map]
  · exact fun g hg => (groupBySection_mem hg).2

end Groups

/-- Whether some binding of the list with the name stores the value. -/
def storesAt (bds : List Binding) (n : String) (v : CellValue) : Bool :=
  bds.any fun bd => bd.name == n && bd.stores v

theorem storesAt_cons (bd : Binding) (bds : List Binding) (n : String) (v : CellValue) :
    storesAt (bd :: bds) n v = ((bd.name == n && bd.stores v) || storesAt bds n v) := by
  simp [storesAt]

theorem or_filter_or_filter {α : Type} (p q : α → Bool) (x y : Option α) :
    (x.or (y.filter p)).or (y.filter q) = x.or (y.filter fun v => p v || q v) := by
  rw [Option.or_assoc]
  congr 1
  cases y with
  | none => simp
  | some v =>
    simp only [Option.filter_some]
    cases p v <;> simp

namespace Schema

section Merge

variable (s : Schema) (b : Row)

/-- The second row is set only on bound names, with values their bindings write. -/
def Mergeable (b : Row) : Prop :=
  (∀ n v, b.get n = some v → n ∈ s.bindings.map Binding.name) ∧
    ∀ bd ∈ s.bindings, ∀ v, b.get bd.name = some v → ∀ m, bd.set m v = .ok (m.put bd.name v)

/-- One step of the merge: a binding unset in the row so far takes the second row's value,
when its writer accepts it. -/
def mergeStep (m : Row) (bd : Binding) : Row :=
  match bd.get m, bd.get b with
  | none, some v =>
    match bd.set m v with
    | .ok m' => m'
    | .error _ => m
  | _, _ => m

theorem mergeRows_eq (a : Row) : s.mergeRows a b = s.bindings.foldl (mergeStep b) a := rfl

theorem mergeStep_get_stores (bd : Binding) (m : Row) (n : String) :
    (mergeStep b m bd).get n =
      if bd.name = n then (m.get n).or ((b.get n).filter bd.stores) else m.get n := by
  unfold mergeStep
  simp only [Binding.get]
  split
  · rename_i v hm hv
    split
    · rename_i m' hset
      rw [Binding.set_ok_get hset]
      by_cases hn : bd.name = n
      · subst hn
        cases hs : bd.stores v <;> simp [hm, hv, hs, Option.filter_some]
      · simp [hn]
    · rename_i err hset
      by_cases hn : bd.name = n
      · subst hn
        simp [hm, hv, Binding.stores_of_set_error hset, Option.filter_some]
      · simp [hn]
  · rename_i hnot
    by_cases hn : bd.name = n
    · subst hn
      cases hm : m.get bd.name with
      | some x => simp
      | none =>
        cases hv : b.get bd.name with
        | none => simp
        | some v => exact (hnot v hm hv).elim
    · simp [hn]

theorem foldl_mergeStep_get_storesAt (bds : List Binding) (m : Row) (n : String) :
    (bds.foldl (mergeStep b) m).get n = (m.get n).or ((b.get n).filter (storesAt bds n)) := by
  induction bds generalizing m with
  | nil => cases b.get n <;> simp [storesAt, Option.filter_some]
  | cons bd bds ih =>
    rw [List.foldl_cons, ih, mergeStep_get_stores]
    by_cases hn : bd.name = n
    · have hstores : (fun v => bd.stores v || storesAt bds n v) = storesAt (bd :: bds) n := by
        funext v
        simp [storesAt_cons, hn]
      rw [if_pos hn, or_filter_or_filter, hstores]
    · have hstores : storesAt bds n = storesAt (bd :: bds) n := by
        funext v
        simp [storesAt_cons, hn]
      rw [if_neg hn, hstores]

theorem mergeRows_get_storesAt (a : Row) (n : String) :
    (s.mergeRows a b).get n = (a.get n).or ((b.get n).filter (storesAt s.bindings n)) :=
  foldl_mergeStep_get_storesAt b s.bindings a n

/-- Merging two rows takes each field's value from the first row, or else from the second,
when every value of the second is one its binding writes as it is. -/
theorem mergeRows_get {a : Row} (hb : s.Mergeable b) (n : String) :
    (s.mergeRows a b).get n = (a.get n).or (b.get n) := by
  rw [mergeRows_get_storesAt]
  congr 1
  cases hv : b.get n with
  | none => rfl
  | some v =>
    -- the value sits on a bound name, and writing it through that binding stores it
    obtain ⟨bd, hbd, rfl⟩ := List.mem_map.1 (hb.1 n v hv)
    have hstores : bd.stores v = true := by
      have hget := Binding.set_ok_get (hb.2 bd hbd v hv Row.empty) bd.name
      by_contra hnot
      simp [hnot] at hget
    have hat : storesAt s.bindings bd.name v = true :=
      List.any_eq_true.2 ⟨bd, hbd, by simp [hstores]⟩
    simp [Option.filter_some, hat]

theorem merge_getD_get (acc : Option Row) (hb : s.Mergeable b) (n : String) :
    ((s.merge acc (some b)).getD Row.empty).get n = ((acc.getD Row.empty).get n).or (b.get n) := by
  cases acc with
  | none => simp [merge]
  | some a => simp [merge, mergeRows_get s b hb]

end Merge

end Schema

end TableBind
