import Mathlib
import TableBind.Table.Plan

/-! The insertion plan said without its sort: it stops at the first set field with no insertion
route, and otherwise lists the set fields' steps by route order, ties in schema order. Such a
list is unique, so the plan is the stable sort. -/

namespace TableBind

/-- `r` lists the members of `l` by non-decreasing key, those of equal key in their order in
`l`. -/
structure StablySorted {α : Type} (key : α → Int) (l r : List α) : Prop where
  sorted : r.Pairwise fun a b => key a ≤ key b
  ties : ∀ k, r.filter (key · = k) = l.filter (key · = k)

namespace StablySorted

variable {α : Type} {key : α → Int}

theorem eq_of_filter_eq {r r' : List α} (hr : r.Pairwise fun a b => key a ≤ key b)
    (hr' : r'.Pairwise fun a b => key a ≤ key b)
    (h : ∀ k, r.filter (key · = k) = r'.filter (key · = k)) : r = r' := by
  induction r generalizing r' with
  | nil =>
    cases r' with
    | nil => rfl
    | cons a' t' => simpa using h (key a')
  | cons a t ih =>
    cases r' with
    | nil => simpa using h (key a)
    | cons a' t' =>
      rw [List.pairwise_cons] at hr hr'
      -- each head is a member of the other list, so the keys bound each other
      have mem_of : ∀ {x : α} {u v : List α}, (∀ k, u.filter (key · = k) = v.filter (key · = k)) →
          x ∈ v → x ∈ u := by
        intro x u v huv hx
        have : x ∈ v.filter (key · = key x) := List.mem_filter.2 ⟨hx, by simp⟩
        rw [← huv] at this
        exact (List.mem_filter.1 this).1
      have hle : key a ≤ key a' := by
        rcases List.mem_cons.1 (mem_of h List.mem_cons_self) with rfl | ht
        · exact le_rfl
        · exact hr.1 _ ht
      have hge : key a' ≤ key a := by
        rcases List.mem_cons.1 (mem_of (fun k => (h k).symm) List.mem_cons_self) with rfl | ht
        · exact le_rfl
        · exact hr'.1 _ ht
      have hk : key a' = key a := le_antisymm hge hle
      -- the members of key `key a` start with both heads
      have hheads := h (key a)
      simp only [List.filter_cons, hk, decide_true, if_true, List.cons.injEq] at hheads
      obtain ⟨rfl, -⟩ := hheads
      have htail : ∀ k, t.filter (key · = k) = t'.filter (key · = k) := by
        intro k
        by_cases hak : key a = k <;> simpa [List.filter_cons, hak] using h k
      rw [ih hr.2 hr'.2 htail]

/-- A stable sort of a list is determined by the list. -/
theorem unique {l r r' : List α} (h : StablySorted key l r) (h' : StablySorted key l r') :
    r = r' :=
  eq_of_filter_eq h.sorted h'.sorted fun k => (h.ties k).trans (h'.ties k).symm

theorem perm {l r : List α} (h : StablySorted key l r) : r.Perm l := by
  classical
  refine List.perm_iff_count.2 fun x => ?_
  have hx := congrArg (List.count x) (h.ties (key x))
  simpa [List.count_filter] using hx

end StablySorted

/-- Merge sort by a key is a stable sort. -/
theorem stablySorted_mergeSort {α : Type} (key : α → Int) (l : List α) :
    StablySorted key l (l.mergeSort fun a b => key a ≤ key b) := by
  have htrans : ∀ a b c : α, decide (key a ≤ key b) = true → decide (key b ≤ key c) = true →
      decide (key a ≤ key c) = true := by
    intro a b c hab hbc
    simp only [decide_eq_true_eq] at hab hbc ⊢
    exact hab.trans hbc
  have htotal : ∀ a b : α, (decide (key a ≤ key b) || decide (key b ≤ key a)) = true :=
    fun a b => by simpa using le_total (key a) (key b)
  have hsorted : (l.mergeSort fun a b => key a ≤ key b).Pairwise fun a b => decide (key a ≤ key b) :=
    List.pairwise_mergeSort htrans htotal l
  refine ⟨hsorted.imp fun h => by simpa using h, fun k => ?_⟩
  -- the members of key `k` are pairwise in order, so merge sort keeps them as a sublist
  have hties : (l.filter (key · = k)).Pairwise fun a b => decide (key a ≤ key b) := by
    refine List.pairwise_of_forall_mem_list fun a ha b hb => ?_
    simp only [List.mem_filter, decide_eq_true_eq] at ha hb
    simp [ha.2, hb.2]
  have hsub := List.sublist_mergeSort htrans htotal hties (List.filter_sublist (p := (key · = k)))
  have hsub' := hsub.filter (key · = k)
  simp only [List.filter_filter, Bool.and_self] at hsub'
  have hlen := ((List.mergeSort_perm l fun a b => decide (key a ≤ key b)).filter (key · = k)).length_eq
  exact (hsub'.eq_of_length hlen.symm).symm

def Binding.unrouted (data : Row) (b : Binding) : Bool :=
  (b.get data).isSome && b.insertion.isNone

def setSteps (data : Row) (bs : List Binding) : List Step :=
  bs.filterMap fun b => (b.get data).map fun v => ⟨b, v.texts⟩

/-- Collecting steps stops at the first unrouted field; otherwise it gives every set field's
step. -/
theorem planSteps_eq (data : Row) (bs : List Binding) :
    planSteps data bs =
      match bs.find? (Binding.unrouted data) with
      | some b => .error (.noInsertionRoute b.name)
      | none => .ok (setSteps data bs) := by
  induction bs with
  | nil => rfl
  | cons b rest ih =>
    cases hv : b.get data with
    | none =>
      have hb : b.unrouted data = false := by simp [Binding.unrouted, hv]
      simp only [planSteps, hv, List.find?_cons, hb, setSteps, List.filterMap_cons, Option.map_none]
      exact ih
    | some v =>
      cases hr : b.insertion with
      | none =>
        have hb : b.unrouted data = true := by simp [Binding.unrouted, hv, hr]
        simp [planSteps, hv, hr, hb]
      | some route =>
        have hb : b.unrouted data = false := by simp [Binding.unrouted, hv, hr]
        simp only [planSteps, hv, hr, Option.isNone_some, Bool.false_eq_true, if_false, ih,
          List.find?_cons, hb, setSteps, List.filterMap_cons, Option.map_some]
        cases rest.find? (Binding.unrouted data) <;> rfl

/-- The insertion plan fails exactly at the first set field without an insertion route, in
schema order; otherwise it is the stable sort by route order of the set fields' steps. -/
theorem insertionPlan_spec (s : Schema) (data : Row) (r : Except TableError (List Step)) :
    insertionPlan s data = r ↔
      match s.bindings.find? (Binding.unrouted data) with
      | some b => r = .error (.noInsertionRoute b.name)
      | none => ∃ plan, r = .ok plan ∧ StablySorted Step.order (setSteps data s.bindings) plan := by
  rw [insertionPlan, planSteps_eq]
  cases s.bindings.find? (Binding.unrouted data) with
  | some b => exact eq_comm
  | none =>
    have hsort := stablySorted_mergeSort Step.order (setSteps data s.bindings)
    constructor
    · rintro rfl
      exact ⟨_, rfl, hsort⟩
    · rintro ⟨plan, rfl, hplan⟩
      exact congrArg Except.ok (hsort.unique hplan)

end TableBind
