import Mathlib
import TableBind.Proofs.Tree

/-! What a search below an element finds. A CSS selector picks the nodes that end a chain of
nodes matching its compounds, each strictly below the one before, and returns each once in
pre-order: every descendant step keeps the nodes it gathers sorted by path. The page's own
search finds the same whenever it does not fail (`Element.locateAllUtf8_eq`). -/

namespace TableBind

namespace Element

variable {r : Element}

/-- Node `b` lies strictly below node `a`: its path strictly extends `a`'s. -/
def Below (a b : Path × Element) : Prop := a.1 <+: b.1 ∧ a.1 ≠ b.1

def Matches (r : Element) (c : Compound) (n : Path × Element) : Prop :=
  n ∈ r.descendants ∧ c.selects n.2 = true

/-- A chain of nodes for a list of compounds: each node strictly below `r` and matching its
compound, each strictly below the one before. -/
def CssChain (r : Element) (cs : List Compound) (ns : List (Path × Element)) : Prop :=
  List.Forall₂ (Matches r) cs ns ∧ ns.IsChain Below

/-- The nodes compounds pick below `r`: the last nodes of their chains. -/
def CssPicks (r : Element) (cs : List Compound) (n : Path × Element) : Prop :=
  ∃ ns, CssChain r cs ns ∧ ns.getLast? = some n

def cssSteps (s : String) : List Compound := ((Text.words s).filter (· != ">")).map Compound.parse

/-- The nodes below a node that match a compound, with the node's path put in front. -/
def matchesBelow (c : Compound) (m : Path × Element) : List (Path × Element) :=
  (m.2.descendants.filter fun d => c.selects d.2).map fun d => (m.1 ++ d.1, d.2)

theorem selectCss_eq (s : String) :
    r.selectCss s = match cssSteps s with
      | [] => []
      | first :: rest =>
        rest.foldl (fun cur c => stepBelow c cur) (r.descendants.filter fun d => first.selects d.2) :=
  rfl

theorem stepBelow_eq (c : Compound) (scope : List (Path × Element)) :
    stepBelow c scope = scope.foldl (fun acc m => addNew acc (matchesBelow c m)) [] := rfl

section Chains

variable {cs : List Compound} {c : Compound} {n : Path × Element}

theorem below_iff {m : Path × Element} : Below m n ↔ ∃ d, d ≠ [] ∧ n.1 = m.1 ++ d := by
  constructor
  · rintro ⟨⟨d, hd⟩, hne⟩
    exact ⟨d, by rintro rfl; simp at hd; exact hne hd, hd.symm⟩
  · rintro ⟨d, hd, heq⟩
    refine ⟨⟨d, heq.symm⟩, fun h => hd ?_⟩
    simpa [← h] using heq

theorem not_cssPicks_nil : ¬ CssPicks r [] n := by
  rintro ⟨ns, ⟨hF, -⟩, hlast⟩
  rw [List.forall₂_nil_left_iff.1 hF] at hlast
  cases hlast

theorem mem_of_cssPicks (h : CssPicks r cs n) : n ∈ r.descendants := by
  obtain ⟨ns, ⟨hF, -⟩, hlast⟩ := h
  have hn : n ∈ ns := List.mem_of_getLast? hlast
  clear hlast
  induction hF with
  | nil => cases hn
  | cons hc _ ih =>
    rcases List.mem_cons.1 hn with rfl | hn
    · exact hc.1
    · exact ih hn

theorem cssPicks_singleton : CssPicks r [c] n ↔ n ∈ r.descendants ∧ c.selects n.2 = true := by
  constructor
  · rintro ⟨ns, ⟨hF, -⟩, hlast⟩
    obtain ⟨m, ns', hm, hrest, rfl⟩ := List.forall₂_cons_left_iff.1 hF
    rw [List.forall₂_nil_left_iff.1 hrest] at hlast
    cases hlast
    exact hm
  · intro h
    exact ⟨[n], ⟨List.Forall₂.cons h List.Forall₂.nil, List.isChain_singleton _⟩, rfl⟩

theorem cssPicks_append (hcs : cs ≠ []) :
    CssPicks r (cs ++ [c]) n ↔
      n ∈ r.descendants ∧ c.selects n.2 = true ∧ ∃ m, CssPicks r cs m ∧ Below m n := by
  constructor
  · rintro ⟨ns, ⟨hF, hC⟩, hlast⟩
    have hrev := List.forall₂_reverse_iff.2 hF
    rw [List.reverse_append, List.reverse_singleton, List.singleton_append] at hrev
    obtain ⟨n', ns', hn', hrest, hns⟩ := List.forall₂_cons_left_iff.1 hrev
    have hns' : ns = ns'.reverse ++ [n'] := by
      rw [← List.reverse_reverse ns, hns, List.reverse_cons]
    subst hns'
    rw [List.getLast?_append_of_ne_nil _ (List.cons_ne_nil _ _)] at hlast
    cases hlast
    have hF' : List.Forall₂ (Matches r) cs ns'.reverse := by
      simpa using List.forall₂_reverse_iff.2 hrest
    obtain ⟨m, hm⟩ : ∃ m, ns'.reverse.getLast? = some m := by
      cases h : ns'.reverse.getLast? with
      | some m => exact ⟨m, rfl⟩
      | none =>
        rw [List.getLast?_eq_none_iff] at h
        rw [h] at hF'
        exact absurd (List.forall₂_nil_right_iff.1 hF') hcs
    obtain ⟨hC', -, hlink⟩ := List.isChain_append.1 hC
    exact ⟨hn'.1, hn'.2, m, ⟨ns'.reverse, ⟨hF', hC'⟩, hm⟩, hlink m hm _ rfl⟩
  · rintro ⟨hn, hsel, m, ⟨ns, ⟨hF, hC⟩, hlast⟩, hbelow⟩
    refine ⟨ns ++ [n], ⟨List.rel_append hF (List.Forall₂.cons ⟨hn, hsel⟩ List.Forall₂.nil), ?_⟩, ?_⟩
    · refine List.isChain_append.2 ⟨hC, List.isChain_singleton _, ?_⟩
      intro x hx y hy
      rw [hlast] at hx
      cases hx
      cases hy
      exact hbelow
    · simp

end Chains

section Step

variable {c : Compound}

theorem addNew_eq (acc : List (Path × Element)) {l : List (Path × Element)}
    (hl : (l.map Prod.fst).Nodup) :
    addNew acc l = acc ++ l.filter fun n => !acc.any (·.1 == n.1) := by
  induction l generalizing acc with
  | nil => simp [addNew]
  | cons n rest ih =>
    rw [List.map_cons, List.nodup_cons] at hl
    unfold addNew
    split
    · rename_i hin
      rw [ih acc hl.2, List.filter_cons, hin]
      rfl
    · rename_i hout
      have hout' : acc.any (·.1 == n.1) = false := Bool.eq_false_iff.2 hout
      rw [ih _ hl.2, List.filter_cons, hout', Bool.not_false, if_pos rfl, List.append_assoc,
        List.singleton_append]
      congr 2
      apply List.filter_congr
      intro x hx
      have hne : (n.1 == x.1) = false :=
        beq_eq_false_iff_ne.2 fun h => hl.1 (h ▸ List.mem_map_of_mem hx)
      simp [hne]

theorem mem_matchesBelow {m n : Path × Element} (hm : m ∈ r.descendants) :
    n ∈ matchesBelow c m ↔ n ∈ r.descendants ∧ c.selects n.2 = true ∧ Below m n := by
  obtain ⟨q, x⟩ := n
  simp only [matchesBelow, List.mem_map, List.mem_filter, Prod.mk.injEq, below_iff]
  constructor
  · rintro ⟨⟨d, y⟩, ⟨hd, hsel⟩, rfl, rfl⟩
    obtain ⟨hne, hmem⟩ := (mem_descendants_of_mem hm d y).1 hd
    exact ⟨hmem, hsel, d, hne, rfl⟩
  · rintro ⟨hmem, hsel, d, hne, rfl⟩
    exact ⟨(d, x), ⟨(mem_descendants_of_mem hm d x).2 ⟨hne, hmem⟩, hsel⟩, rfl, rfl⟩

theorem matchesBelow_sorted (m : Path × Element) : (matchesBelow c m).Pairwise Before :=
  ((m.2.descendants_sorted).filter _).map _ fun _ _ h => List.append_left_lt h

/-- One scope more in a descendant step. The scopes so far come before `m`, and the nodes
gathered are sorted and are those below the scopes so far that match `c`; then so are the
nodes gathered once `m`'s are added, for the scopes up to `m`. A node below `m` lies after
every node gathered: below an earlier scope that is above `m` it was gathered already, and
an earlier scope that is not above `m` has all its nodes before `m`'s. -/
theorem addNew_matchesBelow {done : List (Path × Element)} {m : Path × Element}
    {acc : List (Path × Element)} (hscopes : ∀ a ∈ done, Before a m)
    (hin : ∀ a ∈ done ++ [m], a ∈ r.descendants) (hacc : acc.Pairwise Before)
    (hmem : ∀ n, n ∈ acc ↔ n ∈ r.descendants ∧ c.selects n.2 = true ∧ ∃ a ∈ done, Below a n) :
    (addNew acc (matchesBelow c m)).Pairwise Before ∧
      ∀ n, n ∈ addNew acc (matchesBelow c m) ↔
        n ∈ r.descendants ∧ c.selects n.2 = true ∧ ∃ a ∈ done ++ [m], Below a n := by
  have hm : m ∈ r.descendants := hin m (List.mem_append_right _ List.mem_cons_self)
  have hnodup := ((matchesBelow_sorted (c := c) m).map Prod.fst fun _ _ h => h).nodup
  rw [addNew_eq acc hnodup]
  -- a node of `r` whose path some gathered node has is that gathered node
  have hfresh : ∀ n, n ∈ r.descendants → (acc.any (·.1 == n.1) = true ↔ n ∈ acc) := by
    intro n hn
    rw [List.any_eq_true]
    constructor
    · rintro ⟨a, ha, hpath⟩
      have := eq_of_mem_descendants ((hmem a).1 ha).1 hn (beq_iff_eq.1 hpath)
      exact this ▸ ha
    · intro hn'
      exact ⟨n, hn', beq_self_eq_true _⟩
  refine ⟨List.pairwise_append.2 ⟨hacc, (matchesBelow_sorted m).filter _, ?_⟩, ?_⟩
  · intro a ha b hb
    obtain ⟨hbm, hnew⟩ := List.mem_filter.1 hb
    obtain ⟨hbr, hbsel, hbelow⟩ := (mem_matchesBelow hm).1 hbm
    obtain ⟨-, -, a', ha', haa'⟩ := (hmem a).1 ha
    have hbefore : a'.1 < m.1 := hscopes a' ha'
    by_cases hpre : a'.1 <+: m.1
    · -- `b` is below `a'` too, so it was gathered already
      exfalso
      have hbacc : b ∈ acc := by
        refine (hmem b).2 ⟨hbr, hbsel, a', ha', hpre.trans hbelow.1, ?_⟩
        intro heq
        obtain ⟨d, hd, hbd⟩ := below_iff.1 hbelow
        have := congrArg List.length (heq.trans hbd)
        simp only [List.length_append] at this
        have hle := hpre.length_le
        have := List.length_pos_iff.2 hd
        omega
      simp [(hfresh b hbr).2 hbacc] at hnew
    · obtain ⟨u, -, hu⟩ := below_iff.1 haa'
      obtain ⟨v, -, hv⟩ := below_iff.1 hbelow
      show a.1 < b.1
      rw [hu, hv]
      exact Path.append_lt_append_of_not_prefix hbefore hpre u v
  · intro n
    rw [List.mem_append, hmem, List.mem_filter, mem_matchesBelow hm]
    constructor
    · rintro (⟨hn, hsel, a, ha, hbelow⟩ | ⟨⟨hn, hsel, hbelow⟩, -⟩)
      · exact ⟨hn, hsel, a, List.mem_append_left _ ha, hbelow⟩
      · exact ⟨hn, hsel, m, List.mem_append_right _ List.mem_cons_self, hbelow⟩
    · rintro ⟨hn, hsel, a, ha, hbelow⟩
      rcases List.mem_append.1 ha with ha | ha
      · exact Or.inl ⟨hn, hsel, a, ha, hbelow⟩
      · obtain rfl := List.mem_singleton.1 ha
        by_cases hacc' : n ∈ acc
        · exact Or.inl ((hmem n).1 hacc')
        · refine Or.inr ⟨⟨hn, hsel, hbelow⟩, ?_⟩
          have hnot : acc.any (·.1 == n.1) = false :=
            Bool.eq_false_iff.2 fun h => hacc' ((hfresh n hn).1 h)
          rw [hnot]
          rfl

theorem foldl_addNew_spec (rest : List (Path × Element)) {done acc : List (Path × Element)}
    (hscopes : (done ++ rest).Pairwise Before) (hin : ∀ a ∈ done ++ rest, a ∈ r.descendants)
    (hacc : acc.Pairwise Before)
    (hmem : ∀ n, n ∈ acc ↔ n ∈ r.descendants ∧ c.selects n.2 = true ∧ ∃ a ∈ done, Below a n) :
    (rest.foldl (fun acc m => addNew acc (matchesBelow c m)) acc).Pairwise Before ∧
      ∀ n, n ∈ rest.foldl (fun acc m => addNew acc (matchesBelow c m)) acc ↔
        n ∈ r.descendants ∧ c.selects n.2 = true ∧ ∃ a ∈ done ++ rest, Below a n := by
  induction rest generalizing done acc with
  | nil => exact ⟨hacc, fun n => by rw [List.foldl_nil, hmem n, List.append_nil]⟩
  | cons m rest ih =>
    have hbefore : ∀ a ∈ done, Before a m :=
      fun a ha => (List.pairwise_append.1 hscopes).2.2 a ha m List.mem_cons_self
    have hin' : ∀ a ∈ done ++ [m], a ∈ r.descendants := by
      intro a ha
      rcases List.mem_append.1 ha with ha | ha
      · exact hin a (List.mem_append_left _ ha)
      · exact hin a (List.mem_append_right _ (List.mem_singleton.1 ha ▸ List.mem_cons_self))
    obtain ⟨hsorted, hmem'⟩ := addNew_matchesBelow hbefore hin' hacc hmem
    rw [List.foldl_cons]
    have hscopes' : (done ++ [m] ++ rest).Pairwise Before := by
      rwa [List.append_assoc, List.singleton_append]
    have h := ih hscopes' (by rwa [List.append_assoc, List.singleton_append]) hsorted hmem'
    rw [List.append_assoc, List.singleton_append] at h
    exact h

theorem stepBelow_spec {scope : List (Path × Element)} (hsorted : scope.Pairwise Before)
    (hin : ∀ a ∈ scope, a ∈ r.descendants) :
    (stepBelow c scope).Pairwise Before ∧
      ∀ n, n ∈ stepBelow c scope ↔ n ∈ r.descendants ∧ c.selects n.2 = true ∧ ∃ a ∈ scope, Below a n := by
  rw [stepBelow_eq]
  have hscopes : ([] ++ scope).Pairwise Before := by rwa [List.nil_append]
  have h := foldl_addNew_spec (c := c) scope hscopes (by rwa [List.nil_append])
    (List.Pairwise.nil : ([] : List (Path × Element)).Pairwise Before) (fun n => by simp)
  rw [List.nil_append] at h
  exact h

end Step

theorem foldl_stepBelow_spec (rest : List Compound) {pre : List Compound}
    {cur : List (Path × Element)} (hpre : pre ≠ []) (hcur : cur.Pairwise Before)
    (hmem : ∀ n, n ∈ cur ↔ CssPicks r pre n) :
    (rest.foldl (fun cur c => stepBelow c cur) cur).Pairwise Before ∧
      ∀ n, n ∈ rest.foldl (fun cur c => stepBelow c cur) cur ↔ CssPicks r (pre ++ rest) n := by
  induction rest generalizing pre cur with
  | nil => exact ⟨hcur, fun n => by rw [List.foldl_nil, hmem n, List.append_nil]⟩
  | cons c rest ih =>
    obtain ⟨hsorted, hstep⟩ :=
      stepBelow_spec (c := c) hcur fun a ha => mem_of_cssPicks ((hmem a).1 ha)
    have hmem' : ∀ n, n ∈ stepBelow c cur ↔ CssPicks r (pre ++ [c]) n := by
      intro n
      rw [hstep, cssPicks_append hpre]
      simp only [hmem]
    rw [List.foldl_cons]
    have h := ih (List.append_ne_nil_of_left_ne_nil hpre _) hsorted hmem'
    rw [List.append_assoc, List.singleton_append] at h
    exact h

/-- A CSS search gives its picked nodes, sorted by path. -/
theorem selectCss_spec (s : String) :
    (r.selectCss s).Pairwise Before ∧ ∀ n, n ∈ r.selectCss s ↔ CssPicks r (cssSteps s) n := by
  rw [selectCss_eq]
  split
  · rename_i hsteps
    rw [hsteps]
    exact ⟨List.Pairwise.nil, fun n => iff_of_false List.not_mem_nil not_cssPicks_nil⟩
  · rename_i first rest hsteps
    rw [hsteps]
    have hfirst : ∀ n, n ∈ r.descendants.filter (fun d => first.selects d.2) ↔ CssPicks r [first] n := by
      intro n
      rw [List.mem_filter, cssPicks_singleton]
    exact foldl_stepBelow_spec rest (List.cons_ne_nil _ _) ((r.descendants_sorted).filter _) hfirst

theorem mem_descendants_of_mem_locateAll {l : Locator} {n : Path × Element}
    (h : n ∈ r.locateAll l) : n ∈ r.descendants := by
  unfold locateAll at h
  split at h
  · exact mem_of_cssPicks (((selectCss_spec _).2 n).1 h)
  all_goals first | exact List.mem_of_mem_filter h | cases h

/-- A search below `r` finds, in pre-order and each once, what its locator asks for. For a CSS
selector, the nodes that end a chain of nodes matching its compounds, the first strictly below
`r` and each strictly below the one before; for an id, a test id or a text, the nodes below
`r` with that id, that `data-testid` attribute, or a rendered text containing it; for XPath,
nothing. The first node found is the first in that order. -/
theorem locateAll_spec (r : Element) (v : String) :
    ((r.locateAll (Locator.css v)).Sublist r.descendants ∧
      ((r.locateAll (Locator.css v)).map Prod.fst).Nodup ∧
      ∀ n, n ∈ r.locateAll (Locator.css v) ↔ CssPicks r (cssSteps v) n) ∧
    r.locateAll ⟨.id, v⟩ = r.descendants.filter (fun d => d.2.id == some v) ∧
    r.locateAll ⟨.testId, v⟩ =
      r.descendants.filter (fun d => d.2.attrs.lookup "data-testid" == some v) ∧
    r.locateAll ⟨.text, v⟩ = r.descendants.filter (fun d => Text.contains d.2.renderedText v) ∧
    r.locateAll ⟨.xpath, v⟩ = [] ∧
    ∀ l, r.find? l = (r.findAll l).head? := by
  obtain ⟨hsorted, hmem⟩ := selectCss_spec (r := r) v
  have hsub : (r.selectCss v).Sublist r.descendants := by
    refine List.sublist_of_subperm_of_pairwise (List.subperm_of_subset hsorted.nodup ?_) hsorted
      r.descendants_sorted
    intro n hn
    exact mem_of_cssPicks ((hmem n).1 hn)
  refine ⟨⟨hsub, ?_, hmem⟩, rfl, rfl, rfl, rfl, ?_⟩
  · exact r.descendants_paths_nodup.sublist (hsub.map _)
  · intro l
    simp [find?, findAll, locate?, List.head?_map]

end Element

end TableBind
