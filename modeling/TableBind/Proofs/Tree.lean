import Mathlib
import TableBind.Page.Search

/-! Pages as trees. `Element.nodes` lists the nodes of an element by increasing path, which is
pre-order; the nodes below a node are those whose paths extend its path, and every node's text
lies inside the rendered text of each element above it. -/

namespace TableBind

section PathOrder

variable {p q : Path}

/-- Two paths, neither a prefix of the other, part at some index; everything below the smaller
comes before everything below the larger. -/
theorem Path.append_lt_append_of_not_prefix (h : p < q) (hpre : ¬ p <+: q) (a b : Path) :
    p ++ a < q ++ b := by
  induction p generalizing q with
  | nil => exact absurd List.nil_prefix hpre
  | cons i p ih =>
    cases q with
    | nil => exact absurd h (List.not_lt_nil _)
    | cons j q =>
      rcases List.cons_lt_cons_iff.1 h with hij | ⟨rfl, hpq⟩
      · exact List.cons_lt_cons_iff.2 (Or.inl hij)
      · have hpre' : ¬ p <+: q := fun hp => hpre (List.prefix_cons_inj i |>.2 hp)
        exact List.cons_lt_cons_iff.2 (Or.inr ⟨rfl, ih hpq hpre'⟩)

end PathOrder

namespace Element

/-- The node at a path below an element. -/
def nodeAt (e : Element) : Path → Option Element
  | [] => some e
  | i :: p => e.children[i]?.bind (·.nodeAt p)

@[simp] theorem nodeAt_nil (e : Element) : e.nodeAt [] = some e := rfl

theorem nodeAt_cons (e : Element) (i : Nat) (p : Path) :
    e.nodeAt (i :: p) = e.children[i]?.bind (·.nodeAt p) := rfl

theorem nodeAt_append (e : Element) (p q : Path) :
    e.nodeAt (p ++ q) = (e.nodeAt p).bind (·.nodeAt q) := by
  induction p generalizing e with
  | nil => rfl
  | cons i p ih =>
    rw [List.cons_append, nodeAt_cons, nodeAt_cons]
    cases e.children[i]? with
    | none => rfl
    | some c => exact ih c

theorem descendants_eq (e : Element) : e.descendants = childNodes 0 e.children := rfl

theorem childNodes_cons (k : Nat) (c : Element) (cs : List Element) :
    childNodes k (c :: cs) = (c.nodes.map fun n => (k :: n.1, n.2)) ++ childNodes (k + 1) cs := by
  rw [childNodes]

theorem mem_childNodes {k : Nat} {cs : List Element} {q : Path} {x : Element} :
    (q, x) ∈ childNodes k cs ↔ ∃ i c p, cs[i]? = some c ∧ q = (k + i) :: p ∧ (p, x) ∈ c.nodes := by
  induction cs generalizing k with
  | nil => simp [childNodes]
  | cons c cs ih =>
    rw [childNodes_cons, List.mem_append, ih, List.mem_map]
    constructor
    · rintro (⟨⟨p, y⟩, hy, heq⟩ | ⟨i, c', p, hc', rfl, hp⟩)
      · obtain ⟨rfl, rfl⟩ := Prod.mk.inj heq
        exact ⟨0, c, p, rfl, rfl, hy⟩
      · exact ⟨i + 1, c', p, by simpa using hc', by rw [Nat.add_right_comm, Nat.add_assoc], hp⟩
    · rintro ⟨i, c', p, hc', rfl, hp⟩
      cases i with
      | zero =>
        obtain rfl : c = c' := by simpa using hc'
        exact Or.inl ⟨(p, x), hp, rfl⟩
      | succ i =>
        exact Or.inr ⟨i, c', p, by simpa using hc', by rw [Nat.add_right_comm, Nat.add_assoc], hp⟩

/-- The nodes of an element are the nodes at its paths. -/
theorem mem_nodes {e : Element} {p : Path} {x : Element} : (p, x) ∈ e.nodes ↔ e.nodeAt p = some x := by
  induction p generalizing e with
  | nil =>
    rw [nodes_eq, List.mem_cons, descendants_eq, mem_childNodes]
    simp [eq_comm]
  | cons i p ih =>
    rw [nodes_eq, List.mem_cons, descendants_eq, mem_childNodes, nodeAt_cons]
    simp only [Prod.mk.injEq, reduceCtorEq, false_and, false_or, List.cons.injEq, Nat.zero_add,
      Option.bind_eq_some_iff]
    constructor
    · rintro ⟨j, c, p', hc, ⟨rfl, rfl⟩, hp⟩
      exact ⟨c, hc, ih.1 hp⟩
    · rintro ⟨c, hc, hp⟩
      exact ⟨i, c, p, hc, ⟨rfl, rfl⟩, ih.2 hp⟩

theorem mem_descendants {e : Element} {p : Path} {x : Element} :
    (p, x) ∈ e.descendants ↔ p ≠ [] ∧ e.nodeAt p = some x := by
  rw [← mem_nodes, nodes_eq, List.mem_cons]
  constructor
  · intro h
    refine ⟨?_, Or.inr h⟩
    rintro rfl
    obtain ⟨i, c, p, -, hq, -⟩ := mem_childNodes.1 h
    cases hq
  · rintro ⟨hp, h | h⟩
    · exact absurd (Prod.mk.inj h).1 hp
    · exact h

theorem eq_of_mem_descendants {e : Element} {n m : Path × Element} (hn : n ∈ e.descendants)
    (hm : m ∈ e.descendants) (h : n.1 = m.1) : n = m := by
  obtain ⟨p, x⟩ := n
  obtain ⟨q, y⟩ := m
  obtain ⟨-, hx⟩ := mem_descendants.1 hn
  obtain ⟨-, hy⟩ := mem_descendants.1 hm
  dsimp only at h
  subst h
  rw [hx] at hy
  cases hy
  rfl

theorem mem_descendants_of_mem {e : Element} {m : Path × Element} (hm : m ∈ e.descendants)
    (d : Path) (x : Element) :
    (d, x) ∈ m.2.descendants ↔ d ≠ [] ∧ (m.1 ++ d, x) ∈ e.descendants := by
  obtain ⟨hne, hat⟩ := mem_descendants.1 hm
  rw [mem_descendants, mem_descendants, nodeAt_append, hat, Option.bind_some]
  simp [hne]

/-- A node comes before another in pre-order: its path is lexicographically smaller. -/
def Before (a b : Path × Element) : Prop := a.1 < b.1

instance : Std.Irrefl Before := ⟨fun a => lt_irrefl a.1⟩

instance : Std.Antisymm Before := ⟨fun _ _ h h' => absurd h' (lt_asymm h)⟩

mutual
theorem nodes_sorted : (e : Element) → e.nodes.Pairwise Before
  | e@⟨_, _, _, _, _, children, _⟩ => by
    rw [nodes_eq, List.pairwise_cons]
    refine ⟨?_, childNodes_sorted 0 children⟩
    rintro ⟨q, x⟩ hq
    obtain ⟨i, c, p, -, rfl, -⟩ := mem_childNodes.1 hq
    exact List.nil_lt_cons _ _
theorem childNodes_sorted : (k : Nat) → (cs : List Element) → (childNodes k cs).Pairwise Before
  | _, [] => List.Pairwise.nil
  | k, c :: cs => by
    rw [childNodes_cons, List.pairwise_append]
    refine ⟨(nodes_sorted c).map _ fun a b h => List.cons_lt_cons_iff.2 (Or.inr ⟨rfl, h⟩),
      childNodes_sorted (k + 1) cs, ?_⟩
    rintro a ha ⟨q, x⟩ hb
    obtain ⟨n, -, rfl⟩ := List.mem_map.1 ha
    obtain ⟨i, c', p, -, rfl, -⟩ := mem_childNodes.1 hb
    exact List.cons_lt_cons_iff.2 (Or.inl (by omega))
end

theorem descendants_sorted (e : Element) : e.descendants.Pairwise Before := by
  have h := nodes_sorted e
  rw [nodes_eq] at h
  exact (List.pairwise_cons.1 h).2

theorem descendants_paths_nodup (e : Element) : (e.descendants.map Prod.fst).Nodup :=
  ((descendants_sorted e).map Prod.fst fun _ _ h => h).nodup

section RenderedText

theorem infix_intercalate {sep s : String} {l : List String} (h : s ∈ l) :
    s.toList <:+: (sep.intercalate l).toList := by
  induction l with
  | nil => cases h
  | cons a rest ih =>
    cases rest with
    | nil =>
      obtain rfl := List.mem_singleton.1 h
      exact List.infix_refl _
    | cons b rest =>
      rw [String.intercalate_cons_cons, String.toList_append, String.toList_append]
      rcases List.mem_cons.1 h with rfl | h
      · exact ⟨[], sep.toList ++ (sep.intercalate (b :: rest)).toList, by simp⟩
      · exact (ih h).trans (List.suffix_append _ _).isInfix

theorem renderedText_eq (e : Element) :
    e.renderedText = " ".intercalate
      ((if (Text.trim e.text).isEmpty then [] else [Text.trim e.text]) ++ renderedTexts e.children) := by
  cases e
  rw [renderedText]

theorem renderedTexts_cons (c : Element) (cs : List Element) :
    renderedTexts (c :: cs) =
      if c.renderedText.isEmpty then renderedTexts cs else c.renderedText :: renderedTexts cs := by
  rw [renderedTexts]

theorem mem_renderedTexts {c : Element} {cs : List Element} (hc : c ∈ cs)
    (hne : c.renderedText.isEmpty = false) : c.renderedText ∈ renderedTexts cs := by
  induction cs with
  | nil => cases hc
  | cons c' cs ih =>
    rw [renderedTexts_cons]
    rcases List.mem_cons.1 hc with rfl | hc
    · rw [hne, if_neg Bool.false_ne_true]
      exact List.mem_cons_self
    · split
      · exact ih hc
      · exact List.mem_cons_of_mem _ (ih hc)

theorem infix_intercalate_of_nonempty {s : String} {l : List String}
    (h : s.isEmpty = false → s ∈ l) : s.toList <:+: (" ".intercalate l).toList := by
  cases hs : s.isEmpty
  · exact infix_intercalate (h hs)
  · rw [String.isEmpty_iff.1 hs]
    exact List.nil_infix

theorem ownText_infix_renderedText (e : Element) : e.ownText.toList <:+: e.renderedText.toList := by
  rw [renderedText_eq]
  refine infix_intercalate_of_nonempty fun hne => List.mem_append_left _ ?_
  rw [ownText] at hne
  rw [ownText, hne, if_neg Bool.false_ne_true]
  exact List.mem_singleton_self _

theorem renderedText_infix_of_mem_children {e c : Element} (hc : c ∈ e.children) :
    c.renderedText.toList <:+: e.renderedText.toList := by
  rw [renderedText_eq e]
  exact infix_intercalate_of_nonempty fun hne => List.mem_append_right _ (mem_renderedTexts hc hne)

/-- The rendered text of a node lies inside the rendered text of every element above it. -/
theorem renderedText_infix_of_nodeAt {e x : Element} {p : Path} (h : e.nodeAt p = some x) :
    x.renderedText.toList <:+: e.renderedText.toList := by
  induction p generalizing e with
  | nil =>
    cases h
    exact List.infix_refl _
  | cons i p ih =>
    rw [nodeAt_cons] at h
    obtain ⟨c, hc, hx⟩ := Option.bind_eq_some_iff.1 h
    exact (ih hx).trans (renderedText_infix_of_mem_children (List.mem_of_getElem? hc))

theorem renderedText_infix_of_mem_descendants {e x : Element} {p : Path}
    (h : (p, x) ∈ e.descendants) : x.renderedText.toList <:+: e.renderedText.toList :=
  renderedText_infix_of_nodeAt (mem_descendants.1 h).2

end RenderedText

end Element

end TableBind
