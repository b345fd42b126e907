import Mathlib
import TableBind.Proofs.Schema

/-! Merging rows, as an operation on optional rows. Each field of a merge is the first row's
value, or else the second row's when a binding of its name stores it; identity, idempotence and,
on rows of the record type, associativity follow from this field law. -/

namespace TableBind

namespace Binding

theorem accepts_eq_shape_iff (bd : Binding) : bd.accepts = bd.shape ↔ bd.mismatched = false := by
  unfold accepts
  cases bd.mismatched
  · simp
  · simpa using Shape.flip_ne bd.shape

theorem stores_of_mismatched {bd : Binding} (h : bd.mismatched = true) (v : CellValue) :
    bd.stores v = false := by
  simp [stores, h]

theorem stores_of_shape {bd : Binding} (h : bd.mismatched = false) {v : CellValue}
    (hv : v.shape = bd.shape) : bd.stores v = true := by
  simp [stores, h, hv]

end Binding

/-- Among bindings of distinct names, the values a name's field keeps are those its binding
stores. -/
theorem storesAt_of_mem {bds : List Binding} (hnd : (bds.map Binding.name).Nodup)
    {bd : Binding} (hbd : bd ∈ bds) : storesAt bds bd.name = bd.stores := by
  funext v
  induction bds with
  | nil => cases hbd
  | cons x bds ih =>
    rw [List.map_cons, List.nodup_cons] at hnd
    rw [storesAt_cons]
    rcases List.mem_cons.1 hbd with rfl | hbd
    · -- no later binding has the name
      have hnone : storesAt bds bd.name v = false := by
        simp only [storesAt, List.any_eq_false, Bool.and_eq_true, beq_iff_eq, not_and]
        exact fun y hy hname _ => hnd.1 (hname ▸ List.mem_map_of_mem hy)
      simp [hnone]
    · have hx : x.name ≠ bd.name := fun h => hnd.1 (h ▸ List.mem_map_of_mem hbd)
      simp [hx, ih hnd.2 hbd]

theorem storesAt_of_not_mem {bds : List Binding} {n : String} (hn : n ∉ bds.map Binding.name) :
    storesAt bds n = fun _ => false := by
  funext v
  simp only [storesAt, List.any_eq_false, Bool.and_eq_true, beq_iff_eq, not_and]
  exact fun bd hbd hname _ => hn (hname ▸ List.mem_map_of_mem hbd)

section OptionFilter

variable {α : Type} (p : α → Bool)

theorem or_filter_self (x : Option α) : x.or (x.filter p) = x := by
  cases x <;> simp

theorem or_filter_assoc (x y z : Option α)
    (h : (∀ v, y = some v → p v = true) ∨ ∀ v, p v = false) :
    (x.or (y.filter p)).or (z.filter p) = x.or ((y.or (z.filter p)).filter p) := by
  rcases h with hy | hnone
  · have hyp : y.filter p = y := by
      cases y with
      | none => rfl
      | some v => simp [hy v rfl]
    rw [hyp, Option.or_assoc]
    congr 1
    cases y with
    | none => simp [Option.filter_filter]
    | some v => rw [Option.some_or, hyp]
  · have hfilter : ∀ o : Option α, o.filter p = none := by
      intro o
      cases o <;> simp [hnone]
    simp [hfilter]

end OptionFilter

namespace Schema

section Merge

variable (s : Schema) (b : Row)

/-- A row of the record type: each bound field holds a value of its binding's shape. -/
def Typed (r : Row) : Prop := ∀ bd ∈ s.bindings, ∀ v, bd.get r = some v → v.shape = bd.shape

theorem Typed.stored {b : Row} (hb : s.Typed b) {n : String} {v : CellValue}
    (hv : b.get n = some v) :
    storesAt s.bindings n v = true ∨ ∀ w, storesAt s.bindings n w = false := by
  by_cases h : ∃ bd ∈ s.bindings, bd.name = n ∧ bd.mismatched = false
  · obtain ⟨bd, hbd, rfl, hm⟩ := h
    left
    simp only [storesAt, List.any_eq_true, Bool.and_eq_true, beq_iff_eq]
    exact ⟨bd, hbd, rfl, Binding.stores_of_shape hm (hb bd hbd v hv)⟩
  · right
    intro w
    simp only [storesAt, List.any_eq_false, Bool.and_eq_true, beq_iff_eq, not_and]
    intro bd hbd hname
    have hm : bd.mismatched = true := by
      by_contra hm
      exact h ⟨bd, hbd, hname, by simpa using hm⟩
    simp [Binding.stores_of_mismatched hm]

@[simp] theorem merge_none_left (x : Option Row) : s.merge none x = x := rfl

@[simp] theorem merge_none_right (x : Option Row) : s.merge x none = x := by
  cases x <;> rfl

theorem merge_self (x : Option Row) : s.merge x x = x := by
  cases x with
  | none => rfl
  | some a =>
    show some (s.mergeRows a a) = some a
    congr 1
    apply Row.ext
    intro n
    rw [mergeRows_get_storesAt, or_filter_self]

theorem mergeRows_assoc (a c : Row) {b : Row} (hb : s.Typed b) :
    s.mergeRows (s.mergeRows a b) c = s.mergeRows a (s.mergeRows b c) := by
  apply Row.ext
  intro n
  simp only [mergeRows_get_storesAt]
  apply or_filter_assoc
  by_cases hstored : ∀ w, storesAt s.bindings n w = false
  · exact Or.inr hstored
  · -- some binding of the name stores a value, so each value set in the middle row is stored
    refine Or.inl fun v hv => ?_
    exact (Typed.stored s hb hv).resolve_right hstored

theorem merge_assoc (x z : Option Row) {y : Option Row} (hy : ∀ b ∈ y, s.Typed b) :
    s.merge (s.merge x y) z = s.merge x (s.merge y z) := by
  cases x with
  | none => simp
  | some a =>
    cases y with
    | none => simp
    | some b =>
      cases z with
      | none => simp
      | some c => exact congrArg some (mergeRows_assoc s a c (hy b rfl))

end Merge

end Schema

/-- Merging rows of a built schema. A missing row is an identity on both sides; a row merged
with itself is itself; merging is associative once the middle row is of the record type.
Of two rows, the merge holds, in a field whose writer takes the field's shape, the first
row's value when set and otherwise the second's (the second of the record type); in a field
whose writer takes the other shape, and in every field the schema does not bind, the first
row's value. -/
theorem merge_first_set_wins {t : Descriptor} {bds : List Binding} {s : Schema}
    (hs : Schema.build t bds = .ok s) :
    (∀ x, s.merge none x = x ∧ s.merge x none = x) ∧
      (∀ x, s.merge x x = x) ∧
      (∀ x y z, (∀ b ∈ y, s.Typed b) →
        s.merge (s.merge x y) z = s.merge x (s.merge y z)) ∧
      ∀ a b, ∃ m, s.merge (some a) (some b) = some m ∧
        (s.Typed b → ∀ bd ∈ s.bindings, bd.accepts = bd.shape →
          m.get bd.name = (a.get bd.name).or (b.get bd.name)) ∧
        (∀ bd ∈ s.bindings, bd.accepts ≠ bd.shape → m.get bd.name = a.get bd.name) ∧
        ∀ n ∉ s.bindings.map Binding.name, m.get n = a.get n := by
  have hnd := (Schema.build_ok hs).2.nodup
  refine ⟨fun x => ⟨s.merge_none_left x, s.merge_none_right x⟩, s.merge_self,
    fun x y z hy => s.merge_assoc x z hy, fun a b => ⟨s.mergeRows a b, rfl, ?_, ?_, ?_⟩⟩
  · intro hb bd hbd hshape
    rw [s.mergeRows_get_storesAt, storesAt_of_mem hnd hbd]
    congr 1
    -- the second row's value has the field's shape, which the binding stores
    cases hv : b.get bd.name with
    | none => rfl
    | some v =>
      have hm := (Binding.accepts_eq_shape_iff bd).1 hshape
      simp [Option.filter_some, Binding.stores_of_shape hm (hb bd hbd v hv)]
  · intro bd hbd hshape
    have hm : bd.mismatched = true := by
      simpa [Binding.accepts_eq_shape_iff] using hshape
    rw [s.mergeRows_get_storesAt, storesAt_of_mem hnd hbd]
    cases b.get bd.name <;> simp [Option.filter_some, Binding.stores_of_mismatched hm]
  · intro n hn
    rw [s.mergeRows_get_storesAt, storesAt_of_not_mem hn]
    cases b.get n <;> simp [Option.filter_some]

/-- A contacts table with a name, a list of phones, and a field whose writer takes lists. -/
def contactsSchema : Schema where
  table :=
    { container := ⟨.id, "contacts"⟩
      rows := ⟨.css, "tr"⟩
      headerRow := ⟨.css, "thead tr"⟩ }
  bindings := [{ name := "name" }, { name := "phones", place := { collection := true } },
    { name := "bad", mismatched := true }]

def contactA : Row := Row.ofList [("name", .single ⟨"y", none⟩)]

def contactB : Row :=
  Row.ofList [("name", .single ⟨"x", none⟩), ("phones", .list [⟨"555", none⟩]),
    ("bad", .single ⟨"z", none⟩)]

theorem merge_first_set_wins_contacts :
    Schema.build contactsSchema.table contactsSchema.bindings = .ok contactsSchema ∧
      contactsSchema.Typed contactB ∧
      ∃ m, contactsSchema.merge (some contactA) (some contactB) = some m ∧
        m.get "name" = some (.single ⟨"y", none⟩) ∧
        m.get "phones" = some (.list [⟨"555", none⟩]) ∧
        m.get "bad" = none := by
  have hs : Schema.build contactsSchema.table contactsSchema.bindings = .ok contactsSchema := rfl
  have htyped : contactsSchema.Typed contactB := by
    intro bd hbd v hv
    simp only [contactsSchema, List.mem_cons, List.not_mem_nil, or_false] at hbd
    rcases hbd with rfl | rfl | rfl <;> simp [contactB, Row.ofList, Row.put, Binding.get] at hv <;>
      subst hv <;> rfl
  obtain ⟨m, hm, hshaped, hother, -⟩ := (merge_first_set_wins hs).2.2.2 contactA contactB
  refine ⟨hs, htyped, m, hm, ?_, ?_, ?_⟩
  · rw [hshaped htyped { name := "name" } (by simp [contactsSchema]) rfl]
    rfl
  · rw [hshaped htyped { name := "phones", place := { collection := true } }
      (by simp [contactsSchema]) rfl]
    rfl
  · rw [hother { name := "bad", mismatched := true } (by simp [contactsSchema]) (by decide)]
    rfl

end TableBind
