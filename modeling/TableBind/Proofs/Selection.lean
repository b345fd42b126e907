import Mathlib
import TableBind.Table.RowSelector

/-! Picking a row among rows read through their texts. An index `i` picks the row at place
`i` counting from 1, and fails with the range `[1, count]` outside it. Criteria pick the
first row whose text holds every keyword as a piece, case-sensitive, and fail when no row
does; no keywords pick the first row. The row found is the row at the position picked. -/

namespace TableBind

namespace RowSelector

/-- A text holds every keyword as a contiguous piece. -/
def HoldsAll (keywords : List String) (text : String) : Prop :=
  ∀ k ∈ keywords, k.toList <:+: text.toList

theorem fits_iff (ks : List String) (t : String) : fits ks t = true ↔ HoldsAll ks t := by
  simp [fits, HoldsAll, Text.contains, Text.occursIn_iff]

theorem firstFit_eq_findIdx? (ks texts : List String) :
    firstFit ks texts = texts.findIdx? (fits ks) := by
  induction texts with
  | nil => rfl
  | cons t ts ih => simp [firstFit, List.findIdx?_cons, ih]

section Position

variable {texts : List String}

theorem index_position_eq_ok_iff {i p : Nat} :
    (index i).position texts = .ok p ↔ 1 ≤ i ∧ i ≤ texts.length ∧ p = i - 1 := by
  simp only [position]
  by_cases hi : 1 ≤ i ∧ i ≤ texts.length
  · rw [if_pos hi]
    simp only [Except.ok.injEq]
    omega
  · rw [if_neg hi]
    simp only [reduceCtorEq, false_iff]
    omega

theorem index_position_eq_error_iff {i : Nat} {err : TableError} :
    (index i).position texts = .error err ↔
      (i < 1 ∨ texts.length < i) ∧ err = .rowIndexOutOfRange i texts.length := by
  simp only [position]
  by_cases hi : 1 ≤ i ∧ i ≤ texts.length
  · rw [if_pos hi]
    simp only [reduceCtorEq, false_iff]
    omega
  · rw [if_neg hi]
    simp only [Except.error.injEq]
    constructor
    · rintro rfl
      exact ⟨by omega, rfl⟩
    · rintro ⟨-, rfl⟩
      rfl

/-- Criteria pick the first text holding every keyword. -/
theorem criteria_position_eq_ok_iff {ks : List String} {p : Nat} :
    (criteria ks).position texts = .ok p ↔
      ∃ h : p < texts.length, HoldsAll ks texts[p] ∧ ∀ q (hq : q < p), ¬HoldsAll ks texts[q] := by
  have hfirst : (criteria ks).position texts = .ok p ↔ firstFit ks texts = some p := by
    simp only [position]
    cases firstFit ks texts <;> simp
  rw [hfirst, firstFit_eq_findIdx?, List.findIdx?_eq_some_iff_getElem]
  simp only [fits_iff]

theorem criteria_position_eq_error_iff {ks : List String} {err : TableError} :
    (criteria ks).position texts = .error err ↔
      (∀ t ∈ texts, ¬HoldsAll ks t) ∧ err = .noMatchingRow ks := by
  have hnone : firstFit ks texts = none ↔ ∀ t ∈ texts, ¬HoldsAll ks t := by
    rw [firstFit_eq_findIdx?, List.findIdx?_eq_none_iff]
    simp only [← fits_iff, Bool.not_eq_true]
  simp only [position]
  cases hf : firstFit ks texts with
  | none =>
    simp only [Except.error.injEq]
    exact ⟨fun h => ⟨hnone.1 hf, h.symm⟩, fun h => h.2.symm⟩
  | some p =>
    simp only [reduceCtorEq, false_iff, not_and]
    intro hno
    rw [hnone.2 hno] at hf
    cases hf

theorem criteria_nil_position (h : texts ≠ []) : (criteria []).position texts = .ok 0 := by
  obtain ⟨t, ts, rfl⟩ := List.exists_cons_of_ne_nil h
  rfl

end Position

section Find

variable {α : Type} [Inhabited α] {text : α → String} {rows : List α} {sel : RowSelector}

theorem findRow_eq_ok_iff {row : α} :
    findRow text rows sel = .ok row ↔
      ∃ p, sel.position (rows.map text) = .ok p ∧ rows[p]? = some row := by
  unfold findRow
  cases hp : sel.position (rows.map text) with
  | error err => simp [Except.map]
  | ok p =>
    -- the position picked is a place of the rows, so reading the row there cannot fail
    have hlt : p < rows.length := by
      cases sel with
      | index i =>
        have := index_position_eq_ok_iff.1 hp
        simp only [List.length_map] at this
        omega
      | criteria ks =>
        obtain ⟨h, -⟩ := criteria_position_eq_ok_iff.1 hp
        simpa using h
    simp [Except.map, List.getElem!_eq_getElem?_getD, List.getElem?_eq_getElem hlt]

theorem findRow_eq_error_iff {err : TableError} :
    findRow text rows sel = .error err ↔ sel.position (rows.map text) = .error err := by
  unfold findRow
  cases sel.position (rows.map text) <;> simp [Except.map]

end Find

/-- How a row is picked among rows read through their texts. An index `i` gives position
`i - 1` exactly when `1 ≤ i ≤ count`, and otherwise the index-range error naming the range
`[1, count]`. Criteria give the least position whose text holds every keyword as a piece,
no keywords giving the first row, and otherwise the not-found error listing the keywords. The
row found is the row at the position picked, and fails as the position does. -/
theorem findRow_spec {α : Type} [Inhabited α] (text : α → String) (rows : List α) :
    (∀ i p, (index i).position (rows.map text) = .ok p ↔ 1 ≤ i ∧ i ≤ rows.length ∧ p = i - 1) ∧
    (∀ i err, (index i).position (rows.map text) = .error err ↔
      (i < 1 ∨ rows.length < i) ∧ err = .rowIndexOutOfRange i rows.length) ∧
    (∀ i n, (TableError.rowIndexOutOfRange i n).kind = "IndexRange" ∧
      (TableError.rowIndexOutOfRange i n).message =
        "Row index " ++ toString i ++ " is out of range; valid range is [1, " ++ toString n ++ "]") ∧
    (∀ ks p, (criteria ks).position (rows.map text) = .ok p ↔
      ∃ h : p < rows.length, HoldsAll ks (text rows[p]) ∧
        ∀ q (hq : q < p), ¬HoldsAll ks (text rows[q])) ∧
    (rows ≠ [] → (criteria []).position (rows.map text) = .ok 0) ∧
    (∀ ks err, (criteria ks).position (rows.map text) = .error err ↔
      (∀ r ∈ rows, ¬HoldsAll ks (text r)) ∧ err = .noMatchingRow ks) ∧
    (∀ ks, (TableError.noMatchingRow ks).kind = "NotFound" ∧
      (TableError.noMatchingRow ks).message =
        "No row found containing all criteria: " ++ Text.quoteList ks) ∧
    (∀ sel row, findRow text rows sel = .ok row ↔
      ∃ p, sel.position (rows.map text) = .ok p ∧ rows[p]? = some row) ∧
    (∀ sel err, findRow text rows sel = .error err ↔ sel.position (rows.map text) = .error err) := by
  refine ⟨fun i p => ?_, fun i err => ?_, fun i n => ⟨rfl, rfl⟩, fun ks p => ?_,
    fun h => criteria_nil_position (by simpa using h), fun ks err => ?_, fun ks => ⟨rfl, rfl⟩,
    fun sel row => findRow_eq_ok_iff, fun sel err => findRow_eq_error_iff⟩
  · simpa using @index_position_eq_ok_iff (rows.map text) i p
  · simpa using @index_position_eq_error_iff (rows.map text) i err
  · rw [criteria_position_eq_ok_iff]
    simp
  · rw [criteria_position_eq_error_iff]
    simp

example : (criteria ["alpha", "beta"]).position
    ["alpha only", "beta only", "alpha and beta", "beta alpha"] = .ok 2 := by rfl

end RowSelector

end TableBind
