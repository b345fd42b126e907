import Mathlib
import TableBind.Table.Range

/-! Clamping a row range: the 1-based rows `start..stop` resolve to the 0-based positions of
exactly the rows that are both asked for and present. -/

namespace TableBind

/-- A 1-based position that the rows `start..stop` ask for and a table of `available` rows
has. -/
def Requested (start stop available i : Nat) : Prop :=
  start ≤ i ∧ i ≤ stop ∧ 1 ≤ i ∧ i ≤ available

instance (start stop available i : Nat) : Decidable (Requested start stop available i) :=
  inferInstanceAs (Decidable (_ ∧ _ ∧ _ ∧ _))

section Resolve

variable {start stop available first last : Nat}

theorem resolveRange_eq_none_iff :
    resolveRange start stop available = none ↔ ∀ i, ¬ Requested start stop available i := by
  unfold resolveRange
  split
  · rename_i hempty
    simp only [true_iff]
    rintro i ⟨h₁, h₂, h₃, h₄⟩
    omega
  · rename_i hsome
    simp only [reduceCtorEq, false_iff, not_forall, not_not]
    -- the first row asked for is present
    exact ⟨max start 1, by unfold Requested; omega⟩

theorem resolveRange_ends (h : resolveRange start stop available = some (first, last)) :
    first + 1 = max start 1 ∧ last + 1 = min stop available := by
  unfold resolveRange at h
  split at h
  · cases h
  · rename_i hsome
    obtain ⟨rfl, rfl⟩ := Prod.mk.inj (Option.some.inj h)
    omega

/-- A resolved range holds the 0-based positions of exactly the rows asked for and
present. -/
theorem mem_resolveRange_iff (h : resolveRange start stop available = some (first, last))
    (j : Nat) : first ≤ j ∧ j ≤ last ↔ Requested start stop available (j + 1) := by
  obtain ⟨hfirst, hlast⟩ := resolveRange_ends h
  unfold Requested
  omega

end Resolve

/-- Resolving a range gives an interval exactly when some row is both asked for and present,
and then the interval is those rows' positions less one: it runs from the clamped start less
one to the clamped end less one, and neither clamped bound is zero. -/
theorem resolveRange_exact (start stop available : Nat) :
    ((resolveRange start stop available).isSome ↔ ∃ i, Requested start stop available i) ∧
      ∀ first last, resolveRange start stop available = some (first, last) →
        first + 1 = max start 1 ∧ last + 1 = min stop available ∧
          ∀ j, first ≤ j ∧ j ≤ last ↔ Requested start stop available (j + 1) := by
  refine ⟨?_, fun first last h => ⟨(resolveRange_ends h).1, (resolveRange_ends h).2,
    mem_resolveRange_iff h⟩⟩
  rw [← not_iff_not, Bool.not_eq_true, Option.isSome_eq_false_iff, Option.isNone_iff_eq_none,
    resolveRange_eq_none_iff, not_exists]

example : resolveRange 0 2 5 = some (0, 1) := rfl

end TableBind
