import Mathlib.Data.List.Pairwise
import VtsaCsms.Foundation.Table

/-!
# Rows one after the other

A relation between every row of a table and the rows created after it: what an update of one row has to
keep, what a new row has to meet, and what it says of the last row of a kind.
-/
namespace VtsaCsms.Foundation
namespace Table
variable {κ ρ : Type} {R : ρ → ρ → Prop}

/-- Every row stands in the relation to the rows created after it. -/
def Succession (R : ρ → ρ → Prop) (t : Table κ ρ) : Prop := t.entries.Pairwise fun earlier later => R earlier.2 later.2

theorem succession_empty : Succession R (empty : Table κ ρ) := List.Pairwise.nil

namespace Succession
variable [DecidableEq κ] {t : Table κ ρ} {k k' : κ} {r r' : ρ}

theorem update {f : ρ → ρ} (ordered : Succession R t) (stored : t.get? k = some r)
    (left : ∀ other, R r other → R (f r) other) (right : ∀ other, R other r → R other (f r)) :
    Succession R (t.update k f) := by
  have moved : ∀ e ∈ t.entries, decide (e.1 = k) = true → e.2 = r := by
    intro e member here
    have found := (mem_entries t e.1 e.2).mp member
    rw [of_decide_eq_true here, stored] at found
    exact (Option.some.inj found).symm
  refine List.pairwise_map.mpr (List.Pairwise.imp_of_mem ?_ ordered)
  intro earlier later member member' related
  by_cases first : decide (earlier.1 = k) = true
  · have row := moved earlier member first
    by_cases second : decide (later.1 = k) = true
    · have row' := moved later member' second
      simp only [if_pos first, if_pos second, row, row'] at related ⊢
      exact left _ (right _ related)
    · simp only [if_pos first, if_neg second, row] at related ⊢
      exact left _ related
  · by_cases second : decide (later.1 = k) = true
    · have row' := moved later member' second
      simp only [if_neg first, if_pos second, row'] at related ⊢
      exact right _ related
    · simp only [if_neg first, if_neg second]
      exact related

theorem related (ordered : Succession R t) (different : k ≠ k') (stored : t.get? k = some r)
    (stored' : t.get? k' = some r') : R r r' ∨ R r' r := by
  have either : t.entries.Pairwise fun a b => R a.2 b.2 ∨ R b.2 a.2 := List.Pairwise.imp Or.inl ordered
  have entries_differ : (k, r) ≠ (k', r') := fun same => different (Prod.mk.inj same).1
  have : Std.Symm fun a b : κ × ρ => R a.2 b.2 ∨ R b.2 a.2 := ⟨fun _ _ => Or.symm⟩
  refine List.Pairwise.forall either ?_ ?_ entries_differ
  · exact (mem_entries t k r).mpr stored
  · exact (mem_entries t k' r').mpr stored'

/-- Every other row of a kind stands in the relation to the last one of it. -/
theorem last {p : κ → ρ → Bool} (ordered : Succession R t) (final : t.last? p = some (k, r))
    (stored : t.get? k' = some r') (kind : p k' r' = true) (different : k' ≠ k) : R r' r := by
  have rows : (t.rowsWhere p).Pairwise fun a b => R a.2 b.2 := List.Pairwise.filter _ ordered
  have member : (k', r') ∈ t.rowsWhere p := (mem_rowsWhere t p k' r').mpr ⟨stored, kind⟩
  obtain ⟨before, split⟩ := List.getLast?_eq_some_iff.mp final
  rw [split] at rows member
  rcases List.mem_append.mp member with earlier | last
  · exact (List.pairwise_append.mp rows).2.2 _ earlier _ (List.mem_singleton_self _)
  · exact absurd (Prod.mk.inj (List.mem_singleton.mp last)).1 different

end Succession

theorem Succession.create {t : Table Nat ρ} {row : ρ} (ordered : Succession R t)
    (earlier : ∀ k r, t.get? k = some r → R r row) : Succession R (t.create row) := by
  refine List.pairwise_append.mpr ⟨ordered, List.pairwise_singleton _ _, ?_⟩
  intro e member e' last
  rw [List.mem_singleton.mp last]
  exact earlier e.1 e.2 ((mem_entries t e.1 e.2).mp member)

end Table
end VtsaCsms.Foundation
