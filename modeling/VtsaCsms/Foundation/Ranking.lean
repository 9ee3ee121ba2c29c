import Mathlib.Data.List.Sort
import Mathlib.Order.Lattice

/-!
# The first of a ranking

Lists in the strict order of a key. The first `n` of some elements are the first `n` of all of them exactly if of all
that are left out none has fewer than `n` of them before it.
-/
namespace VtsaCsms.Foundation

variable {α κ : Type} [LinearOrder κ] {key : α → κ}

/-- One after the other by their keys, no two of which are equal. -/
def Ranked (key : α → κ) (xs : List α) : Prop := xs.Pairwise fun a b => key a < key b

theorem ranked_insertionSort {xs : List α} (distinct : (xs.map key).Nodup) :
    Ranked key (xs.insertionSort fun a b => key a ≤ key b) := by
  have sorted := List.pairwise_insertionSort (fun a b => key a ≤ key b) xs
  have unequal : (xs.insertionSort fun a b => key a ≤ key b).Pairwise fun a b => key a ≠ key b := by
    rw [← List.pairwise_map]
    exact ((List.perm_insertionSort _ xs).map key).nodup_iff.mpr distinct
  exact (sorted.and unequal).imp fun both => lt_of_le_of_ne both.1 both.2

theorem Ranked.sublist_of_subset {xs ys : List α} (first : Ranked key xs) (second : Ranked key ys) (among : xs ⊆ ys) :
    xs.Sublist ys := by
  induction ys generalizing xs with
  | nil => rw [List.subset_nil.mp among]
  | cons y ys ih =>
    cases xs with
    | nil => exact List.nil_sublist _
    | cons x xs =>
      obtain ⟨later, first'⟩ := List.pairwise_cons.mp first
      obtain ⟨above, second'⟩ := List.pairwise_cons.mp second
      obtain rfl | inside := List.mem_cons.mp (among List.mem_cons_self)
      · refine (ih first' second' fun z stands => ?_).cons_cons x
        exact (List.mem_cons.mp (among (List.mem_cons_of_mem _ stands))).resolve_left fun same =>
          absurd (later z stands) (same ▸ lt_irrefl _)
      · refine (ih first second' fun z stands => ?_).cons y
        refine (List.mem_cons.mp (among stands)).resolve_left fun same => ?_
        obtain same' | stands := List.mem_cons.mp stands
        · exact absurd (above x inside) (same ▸ same' ▸ lt_irrefl _)
        · exact lt_asymm (above x inside) (same ▸ later z stands)

theorem Ranked.take_eq_iff {xs ys : List α} (part : xs.Sublist ys) (ranked : Ranked key ys) (n : Nat) :
    xs.take n = ys.take n ↔ ∀ y ∈ ys, y ∈ xs ∨ n ≤ (xs.filter fun x => key x < key y).length := by
  induction part generalizing n with
  | slnil => simp
  | @cons xs ys y part ih =>
    obtain ⟨above, ranked'⟩ := List.pairwise_cons.mp ranked
    have after : ∀ x ∈ xs, key y < key x := fun x stands => above x (part.subset stands)
    have missing : y ∉ xs := fun stands => lt_irrefl _ (after y stands)
    have before : xs.filter (fun x => key x < key y) = [] := by
      rw [List.filter_eq_nil_iff]
      exact fun x stands => by simpa using (after x stands).le
    cases n with
    | zero => simp
    | succ n =>
      refine ⟨fun same => ?_, fun told => ?_⟩
      · have stands : y ∈ xs.take (n + 1) := by rw [same]; exact List.mem_cons_self
        exact absurd (List.mem_of_mem_take stands) missing
      · obtain stands | many := told y List.mem_cons_self
        · exact absurd stands missing
        · rw [before] at many
          exact absurd many (Nat.not_succ_le_zero n)
  | @cons_cons xs ys y part ih =>
    obtain ⟨above, ranked'⟩ := List.pairwise_cons.mp ranked
    cases n with
    | zero => simp
    | succ n =>
      rw [List.take_succ_cons, List.take_succ_cons, List.cons_inj_right, ih ranked' n]
      have counted {z : α} (stands : z ∈ ys) :
          ((y :: xs).filter fun x => key x < key z).length = (xs.filter fun x => key x < key z).length + 1 := by
        rw [List.filter_cons_of_pos (by simpa using above z stands), List.length_cons]
      refine ⟨fun told z stands => ?_, fun told z stands => ?_⟩
      · obtain rfl | stands := List.mem_cons.mp stands
        · exact .inl List.mem_cons_self
        · rw [counted stands]
          exact (told z stands).imp (List.mem_cons_of_mem _) Nat.succ_le_succ
      · have more := told z (List.mem_cons_of_mem _ stands)
        rw [counted stands] at more
        refine more.imp (fun among => ?_) Nat.le_of_succ_le_succ
        exact (List.mem_cons.mp among).resolve_left fun same => absurd (above z stands) (same ▸ lt_irrefl _)

end VtsaCsms.Foundation
