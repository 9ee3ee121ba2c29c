import Mathlib.Data.List.Infix
import Mathlib.Data.List.Perm.Basic
import Mathlib.Order.Basic
import Mathlib.Order.Lattice

/-!
# A value kept from time-stamped reports

A register holds a value and the time it is from. A report older than that is ignored, and
one that no allowed edge leads to is lost. When does the register show the latest report,
whatever the order in which the reports are delivered?
-/
namespace VtsaCsms.Foundation.Reports
variable {ρ α τ : Type} [LinearOrder τ]

structure Register (α τ : Type) where
  value : α
  since : Option τ

/-- The report is older than what the register shows. -/
def Stale (at' : ρ → τ) (r : Register α τ) (n : ρ) : Prop := ∃ t, r.since = some t ∧ at' n < t

instance (at' : ρ → τ) (r : Register α τ) (n : ρ) : Decidable (Stale at' r n) :=
  match r with
  | ⟨_, none⟩ => isFalse fun ⟨_, none', _⟩ => by cases none'
  | ⟨_, some t⟩ => decidable_of_iff (at' n < t) ⟨fun older => ⟨t, rfl, older⟩, by rintro ⟨_, ⟨⟩, older⟩; exact older⟩

variable (at' : ρ → τ) (value : ρ → α) (allowed : α → α → Bool)

def report (r : Register α τ) (n : ρ) : Register α τ :=
  if Stale at' r n then r
  else if allowed r.value (value n) = true then ⟨value n, some (at' n)⟩
  else r

/-- The register after the reports. -/
def reported (reports : List ρ) (r : Register α τ) : Register α τ :=
  reports.foldl (report at' value allowed) r

variable {at' value allowed} {r : Register α τ} {m n : ρ} {reports order : List ρ} {v : α}

theorem report_stale (stale : Stale at' r n) : report at' value allowed r n = r := if_pos stale

theorem report_taken (current : ¬ Stale at' r n) (edge : allowed r.value (value n) = true) :
    report at' value allowed r n = ⟨value n, some (at' n)⟩ := by
  unfold report
  rw [if_neg current, if_pos edge]

theorem report_lost (edge : allowed r.value (value n) = false) : report at' value allowed r n = r := by
  unfold report
  split
  · rfl
  · rw [if_neg (by simp [edge])]

theorem reported_append (first second : List ρ) (r : Register α τ) :
    reported at' value allowed (first ++ second) r =
      reported at' value allowed second (reported at' value allowed first r) :=
  List.foldl_append

theorem reported_same (ignored : ∀ n ∈ reports, report at' value allowed r n = r) :
    reported at' value allowed reports r = r := by
  induction reports with
  | nil => rfl
  | cons n _ ih =>
    unfold reported at ih ⊢
    rw [List.foldl_cons, ignored n (List.mem_cons_self ..)]
    exact ih fun o member => ignored o (List.mem_cons_of_mem _ member)

theorem reported_avoids (others : ∀ n ∈ reports, value n ≠ v) (different : r.value ≠ v) :
    (reported at' value allowed reports r).value ≠ v := by
  induction reports generalizing r with
  | nil => exact different
  | cons n _ ih =>
    have head := others n (List.mem_cons_self ..)
    refine ih (fun o member => others o (List.mem_cons_of_mem _ member)) (r := report at' value allowed r n) ?_
    unfold report
    split
    · exact different
    · split
      · exact head
      · exact different

/-- The register shows its start, or a report that was not stale at the start. -/
theorem reported_origin (at' : ρ → τ) (value : ρ → α) (allowed : α → α → Bool) (reports : List ρ)
    (r : Register α τ) :
    reported at' value allowed reports r = r ∨
      ∃ n ∈ reports, ¬ Stale at' r n ∧ reported at' value allowed reports r = ⟨value n, some (at' n)⟩ := by
  induction reports using List.reverseRecOn with
  | nil => exact Or.inl rfl
  | append_singleton before n ih =>
    have last : reported at' value allowed (before ++ [n]) r =
        report at' value allowed (reported at' value allowed before r) n := reported_append _ _ _
    rw [last]
    unfold report
    split
    · exact ih.imp_right fun ⟨o, member, rest⟩ => ⟨o, List.mem_append_left _ member, rest⟩
    · rename_i current
      split
      · refine Or.inr ⟨n, List.mem_append_right _ (List.mem_singleton_self n), ?_, rfl⟩
        rintro ⟨t, since, older⟩
        apply current
        rcases ih with same | ⟨o, member, fresh, taken⟩
        · exact ⟨t, by rw [same]; exact since, older⟩
        · refine ⟨at' o, by rw [taken], ?_⟩
          by_contra late
          exact fresh ⟨t, since, lt_of_le_of_lt (not_lt.mp late) older⟩
      · exact ih.imp_right fun ⟨o, member, rest⟩ => ⟨o, List.mem_append_left _ member, rest⟩

/-! ### Convergence -/

theorem sorted_perm [DecidableEq α] (value : ρ → α) (v : α) (reports : List ρ) :
    (reports.filter (fun n => value n = v) ++ reports.filter (fun n => ¬ value n = v)).Perm reports := by
  have split := List.filter_append_perm (fun n => decide (value n = v)) reports
  simpa using split

variable (at' value) in
/-- Once the value cannot be taken, delivering its reports first loses it for good. -/
theorem lost_in_some_order [DecidableEq α] (reflexive : ∀ v, allowed v v = true)
    (edge : allowed r.value v = false) (reports : List ρ) :
    ∃ order, order.Perm reports ∧ (reported at' value allowed order r).value ≠ v := by
  refine ⟨_, sorted_perm value v reports, ?_⟩
  rw [reported_append, reported_same (r := r)]
  · refine reported_avoids (fun n member => by simpa using (List.mem_filter.mp member).2) ?_
    intro same
    rw [same, reflexive] at edge
    cases edge
  · intro n member
    have has : value n = v := by simpa using (List.mem_filter.mp member).2
    exact report_lost (by rw [has]; exact edge)

variable (value) in
/-- The register shows the latest report after every order of delivery, exactly when nothing
that may be shown before blocks it. `blocking` says that a value with a missing edge can be
taken from everywhere. -/
theorem converges_iff [DecidableEq α] (reflexive : ∀ v, allowed v v = true)
    (blocking : ∀ u v, allowed u v = false → ∀ w, allowed w u = true)
    (distinct : (reports.map at').Nodup) (member : m ∈ reports) (latest : ∀ n ∈ reports, at' n ≤ at' m) :
    (∀ order, order.Perm reports → (reported at' value allowed order r).value = value m) ↔
      (Stale at' r m → r.value = value m) ∧
      (¬ Stale at' r m → allowed r.value (value m) = true ∧
        ∀ n ∈ reports, ¬ Stale at' r n → allowed (value n) (value m) = true) := by
  constructor
  · intro all
    constructor
    · rintro ⟨t, since, older⟩
      have kept : reported at' value allowed reports r = r := reported_same fun n among =>
        report_stale ⟨t, since, lt_of_le_of_lt (latest n among) older⟩
      rw [← kept]
      exact all reports (List.Perm.refl _)
    · intro _
      constructor
      · by_contra edge
        obtain ⟨order, permuted, lost⟩ := lost_in_some_order at' value reflexive
          (Bool.eq_false_iff.mpr edge) reports
        exact lost (all order permuted)
      · intro n among fresh
        by_contra edge
        have edge := Bool.eq_false_iff.mpr edge
        -- the blocking report is taken first
        have taken := report_taken fresh (blocking _ _ edge r.value)
        obtain ⟨front, back, split⟩ := List.append_of_mem among
        obtain ⟨order, permuted, lost⟩ := lost_in_some_order at' value
          (r := ⟨value n, some (at' n)⟩) reflexive edge (front ++ back)
        have delivered : (n :: order).Perm reports := by
          rw [split]
          exact (permuted.cons n).trans List.perm_middle.symm
        refine lost ?_
        have run := all _ delivered
        unfold reported at run
        rw [List.foldl_cons, taken] at run
        exact run
  · rintro ⟨old, open'⟩ order permuted
    by_cases stale : Stale at' r m
    · obtain ⟨t, since, older⟩ := stale
      rw [reported_same fun n among =>
        report_stale ⟨t, since, lt_of_le_of_lt (latest n (permuted.mem_iff.mp among)) older⟩]
      exact old ⟨t, since, older⟩
    · obtain ⟨first, edges⟩ := open' stale
      obtain ⟨before, later, split⟩ := List.append_of_mem (permuted.mem_iff.mpr member)
      have nodup : (order.map at').Nodup := (permuted.map at').nodup_iff.mpr distinct
      rw [split, List.map_append, List.map_cons] at nodup
      have earlier : ∀ n ∈ before ++ later, at' n < at' m := by
        intro n among
        have known : n ∈ reports := permuted.mem_iff.mp (by
          rw [split]
          rcases List.mem_append.mp among with front | back
          · exact List.mem_append_left _ front
          · exact List.mem_append_right _ (List.mem_cons_of_mem _ back))
        refine lt_of_le_of_ne (latest n known) ?_
        intro same
        obtain ⟨-, tail, apart⟩ := List.nodup_append.mp nodup
        rcases List.mem_append.mp among with front | back
        · exact apart (at' n) (List.mem_map_of_mem front) (at' m) (List.mem_cons_self ..) same
        · exact (List.nodup_cons.mp tail).1 (same ▸ List.mem_map_of_mem back)
      have current : ¬ Stale at' (reported at' value allowed before r) m ∧
          allowed (reported at' value allowed before r).value (value m) = true := by
        rcases reported_origin at' value allowed before r with same | ⟨n, front, fresh, shown⟩
        · rw [same]
          exact ⟨stale, first⟩
        · rw [shown]
          refine ⟨?_, edges n ?_ fresh⟩
          · rintro ⟨t, since, older⟩
            cases since
            exact absurd (earlier n (List.mem_append_left _ front)) (not_lt.mpr (le_of_lt older))
          · refine permuted.mem_iff.mp ?_
            rw [split]
            exact List.mem_append_left _ front
      rw [split, reported_append]
      have taken := report_taken current.1 current.2
      have rest : reported at' value allowed (m :: later) (reported at' value allowed before r) =
          ⟨value m, some (at' m)⟩ := by
        have ignored : reported at' value allowed later ⟨value m, some (at' m)⟩ = ⟨value m, some (at' m)⟩ :=
          reported_same fun n back => report_stale ⟨at' m, rfl, earlier n (List.mem_append_right _ back)⟩
        unfold reported at ignored taken ⊢
        rw [List.foldl_cons, taken]
        exact ignored
      rw [rest]

end VtsaCsms.Foundation.Reports
