import VtsaCsms.Foundation.Action

/-!
# Projections

An action on more rows does to some of them what another action does to those rows alone:
same outcome, same rows left. One rule for each way of putting actions together.
-/
namespace VtsaCsms.Foundation.Action
variable {σ τ ε α β : Type} {part : τ → σ}

/-- Seen through `part`, the first action is the second. -/
def Projects (part : τ → σ) (m : Action τ ε α) (m' : Action σ ε α) : Prop :=
  ∀ t, (m t).1 = (m' (part t)).1 ∧ part (m t).2 = (m' (part t)).2

theorem Projects.after {m : Action τ ε α} {m' : Action σ ε α} (projects : Projects part m m') (t : τ) :
    part (after m t) = Action.after m' (part t) :=
  (projects t).2

theorem projects_pure (a : α) : Projects part (pure a : Action τ ε α) (pure a) := fun _ => ⟨rfl, rfl⟩

theorem projects_raise (e : ε) : Projects part (raise e : Action τ ε α) (raise e) := fun _ => ⟨rfl, rfl⟩

theorem projects_throwIf (c : Prop) [Decidable c] (e : ε) :
    Projects part (throwIf c e : Action τ ε Unit) (throwIf c e) := by
  unfold throwIf
  split
  · exact projects_raise e
  · exact projects_pure ()

theorem projects_focus {set : τ → σ → τ} (written : ∀ t s, part (set t s) = s) (m : Action σ ε α) :
    Projects part (focus part set m) m :=
  fun t => ⟨rfl, written t _⟩

theorem Projects.bind {m : Action τ ε α} {m' : Action σ ε α} {f : α → Action τ ε β} {f' : α → Action σ ε β}
    (first : Projects part m m') (rest : ∀ a, Projects part (f a) (f' a)) :
    Projects part (m >>= f) (m' >>= f') := by
  intro t
  obtain ⟨outcome, rows⟩ := first t
  simp only [Bind.bind]
  rcases run : m t with ⟨out, t'⟩
  rcases run' : m' (part t) with ⟨out', s'⟩
  rw [run, run'] at outcome rows
  simp only at outcome rows
  subst outcome rows
  cases out with
  | error => exact ⟨rfl, rfl⟩
  | ok a => exact rest a t'

theorem Projects.unseen {m : Action τ ε Unit} {f : Unit → Action τ ε β} {m' : Action σ ε β}
    (returns : ∀ t, ∃ t', Returns m t () t' ∧ part t' = part t) (rest : Projects part (f ()) m') :
    Projects part (m >>= f) m' := by
  intro t
  obtain ⟨t', returned, same⟩ := returns t
  unfold Returns at returned
  simp only [Bind.bind, returned]
  rw [← same]
  exact rest t'

theorem Projects.ite {c : Prop} [Decidable c] {m n : Action τ ε α} {m' n' : Action σ ε α}
    (yes : Projects part m m') (no : Projects part n n') :
    Projects part (if c then m else n) (if c then m' else n') := by
  split
  · exact yes
  · exact no

end VtsaCsms.Foundation.Action
