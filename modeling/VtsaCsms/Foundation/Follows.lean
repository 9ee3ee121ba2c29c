import Mathlib.Order.Defs.Unbundled
import VtsaCsms.Foundation.Rows

/-!
# Where an action can lead

The rows an action leaves stand in a preorder to those of its entry, whether it returned or
threw: one rule for each way actions are put together. Over a table, no row is lost and each
stands in an order to the one it was.
-/
namespace VtsaCsms.Foundation
variable {σ τ ε α β : Type}

namespace Action

def Follows (R : σ → σ → Prop) (m : Action σ ε α) : Prop := ∀ s, R s (after m s)

section Rules
variable {R : σ → σ → Prop} [IsPreorder σ R]
variable {m : Action σ ε α}

theorem follows_silent (silent : Keeps id m) : Follows R m := by
  intro s
  have same : after m s = s := silent s
  rw [same]
  exact Std.Refl.refl s

theorem follows_pure (a : α) : Follows R (pure a : Action σ ε α) := follows_silent (keeps_pure a)

theorem follows_raise (e : ε) : Follows R (raise e : Action σ ε α) := follows_silent (keeps_raise e)

theorem follows_read (f : σ → α) : Follows R (read f : Action σ ε α) := follows_silent (keeps_read f)

theorem follows_lift (x : Except ε α) : Follows R (lift x : Action σ ε α) := follows_silent (keeps_lift x)

theorem follows_orThrow (o : Option α) (e : ε) : Follows R (orThrow o e : Action σ ε α) :=
  follows_silent (keeps_orThrow o e)

theorem follows_throwIf (c : Prop) [Decidable c] (e : ε) : Follows R (throwIf c e : Action σ ε Unit) :=
  follows_silent (keeps_throwIf c e)

omit [IsPreorder σ R] in
theorem follows_write {f : σ → σ} (leads : ∀ s, R s (f s)) : Follows R (write f : Action σ ε Unit) := leads

theorem Follows.bind {f : α → Action σ ε β} (first : Follows R m)
    (rest : ∀ a, Follows R (f a)) : Follows R (m >>= f) := by
  intro s
  have before := first s
  rcases run : m s with ⟨out, s'⟩
  rw [after, run] at before
  cases out with
  | error =>
    simp only [after, Bind.bind, run]
    exact before
  | ok a =>
    simp only [after, Bind.bind, run]
    exact IsTrans.trans _ _ _ before (rest a s')

theorem Follows.transaction (follows : Follows R m) : Follows R (Action.transaction m) := by
  intro s
  refine after_transaction (P := fun s' => R s s') (Std.Refl.refl s) fun a s' success => ?_
  have left := follows s
  unfold Returns at success
  rwa [after, success] at left

theorem Follows.tryCatch {handler : ε → Action σ ε α} (body : Follows R m)
    (handled : ∀ e, Follows R (handler e)) : Follows R (Action.tryCatch m handler) := by
  intro s
  have before := body s
  rcases run : m s with ⟨out, s'⟩
  rw [after, run] at before
  cases out with
  | ok =>
    simp only [after, Action.tryCatch, run]
    exact before
  | error e =>
    simp only [after, Action.tryCatch, run]
    exact IsTrans.trans _ _ _ before (handled e s')

omit [IsPreorder σ R] in
theorem Follows.ite {c : Prop} [Decidable c] {n : Action σ ε α} (yes : Follows R m) (no : Follows R n) :
    Follows R (if c then m else n) := by
  split
  · exact yes
  · exact no

theorem Follows.doIf {c : Prop} [Decidable c] {m : Action σ ε Unit} (yes : Follows R m) :
    Follows R (Action.doIf c m) :=
  .ite yes (follows_pure ())

end Rules

/-- An action of a component whose part says all that the order is about. -/
theorem Follows.focus {R : σ → σ → Prop} {S : τ → τ → Prop} {get : τ → σ} {set : τ → σ → τ} {m : Action σ ε α}
    (follows : Follows R m) (leads : ∀ t s, R (get t) s → S t (set t s)) : Follows S (Action.focus get set m) :=
  fun t => leads t _ (follows (get t))

theorem follows_elsewhere {S : τ → τ → Prop} {get : τ → σ} {set : τ → σ → τ} (m : Action σ ε α)
    (leads : ∀ t s, S t (set t s)) : Follows S (Action.focus get set m) :=
  fun t => leads t _

end Action

namespace Indexed
open Action
variable {κ ρ : Type} [DecidableEq κ] {clash : ρ → ρ → Bool} {R : ρ → ρ → Prop}

/-- No row is lost, and each stands in the relation to the one it was. -/
def RowsFollow (R : ρ → ρ → Prop) (t t' : Indexed κ ρ clash) : Prop :=
  ∀ k r, t.get? k = some r → ∃ r', t'.get? k = some r' ∧ R r r'

instance [IsPreorder ρ R] : IsPreorder (Indexed κ ρ clash) (RowsFollow R) where
  refl _ _ r stored := ⟨r, stored, Std.Refl.refl r⟩
  trans _ _ _ first second k r stored := by
    obtain ⟨r', stored', before⟩ := first k r stored
    obtain ⟨r'', stored'', later⟩ := second k r' stored'
    exact ⟨r'', stored'', IsTrans.trans _ _ _ before later⟩

theorem Placed.rowsFollow [Std.Refl R] {t t' : Indexed κ ρ clash} {key : κ} {row : ρ} (placed : Placed t t' key row)
    (leads : ∀ r, t.get? key = some r → R r row) : RowsFollow R t t' := by
  intro k r stored
  by_cases same : k = key
  · subst same
    exact ⟨row, placed.get, leads r stored⟩
  · exact ⟨r, (placed.other same).trans stored, Std.Refl.refl r⟩

theorem atomic_update (index : String) (key : κ) (f : ρ → ρ) :
    Atomic (update index key f : Action (Indexed κ ρ clash) Throwable Unit) := by
  refine (keeps_read _).atomic_bind fun stored => ?_
  cases stored with
  | none => exact atomic_pure ()
  | some =>
    refine (keeps_read _).atomic_bind fun saved => ?_
    exact (keeps_orThrow _ _).atomic_bind fun _ => atomic_write _

theorem atomic_create (index : String) (row : ρ) :
    Atomic (create index row : Action (Indexed Nat ρ clash) Throwable Nat) := by
  refine (keeps_read _).atomic_bind fun key => ?_
  refine (keeps_read _).atomic_bind fun saved => ?_
  refine (keeps_orThrow _ _).atomic_bind fun t' => ?_
  intro s e thrown
  cases thrown

theorem update_follows [IsPreorder ρ R] (index : String) (key : κ) {f : ρ → ρ} (leads : ∀ r, R r (f r)) :
    Follows (RowsFollow R) (update index key f : Action (Indexed κ ρ clash) Throwable Unit) := by
  intro t
  refine after_atomic (atomic_update index key f) (P := RowsFollow R t) (Std.Refl.refl t) fun _ t' success => ?_
  intro k r stored
  have updated := update_returns success k
  by_cases same : k = key
  · subst same
    exact ⟨f r, by rw [updated, if_pos rfl, stored]; rfl, leads r⟩
  · exact ⟨r, by rw [updated, if_neg same, stored], Std.Refl.refl r⟩

theorem create_follows [IsPreorder ρ R] (index : String) (row : ρ) :
    Follows (RowsFollow R) (create index row : Action (Indexed Nat ρ clash) Throwable Nat) := by
  intro t
  refine after_atomic (atomic_create index row) (P := RowsFollow R t) (Std.Refl.refl t) fun key t' success => ?_
  have created := create_returns success
  refine created.placed.rowsFollow fun r stored => ?_
  rw [created.fresh] at stored
  cases stored

end Indexed
end VtsaCsms.Foundation
