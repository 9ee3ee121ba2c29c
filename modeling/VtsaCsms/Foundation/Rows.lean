import VtsaCsms.Foundation.Action
import VtsaCsms.Foundation.Indexed
import VtsaCsms.Foundation.Php

/-!
# Writing rows

The statements a model object sends to its table: a save of changed columns under the key
it was loaded with, and an insert under a generated key. A unique index may refuse either.
-/
namespace VtsaCsms.Foundation
open Action

namespace Indexed
variable {κ ρ : Type} [DecidableEq κ] {clash : ρ → ρ → Bool}

/-- `$row->forceFill([...])->save()`; a key without a row is an update of no rows. -/
def update (index : String) (key : κ) (f : ρ → ρ) : Action (Indexed κ ρ clash) Throwable Unit := do
  let stored ← read fun t => t.get? key
  match stored with
  | none => pure ()
  | some row =>
    let saved ← read fun t => t.save? key (f row)
    let t' ← orThrow saved (.uniqueConstraint index)
    write fun _ => t'

/-- `query()->create([...])`. -/
def create (index : String) (row : ρ) : Action (Indexed Nat ρ clash) Throwable Nat := do
  let key ← read fun t => t.nextId
  let saved ← read fun t => t.save? t.nextId row
  let t' ← orThrow saved (.uniqueConstraint index)
  write fun _ => t'
  pure key

/-- The rows after a save: one row changed, every other row as it was. -/
def Updated (t t' : Indexed κ ρ clash) (key : κ) (f : ρ → ρ) : Prop :=
  ∀ k, t'.get? k = if k = key then (t.get? key).map f else t.get? k

/-- The rows after an insert. -/
def Created (t t' : Indexed Nat ρ clash) (key : Nat) (row : ρ) : Prop :=
  key = t.nextId ∧ ∀ k, t'.get? k = if k = key then some row else t.get? k

/-- The key now holds `row`; every other key is as it was. -/
def Placed (t t' : Indexed κ ρ clash) (key : κ) (row : ρ) : Prop :=
  ∀ k, t'.get? k = if k = key then some row else t.get? k

namespace Placed
variable {t t₁ t₂ : Indexed κ ρ clash} {key k : κ} {row row' q : ρ} {f : ρ → ρ}

theorem get (placed : Placed t t₁ key row) : t₁.get? key = some row := by
  rw [placed key, if_pos rfl]

theorem other (placed : Placed t t₁ key row) (different : k ≠ key) : t₁.get? k = t.get? k := by
  rw [placed k, if_neg different]

theorem self (stored : t.get? key = some row) : Placed t t key row := by
  intro k
  split
  · rename_i same
    rw [same, stored]
  · rfl

theorem trans (first : Placed t t₁ key row) (second : Placed t₁ t₂ key row') :
    Placed t t₂ key row' := by
  intro k
  rw [second k]
  split
  · rfl
  · rename_i different
    exact first.other different

theorem cases (placed : Placed t t₁ key row) (stored : t₁.get? k = some q) :
    (k = key ∧ q = row) ∨ (k ≠ key ∧ t.get? k = some q) := by
  by_cases same : k = key
  · subst same
    rw [placed.get] at stored
    exact Or.inl ⟨rfl, (Option.some.inj stored).symm⟩
  · rw [placed.other same] at stored
    exact Or.inr ⟨same, stored⟩

theorem unmoved (placed : Placed t t₁ key row) (stored : t₁.get? k = some q) (other : q ≠ row) :
    t.get? k = some q := by
  rcases placed.cases stored with ⟨-, same⟩ | ⟨-, before⟩
  · exact absurd same other
  · exact before

end Placed

theorem Updated.placed {t t' : Indexed κ ρ clash} {key : κ} {f : ρ → ρ} {row : ρ}
    (updated : Updated t t' key f) (stored : t.get? key = some row) : Placed t t' key (f row) := by
  intro k
  rw [updated k, stored]
  rfl

theorem Placed.update {t t₁ t₂ : Indexed κ ρ clash} {key : κ} {row : ρ} {f : ρ → ρ}
    (placed : Placed t t₁ key row) (updated : Updated t₁ t₂ key f) : Placed t t₂ key (f row) :=
  placed.trans (updated.placed placed.get)

theorem Created.placed {t t' : Indexed Nat ρ clash} {key : Nat} {row : ρ}
    (created : Created t t' key row) : Placed t t' key row :=
  created.2

theorem Created.fresh {t t' : Indexed Nat ρ clash} {key : Nat} {row : ρ}
    (created : Created t t' key row) : t.get? key = none := by
  rw [created.1]
  exact get?_nextId t

variable {index : String} {u : Unit}

theorem update_returns {key : κ} {f : ρ → ρ} {t t' : Indexed κ ρ clash}
    (success : Returns (update index key f) t u t') : Updated t t' key f := by
  unfold update at success
  simp only [returns_bind, returns_read] at success
  obtain ⟨stored, _, ⟨lookup, rfl⟩, success⟩ := success
  intro k
  cases stored with
  | none =>
    simp only [returns_pure] at success
    rw [success.2, ← lookup]
    split
    · rename_i same
      rw [same, ← lookup]
      rfl
    · rfl
  | some =>
    simp only [returns_bind, returns_read, returns_orThrow, returns_write] at success
    obtain ⟨saved, _, ⟨rfl, rfl⟩, t₂, _, ⟨accepted, rfl⟩, rfl⟩ := success
    rw [save?_get? accepted, ← lookup]
    rfl

theorem create_returns {row : ρ} {t t' : Indexed Nat ρ clash} {key : Nat}
    (success : Returns (create index row) t key t') : Created t t' key row := by
  unfold create at success
  simp only [returns_bind, returns_read, returns_orThrow, returns_write, returns_pure] at success
  obtain ⟨_, _, ⟨rfl, rfl⟩, _, _, ⟨rfl, rfl⟩, _, _, ⟨accepted, rfl⟩, _, _, rfl, rfl, rfl⟩ := success
  refine ⟨rfl, ?_⟩
  intro k
  exact save?_get? accepted k

theorem update_missing {key : κ} {f : ρ → ρ} {t t' : Indexed κ ρ clash}
    (success : Returns (update index key f) t u t') (absent : t.get? key = none) : t' = t := by
  unfold update at success
  simp only [returns_bind, returns_read] at success
  obtain ⟨_, _, ⟨rfl, rfl⟩, success⟩ := success
  rw [absent] at success
  rw [returns_pure] at success
  exact success.2

theorem update_succeeds (index : String) (key : κ) {f : ρ → ρ} {t : Indexed κ ρ clash}
    (tolerated : ∀ row, t.get? key = some row → t.clashes key (f row) = false) :
    ∃ t', Returns (update index key f) t () t' := by
  unfold update
  simp only [returns_bind, returns_read]
  cases stored : t.get? key with
  | none => exact ⟨t, _, _, ⟨rfl, rfl⟩, by simp⟩
  | some row =>
    cases saved : t.save? key (f row) with
    | none =>
      rw [save?_eq_none, tolerated row stored] at saved
      contradiction
    | some t' =>
      refine ⟨t', _, _, ⟨rfl, rfl⟩, ?_⟩
      simp only [returns_bind, returns_read, returns_orThrow, returns_write]
      exact ⟨_, _, ⟨rfl, rfl⟩, t', _, ⟨saved, rfl⟩, rfl⟩

theorem update_tolerated {key : κ} {f : ρ → ρ} {t t' : Indexed κ ρ clash}
    (success : Returns (update index key f) t u t') :
    ∀ row, t.get? key = some row → t.clashes key (f row) = false := by
  intro row stored
  unfold update at success
  simp only [returns_bind, returns_read] at success
  obtain ⟨_, _, ⟨rfl, rfl⟩, success⟩ := success
  rw [stored] at success
  simp only [returns_bind, returns_read, returns_orThrow, returns_write] at success
  obtain ⟨_, _, ⟨rfl, rfl⟩, _, _, ⟨accepted, -⟩, -⟩ := success
  exact save?_tolerated accepted

theorem create_succeeds (index : String) {row : ρ} {t : Indexed Nat ρ clash}
    (tolerated : t.clashes t.nextId row = false) : ∃ t', Returns (create index row) t t.nextId t' := by
  unfold create
  cases saved : t.save? t.nextId row with
  | none =>
    rw [save?_eq_none, tolerated] at saved
    contradiction
  | some t' =>
    refine ⟨t', ?_⟩
    simp only [returns_bind, returns_read, returns_orThrow, returns_write, returns_pure]
    exact ⟨_, _, ⟨rfl, rfl⟩, _, _, ⟨rfl, rfl⟩, _, _, ⟨saved, rfl⟩, (), _, rfl, rfl, rfl⟩

theorem create_tolerated {row : ρ} {t t' : Indexed Nat ρ clash} {key : Nat}
    (success : Returns (create index row) t key t') : t.clashes t.nextId row = false := by
  unfold create at success
  simp only [returns_bind, returns_read, returns_orThrow, returns_write, returns_pure] at success
  obtain ⟨_, _, ⟨rfl, rfl⟩, _, _, ⟨rfl, rfl⟩, _, _, ⟨accepted, rfl⟩, -⟩ := success
  exact save?_tolerated accepted

end Indexed
end VtsaCsms.Foundation
