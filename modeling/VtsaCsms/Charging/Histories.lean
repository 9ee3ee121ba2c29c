import VtsaCsms.Charging.ReviewGate
import VtsaCsms.Charging.SessionSnapshots

/-!
# What a run keeps

Every run is one of the abstract lifecycle, so whatever a move keeps of a session, its records
and its version, all that comes later keeps.
-/
namespace VtsaCsms.Charging
open Foundation Foundation.Action

/-- A later row of a session that has ended stands as it did, whatever its readings. -/
structure Lasts (q q' : ChargingSession) : Prop where
  identity : q'.identity = q.identity
  terminal : q.state.isTerminal = true → q'.standing = q.standing
  awaiting : q'.state.isAwaiting = true → q'.standing = q.standing
  closing : q.state.isClosing = true → q'.state.isClosing = true

theorem Moves.lasts {p : Permits} {c c' : Core} (moves : Moves p c c') {key : Nat} {q : ChargingSession}
    (stored : c.sessions.get? key = some q) : ∃ q', c'.sessions.get? key = some q' ∧ Lasts q q' := by
  induction moves with
  | refl => exact ⟨q, stored, rfl, fun _ => rfl, fun _ => rfl, fun closing => closing⟩
  | tail _ move ih =>
    obtain ⟨q₁, stored₁, lasts⟩ := ih
    obtain ⟨q₂, stored₂, step⟩ := move.row_step.1 key q₁ stored₁
    refine ⟨q₂, stored₂, step.identity.trans lasts.identity, ?_, ?_, fun closing => step.closing (lasts.closing closing)⟩
    · intro terminal
      have standing := lasts.terminal terminal
      have state : q₁.state = q.state := congrArg SessionStanding.state standing
      exact (step.terminal (by rw [state]; exact terminal)).trans standing
    · intro awaiting
      have standing := step.awaiting awaiting
      have state : q₂.state = q₁.state := congrArg SessionStanding.state standing
      exact standing.trans (lasts.awaiting (by rw [← state]; exact awaiting))

theorem Moves.records_final {p : Permits} {c c' : Core} (moves : Moves p c c') {key : Nat} {q : ChargingSession}
    (stored : c.sessions.get? key = some q) (completed : q.state = .completed) (k : Nat) (row : ChargeDetailRecord)
    (session : row.sessionId = key) : c'.cdrs.get? k = some row ↔ c.cdrs.get? k = some row := by
  induction moves with
  | refl => rfl
  | tail before move ih =>
    obtain ⟨q₁, stored₁, lasts⟩ := Moves.lasts before stored
    have standing := lasts.terminal (by rw [completed]; rfl)
    have state : q₁.state = q.state := congrArg SessionStanding.state standing
    exact (move.records_final stored₁ (state.trans completed) k row session).trans ih

namespace Step

/-- A run makes moves of the lifecycle only, and measures a completed session late only where a step of it does. -/
theorem run_moves (steps : List (Environment × Step)) (s : Store) :
    Moves ⟨¬ Along (fun env s step => ¬ step.Remeasures env s) steps s, True, True⟩ s.core (run steps s).core := by
  induction steps generalizing s with
  | nil => exact .refl
  | cons first rest ih =>
    refine Relation.ReflTransGen.trans (b := (first.2.next first.1 s).core) ?_ ?_
    · refine Moves.mono ?_ ?_ ?_ (moves first.1 first.2 s)
      · exact fun late all => all.1 late
      · exact fun _ => trivial
      · exact fun _ => trivial
    · refine Moves.mono ?_ ?_ ?_ (ih (first.2.next first.1 s))
      · exact fun late all => late all.2
      · exact fun _ => trivial
      · exact fun _ => trivial

/-- After every run a session is completed exactly when it has a finalized record. -/
theorem run_billed (steps : List (Environment × Step)) : Billed (run steps Store.empty).core :=
  run_keeps billed_empty billed_move steps

/-- A reader who finds a session again under the version it knows finds it in the state it knows. -/
theorem same_version_same_state (before later : List (Environment × Step)) :
    Indexed.RowsFollow Succeeds (run before Store.empty).sessions (run (before ++ later) Store.empty).sessions := by
  rw [run_append]
  exact run_advances later _

end Step
end VtsaCsms.Charging
