import VtsaCsms.Charging.GrantedStarts

/-!
# One start at a time

What a connector is promised to over whole runs of the system: an idempotency key stands for
one command, one start at a time waits on a connector, and the connector is reserved for that
start or for none.
-/
namespace VtsaCsms.Charging
open Foundation Foundation.Action

/-- A remote start was commanded, and its session has neither started nor ended. -/
def AwaitsRemoteStart (s : Store) (key : Nat) (connectorId : String) : Prop :=
  ∃ q, s.sessions.get? key = some q ∧ q.connectorId = connectorId ∧
    q.state ∈ [.requested, .authorizing, .authorized, .starting] ∧ Commanded s key

theorem awaiting_iff (state : ChargingSessionState) :
    state ∈ [.requested, .authorizing, .authorized, .starting] ↔ state.isAwaiting = true := by
  cases state <;> simp [ChargingSessionState.isAwaiting]

/-- Tokens and records are of no concern. -/
def Scope.reservations : Scope where
  at' := 0
  admits := fun _ => True
  abandons := fun _ => True
  records := fun _ => True

theorem within_empty (x : Scope) (records : x.records Store.empty.cdrs) : Within x Store.empty where
  reserved := fun _ _ open' => by cases open'.1
  admitted := fun _ _ admits => by
    obtain ⟨_, stored, -⟩ := admits
    cases stored
  records := records

namespace Step

theorem run_reservations (steps : List (Environment × Step)) :
    Within Scope.reservations (run steps Store.empty) := by
  refine run_invariant (P := Within Scope.reservations) (within_empty _ trivial) ?_ steps
  intro env step s within
  exact next_within env step within (fun _ _ => trivial) (fun _ _ => trivial) fun _ _ => trivial

/-- In every reachable state an idempotency key stands for one command and its session, one
session at most waits for a remote start on a connector, and a reservation that is open is the
connector's only one and held by such a session. -/
theorem connector_promised_once (steps : List (Environment × Step)) :
    (∀ k k' c c', (run steps Store.empty).commands.get? k = some c →
      (run steps Store.empty).commands.get? k' = some c' → c.idempotencyKey = c'.idempotencyKey →
      k = k' ∧ c.sessionId = c'.sessionId) ∧
    (∀ connectorId k k', AwaitsRemoteStart (run steps Store.empty) k connectorId →
      AwaitsRemoteStart (run steps Store.empty) k' connectorId → k = k') ∧
    (∀ k k' r r', Reserves (run steps Store.empty) k r → Reserves (run steps Store.empty) k' r' →
      r.connectorId = r'.connectorId → k = k') ∧
    ∀ k r, Reserves (run steps Store.empty) k r →
      AwaitsRemoteStart (run steps Store.empty) r.sessionId r.connectorId := by
  have sound := Step.sound steps
  have within := run_reservations steps
  generalize run steps Store.empty = s at sound within
  refine ⟨?_, ?_, ?_, ?_⟩
  · intro k k' c c' stored stored' same
    have one : k = k' := s.commands.unique k k' c c' stored stored' (by simp [ChargerCommand.clash, same])
    subst one
    rw [stored] at stored'
    cases stored'
    exact ⟨rfl, rfl⟩
  · rintro connectorId k k' ⟨q, stored, connector, waits, -⟩ ⟨q', stored', connector', waits', -⟩
    exact sound.single k k' q q' stored stored' ((awaiting_iff _).mp waits) ((awaiting_iff _).mp waits')
      (connector.trans connector'.symm)
  · intro k k' r r' open' other same
    refine s.reservations.unique k k' r r' open'.1 other.1 ?_
    simp [ConnectorReservation.clash, open'.2, other.2, same]
  · intro k r open'
    obtain ⟨q, stored, connector, waits, commanded⟩ := within.reserved k r open'
    refine ⟨q, stored, connector, ?_, commanded⟩
    unfold ChargingSession.waits at waits
    simp only [Bool.and_eq_true] at waits
    exact (awaiting_iff _).mpr waits.1

end Step
end VtsaCsms.Charging
