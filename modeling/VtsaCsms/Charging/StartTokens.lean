import VtsaCsms.Charging.ConnectorPromises

/-!
# The tokens of a start

What `AuthorizationTokenService::authorize` accepts over whole runs. It asks for the token's
row alone, so a token keeps admitting to a session that some step has ended without it.
-/
namespace VtsaCsms.Charging
open Foundation Foundation.Action

namespace AuthorizationTokenService

theorem authorize_accepts {env : Environment} {token : Nat} {station : String} {s s' : Store}
    {expiresAt : Option Instant} (success : Returns (authorize env token station) s ⟨"Accepted", expiresAt⟩ s') :
    ∃ key q, Admits env.now s token key ∧ s.sessions.get? key = some q ∧ q.chargingStationId = station := by
  unfold authorize at success
  simp only [returns_bind, returns_read] at success
  obtain ⟨found, s, ⟨looked, rfl⟩, success⟩ := success
  cases found with
  | none => simp at success
  | some row =>
    simp only [returns_bind, returns_read, returns_ite, returns_pure] at success
    obtain ⟨belongs, _, ⟨rfl, rfl⟩, ⟨-, other, -⟩ | ⟨here, -⟩⟩ := success
    · simp at other
    · obtain ⟨stored, inForce⟩ := Option.filter_eq_some_iff.mp looked.symm
      simp only [Bool.and_eq_true, decide_eq_true_eq] at inForce
      rw [Bool.not_eq_false, Option.any_eq_true] at here
      obtain ⟨q, bound, station'⟩ := here
      obtain ⟨key, named, stored'⟩ := Option.bind_eq_some_iff.mp bound
      exact ⟨key, q, ⟨row, stored, named, inForce.1.1, inForce.1.2, inForce.2⟩, stored', by simpa using station'⟩

end AuthorizationTokenService

namespace Step

theorem Ends.stored {env : Environment} {s : Store} {key : Nat} {step : Step} (ends : step.Ends env s key) :
    ∃ q, s.sessions.get? key = some q := by
  cases step with
  | event =>
    obtain ⟨_, _, _, s₁, _, taken, -, T, q, _, _, -, held, -⟩ := ends
    obtain ⟨_, _, rfl⟩ := taken.rows
    exact ⟨q, (OcppEventConsumer.holder_some held).1⟩
  | applyTerminal =>
    obtain ⟨_, -, rfl, -, -, -, -, q, stored, -⟩ := ends
    exact ⟨q, stored⟩
  | gatewayAnswer =>
    obtain ⟨_, -, rfl, -, -, -, -, -, q, stored, -⟩ := ends
    exact ⟨q, stored⟩
  | expireCommand =>
    obtain ⟨_, -, rfl, -, -, -, -, -, q, stored, -⟩ := ends
    exact ⟨q, stored⟩
  | cancelSession =>
    obtain ⟨-, q, stored, -⟩ := ends
    exact ⟨q, stored⟩
  | resolveReview =>
    obtain ⟨-, -, -, q, stored, -⟩ := ends
    exact ⟨q, stored⟩
  | _ => exact ends.elim

/-- The step ends a session and leaves a token that still admits to it at that time. -/
def Abandons (at' : Instant) (env : Environment) (s : Store) (step : Step) : Prop :=
  ∃ key token, step.Ends env s key ∧ Admits at' s token key

/-- Every token in force is one of a session that has not ended. -/
def Scope.tokens (at' : Instant) : Scope where
  at' := at'
  admits := fun _ => True
  abandons := fun _ => False
  records := fun _ => True

theorem next_tokens {at' : Instant} {env : Environment} {s : Store} {step : Step}
    (kept : ¬ step.Abandons at' env s) (within : Within (Scope.tokens at') s) :
    Within (Scope.tokens at') (step.next env s) := by
  let x : Scope :=
    { at', admits := fun k => (∃ token, Admits at' s token k) ∨ s.sessions.get? k = none
      abandons := fun k => ¬ ((∃ token, Admits at' s token k) ∨ s.sessions.get? k = none)
      records := fun _ => True }
  have entry : Within x s := by
    refine ⟨within.reserved, ?_, trivial⟩
    intro token key admits
    obtain ⟨-, q, stored, issued, unended⟩ := within.admitted token key admits
    exact ⟨Or.inl ⟨token, admits⟩, q, stored, issued, fun terminal => (unended terminal).elim⟩
  have after' : Within x (step.next env s) := by
    refine next_within env step entry ?_ (fun _ fresh => Or.inr fresh) fun _ _ => trivial
    rintro key ends (⟨token, admits⟩ | absent)
    · exact kept ⟨key, token, ends, admits⟩
    · obtain ⟨q, stored⟩ := ends.stored
      rw [absent] at stored
      contradiction
  refine ⟨after'.reserved, ?_, trivial⟩
  intro token key admits
  obtain ⟨mayAdmit, q, stored, issued, unended⟩ := after'.admitted token key admits
  exact ⟨trivial, q, stored, issued, fun terminal => unended terminal mayAdmit⟩

/-- Where no step of the run ends a session whose token still admits to it, a token is accepted
for a session at the station that has not ended. -/
theorem token_dies_with_start (steps : List (Environment × Step)) (env : Environment)
    (kept : Along (fun e s step => ¬ step.Abandons env.now e s) steps Store.empty)
    (token : Nat) (station : String) (expiresAt : Option Instant)
    (accepted : (AuthorizationTokenService.authorize env token station (run steps Store.empty)).1 =
      .ok ⟨"Accepted", expiresAt⟩) :
    ∃ t key q, (run steps Store.empty).tokens.get? token = some t ∧ t.sessionId = some key ∧
      (run steps Store.empty).sessions.get? key = some q ∧ q.chargingStationId = station ∧
      q.state.isTerminal = false := by
  have within : Within (Scope.tokens env.now) (run steps Store.empty) :=
    run_along (P := Within (Scope.tokens env.now)) (fun _ _ _ => next_tokens) steps _ kept
      (within_empty _ trivial)
  obtain ⟨key, q, admits, stored, atStation⟩ := AuthorizationTokenService.authorize_accepts
    (show Returns _ _ _ (AuthorizationTokenService.authorize env token station (run steps Store.empty)).2 from
      Prod.ext accepted rfl)
  obtain ⟨-, q', stored', -, unended⟩ := within.admitted token key admits
  rw [stored] at stored'
  cases stored'
  obtain ⟨t, held, session, -⟩ := admits
  refine ⟨t, key, q, held, session, stored, atStation, ?_⟩
  cases terminal : q.state.isTerminal with
  | true => exact (unended terminal).elim
  | false => rfl

end Step

/-! ### Runs of the deployment -/

namespace Deployment

/-- The charger asks about the token of the start that was just requested. -/
theorem token_dies_with_start_requested : ∃ t key q,
    (Step.run remotelyStarted Store.empty).tokens.get? 0 = some t ∧ t.sessionId = some key ∧
      (Step.run remotelyStarted Store.empty).sessions.get? key = some q ∧
      q.chargingStationId = "01JN7F000000000000000000S1" ∧ q.state.isTerminal = false := by
  refine Step.token_dies_with_start remotelyStarted (environment "2.0.1" 1 1) ⟨?_, ?_, trivial⟩ 0
    "01JN7F000000000000000000S1" (some (minute 3)) (by decide +kernel)
  · rintro ⟨key, token, -, t, stored, -⟩
    cases stored
  · rintro ⟨key, token, ends, -⟩
    exact ends.elim

def refusedRun : List (Environment × Step) :=
  remotelyStarted ++ [(environment "2.0.1" 1 1, .dispatch 0),
    (environment "2.0.1" 1 1, .gatewayAnswer 0 (.ok ⟨.completed, some "Rejected"⟩))]

/-- The token of a start that the charger refused is accepted afterwards. -/
theorem refused_start_is_authorized :
    ((AuthorizationTokenService.authorize (environment "2.0.1" 1 2) 0 "01JN7F000000000000000000S1"
        (Step.run refusedRun Store.empty)).1 = .ok ⟨"Accepted", some (minute 3)⟩) ∧
      ∃ t q, (Step.run refusedRun Store.empty).tokens.get? 0 = some t ∧ t.sessionId = some 0 ∧
        (Step.run refusedRun Store.empty).sessions.get? 0 = some q ∧ q.state = .failed := by
  have facts : ((AuthorizationTokenService.authorize (environment "2.0.1" 1 2) 0 "01JN7F000000000000000000S1"
        (Step.run refusedRun Store.empty)).1.toOption = some ⟨"Accepted", some (minute 3)⟩) ∧
      (((Step.run refusedRun Store.empty).tokens.get? 0).any fun t => t.sessionId = some 0) = true ∧
      (((Step.run refusedRun Store.empty).sessions.get? 0).any fun q => q.state = .failed) = true := by
    decide +kernel
  obtain ⟨answer, issued, failed⟩ := facts
  obtain ⟨t, stored, session⟩ := (Option.any_eq_true _ _).mp issued
  obtain ⟨q, held, state⟩ := (Option.any_eq_true _ _).mp failed
  refine ⟨?_, t, q, stored, by simpa using session, held, by simpa using state⟩
  generalize (AuthorizationTokenService.authorize (environment "2.0.1" 1 2) 0 "01JN7F000000000000000000S1"
    (Step.run refusedRun Store.empty)).1 = out at answer
  cases out with
  | error => contradiction
  | ok => rw [Option.some.inj answer]

end Deployment
end VtsaCsms.Charging
