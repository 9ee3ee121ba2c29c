import VtsaCsms.Charging.Grants
import VtsaCsms.Charging.Progress
import VtsaCsms.Charging.Refinement

/-!
# Who grants, withdraws and abandons a start

Remote starts and stops, the outcomes and deadlines of commands, and the prepaid services keep
`Within`. Where a service ends a session and leaves its token, the lemma asks for the session
to be abandoned.
-/
namespace VtsaCsms.Charging
open Foundation Foundation.Action Assets Tariffs

variable {x : Scope} {s s' : Store}

/-! ### Commands and tokens -/

theorem Commanded.placed {s : Store} {t : Indexed Nat ChargerCommand ChargerCommand.clash} {key k : Nat}
    {c' : ChargerCommand} (commanded : Commanded s k) (placed : Indexed.Placed s.commands t key c')
    (about : ∀ c, s.commands.get? key = some c → c'.sessionId = c.sessionId ∧ c'.type = c.type) :
    Commanded { s with commands := t } k := by
  obtain ⟨k₀, c, stored, session, type⟩ := commanded
  by_cases same : k₀ = key
  · subst same
    obtain ⟨session', type'⟩ := about c stored
    exact ⟨k₀, c', placed.get, session'.trans session, type'.trans type⟩
  · refine ⟨k₀, c, ?_, session, type⟩
    show t.get? k₀ = some c
    rw [placed.other same, stored]

variable {env : Environment}

theorem ChargerCommandStateMachine.transition_within {key : Nat}
    {next : ChargerCommandState} {c : ChargerCommand} {u : Unit}
    (success : Returns (transition env key c.state next) s u s') (stored : s.commands.get? key = some c)
    (within : Within x s) : Within x s' := by
  obtain ⟨-, commands, _, _, rfl, placed, -⟩ := transition_returns success stored rfl
  refine within.ignored rfl rfl rfl (fun k commanded => commanded.placed placed ?_) within.records
  intro c₀ stored₀
  rw [stored] at stored₀
  cases stored₀
  exact ⟨rfl, rfl⟩

theorem revokeTokens_admits {p : Nat → AuthorizationToken → Bool} {u : Unit}
    (success : Returns (revokeTokens env p) s u s') (at' : Instant) (token key : Nat)
    (admits : Admits at' s' token key) :
    Admits at' s token key ∧ ∀ t, s.tokens.get? token = some t → p token t = false := by
  unfold revokeTokens at success
  rw [returns_write] at success
  subst success
  obtain ⟨t, stored, session, status, unrevoked, unexpired⟩ := admits
  simp only [Table.get?_updateWhere] at stored
  cases before : s.tokens.get? token with
  | none =>
    rw [before] at stored
    contradiction
  | some t₀ =>
    rw [before] at stored
    simp only [Option.map_some, Option.some.injEq] at stored
    cases revokes : p token t₀ with
    | true =>
      rw [revokes] at stored
      subst stored
      exact absurd unrevoked (by simp)
    | false =>
      rw [revokes] at stored
      simp only [Bool.false_eq_true, if_false] at stored
      subst stored
      refine ⟨⟨t₀, before, session, status, unrevoked, unexpired⟩, ?_⟩
      intro t same
      rw [← Option.some.inj same]
      exact revokes

theorem revokeTokens_within {p : Nat → AuthorizationToken → Bool} {u : Unit}
    (success : Returns (revokeTokens env p) s u s') (within : Within x s) : Within x s' := by
  have shrink := revokeTokens_admits success x.at'
  unfold revokeTokens at success
  rw [returns_write] at success
  subst success
  refine ⟨within.reserved, ?_, within.records⟩
  intro token key admits
  exact within.admitted token key (shrink token key admits).1

/-! ### Requests -/

namespace RemoteStartService

/-- The rows of a new start: session, token, reservation and command, for each other. -/
structure Granted (s s' : Store) (key : Nat) (q : ChargingSession) : Prop where
  fresh : s.sessions.get? key = none
  session : Indexed.Placed s.sessions s'.sessions key q
  starting : q.state = .starting
  unknown : q.protocolTransactionId = none
  token : ∃ token, q.authorizationTokenId = some token ∧ ∀ k t, s'.tokens.get? k = some t →
    (k = token ∧ t.sessionId = some key) ∨ s.tokens.get? k = some t
  reservation : ∃ k r, Indexed.Placed s.reservations s'.reservations k r ∧
    r.connectorId = q.connectorId ∧ r.sessionId = key
  command : ∃ k c, s.commands.get? k = none ∧ Indexed.Placed s.commands s'.commands k c ∧
    c.sessionId = key ∧ c.type = .remoteStart
  records : s'.cdrs = s.cdrs

variable {env : Environment} {idempotencyKey : String} {versionId code : Option String} {key : Nat}

theorem reserveAndCommand_grants {connector : ConnectorSnapshot} {status : ConnectorStatus}
    {expiresAt : Instant}
    (success : Returns (reserveAndCommand env connector status idempotencyKey versionId code expiresAt)
      s key s') : ∃ q, Granted s s' key q := by
  unfold reserveAndCommand ChargingSessionCreator.create AuthorizationTokenService.issue onSessions
    onReservations onCommands at success
  simp only [returns_bind, returns_throwIf, returns_focus, returns_read, returns_write, returns_pure]
    at success
  obtain ⟨key, s, ⟨_, _, ⟨-, rfl⟩, t₁, creates, rfl⟩, _, _, deadline, token, _,
    ⟨_, s₁, ⟨issued, rfl⟩, _, _, rfl, rfl, rfl⟩, _, _, rfl, _, _, tokened, reservationKey, _,
    ⟨reservations, reserving, rfl⟩, _, _, reserved, _, _, authorizes, _, _, approves, _, _, starts, cmdKey, _,
    ⟨commands, commanding, rfl⟩, rfl, rfl⟩ := success
  have created := Indexed.create_returns creates
  obtain ⟨t₂, rfl, deadlined⟩ := saveSession_returns deadline
  have row₁ := created.placed.update deadlined
  obtain ⟨t₃, rfl, authorized⟩ := saveSession_returns tokened
  have row₂ := row₁.update authorized
  obtain ⟨-, statuses, rfl⟩ := ConnectorAvailabilityStateMachine.transition_returns reserved
  obtain ⟨requested, -, nothing, connectorId, -⟩ :=
    OcppEventConsumer.newRow_fresh env connector .remote env.now versionId code
  obtain ⟨-, t₄, _, rfl, row₃⟩ :=
    ChargingSessionStateMachine.transition_returns authorizes row₂.get requested
  obtain ⟨-, t₅, _, rfl, row₄⟩ := ChargingSessionStateMachine.transition_returns approves row₃.get rfl
  obtain ⟨-, t₆, _, rfl, row₅⟩ := ChargingSessionStateMachine.transition_returns starts row₄.get rfl
  have command := Indexed.create_returns commanding
  refine ⟨_, created.fresh, ((row₂.trans row₃).trans row₄).trans row₅, rfl, nothing, ⟨token, rfl, ?_⟩,
    ⟨reservationKey, _, (Indexed.create_returns reserving).placed, connectorId.symm, rfl⟩,
    ⟨cmdKey, _, command.fresh, command.placed, rfl, rfl⟩, rfl⟩
  intro k row stored
  rcases Table.get?_update_cases stored with ⟨rfl, earlier, -, rfl⟩ | ⟨other, stored⟩
  · exact Or.inl ⟨rfl, rfl⟩
  · rcases Table.get?_create_cases stored with ⟨new, -⟩ | before
    · exact absurd (new.trans issued.symm) other
    · exact Or.inr before

theorem Granted.within {q : ChargingSession} (granted : Granted s s' key q) (within : Within x s)
    (fresh : ∀ k, s.sessions.get? k = none → x.admits k) : Within x s' := by
  obtain ⟨cmdKey, cmd, unused, command, about, type⟩ := granted.command
  have old : ∀ {k p}, s.sessions.get? k = some p → s'.sessions.get? k = some p := by
    intro k p held
    have other : k ≠ key := by
      intro same
      rw [same, granted.fresh] at held
      contradiction
    rw [granted.session.other other, held]
  have commands : ∀ {k}, Commanded s k → Commanded s' k := by
    intro k commanded
    refine commanded.placed command ?_
    intro c stored
    rw [unused] at stored
    contradiction
  refine ⟨?_, ?_, by rw [granted.records]; exact within.records⟩
  · intro k r open'
    obtain ⟨rKey, row, reservation, connector, session⟩ := granted.reservation
    rcases reservation.cases open'.1 with ⟨-, rfl⟩ | ⟨-, before⟩
    · subst session
      refine ⟨q, granted.session.get, connector.symm, ?_, cmdKey, cmd, command.get, about, type⟩
      unfold ChargingSession.waits
      rw [granted.starting, granted.unknown]
      rfl
    · obtain ⟨p, held, connector', waits, commanded⟩ := within.reserved k r ⟨before, open'.2⟩
      exact ⟨p, old held, connector', waits, commands commanded⟩
  · intro token k admits
    obtain ⟨row, stored, session, rest⟩ := admits
    obtain ⟨issued, names, tokens⟩ := granted.token
    rcases tokens token row stored with ⟨rfl, about⟩ | before
    · rw [about] at session
      cases session
      refine ⟨fresh key granted.fresh, q, granted.session.get, names, ?_⟩
      rw [granted.starting]
      simp [ChargingSessionState.isTerminal]
    · obtain ⟨mayAdmit, p, held, issued', unended⟩ := within.admitted token k ⟨row, before, session, rest⟩
      exact ⟨mayAdmit, p, old held, issued', unended⟩

theorem request_grants {connectorId : String}
    (success : Returns (request env connectorId idempotencyKey versionId code) s key s') :
    s' = s ∨ ∃ q, Granted s s' key q := by
  unfold request at success
  simp only [returns_bind, returns_lift, returns_read] at success
  obtain ⟨_, _, ⟨-, rfl⟩, existing, s, ⟨found, rfl⟩, success⟩ := success
  cases existing with
  | some =>
    simp only [returns_bind, returns_throwIf, returns_pure] at success
    obtain ⟨_, _, ⟨-, rfl⟩, -, rfl⟩ := success
    exact Or.inl rfl
  | none =>
    simp only [returns_bind, returns_orThrow, returns_throwIf, returns_transaction, returns_read] at success
    obtain ⟨connector, _, ⟨-, rfl⟩, _, _, ⟨-, rfl⟩, _, _, ⟨-, rfl⟩, status, _, ⟨-, rfl⟩, ready, _,
      ⟨-, rfl⟩, occupied, s, ⟨present, rfl⟩, success⟩ := success
    cases status with
    | none => simp at success
    | some =>
      simp only [returns_bind, returns_throwIf] at success
      obtain ⟨_, _, ⟨-, rfl⟩, success⟩ := success
      exact Or.inr (reserveAndCommand_grants success)

theorem request_within {connectorId : String}
    (success : Returns (request env connectorId idempotencyKey versionId code) s key s')
    (within : Within x s) (fresh : ∀ k, s.sessions.get? k = none → x.admits k) : Within x s' := by
  rcases request_grants success with rfl | ⟨q, granted⟩
  · exact within
  · exact granted.within within fresh

end RemoteStartService

theorem RemoteStopService.request_within {env : Environment} {sessionId : Nat} {idempotencyKey : String}
    {spendingLimit cancelPendingStart : Bool} {u : Unit}
    (success : Returns (request env sessionId idempotencyKey spendingLimit cancelPendingStart) s u s')
    (within : Within x s) : Within x s' := by
  unfold request onCommands at success
  simp only [returns_bind, returns_read] at success
  obtain ⟨existing, s, ⟨-, rfl⟩, success⟩ := success
  cases existing with
  | some =>
    rw [returns_throwIf] at success
    rw [success.2]
    exact within
  | none =>
    simp only [returns_bind, returns_throwIf, returns_transaction, returns_orThrow, returns_lift,
      returns_focus, lockSession_returns] at success
    obtain ⟨_, _, ⟨-, rfl⟩, q, _, ⟨stored, rfl⟩, _, _, ⟨-, rfl⟩, _, _, ⟨-, rfl⟩, transaction, _,
      ⟨known, rfl⟩, action, _, ⟨-, rfl⟩, actor, _, acting, cmdKey, _, ⟨commands, commanded, rfl⟩, moves⟩ :=
      success
    have same := actorOf_returns acting
    subst same
    obtain ⟨-, t, version, rfl, placed⟩ := ChargingSessionStateMachine.transition_returns moves stored rfl
    have command := Indexed.create_returns commanded
    refine within.rewritten stored placed ⟨rfl, rfl, ?_, ?_, ?_, within.records⟩
    · intro k earlier
      refine earlier.placed command.placed ?_
      intro c stored
      rw [command.fresh] at stored
      contradiction
    · intro k r open'
      refine ⟨open', fun _ waits => ?_⟩
      unfold ChargingSession.waits at waits
      rw [known] at waits
      simp at waits
    · intro token k admits
      exact ⟨admits, fun _ terminal => absurd terminal (by simp [ChargingSessionState.isTerminal])⟩

/-! ### Outcomes and deadlines -/

namespace CommandOutcomeService

/-- The outcome of a remote start fails the session it was commanded for. -/
def FailsStart (s : Store) (command : ChargerCommand) (outcome : ChargerCommandState) : Prop :=
  command.type = .remoteStart ∧ outcome ≠ .acknowledged ∧
    ¬ ((outcome = .timedOut ∨ outcome = .deliveryUnknown) ∧ hasCustomer s command.sessionId = true) ∧
    ∃ q, s.sessions.get? command.sessionId = some q ∧ q.state.isTerminal = false ∧
      q.state.canTransitionTo .failed = true

theorem applyStart_within {env : Environment} {command : ChargerCommand} {q : ChargingSession} {u : Unit}
    (success : Returns (applyStart env command q) s u s')
    (stored : s.sessions.get? command.sessionId = some q) (type : command.type = .remoteStart)
    (within : Within x s) (fails : FailsStart s command command.state → x.abandons command.sessionId) :
    Within x s' := by
  unfold applyStart at success
  simp only [returns_bind, returns_read, returns_ite, returns_pure] at success
  obtain ⟨_, s, ⟨rfl, rfl⟩, ⟨-, -, rfl⟩ | ⟨unaccepted, ⟨-, saves⟩ |
    ⟨confirmed, ⟨⟨unended, -⟩, _, _, saves, _, _, moves, releases⟩ | ⟨-, -, rfl⟩⟩⟩⟩ := success
  · exact within
  · exact saveSession_within saves within fun _ => ⟨rfl, rfl, rfl, rfl⟩
  · obtain ⟨t₁, rfl, updated⟩ := saveSession_returns saves
    have row := updated.placed stored
    obtain ⟨allowed, t, version, rfl, moved⟩ :=
      ChargingSessionStateMachine.transition_returns moves row.get rfl
    have released := ConnectorReservationService.release_releases releases fun _ _ _ _ => within.single
    obtain ⟨_, _, rfl⟩ := ConnectorReservationService.release_returns releases
    refine within.rewritten stored (row.trans moved) ⟨rfl, rfl, fun _ => id, ?_, ?_, within.records⟩
    · intro k r open'
      obtain ⟨before, other⟩ := released k r open'
      exact ⟨before, fun same => absurd same other⟩
    · intro token k admits
      exact ⟨admits, fun _ _ => Or.inr (fails ⟨type, unaccepted, confirmed, q, stored, unended, allowed⟩)⟩
  · exact within

theorem apply_within {env : Environment} {command : ChargerCommand} {u : Unit}
    (success : Returns (apply env command) s u s') (within : Within x s)
    (fails : FailsStart s command command.state → x.abandons command.sessionId) : Within x s' := by
  obtain ⟨q, session, ⟨type, starts⟩ | ⟨-, stops⟩⟩ := apply_returns success
  · exact applyStart_within starts session type within fails
  · rcases applyStop_returns stops session with ⟨⟨-, stopping, allowed⟩, t, version, rfl, placed⟩ | ⟨-, rfl⟩
    · refine within.resaved session placed rfl rfl rfl ?_ ?_
      · unfold ChargingSession.waits
        rw [stopping]
        simp [ChargingSessionState.isAwaiting]
      · intro terminal
        rw [stopping] at allowed
        rcases ChargingSessionState.from_stopping allowed with delivering | same | same
        · revert terminal delivering
          cases command.expectedSessionState <;>
            simp [ChargingSessionState.isTerminal, ChargingSessionState.isDelivering]
        · simp [same, ChargingSessionState.isTerminal] at terminal
        · simp [same, ChargingSessionState.isTerminal] at terminal
    · exact within

end CommandOutcomeService

theorem settleCommand_within {env : Environment} {key : Nat} {command : ChargerCommand}
    (next : ChargerCommandState) {u : Unit} (success : Returns (settleCommand env key command next) s u s')
    (stored : s.commands.get? key = some command) (within : Within x s)
    (fails : command.state.canTransitionTo next = true → CommandOutcomeService.FailsStart s command next →
      x.abandons command.sessionId) : Within x s' := by
  unfold settleCommand at success
  simp only [returns_bind, lockCommand_returns] at success
  obtain ⟨_, _, moves, refreshed, s₁, ⟨reloaded, rfl⟩, success⟩ := success
  have moved := ChargerCommandStateMachine.transition_within moves stored within
  obtain ⟨allowed, commands, _, _, rfl, placed, -⟩ :=
    ChargerCommandStateMachine.transition_returns moves stored rfl
  rw [placed.get] at reloaded
  cases reloaded
  refine CommandOutcomeService.apply_within success moved ?_
  rintro ⟨type, rest⟩
  exact fails allowed ⟨type, rest⟩

namespace DispatchChargerCommand

variable {env : Environment} {key : Nat}

theorem begin_within {u : Unit} (success : Returns (begin env key) s u s')
    (within : Within x s) : Within x s' := by
  unfold begin at success
  simp only [returns_transaction, returns_bind, returns_ite, returns_pure, lockCommand_returns] at success
  obtain ⟨command, s, ⟨stored, rfl⟩, ⟨-, -, rfl⟩ | ⟨-, ⟨-, expires⟩ | ⟨-, ⟨-, dispatches⟩ | ⟨-, -, rfl⟩⟩⟩⟩ :=
    success
  · exact within
  · exact ChargerCommandStateMachine.transition_within expires stored within
  · exact ChargerCommandStateMachine.transition_within dispatches stored within
  · exact within

theorem applyTerminal_within {u : Unit}
    (success : Returns (applyTerminal env key) s u s') (within : Within x s)
    (fails : ∀ command, s.commands.get? key = some command → command.state.isTerminal = true →
      CommandOutcomeService.FailsStart s command command.state → x.abandons command.sessionId) :
    Within x s' := by
  unfold applyTerminal at success
  simp only [returns_transaction, returns_bind, returns_ite, returns_pure, lockCommand_returns] at success
  obtain ⟨command, s, ⟨stored, rfl⟩, ⟨ended, applies⟩ | ⟨-, -, rfl⟩⟩ := success
  · exact CommandOutcomeService.apply_within applies within (fails command stored ended)
  · exact within

theorem settle_within {next : ChargerCommandState} {u : Unit}
    (success : Returns (settle env key next) s u s') (within : Within x s)
    (fails : ∀ command, s.commands.get? key = some command → command.state.isTerminal = false →
      command.state.canTransitionTo next = true → CommandOutcomeService.FailsStart s command next →
      x.abandons command.sessionId) : Within x s' := by
  unfold settle at success
  simp only [returns_transaction, returns_bind, returns_ite, returns_pure, lockCommand_returns] at success
  obtain ⟨command, s, ⟨stored, rfl⟩, ⟨unended, _, _, moves, applies⟩ | ⟨-, -, rfl⟩⟩ := success
  · have settled : Returns (settleCommand env key command next) s u s' := by
      unfold settleCommand
      simp only [returns_bind, lockCommand_returns]
      exact ⟨_, _, moves, applies⟩
    exact settleCommand_within next settled stored within (fails command stored (by simpa using unended))
  · exact within

/-- What the job makes of the gateway's answer, if it can be settled. -/
def answered (answer : Except Throwable GatewayResult) : ChargerCommandState :=
  match answer with
  | .ok result => outcomeOf result
  | .error _ => .deliveryUnknown

theorem settle_acknowledged (env : Environment) {command : ChargerCommand}
    {q : ChargingSession} (stored : s.commands.get? key = some command) (sent : command.state = .dispatched)
    (type : command.type = .remoteStart) (session : s.sessions.get? command.sessionId = some q) :
    ∃ s', Returns (settle env key .acknowledged) s () s' := by
  have allowed : command.state.canTransitionTo .acknowledged = true := by rw [sent]; rfl
  obtain ⟨t, moves⟩ := ChargerCommandStateMachine.transition_succeeds env key _ _ s allowed
  obtain ⟨-, commands, _, _, same, placed, -⟩ :=
    ChargerCommandStateMachine.transition_returns moves stored rfl
  have tables : t = commands := congrArg Store.commands same
  subst tables
  refine ⟨{ s with commands := t }, ?_⟩
  unfold settle
  simp only [returns_transaction, returns_bind, returns_ite, lockCommand_returns]
  refine ⟨command, s, ⟨stored, rfl⟩, Or.inl ⟨by rw [sent]; rfl, (), _, moves, _, _, ⟨placed.get, rfl⟩, ?_⟩⟩
  unfold CommandOutcomeService.apply CommandOutcomeService.applyStart
  simp only [returns_bind, lockSession_returns]
  refine ⟨q, _, ⟨session, rfl⟩, ?_⟩
  rw [type]
  simp

theorem outcomeOf_allowed (result : GatewayResult) :
    ChargerCommandState.dispatched.canTransitionTo (outcomeOf result) = true := by
  have protocol : ChargerCommandState.dispatched.canTransitionTo (protocolOutcome result.responseStatus) =
      true := by
    unfold protocolOutcome
    cases result.responseStatus.map mbStrToLower with
    | none => rfl
    | some =>
      dsimp only
      split <;> rfl
  unfold outcomeOf
  cases result.status with
  | completed => exact protocol
  | _ => rfl

theorem complete_within (env : Environment) (key : Nat) (answer : Except Throwable GatewayResult)
    (within : Within x s)
    (fails : ∀ command, s.commands.get? key = some command → command.state.isTerminal = false →
      command.state.canTransitionTo (answered answer) = true →
      CommandOutcomeService.FailsStart s command (answered answer) → x.abandons command.sessionId) :
    Within x (after (complete env key answer) s) := by
  unfold complete
  cases answer with
  | error =>
    refine after_atomic (m := settle env key .deliveryUnknown) (atomic_transaction _) within ?_
    intro _ s' settles
    exact settle_within settles within fails
  | ok result =>
    refine after_tryCatch_of (m := settle env key (outcomeOf result)) (atomic_transaction _) ?_ ?_
    · intro _ s' settles
      exact settle_within settles within fails
    · intro e thrown
      refine after_atomic (m := settle env key .deliveryUnknown) (atomic_transaction _) within ?_
      intro _ s₂ settles
      refine settle_within settles within ?_
      -- what leaves the command undelivered would have let it be answered
      rintro command stored unended allowed ⟨type, -, unpaid, q, session, open', failing⟩
      have sent : command.state = .dispatched := by
        revert unended allowed
        cases command.state <;> simp [ChargerCommandState.isTerminal, ChargerCommandState.canTransitionTo,
          ChargerCommandState.successors]
      by_cases accepted : outcomeOf result = .acknowledged
      · obtain ⟨s₃, settled⟩ := settle_acknowledged env stored sent type session
        rw [accepted, settled] at thrown
        cases thrown
      · refine fails command stored unended (by rw [sent]; exact outcomeOf_allowed result)
          ⟨type, accepted, ?_, q, session, open', failing⟩
        rintro ⟨-, prepaid⟩
        exact unpaid ⟨Or.inr rfl, prepaid⟩

end DispatchChargerCommand

namespace ExpireChargingOperations

def lapsed (command : ChargerCommand) : ChargerCommandState :=
  if command.state = .requested then .expired else .timedOut

theorem expireCommand_within {env : Environment} {key : Nat} {u : Unit}
    (success : Returns (expireCommand env key) s u s') (within : Within x s)
    (fails : ∀ command, s.commands.get? key = some command → command.state.isTerminal = false →
      command.expiresAt ≤ env.now → CommandOutcomeService.FailsStart s command (lapsed command) →
      x.abandons command.sessionId) : Within x s' := by
  unfold expireCommand at success
  simp only [returns_transaction, returns_bind, returns_read] at success
  obtain ⟨found, s, ⟨stored, rfl⟩, success⟩ := success
  cases found with
  | none =>
    rw [returns_pure] at success
    rw [success.2]
    exact within
  | some command =>
    simp only [returns_ite, returns_pure] at success
    rcases success with ⟨-, -, rfl⟩ | ⟨due, success⟩
    · exact within
    · rw [not_or] at due
      refine settleCommand_within (lapsed command) success stored.symm within fun _ => ?_
      exact fails command stored.symm (by simpa using due.1) (not_lt.mp due.2)

theorem expireSession_within {env : Environment} {key : Nat} {u : Unit}
    (success : Returns (expireSession env key) s u s') (within : Within x s) : Within x s' := by
  unfold expireSession at success
  simp only [returns_transaction, returns_bind, returns_read] at success
  obtain ⟨found, s, ⟨stored, rfl⟩, success⟩ := success
  cases found with
  | none =>
    rw [returns_pure] at success
    rw [success.2]
    exact within
  | some q =>
    simp only [returns_ite, returns_pure, returns_bind, returns_read] at success
    rcases success with ⟨-, -, rfl⟩ | ⟨-, _, s, ⟨-, rfl⟩, ⟨-, saves⟩ | ⟨-, _, _, expires, _, s₂, releases,
      revokes⟩⟩
    · exact within
    · exact saveSession_within saves within fun _ => ⟨rfl, rfl, rfl, rfl⟩
    · obtain ⟨-, t, version, rfl, placed⟩ :=
        ChargingSessionStateMachine.transition_returns expires stored.symm rfl
      have released := ConnectorReservationService.release_releases releases fun _ _ _ _ => within.single
      obtain ⟨reservations, statuses, rfl⟩ := ConnectorReservationService.release_returns releases
      have unreserved : ∀ k r, Reserves { s with sessions := t, reservations := reservations
                                                 connectorStatuses := statuses } k r →
          Reserves s k r ∧ (r.sessionId = key → q.waits = true →
            ChargingSession.waits { q with state := .expired, aggregateVersion := version } = true) := by
        intro k r open'
        obtain ⟨before, other⟩ := released k r open'
        exact ⟨before, fun same => absurd same other⟩
      cases issued : q.authorizationTokenId with
      | none =>
        rw [issued] at revokes
        simp only [returns_pure] at revokes
        rw [revokes.2]
        refine within.rewritten stored.symm placed ⟨rfl, rfl, fun _ => id, unreserved, ?_, within.records⟩
        intro token k admits
        refine ⟨admits, ?_⟩
        rintro rfl -
        obtain ⟨-, p, held, names, -⟩ := within.admitted token k admits
        rw [← stored] at held
        cases held
        rw [issued] at names
        contradiction
      | some =>
        rw [issued] at revokes
        have shrink := revokeTokens_admits revokes x.at'
        unfold revokeTokens at revokes
        rw [returns_write] at revokes
        subst revokes
        refine within.rewritten stored.symm placed ⟨rfl, rfl, fun _ => id, unreserved, ?_, within.records⟩
        intro token k admits
        obtain ⟨before, unrevoked⟩ := shrink token k admits
        refine ⟨before, ?_⟩
        rintro rfl -
        obtain ⟨-, p, held, names, -⟩ := within.admitted token k before
        rw [← stored] at held
        cases held
        rw [issued] at names
        cases names
        obtain ⟨t, kept, -⟩ := before
        exact absurd (unrevoked t kept) (by simp)

end ExpireChargingOperations
/-! ### Prepaid starts -/

/-- The tokens of a session that a customer withdraws from. -/
def ofSession (key : Nat) (_ : Nat) (t : AuthorizationToken) : Bool :=
  t.sessionId = some key && t.revokedAt = none

theorem revokeTokens_of_session {env : Environment} {key : Nat} {u : Unit}
    (success : Returns (revokeTokens env (ofSession key)) s u s') {at' : Instant} {token : Nat} :
    ¬ Admits at' s' token key := by
  intro admits
  obtain ⟨⟨t, stored, session, -, unrevoked, -⟩, kept⟩ := revokeTokens_admits success _ _ _ admits
  have spared := kept t stored
  simp [ofSession, session, unrevoked] at spared

namespace PrepaidChargingMonitor

variable {customerKey key : Nat} {u : Unit} {env : Environment} {owner : CustomerChargingSession}
  {session : ChargingSession}

theorem requireAction_within (success : Returns (requireAction customerKey) s u s')
    (within : Within x s) : Within x s' := by
  obtain ⟨t, rfl, -⟩ := saveCustomer_returns success
  exact within.ignored rfl rfl rfl (fun _ => id) within.records

theorem settleHold_within {spent : Int} {payment : PaymentState}
    (success : Returns (settleHold env key customerKey owner spent payment) s u s') (within : Within x s) :
    Within x s' := by
  unfold settleHold onWallet at success
  simp only [returns_bind, returns_focus] at success
  obtain ⟨_, _, ⟨wallet, -, rfl⟩, saves⟩ := success
  obtain ⟨t, rfl, -⟩ := saveCustomer_returns saves
  exact within.ignored rfl rfl rfl (fun _ => id) within.records

theorem cancelConfirmedIdleStart_within
    {cancelled : Bool} (success : Returns (cancelConfirmedIdleStart env key session) s cancelled s')
    (within : Within x s) : Within x s' := by
  unfold cancelConfirmedIdleStart at success
  simp only [returns_bind, returns_read] at success
  obtain ⟨command, s, ⟨-, rfl⟩, success⟩ := success
  cases deadline : session.startDeadlineAt with
  | none =>
    rw [deadline] at success
    simp only [returns_pure] at success
    rw [success.2]
    exact within
  | some =>
    cases command with
    | none =>
      rw [deadline] at success
      simp only [returns_pure] at success
      rw [success.2]
      exact within
    | some =>
      rw [deadline] at success
      simp only [returns_bind, returns_read, returns_ite, returns_pure] at success
      obtain ⟨_, s, ⟨-, rfl⟩, ⟨-, _, s₁, revokes, _, _, cancels, -, rfl⟩ | ⟨-, -, rfl⟩⟩ := success
      · refine SessionLifecycleService.cancel_within cancels (revokeTokens_within revokes within) ?_
        intro token admits
        exact absurd admits (revokeTokens_of_session revokes)
      · exact within

theorem capture_within
    (success : Returns (capture env key customerKey session owner) s u s') (within : Within x s) :
    Within x s' := by
  unfold capture at success
  simp only [returns_bind, returns_read] at success
  obtain ⟨cdr, s, ⟨-, rfl⟩, success⟩ := success
  split at success
  · exact settleHold_within success within
  · exact requireAction_within success within

theorem releaseUnstarted_within
    (success : Returns (releaseUnstarted env key customerKey owner) s u s') (within : Within x s) :
    Within x s' := by
  unfold releaseUnstarted at success
  simp only [returns_bind, returns_read, returns_ite] at success
  obtain ⟨_, s, ⟨-, rfl⟩, ⟨-, settles⟩ | ⟨-, alerts⟩⟩ := success
  · exact settleHold_within settles within
  · exact requireAction_within alerts within

theorem watchBudget_within {startedAt : Instant}
    (success : Returns (watchBudget env key customerKey session owner startedAt) s u s')
    (within : Within x s) : Within x s' := by
  unfold watchBudget at success
  simp only [returns_bind, returns_read, returns_lift, returns_ite, returns_pure] at success
  obtain ⟨_, _, ⟨-, rfl⟩, _, s, ⟨-, rfl⟩, ⟨-, -, rfl⟩ | ⟨-, _, _, ⟨-, rfl⟩, ⟨-, alerts⟩ | ⟨-, stops⟩⟩⟩ :=
    success
  · exact within
  · exact requireAction_within alerts within
  · exact RemoteStopService.request_within stops within

theorem stopWithdrawn_within (success : Returns (stopWithdrawn env key customerKey session) s u s')
    (within : Within x s) : Within x s' := by
  unfold stopWithdrawn at success
  simp only [returns_bind, returns_read, returns_ite] at success
  obtain ⟨_, s, ⟨-, rfl⟩, ⟨-, alerts⟩ | ⟨-, stops⟩⟩ := success
  · exact requireAction_within alerts within
  · exact RemoteStopService.request_within stops within

theorem reconcile_within
    (success : Returns (reconcile env key) s u s') (within : Within x s) : Within x s' := by
  unfold reconcile at success
  simp only [returns_transaction, returns_bind, returns_read, returns_orThrow, lockSession_returns]
    at success
  obtain ⟨session, _, ⟨-, rfl⟩, _, _, ⟨-, rfl⟩, ⟨customerKey, owner⟩, s, ⟨-, rfl⟩, success⟩ := success
  simp only [returns_ite, returns_pure, returns_bind, ne_eq] at success
  rcases success with ⟨-, -, rfl⟩ | ⟨-, cancelled, s₁, cancels, success⟩
  · exact within
  have checked := cancelConfirmedIdleStart_within cancels within
  rcases success with ⟨-, settles⟩ | ⟨-, alert, _, ⟨-, rfl⟩, _, s₂, alerts, success⟩
  · exact settleHold_within settles checked
  have marked : Within x s₂ := by
    rw [returns_doIf] at alerts
    rcases alerts with ⟨-, alerts⟩ | ⟨-, rfl⟩
    · exact requireAction_within alerts checked
    · exact checked
  rcases success with ⟨-, captures⟩ | ⟨-, ⟨-, releases⟩ | ⟨-, ⟨-, stops⟩ | ⟨-, watches⟩⟩⟩
  · exact capture_within captures marked
  · exact releaseUnstarted_within releases marked
  · exact stopWithdrawn_within stops marked
  · cases started : session.startedAt with
    | none =>
      rw [started] at watches
      simp only [returns_pure] at watches
      rw [watches.2]
      exact marked
    | some =>
      rw [started] at watches
      simp only [returns_ite, returns_pure] at watches
      rcases watches with ⟨-, watches⟩ | ⟨-, -, rfl⟩
      · exact watchBudget_within watches marked
      · exact marked

end PrepaidChargingMonitor

namespace CustomerCharging

variable {env : Environment}

theorem start_within {subject : String} {quoteId : Nat} {connectorId key : String}
    {selectedAccount : Option String} {sessionId : Nat}
    (success : Returns (start env subject quoteId connectorId key selectedAccount) s sessionId s')
    (within : Within x s) (fresh : ∀ k, s.sessions.get? k = none → x.admits k) : Within x s' := by
  unfold start at success
  simp only [returns_transaction, returns_bind, returns_read] at success
  obtain ⟨existing, s, ⟨-, rfl⟩, success⟩ := success
  cases existing with
  | some =>
    simp only [returns_bind, returns_throwIf, returns_pure] at success
    obtain ⟨_, _, ⟨-, rfl⟩, _, _, own, _, _, ⟨-, rfl⟩, -, rfl⟩ := success
    rw [owned_returns own]
    exact within
  | none =>
    simp only [returns_bind, returns_read, returns_throwIf, returns_orThrow, returns_lift, returns_pure]
      at success
    obtain ⟨busy, _, ⟨-, rfl⟩, _, _, ⟨-, rfl⟩, _, _, ⟨-, rfl⟩, quote, _, ⟨-, rfl⟩, _, s, ⟨-, rfl⟩, _, _,
      ⟨-, rfl⟩, _, s₁, begins, _, s₂, priced, _, s₃, reserves, _, s', creates, -, rfl⟩ := success
    have granted := RemoteStartService.request_within begins within fresh
    have noted := saveSession_within priced granted fun _ => ⟨rfl, rfl, rfl, rfl⟩
    unfold onWallet at reserves
    rw [returns_focus] at reserves
    obtain ⟨wallet, -, rfl⟩ := reserves
    unfold onCustomers at creates
    rw [returns_focus] at creates
    obtain ⟨table, -, rfl⟩ := creates
    exact noted.ignored rfl rfl rfl (fun _ => id) noted.records

theorem withdraw_within {id commandKey : Nat} {command : ChargerCommand}
    {session : ChargingSession} {reason : Option String} {u : Unit}
    (success : Returns (withdraw env id commandKey command session reason) s u s')
    (stored : s.commands.get? commandKey = some command) (within : Within x s) : Within x s' := by
  unfold withdraw at success
  simp only [returns_bind, returns_doIf] at success
  obtain ⟨_, s₁, revoked, success⟩ := success
  have revoking : Within x s₁ ∧ s₁.commands = s.commands := by
    rcases revoked with ⟨-, revokes⟩ | ⟨-, rfl⟩
    · refine ⟨revokeTokens_within revokes within, ?_⟩
      unfold revokeTokens at revokes
      rw [returns_write] at revokes
      rw [revokes]
    · exact ⟨within, rfl⟩
  rw [← revoking.2] at stored
  simp only [returns_ite, returns_bind, returns_pure] at success
  rcases success with ⟨idle, _, s₂, expires, cancels⟩ | ⟨-, ⟨-, saves⟩ | ⟨-, -, rfl⟩⟩
  · refine SessionLifecycleService.cancel_within cancels
      (ChargerCommandStateMachine.transition_within expires stored revoking.1) ?_
    intro token admits
    obtain ⟨-, commands, _, _, rfl, -⟩ := ChargerCommandStateMachine.transition_returns expires stored rfl
    unfold notDispatched at idle
    simp only [Bool.and_eq_true, decide_eq_true_eq] at idle
    rcases revoked with ⟨-, revokes⟩ | ⟨kept, -⟩
    · exact absurd admits (revokeTokens_of_session revokes)
    · exact absurd ⟨idle.1.1.2, idle.1.2⟩ kept
  · exact saveSession_within saves revoking.1 fun _ => ⟨rfl, rfl, rfl, rfl⟩
  · exact revoking.1

theorem cancel_within {subject : String} {id : Nat} {reason : Option String} {u : Unit}
    (success : Returns (cancel env subject id reason) s u s') (within : Within x s) : Within x s' := by
  unfold cancel at success
  simp only [returns_transaction, returns_bind] at success
  obtain ⟨first, s₁, own, success⟩ := success
  have same := owned_returns own
  subst same
  simp only [returns_ite, returns_pure, returns_bind, returns_read, returns_orThrow, returns_throwIf,
    lockSession_returns] at success
  rcases success with ⟨-, -, rfl⟩ | ⟨-, command, _, ⟨found, rfl⟩, ⟨commandKey, row⟩, _, ⟨some, rfl⟩,
    session, s, ⟨-, rfl⟩, ⟨-, reconciles⟩ | ⟨-, _, s, ⟨-, rfl⟩, _, s₁, withdraws, reconciles⟩⟩
  · exact within
  · exact PrepaidChargingMonitor.reconcile_within reconciles within
  · have commanded := (remoteStartOf_some (found.symm.trans some)).1
    exact PrepaidChargingMonitor.reconcile_within reconciles (withdraw_within withdraws commanded within)

end CustomerCharging

/-! ### Steps -/

namespace Step

/-- The session this step ends without regard to its token. -/
def Ends (env : Environment) (s : Store) (key : Nat) : Step → Prop
  | event e => OcppEventConsumer.Completes env s e key
  | applyTerminal commandId => ∃ command, s.commands.get? commandId = some command ∧
      command.sessionId = key ∧ command.state.isTerminal = true ∧
      CommandOutcomeService.FailsStart s command command.state
  | gatewayAnswer commandId answer => ∃ command, s.commands.get? commandId = some command ∧
      command.sessionId = key ∧ command.state.isTerminal = false ∧
      command.state.canTransitionTo (DispatchChargerCommand.answered answer) = true ∧
      CommandOutcomeService.FailsStart s command (DispatchChargerCommand.answered answer)
  | expireCommand commandId => ∃ command, s.commands.get? commandId = some command ∧
      command.sessionId = key ∧ command.state.isTerminal = false ∧ command.expiresAt ≤ env.now ∧
      CommandOutcomeService.FailsStart s command (ExpireChargingOperations.lapsed command)
  | cancelSession sessionId _ => sessionId = key ∧
      ∃ q, s.sessions.get? key = some q ∧ SessionLifecycleService.Cancels q
  | resolveReview sessionId decision _ adjustments => sessionId = key ∧
      decision ∈ ["complete", "estimated", "unbillable"] ∧
      adjustments.values.any (fun v => v < 0) = false ∧
      ∃ q, s.sessions.get? key = some q ∧ q.state = .reviewRequired
  | _ => False

/-- Only events and resolved reviews write records. -/
def writesRecords : Step → Bool
  | event _ => true
  | resolveReview _ _ _ _ => true
  | _ => false

theorem next_within (env : Environment) (step : Step) (within : Within x s)
    (ends : ∀ key, step.Ends env s key → x.abandons key)
    (fresh : ∀ k, s.sessions.get? k = none → x.admits k)
    (records : step.writesRecords = true → ∀ t, x.records t) : Within x (step.next env s) := by
  have kept : ∀ {α : Type} {m : Charge α}, Atomic m → (∀ a s', Returns m s a s' → Within x s') →
      Within x (after m s) := fun atomic body => after_atomic atomic within body
  have paid : ∀ {α : Type} (m : Action Billing.Wallet Throwable α), Within x (after (onWallet m) s) :=
    fun m => within.ignored rfl rfl rfl (fun _ => id) within.records
  unfold next
  cases step with
  | event e =>
    unfold perform
    rw [after_discard]
    exact OcppEventConsumer.consume_within env e within (records rfl) ends
  | remoteStart =>
    unfold perform
    rw [after_discard]
    exact kept (RemoteStartService.request_atomic _ _ _ _ _) fun _ _ success =>
      RemoteStartService.request_within success within fresh
  | remoteStop =>
    exact kept (RemoteStopService.request_atomic _ _ _ _ _) fun _ _ success =>
      RemoteStopService.request_within success within
  | dispatch =>
    exact kept (atomic_transaction _) fun _ _ success => DispatchChargerCommand.begin_within success within
  | applyTerminal =>
    refine kept (atomic_transaction _) fun _ _ success =>
      DispatchChargerCommand.applyTerminal_within success within ?_
    intro command stored ended failing
    exact ends _ ⟨command, stored, rfl, ended, failing⟩
  | gatewayAnswer commandId answer =>
    refine DispatchChargerCommand.complete_within env commandId answer within ?_
    intro command stored unended allowed failing
    exact ends _ ⟨command, stored, rfl, unended, allowed, failing⟩
  | expireCommand =>
    refine kept (atomic_transaction _) fun _ _ success =>
      ExpireChargingOperations.expireCommand_within success within ?_
    intro command stored unended due failing
    exact ends _ ⟨command, stored, rfl, unended, due, failing⟩
  | expireSession =>
    exact kept (atomic_transaction _) fun _ _ success =>
      ExpireChargingOperations.expireSession_within success within
  | cancelSession =>
    refine kept (atomic_transaction _) fun _ _ success =>
      SessionLifecycleService.cancel_within success within ?_
    intro token _ q stored cancels
    exact ends _ ⟨rfl, q, stored, cancels⟩
  | openReview =>
    exact kept (atomic_transaction _) fun _ _ success =>
      ManualSessionReviewService.openReview_within success within
  | resolveReview sessionId decision notes adjustments =>
    refine ManualSessionReviewService.resolve_within env sessionId decision notes adjustments within
      (records rfl) ?_
    intro q stored review supported nonnegative
    exact ends _ ⟨rfl, supported, nonnegative, q, stored, review⟩
  | quote => exact within.ignored rfl rfl rfl (fun _ => id) within.records
  | credit => exact paid _
  | setLimit => exact paid _
  | customerStart =>
    unfold perform
    rw [after_discard]
    exact kept (atomic_transaction _) fun _ _ success => CustomerCharging.start_within success within fresh
  | customerCancel =>
    exact kept (atomic_transaction _) fun _ _ success => CustomerCharging.cancel_within success within
  | reconcile =>
    exact kept (atomic_transaction _) fun _ _ success =>
      PrepaidChargingMonitor.reconcile_within success within

end Step
end VtsaCsms.Charging
