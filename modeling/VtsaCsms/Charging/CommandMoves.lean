import VtsaCsms.Charging.Commands
import VtsaCsms.Charging.EventMoves

/-!
# Commands and reviews make lifecycle moves

Remote starts and stops, the outcomes and deadlines of commands, cancellations and manual
reviews. Expiring a remote stop unsent and rejecting one are the moves some steps only make.
-/
namespace VtsaCsms.Charging
open Foundation Foundation.Action Assets Tariffs

/-! ### Cancelling and reviewing -/

theorem SessionLifecycleService.cancel_moves {p : Permits} {env : Environment} {key : Nat}
    {reason : String} {s s' : Store} {u : Unit}
    (success : Returns (SessionLifecycleService.cancel env key reason) s u s') :
    Moves p s.core s'.core := by
  obtain ⟨q, t, remarks, _, _, stored, -, -, allowed, rfl, placed⟩ := cancel_returns success
  apply Relation.ReflTransGen.single
  by_cases again : q.state = .cancelled
  · refine .noted ⟨stored, placed, rfl⟩ ?_ rfl
    unfold ChargingSession.standing
    rw [again]
    rfl
  · refine .withdrawn ⟨stored, placed, rfl⟩ ?_ (by simp) rfl
    revert allowed again
    cases q.state <;> simp [ChargingSessionState.canTransitionTo, ChargingSessionState.successors,
      ChargingSessionState.isAwaiting]

namespace ManualSessionReviewService

theorem openReview_moves {p : Permits} {env : Environment} {key : Nat} {reasonCode : String}
    {notes : Option String} {s s' : Store} {u : Unit}
    (success : Returns (openReview env key reasonCode notes) s u s') : Moves p s.core s'.core := by
  unfold openReview at success
  simp only [returns_transaction, returns_bind, returns_ite, returns_throwIf, returns_write,
    lockSession_returns] at success
  obtain ⟨q, s, ⟨stored, rfl⟩, ⟨finalizing, _, _, moves, rfl⟩ | ⟨-, _, _, ⟨-, rfl⟩, rfl⟩⟩ := success
  · obtain ⟨-, t, version, rfl, placed⟩ :=
      ChargingSessionStateMachine.transition_returns moves stored rfl
    exact .single (.reviewed ⟨stored, placed, rfl⟩ finalizing rfl rfl)
  · exact .refl

theorem reviewKey_returns {env : Environment} {key reviewed : Nat} {s s' : Store}
    (success : Returns (reviewKey env key) s reviewed s') : ∃ reviews, s' = { s with reviews := reviews } := by
  unfold reviewKey at success
  simp only [returns_bind, returns_read] at success
  obtain ⟨found, s, ⟨-, rfl⟩, success⟩ := success
  cases found with
  | some =>
    rw [returns_pure] at success
    exact ⟨_, success.2⟩
  | none =>
    simp only [returns_bind, returns_read, returns_write, returns_pure] at success
    obtain ⟨_, _, ⟨-, rfl⟩, _, _, rfl, -, rfl⟩ := success
    exact ⟨_, rfl⟩

theorem resolve_moves {p : Permits} (env : Environment) (key : Nat) (decision notes : String)
    (adjustments : Adjustments) (s : Store) :
    Moves p s.core (after (resolve env key decision notes adjustments) s).core := by
  unfold resolve
  refine after_bind (P := fun s' : Store => Moves p s.core s'.core) (atomic_throwIf _ _) .refl ?_
  intro _ s₁ decided
  obtain ⟨-, rfl⟩ := (returns_throwIf _ _ _ _ _).mp decided
  refine after_bind (P := fun s' : Store => Moves p s₁.core s'.core) (atomic_throwIf _ _) .refl ?_
  intro _ s₂ bounded
  obtain ⟨-, rfl⟩ := (returns_throwIf _ _ _ _ _).mp bounded
  refine after_bind (P := fun s' : Store => Moves p s₂.core s'.core) (atomic_transaction _) .refl ?_
  intro _ s₃ resolved
  simp only [returns_transaction, returns_bind, returns_throwIf, returns_write, lockSession_returns]
    at resolved
  obtain ⟨q, _, ⟨stored, rfl⟩, _, s₂, ⟨waiting, rfl⟩, reviewed, _, found, _, _, saves, rfl⟩ := resolved
  obtain ⟨reviews, rfl⟩ := reviewKey_returns found
  obtain ⟨t, rfl, updated⟩ := saveSession_returns saves
  have adjusted := updated.placed stored
  have review : q.state = .reviewRequired := by simpa using waiting
  have first : Move p s₂.core { s₂.core with sessions := t } :=
    .measured ⟨stored, adjusted, rfl⟩ rfl fun completed => by
      rw [review] at completed
      contradiction
  refine after_atomic (P := fun s' : Store => Moves p s₂.core s'.core) (atomic_transaction _) (.single first) ?_
  intro _ s₄ generated
  obtain ⟨q₁, t₁, cdrs, q', cdrKey, c, stored₁, rfl, placed, record, session, own, newest, outcome⟩ :=
    ChargeDetailRecordGenerator.generate_returns generated
  rw [adjusted.get] at stored₁
  cases stored₁
  obtain ⟨identity, evidence, closing⟩ := OcppEventConsumer.closing_of _ _
    (outcome.imp_left fun sent => absurd sent.1 (by simp))
  refine .tail (.single first) (.ended ⟨adjusted.get, placed, identity⟩ ?_ evidence
    ⟨record, session, own, newest⟩ closing)
  show q.state.canTransitionTo .finalizing = true
  rw [review]
  rfl

end ManualSessionReviewService

/-! ### Requests -/

namespace RemoteStartService

/-- The rows of a start: a stored command for the session returned, and no other session or
customer touched. -/
structure Begun (s s' : Store) (key : Nat) : Prop where
  customers : s'.customers = s.customers
  others : ∀ k, k ≠ key → s'.sessions.get? k = s.sessions.get? k
  commanded : ∃ k cmd, s'.commands.get? k = some cmd ∧ cmd.sessionId = key

theorem reserveAndCommand_moves {p : Permits} {env : Environment} {connector : ConnectorSnapshot}
    {status : ConnectorStatus} {idempotencyKey : String} {versionId code : Option String}
    {expiresAt : Instant} {s s' : Store} {key : Nat}
    (success : Returns (reserveAndCommand env connector status idempotencyKey versionId code expiresAt)
      s key s')
    (free : ∀ k row, s.sessions.get? k = some row → row.connectorId = connector.connectorId →
      row.state.isTerminal = true) :
    Moves p s.core s'.core ∧ Begun s s' key := by
  unfold reserveAndCommand ChargingSessionCreator.create AuthorizationTokenService.issue onSessions
    onReservations onCommands at success
  simp only [returns_bind, returns_throwIf, returns_focus, returns_read, returns_write, returns_pure]
    at success
  obtain ⟨key, _, ⟨_, _, ⟨-, rfl⟩, t₁, creates, rfl⟩, _, _, deadline, token, _,
    ⟨_, _, ⟨-, rfl⟩, _, _, rfl, -, rfl⟩, _, _, rfl, _, _, tokened, _, _, ⟨_, -, rfl⟩, _, _, reserved,
    _, _, authorizes, _, _, approves, _, _, starts, cmdKey, _, ⟨commands, commanded, rfl⟩, rfl, rfl⟩ := success
  have created := Indexed.create_returns creates
  obtain ⟨t₂, rfl, deadlined⟩ := saveSession_returns deadline
  have row₁ := created.placed.update deadlined
  obtain ⟨t₃, rfl, authorized⟩ := saveSession_returns tokened
  have row₂ := row₁.update authorized
  obtain ⟨-, statuses, rfl⟩ := ConnectorAvailabilityStateMachine.transition_returns reserved
  obtain ⟨requested, begun, nothing, connectorId, -⟩ :=
    OcppEventConsumer.newRow_fresh env connector .remote env.now versionId code
  obtain ⟨-, t₄, _, rfl, row₃⟩ :=
    ChargingSessionStateMachine.transition_returns authorizes row₂.get requested
  obtain ⟨-, t₅, _, rfl, row₄⟩ := ChargingSessionStateMachine.transition_returns approves row₃.get rfl
  obtain ⟨-, t₆, _, rfl, row₅⟩ := ChargingSessionStateMachine.transition_returns starts row₄.get rfl
  have placed := ((row₂.trans row₃).trans row₄).trans row₅
  have command := Indexed.create_returns commanded
  refine ⟨.single (.requested created.fresh placed rfl ?_ ?_ command.fresh command.placed rfl rfl),
    rfl, fun k different => placed.other different, cmdKey, _, command.placed.get, rfl⟩
  · unfold ChargingSession.evidence
    exact congrArg₂ SessionEvidence.mk nothing begun
  · intro k row stored same
    exact free k row stored (same.trans connectorId)

theorem request_atomic (env : Environment) (connectorId idempotencyKey : String)
    (versionId code : Option String) : Atomic (request env connectorId idempotencyKey versionId code) := by
  unfold request
  refine Atomic.bind (atomic_lift _) (fun s a s' h => ((returns_lift _ _ _ _).mp h).2) fun _ => ?_
  refine Atomic.bind (atomic_read _) (fun s a s' h => ((returns_read _ _ _ _).mp h).2) fun existing => ?_
  cases existing with
  | some =>
    refine Atomic.bind (atomic_throwIf _ _) (fun s a s' h => ((returns_throwIf _ _ _ _ _).mp h).2) fun _ => ?_
    exact atomic_pure _
  | none =>
    refine Atomic.bind (atomic_orThrow _ _) (fun s a s' h => ((returns_orThrow _ _ _ _ _).mp h).2) fun _ => ?_
    refine Atomic.bind (atomic_throwIf _ _) (fun s a s' h => ((returns_throwIf _ _ _ _ _).mp h).2) fun _ => ?_
    refine Atomic.bind (atomic_throwIf _ _) (fun s a s' h => ((returns_throwIf _ _ _ _ _).mp h).2) fun _ => ?_
    exact atomic_transaction _

theorem request_moves {p : Permits} {env : Environment} {connectorId idempotencyKey : String}
    {versionId code : Option String} {s s' : Store} {key : Nat}
    (success : Returns (request env connectorId idempotencyKey versionId code) s key s') :
    Moves p s.core s'.core ∧ Begun s s' key := by
  unfold request at success
  simp only [returns_bind, returns_lift, returns_read] at success
  obtain ⟨_, _, ⟨-, rfl⟩, existing, s, ⟨found, rfl⟩, success⟩ := success
  cases existing with
  | some row =>
    simp only [returns_bind, returns_throwIf, returns_pure] at success
    obtain ⟨_, _, ⟨-, rfl⟩, rfl, rfl⟩ := success
    exact ⟨.refl, rfl, fun _ _ => rfl, row.1, row.2, (Indexed.first?_some found.symm).1, rfl⟩
  | none =>
    simp only [returns_bind, returns_orThrow, returns_throwIf, returns_transaction, returns_read] at success
    obtain ⟨connector, _, ⟨-, rfl⟩, _, _, ⟨-, rfl⟩, _, _, ⟨-, rfl⟩, status, _, ⟨-, rfl⟩, ready, _,
      ⟨-, rfl⟩, occupied, s, ⟨present, rfl⟩, success⟩ := success
    cases status with
    | none => simp at success
    | some row =>
      simp only [returns_bind, returns_throwIf] at success
      obtain ⟨_, _, ⟨accepted, rfl⟩, success⟩ := success
      refine reserveAndCommand_moves success ?_
      intro k row stored same
      by_contra unended
      apply accepted
      refine Or.inr ?_
      rw [present, Indexed.exists?_iff]
      exact ⟨k, row, stored, by simp [same, unended]⟩

end RemoteStartService

namespace RemoteStopService

theorem actorOf_returns {env : Environment} {sessionId : Nat} {onBehalf : Bool} {s s' : Store}
    {actor : Option String} (success : Returns (actorOf env sessionId onBehalf) s actor s') : s' = s := by
  unfold actorOf at success
  simp only [returns_bind, returns_read, returns_ite, returns_orThrow, returns_pure] at success
  obtain ⟨_, _, ⟨-, rfl⟩, ⟨-, _, _, ⟨-, rfl⟩, -, rfl⟩ | ⟨-, -, rfl⟩⟩ := success
  · rfl
  · rfl

theorem request_atomic (env : Environment) (sessionId : Nat) (idempotencyKey : String)
    (spendingLimit cancelPendingStart : Bool) :
    Atomic (request env sessionId idempotencyKey spendingLimit cancelPendingStart) := by
  unfold request
  refine Atomic.bind (atomic_read _) (fun s a s' h => ((returns_read _ _ _ _).mp h).2) fun existing => ?_
  cases existing with
  | some => exact atomic_throwIf _ _
  | none =>
    refine Atomic.bind (atomic_throwIf _ _) (fun s a s' h => ((returns_throwIf _ _ _ _ _).mp h).2) fun _ => ?_
    exact atomic_transaction _

theorem request_moves {p : Permits} {env : Environment} {sessionId : Nat} {idempotencyKey : String}
    {spendingLimit cancelPendingStart : Bool} {s s' : Store} {u : Unit}
    (success : Returns (request env sessionId idempotencyKey spendingLimit cancelPendingStart) s u s') :
    Moves p s.core s'.core := by
  unfold request onCommands at success
  simp only [returns_bind, returns_read] at success
  obtain ⟨existing, s, ⟨-, rfl⟩, success⟩ := success
  cases existing with
  | some =>
    rw [returns_throwIf] at success
    rw [success.2]
  | none =>
    simp only [returns_bind, returns_throwIf, returns_transaction, returns_orThrow, returns_lift,
      returns_focus, lockSession_returns] at success
    obtain ⟨_, _, ⟨-, rfl⟩, q, _, ⟨stored, rfl⟩, _, _, ⟨-, rfl⟩, _, _, ⟨stoppable, rfl⟩, transaction, _,
      ⟨known, rfl⟩, action, _, ⟨-, rfl⟩, actor, _, acting, cmdKey, _, ⟨commands, commanded, rfl⟩, moves⟩ :=
      success
    have same := actorOf_returns acting
    subst same
    obtain ⟨-, t, version, rfl, placed⟩ :=
      ChargingSessionStateMachine.transition_returns moves stored rfl
    have command := Indexed.create_returns commanded
    refine .single (.stopRequested ⟨stored, placed, rfl⟩ ?_ (by rw [known]; rfl) rfl rfl command.fresh
      command.placed rfl rfl rfl rfl)
    rw [not_not] at stoppable
    revert stoppable
    cases q.state <;> simp [RemoteStopService.stoppable, ChargingSessionState.isDelivering]

end RemoteStopService

/-! ### Outcomes -/

namespace CommandOutcomeService

variable {env : Environment} {command : ChargerCommand} {s s' : Store} {u : Unit}

theorem applyStart_moves {p : Permits} {q : ChargingSession}
    (success : Returns (applyStart env command q) s u s')
    (stored : s.sessions.get? command.sessionId = some q) : Moves p s.core s'.core := by
  unfold applyStart at success
  simp only [returns_bind, returns_read, returns_ite, returns_pure] at success
  obtain ⟨_, s, ⟨-, rfl⟩, ⟨-, -, rfl⟩ | ⟨-, ⟨-, saves⟩ |
    ⟨-, ⟨⟨unended, inactive⟩, _, _, saves, _, _, fails, releases⟩ | ⟨-, -, rfl⟩⟩⟩⟩ := success
  · exact .refl
  · obtain ⟨t, rfl, updated⟩ := saveSession_returns saves
    exact .single (.noted ⟨stored, updated.placed stored, rfl⟩ rfl rfl)
  · obtain ⟨t₁, rfl, updated⟩ := saveSession_returns saves
    have row := updated.placed stored
    obtain ⟨allowed, t, version, rfl, moved⟩ :=
      ChargingSessionStateMachine.transition_returns fails row.get rfl
    obtain ⟨_, _, rfl⟩ := ConnectorReservationService.release_returns releases
    refine .single (.withdrawn ⟨stored, row.trans moved, rfl⟩ ?_ (by simp) rfl)
    revert unended inactive allowed
    cases q.state <;> simp [ChargingSessionState.canTransitionTo, ChargingSessionState.successors,
      ChargingSessionState.isAwaiting, ChargingSessionState.isTerminal]
  · exact .refl

theorem applyStop_returns {q : ChargingSession} (success : Returns (applyStop command q) s u s')
    (stored : s.sessions.get? command.sessionId = some q) :
    ((command.state = .rejected ∧ q.state = .stopping ∧
        q.state.canTransitionTo command.expectedSessionState = true) ∧
      ∃ t version, s' = { s with sessions := t } ∧ Indexed.Placed s.sessions t command.sessionId
        { q with state := command.expectedSessionState, aggregateVersion := version }) ∨
    (¬ (command.state = .rejected ∧ q.state = .stopping ∧
        q.state.canTransitionTo command.expectedSessionState = true) ∧ s' = s) := by
  unfold applyStop at success
  rw [returns_ite] at success
  rcases success with ⟨applies, moves⟩ | ⟨other, done⟩
  · obtain ⟨-, t, version, rfl, placed⟩ :=
      ChargingSessionStateMachine.transition_returns moves stored rfl
    exact Or.inl ⟨applies, t, version, rfl, placed⟩
  · rw [returns_pure] at done
    exact Or.inr ⟨other, done.2⟩

theorem apply_returns (success : Returns (apply env command) s u s') :
    ∃ q, s.sessions.get? command.sessionId = some q ∧
      ((command.type = .remoteStart ∧ Returns (applyStart env command q) s u s') ∨
        (command.type = .remoteStop ∧ Returns (applyStop command q) s u s')) := by
  unfold apply at success
  simp only [returns_bind, lockSession_returns] at success
  obtain ⟨q, s, ⟨session, rfl⟩, success⟩ := success
  refine ⟨q, session, ?_⟩
  split at success
  · rename_i type
    exact Or.inl ⟨type, success⟩
  · rename_i type
    exact Or.inr ⟨type, success⟩

theorem apply_moves {p : Permits} {key : Nat} (success : Returns (apply env command) s u s')
    (stored : s.commands.get? key = some command) : Moves p s.core s'.core := by
  obtain ⟨q, session, ⟨-, starts⟩ | ⟨type, stops⟩⟩ := apply_returns success
  · exact applyStart_moves starts session
  · rcases applyStop_returns stops session with ⟨⟨-, stopping, allowed⟩, t, version, rfl, placed⟩ | ⟨-, rfl⟩
    · exact .single (.resumed stored type ⟨session, placed, rfl⟩ stopping allowed rfl rfl)
    · exact .refl

end CommandOutcomeService

namespace ChargerCommandState

theorem unended_next {state next : ChargerCommandState} (unended : state.isTerminal = false)
    (allowed : state.canTransitionTo next = true) :
    state.isLive = true ∧ (next = .rejected ∨ next = .expired ∨ next.isLive = true) := by
  cases state <;> cases next <;> first
    | contradiction
    | simp [isLive]

theorem expired_unsent {state next : ChargerCommandState} (unended : state.isTerminal = false)
    (expired : next = .expired) (allowed : state.canTransitionTo next = true) : state = .requested := by
  subst expired
  cases state <;> first
    | rfl
    | contradiction

end ChargerCommandState

/-- A remote stop that was never sent, whose time is over and whose session waits for it. -/
def StrandedStop (s : Store) (commandId : Nat) (due : ChargerCommand → Prop) : Prop :=
  ∃ command q, s.commands.get? commandId = some command ∧ command.type = .remoteStop ∧
    command.state = .requested ∧ due command ∧
    s.sessions.get? command.sessionId = some q ∧ q.state = .stopping

/-- The tail of a settlement: the command's transition and what it means for the session. -/
def settleCommand (env : Environment) (key : Nat) (command : ChargerCommand)
    (next : ChargerCommandState) : Charge Unit := do
  ChargerCommandStateMachine.transition env key command.state next
  let refreshed ← lockCommand key
  CommandOutcomeService.apply env refreshed

theorem settleCommand_moves {p : Permits} {env : Environment} {key : Nat} {command : ChargerCommand}
    {next : ChargerCommandState} {s s' : Store} {u : Unit} {stranding : Prop}
    (success : Returns (settleCommand env key command next) s u s')
    (stored : s.commands.get? key = some command) (unended : command.state.isTerminal = false)
    (stranded : command.type = .remoteStop → command.state = .requested →
      ∀ q, s.sessions.get? command.sessionId = some q → q.state = .stopping → stranding) :
    (next = .rejected ∧ StopRejection s.core s'.core) ∨
      (next = .expired ∧ StopExpiry stranding s.core s'.core) ∨ Moves p s.core s'.core := by
  unfold settleCommand at success
  simp only [returns_bind, lockCommand_returns] at success
  obtain ⟨_, _, moves, refreshed, s₁, ⟨reloaded, rfl⟩, success⟩ := success
  obtain ⟨allowed, commands, dispatched, acknowledged, rfl, placed, -⟩ :=
    ChargerCommandStateMachine.transition_returns moves stored rfl
  obtain ⟨live, ends⟩ := ChargerCommandState.unended_next unended allowed
  have rewritten : CommandRewritten s.core commands key command refreshed := by
    rw [placed.get] at reloaded
    cases reloaded
    exact ⟨stored, placed, rfl, rfl, rfl⟩
  have reached : refreshed.state = next := by
    rw [placed.get] at reloaded
    cases reloaded
    rfl
  obtain ⟨q, session, ⟨type, starts⟩ | ⟨type, stops⟩⟩ := CommandOutcomeService.apply_returns success
  · refine Or.inr (Or.inr (.trans (.single (.commandMoved rewritten fun stop => ?_))
      (CommandOutcomeService.applyStart_moves starts session)))
    rw [← rewritten.type, type] at stop
    contradiction
  · have isStop : command.type = .remoteStop := rewritten.type.symm.trans type
    have about : refreshed.sessionId = command.sessionId := rewritten.session
    by_cases rejected : next = .rejected
    · refine Or.inl ⟨rejected, ?_⟩
      rcases CommandOutcomeService.applyStop_returns stops session with
        ⟨⟨-, stopping, back⟩, t, version, rfl, resumed⟩ | ⟨other, rfl⟩
      · rw [rewritten.expected] at back
        rw [about] at session resumed
        refine .mk rewritten isStop (reached.trans rejected) ⟨session, resumed, rfl⟩ rfl
          (fun _ _ => rewritten.expected) ?_
        intro other
        exact absurd ⟨stopping, back⟩ other
      · rw [rewritten.expected] at other
        rw [about] at session
        refine .mk (t := s.sessions) rewritten isStop (reached.trans rejected)
          ⟨session, Indexed.Placed.self session, rfl⟩ rfl ?_ (fun _ => rfl)
        intro stopping back
        exact absurd ⟨reached.trans rejected, stopping, back⟩ other
    · rcases CommandOutcomeService.applyStop_returns stops session with ⟨⟨same, -⟩, -⟩ | ⟨-, rfl⟩
      · exact absurd (reached.symm.trans same) rejected
      · refine Or.inr ?_
        rcases ends with same | same | same
        · exact absurd same rejected
        · have unsent : command.state = .requested := ChargerCommandState.expired_unsent unended same allowed
          exact Or.inl ⟨same, .mk rewritten isStop unsent (reached.trans same) (stranded isStop unsent)⟩
        · exact Or.inr (.single (.commandMoved rewritten fun _ => Or.inr ⟨live, by rw [reached]; exact same⟩))

namespace DispatchChargerCommand

variable {p : Permits} {env : Environment} {s s' : Store}

theorem begin_moves {key : Nat} {u : Unit} (success : Returns (begin env key) s u s') :
    StopExpiry (StrandedStop s key fun c => past env c = true) s.core s'.core ∨
      Moves p s.core s'.core := by
  unfold begin at success
  simp only [returns_transaction, returns_bind, returns_ite, returns_pure, lockCommand_returns] at success
  obtain ⟨command, s, ⟨stored, rfl⟩, ⟨-, -, rfl⟩ | ⟨unended, ⟨late, expires⟩ |
    ⟨-, ⟨requested, dispatches⟩ | ⟨-, -, rfl⟩⟩⟩⟩ := success
  · exact Or.inr .refl
  · obtain ⟨allowed, commands, dispatched, acknowledged, rfl, placed, -⟩ :=
      ChargerCommandStateMachine.transition_returns expires stored rfl
    have unsent := ChargerCommandState.expired_unsent (by simpa using unended) rfl allowed
    by_cases stop : command.type = .remoteStop
    · refine Or.inl (.mk ⟨stored, placed, rfl, rfl, rfl⟩ stop unsent rfl ?_)
      intro q session stopping
      exact ⟨command, q, stored, stop, unsent, late, session, stopping⟩
    · exact Or.inr (.single (.commandMoved ⟨stored, placed, rfl, rfl, rfl⟩ fun same => absurd same stop))
  · obtain ⟨-, commands, dispatched, acknowledged, rfl, placed, -⟩ :=
      ChargerCommandStateMachine.transition_returns dispatches stored rfl
    refine Or.inr (.single (.commandMoved ⟨stored, placed, rfl, rfl, rfl⟩ fun _ => Or.inr ⟨?_, rfl⟩))
    rw [requested]
    rfl
  · exact Or.inr .refl

theorem applyTerminal_moves {key : Nat} {u : Unit}
    (success : Returns (applyTerminal env key) s u s') : Moves p s.core s'.core := by
  unfold applyTerminal at success
  simp only [returns_transaction, returns_bind, returns_ite, returns_pure, lockCommand_returns] at success
  obtain ⟨command, s, ⟨stored, rfl⟩, ⟨-, applies⟩ | ⟨-, -, rfl⟩⟩ := success
  · exact CommandOutcomeService.apply_moves applies stored
  · exact .refl

theorem settle_moves {key : Nat} {next : ChargerCommandState}
    {u : Unit} (success : Returns (settle env key next) s u s') (answered : next ≠ .expired) :
    (next = .rejected ∧ StopRejection s.core s'.core) ∨ Moves p s.core s'.core := by
  unfold settle at success
  simp only [returns_transaction, returns_bind, returns_ite, returns_pure, lockCommand_returns] at success
  obtain ⟨command, s, ⟨stored, rfl⟩, ⟨unended, _, _, moves, applies⟩ | ⟨-, -, rfl⟩⟩ := success
  · have settled : Returns (settleCommand env key command next) s u s' := by
      unfold settleCommand
      simp only [returns_bind, lockCommand_returns]
      exact ⟨_, _, moves, applies⟩
    rcases settleCommand_moves (p := p) settled stored unended fun _ _ _ _ _ => trivial with
      rejects | ⟨expired, -⟩ | moves
    · exact Or.inl rejects
    · exact absurd expired answered
    · exact Or.inr moves
  · exact Or.inr .refl

theorem outcomeOf_answered (result : GatewayResult) : outcomeOf result ≠ .expired := by
  have protocol : protocolOutcome result.responseStatus ≠ .expired := by
    unfold protocolOutcome
    cases result.responseStatus.map mbStrToLower with
    | none => simp
    | some =>
      dsimp only
      split <;> simp
  unfold outcomeOf
  cases result.status with
  | completed => exact protocol
  | _ => simp

theorem complete_moves (env : Environment) (key : Nat) (answer : Except Throwable GatewayResult) (s : Store) :
    StopRejection s.core (after (complete env key answer) s).core ∨
      Moves p s.core (after (complete env key answer) s).core := by
  unfold complete
  refine after_tryCatch (P := fun s' : Store => StopRejection s.core s'.core ∨ Moves p s.core s'.core)
    ?_ ?_ ?_
  · refine Atomic.bind (atomic_lift _) (fun s a s' h => ((returns_lift _ _ _ _).mp h).2) fun _ => ?_
    exact atomic_transaction _
  · intro _ s' success
    simp only [returns_bind, returns_lift] at success
    obtain ⟨result, s, ⟨-, rfl⟩, settles⟩ := success
    exact (settle_moves settles (outcomeOf_answered result)).imp_left And.right
  · intro _
    refine after_atomic (P := fun s' : Store => StopRejection s.core s'.core ∨ Moves p s.core s'.core)
      (atomic_transaction _) (Or.inr .refl) ?_
    intro _ s' settles
    exact (settle_moves settles (by simp)).imp_left And.right

end DispatchChargerCommand

namespace ExpireChargingOperations

theorem expireCommand_moves {p : Permits} {env : Environment} {key : Nat} {s s' : Store} {u : Unit}
    (success : Returns (expireCommand env key) s u s') :
    StopExpiry (StrandedStop s key fun c => c.expiresAt ≤ env.now) s.core s'.core ∨
      Moves p s.core s'.core := by
  unfold expireCommand at success
  simp only [returns_transaction, returns_bind, returns_read] at success
  obtain ⟨found, s, ⟨stored, rfl⟩, success⟩ := success
  cases found with
  | none =>
    rw [returns_pure] at success
    rw [success.2]
    exact Or.inr .refl
  | some command =>
    simp only [returns_ite, returns_pure] at success
    rcases success with ⟨-, -, rfl⟩ | ⟨due, success⟩
    · exact Or.inr .refl
    · rw [not_or] at due
      have unended : command.state.isTerminal = false := by simpa using due.1
      have stranded : command.type = .remoteStop → command.state = .requested →
          ∀ q, s.sessions.get? command.sessionId = some q → q.state = .stopping →
            StrandedStop s key fun c => c.expiresAt ≤ env.now :=
        fun stop unsent q session stopping =>
          ⟨command, q, stored.symm, stop, unsent, not_lt.mp due.2, session, stopping⟩
      rcases settleCommand_moves (p := p) success stored.symm unended stranded with
        ⟨rejected, -⟩ | ⟨-, expires⟩ | moves
      · split at rejected <;> contradiction
      · exact Or.inl expires
      · exact Or.inr moves

theorem expireSession_moves {p : Permits} {env : Environment} {key : Nat} {s s' : Store} {u : Unit}
    (success : Returns (expireSession env key) s u s') : Moves p s.core s'.core := by
  unfold expireSession at success
  simp only [returns_transaction, returns_bind, returns_read] at success
  obtain ⟨found, s, ⟨stored, rfl⟩, success⟩ := success
  cases found with
  | none =>
    rw [returns_pure] at success
    rw [success.2]
  | some q =>
    simp only [returns_ite, returns_pure, returns_bind, returns_read] at success
    rcases success with ⟨-, -, rfl⟩ | ⟨due, _, s, ⟨-, rfl⟩, ⟨-, saves⟩ | ⟨-, _, _, expires, _, _, releases,
      revokes⟩⟩
    · exact .refl
    · obtain ⟨t, rfl, updated⟩ := saveSession_returns saves
      exact .single (.noted ⟨stored.symm, updated.placed stored.symm, rfl⟩ rfl rfl)
    · obtain ⟨-, t, version, rfl, placed⟩ :=
        ChargingSessionStateMachine.transition_returns expires stored.symm rfl
      obtain ⟨_, _, rfl⟩ := ConnectorReservationService.release_returns releases
      have awaiting : q.state.isAwaiting = true := by
        simp only [not_or, not_not] at due
        have early := due.1
        revert early
        cases q.state <;> simp [ChargingSessionState.isAwaiting]
      have move : Move p s.core { s.core with sessions := t } :=
        .withdrawn ⟨stored.symm, placed, rfl⟩ awaiting (by simp) rfl
      split at revokes
      · unfold revokeTokens at revokes
        rw [returns_write] at revokes
        rw [revokes]
        exact .single move
      · rw [returns_pure] at revokes
        rw [revokes.2]
        exact .single move

end ExpireChargingOperations
end VtsaCsms.Charging
