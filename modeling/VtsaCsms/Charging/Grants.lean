import VtsaCsms.Charging.Clearing
import VtsaCsms.Charging.PrepaidMoves

/-!
# Reservations and tokens of a start

What a remote start grants until the charger takes it up: a connector kept free for its session
and a token the charger may ask about. `Within` says what must hold of both at every moment,
and each service is shown to keep it.
-/
namespace VtsaCsms.Charging
open Foundation Foundation.Action Assets Tariffs

/-! ### What is granted -/

/-- An open reservation. -/
def Reserves (s : Store) (key : Nat) (r : ConnectorReservation) : Prop :=
  s.reservations.get? key = some r ∧ r.releasedAt = none

/-- A remote start of the session was commanded. -/
def Commanded (s : Store) (key : Nat) : Prop :=
  ∃ k c, s.commands.get? k = some c ∧ c.sessionId = key ∧ c.type = .remoteStart

/-- The session waits for the charger to begin, and no transaction is known of it. -/
def ChargingSession.waits (q : ChargingSession) : Bool :=
  q.state.isAwaiting && q.protocolTransactionId.isNone

/-- A token that admits a driver to the session's station at that time. -/
def Admits (at' : Instant) (s : Store) (token key : Nat) : Prop :=
  ∃ t, s.tokens.get? token = some t ∧ t.sessionId = some key ∧ t.status = "active" ∧
    t.revokedAt = none ∧ at'.toSecond < t.expiresAt

/-- What a step may do that not every step may. -/
structure Scope where
  /-- the time at which tokens are asked about -/
  at' : Instant
  /-- sessions a token may admit to -/
  admits : Nat → Prop
  /-- sessions that may end before their token does -/
  abandons : Nat → Prop
  records : Indexed Nat ChargeDetailRecord ChargeDetailRecord.clash → Prop

structure Within (x : Scope) (s : Store) : Prop where
  /-- A connector is kept free for a session that waits for a start on it. -/
  reserved : ∀ key r, Reserves s key r → ∃ q, s.sessions.get? r.sessionId = some q ∧
    q.connectorId = r.connectorId ∧ q.waits = true ∧ Commanded s r.sessionId
  /-- A token admits to the session it was issued for. -/
  admitted : ∀ token key, Admits x.at' s token key → x.admits key ∧ ∃ q, s.sessions.get? key = some q ∧
    q.authorizationTokenId = some token ∧ (q.state.isTerminal = true → x.abandons key)
  records : x.records s.cdrs

variable {x : Scope} {s s' : Store}

theorem Within.single (within : Within x s) {k k' : Nat} {r r' : ConnectorReservation}
    (open' : Reserves s k r) (other : Reserves s k' r') (same : r.sessionId = r'.sessionId) : k = k' := by
  obtain ⟨q, stored, connector, -, -⟩ := within.reserved k r open'
  obtain ⟨q', stored', connector', -, -⟩ := within.reserved k' r' other
  rw [same, stored'] at stored
  cases stored
  refine s.reservations.unique k k' r r' open'.1 other.1 ?_
  simp [ConnectorReservation.clash, open'.2, other.2, ← connector, ← connector']

/-- The reservations after a release: the session holds none of those that stay open. -/
def Released (s s' : Store) (key : Nat) : Prop :=
  ∀ k r, Reserves s' k r → Reserves s k r ∧ r.sessionId ≠ key

/-- What a session's row must keep for its reservation and its token. -/
structure Keeps (x : Scope) (s s' : Store) (key : Nat) (q q' : ChargingSession) : Prop where
  connector : q'.connectorId = q.connectorId
  token : q'.authorizationTokenId = q.authorizationTokenId
  commands : ∀ k, Commanded s k → Commanded s' k
  reserved : ∀ k r, Reserves s' k r → Reserves s k r ∧
    (r.sessionId = key → q.waits = true → q'.waits = true)
  admitted : ∀ token k, Admits x.at' s' token k → Admits x.at' s token k ∧
    (k = key → q'.state.isTerminal = true → q.state.isTerminal = true ∨ x.abandons key)
  records : x.records s'.cdrs

variable {key : Nat}

theorem Within.rewritten (within : Within x s) {q q' : ChargingSession}
    (stored : s.sessions.get? key = some q) (placed : Indexed.Placed s.sessions s'.sessions key q')
    (keeps : Keeps x s s' key q q') : Within x s' := by
  refine ⟨?_, ?_, keeps.records⟩
  · intro k r open'
    obtain ⟨before, waiting⟩ := keeps.reserved k r open'
    obtain ⟨p, held, connector, waits, commanded⟩ := within.reserved k r before
    by_cases same : r.sessionId = key
    · rw [same, stored] at held
      cases held
      refine ⟨q', by rw [same]; exact placed.get, keeps.connector.trans connector, waiting same waits, ?_⟩
      exact keeps.commands _ commanded
    · exact ⟨p, by rw [placed.other same, held], connector, waits, keeps.commands _ commanded⟩
  · intro token k admits
    obtain ⟨before, ends⟩ := keeps.admitted token k admits
    obtain ⟨mayAdmit, p, held, issued, unended⟩ := within.admitted token k before
    refine ⟨mayAdmit, ?_⟩
    by_cases same : k = key
    · subst same
      rw [stored] at held
      cases held
      refine ⟨q', placed.get, keeps.token.trans issued, ?_⟩
      intro terminal
      rcases ends rfl terminal with earlier | abandoned
      · exact unended earlier
      · exact abandoned
    · exact ⟨p, by rw [placed.other same, held], issued, unended⟩

theorem Within.added (within : Within x s) {q : ChargingSession}
    (fresh : s.sessions.get? key = none) (placed : Indexed.Placed s.sessions s'.sessions key q)
    (commands : ∀ k, Commanded s k → Commanded s' k) (reserved : ∀ k r, Reserves s' k r → Reserves s k r)
    (admitted : ∀ token k, Admits x.at' s' token k → Admits x.at' s token k)
    (records : x.records s'.cdrs) : Within x s' := by
  have old : ∀ {k p}, s.sessions.get? k = some p → s'.sessions.get? k = some p := by
    intro k p held
    have other : k ≠ key := by
      intro same
      rw [same, fresh] at held
      contradiction
    rw [placed.other other, held]
  refine ⟨?_, ?_, records⟩
  · intro k r open'
    obtain ⟨p, held, connector, waits, commanded⟩ := within.reserved k r (reserved k r open')
    exact ⟨p, old held, connector, waits, commands _ commanded⟩
  · intro token k admits
    obtain ⟨mayAdmit, p, held, issued, unended⟩ := within.admitted token k (admitted token k admits)
    exact ⟨mayAdmit, p, old held, issued, unended⟩

theorem Within.ignored (within : Within x s) (sessions : s'.sessions = s.sessions)
    (reservations : s'.reservations = s.reservations) (tokens : s'.tokens = s.tokens)
    (commands : ∀ k, Commanded s k → Commanded s' k) (cdrs : x.records s'.cdrs) : Within x s' := by
  refine ⟨?_, ?_, cdrs⟩
  · intro k r open'
    unfold Reserves at open'
    rw [reservations] at open'
    obtain ⟨p, held, connector, waits, commanded⟩ := within.reserved k r open'
    exact ⟨p, by rw [sessions, held], connector, waits, commands _ commanded⟩
  · intro token k admits
    unfold Admits at admits
    rw [tokens] at admits
    obtain ⟨mayAdmit, p, held, issued, unended⟩ := within.admitted token k admits
    exact ⟨mayAdmit, p, by rw [sessions, held], issued, unended⟩

/-! ### Saves -/

theorem Within.resaved (within : Within x s) {q q' : ChargingSession}
    (stored : s.sessions.get? key = some q) (placed : Indexed.Placed s.sessions s'.sessions key q')
    (others : s' = { s with sessions := s'.sessions, readings := s'.readings, reviews := s'.reviews,
                            connectorStatuses := s'.connectorStatuses })
    (connector : q'.connectorId = q.connectorId) (token : q'.authorizationTokenId = q.authorizationTokenId)
    (waits : q.waits = true → q'.waits = true)
    (unended : q'.state.isTerminal = true → q.state.isTerminal = true) : Within x s' := by
  refine within.rewritten stored placed ⟨connector, token, ?_, ?_, ?_, ?_⟩
  · intro k commanded
    rw [others]
    exact commanded
  · intro k r open'
    rw [others] at open'
    exact ⟨open', fun _ => waits⟩
  · intro t k admits
    rw [others] at admits
    exact ⟨admits, fun _ terminal => Or.inl (unended terminal)⟩
  · rw [others]
    exact within.records

theorem saveSession_within {f : ChargingSession → ChargingSession} {u : Unit}
    (success : Returns (saveSession key f) s u s') (within : Within x s)
    (same : ∀ q, (f q).connectorId = q.connectorId ∧ (f q).authorizationTokenId = q.authorizationTokenId ∧
      (f q).state = q.state ∧ (f q).protocolTransactionId = q.protocolTransactionId) : Within x s' := by
  cases stored : s.sessions.get? key with
  | none =>
    unfold saveSession onSessions at success
    rw [returns_focus] at success
    obtain ⟨t, saved, rfl⟩ := success
    rw [Indexed.update_missing saved stored]
    exact within
  | some q =>
    obtain ⟨t, rfl, updated⟩ := saveSession_returns success
    obtain ⟨connector, token, state, transaction⟩ := same q
    refine within.resaved stored (updated.placed stored) rfl connector token ?_ ?_
    · unfold ChargingSession.waits
      rw [state, transaction]
      exact id
    · rw [state]
      exact id

theorem ConnectorReservationService.release_releases {env : Environment} {reason : String}
    {restore : Bool} {u : Unit} (success : Returns (release env key reason restore) s u s')
    (single : ∀ k k' r r', Reserves s k r → Reserves s k' r' → r.sessionId = r'.sessionId → k = k') :
    Released s s' key := by
  unfold release at success
  simp only [returns_bind, returns_read] at success
  obtain ⟨found, s, ⟨listed, rfl⟩, success⟩ := success
  cases found with
  | none =>
    rw [returns_pure] at success
    obtain ⟨-, rfl⟩ := success
    intro k r open'
    refine ⟨open', ?_⟩
    intro same
    have missed := Indexed.first?_none listed.symm k r open'.1
    simp [same, open'.2] at missed
  | some row =>
    obtain ⟨k₀, r₀⟩ := row
    obtain ⟨stored₀, selected⟩ := Indexed.first?_some listed.symm
    simp only [Bool.and_eq_true, decide_eq_true_eq] at selected
    simp only [returns_bind, returns_read] at success
    obtain ⟨_, s₁, saved, held, _, ⟨-, rfl⟩, success⟩ := success
    obtain ⟨t, rfl, updated⟩ := saveReservation_returns saved
    have placed := updated.placed stored₀
    have closed : Released s { s with reservations := t } key := by
      intro k r open'
      rcases placed.cases open'.1 with ⟨-, rfl⟩ | ⟨other, before⟩
      · exact absurd open'.2 (by simp)
      · refine ⟨⟨before, open'.2⟩, ?_⟩
        intro same
        exact other (single k k₀ r r₀ ⟨before, open'.2⟩ ⟨stored₀, selected.2⟩ (same.trans selected.1.symm))
    rw [returns_ite] at success
    rcases success with ⟨-, success⟩ | ⟨-, success⟩
    · rw [returns_pure] at success
      rw [success.2]
      exact closed
    · simp only [returns_bind, returns_read] at success
      obtain ⟨status, _, ⟨-, rfl⟩, success⟩ := success
      cases status with
      | none =>
        rw [returns_pure] at success
        rw [success.2]
        exact closed
      | some =>
        dsimp only at success
        rw [returns_ite] at success
        rcases success with ⟨-, success⟩ | ⟨-, success⟩
        · obtain ⟨-, statuses, rfl⟩ := ConnectorAvailabilityStateMachine.transition_returns success
          exact closed
        · rw [returns_pure] at success
          rw [success.2]
          exact closed

/-! ### Events -/

namespace OcppEventConsumer

variable {connector : ConnectorSnapshot} {sourceAt : Instant} {env : Environment} {e : Envelope} {data : Mixed}
  {u : Unit}

theorem holder_waits {transactionId : String} {key : Nat}
    {q : ChargingSession} (held : holder s connector transactionId = some (key, q)) : q.waits = false := by
  unfold ChargingSession.waits
  rw [(holder_some held).2.2.2]
  simp

theorem measuredFrom_grants {q q' : ChargingSession}
    (measured : MeasuredFrom sourceAt q q') : q'.connectorId = q.connectorId ∧
      q'.authorizationTokenId = q.authorizationTokenId ∧ q'.state = q.state ∧
      q'.protocolTransactionId = q.protocolTransactionId := by
  rcases measured with rfl | ⟨m, rfl⟩
  · exact ⟨rfl, rfl, rfl, rfl⟩
  · exact ⟨rfl, rfl, rfl, rfl⟩

theorem start_released (success : Returns (start env connector e data sourceAt) s u s')
    (within : Within x s) {T : String} (identified : transactionId data = .ok T) :
    Released s s' (selected env s connector T sourceAt).1 := by
  unfold start at success
  simp only [returns_bind, returns_lift, lockSession_returns] at success
  obtain ⟨T', s, ⟨identified', rfl⟩, key, _, finds, q, _, ⟨stored, rfl⟩, authorization, _,
    ⟨-, rfl⟩, _, _, saves, _, _, enters, _, _, moves, _, _, releases, _, _, occupies, success⟩ := success
  rw [identified] at identified'
  cases identified'
  obtain ⟨rfl, t₀, rfl, chosen⟩ := sessionForStart_returns finds
  rw [chosen.get] at stored
  cases stored
  obtain ⟨t₁, rfl, updated⟩ := saveSession_returns saves
  have row₁ := chosen.update updated
  obtain ⟨-, t₂, _, rfl, row₂⟩ := ChargingSessionStateMachine.transition_returns enters row₁.get rfl
  obtain ⟨-, t₃, version, rfl, row₃⟩ := ChargingSessionStateMachine.transition_returns moves row₂.get rfl
  have released := ConnectorReservationService.release_releases releases fun _ _ _ _ => within.single
  obtain ⟨reservations, _, rfl⟩ := ConnectorReservationService.release_returns releases
  obtain ⟨statuses, rfl⟩ := setConnectorStatus_returns occupies
  obtain ⟨t, readings, q', rfl, -⟩ := samples_returns success row₃.get
  exact released

theorem stop_released (success : Returns (stop env connector e data sourceAt) s u s')
    (within : Within x s) {k : Nat} {r : ConnectorReservation} (open' : Reserves s' k r) :
    Reserves s k r := by
  obtain ⟨_, _, _, _, _, _, _, _, _, -, -, -, -, -, -, releases, generates⟩ := stop_steps success
  have released := ConnectorReservationService.release_releases releases fun _ _ _ _ => within.single
  obtain ⟨_, _, _, _, _, _, -, rfl, -⟩ := ChargeDetailRecordGenerator.generate_returns generates
  exact (released k r open').1

theorem start_within (success : Returns (start env connector e data sourceAt) s u s')
    (within : Within x s) : Within x s' := by
  obtain ⟨T, authorization, t, statuses, reservations, readings, version, q', identified, -, -, rfl, placed,
    measured⟩ := start_returns success
  have released := start_released success within identified
  obtain ⟨connector', token, state, -⟩ := measuredFrom_grants measured
  rcases selected_cases env s connector T sourceAt with stored | ⟨fresh, -⟩
  · refine within.rewritten stored placed ⟨connector', token, fun _ => id, ?_, ?_, within.records⟩
    · intro k r open'
      obtain ⟨before, other⟩ := released k r open'
      exact ⟨before, fun same => absurd same other⟩
    · intro token k admits
      refine ⟨admits, fun _ terminal => ?_⟩
      rw [state] at terminal
      contradiction
  · exact within.added fresh placed (fun _ => id) (fun k r open' => (released k r open').1)
      (fun _ _ => id) within.records

theorem reached_terminal {state target : ChargingSessionState} (delivering : target.isDelivering = true)
    (terminal : (reached (entered state) target).isTerminal = true) : state.isTerminal = true := by
  unfold reached at terminal
  split at terminal
  · cases target <;> contradiction
  · cases state <;> first
      | rfl
      | contradiction

theorem updated_within (success : Returns (updated env connector e data sourceAt) s u s')
    (within : Within x s) : Within x s' := by
  obtain ⟨T, word, t, readings, version, q', -, -, rfl, placed, measured, -⟩ := updated_returns success
  obtain ⟨connector', token, state, -⟩ := measuredFrom_grants measured
  rcases located_cases env s connector T sourceAt with held | ⟨fresh, -⟩
  · refine within.resaved (holder_some held).1 placed rfl connector' token ?_ ?_
    · intro waits
      rw [holder_waits held] at waits
      contradiction
    · intro terminal
      rw [state] at terminal
      exact reached_terminal (updatedTarget_delivering _) terminal
  · exact within.added fresh placed (fun _ => id) (fun _ _ => id) (fun _ _ => id) within.records

theorem meterValues_within {receivedAt : Instant}
    (success : Returns (meterValues env connector e data receivedAt) s u s') (within : Within x s) :
    Within x s' := by
  obtain ⟨key, q, m, flags, t, readings, -, stored, rfl, placed⟩ := meterValues_returns success
  exact within.resaved stored placed rfl rfl rfl id id

theorem stop_within (success : Returns (stop env connector e data sourceAt) s u s')
    (within : Within x s) (records : ∀ t, x.records t)
    (clears : ∀ key, Clears env connector e data sourceAt s key → x.abandons key) : Within x s' := by
  obtain ⟨T, key, q, m, version, t, statuses, reservations, readings, cdrs, q', cdrKey, c, identified, held,
    -, rfl, placed, -, -, -, -, outcome⟩ := stop_returns success
  have released := fun k r => stop_released (k := k) (r := r) success within
  have columns : q'.connectorId = q.connectorId ∧ q'.authorizationTokenId = q.authorizationTokenId := by
    rcases outcome with ⟨-, _, _, rfl, -, -⟩ | ⟨-, _, _, _, rfl, -⟩
    · exact ⟨rfl, rfl⟩
    · exact ⟨rfl, rfl⟩
  refine within.rewritten (holder_some held).1 placed ⟨columns.1, columns.2, fun _ => id, ?_, ?_, records _⟩
  · intro k r open'
    refine ⟨released k r open', fun _ waits => ?_⟩
    rw [holder_waits held] at waits
    contradiction
  · intro token k admits
    refine ⟨admits, fun _ terminal => Or.inr ?_⟩
    by_contra kept
    have unclear : ∀ key', ¬ Clears env connector e data sourceAt s key' := by
      intro key' cleared
      have ends := clears key' cleared
      obtain ⟨T', q₀, _, _, identified', held', -⟩ := cleared
      rw [identified] at identified'
      cases identified'
      rw [held] at held'
      cases held'
      exact kept ends
    obtain ⟨T', key', _, t', _, _, _, _, q'', _, _, identified', held', same, placed', -, -, review, -⟩ :=
      stop_blocked success unclear
    rw [identified] at identified'
    cases identified'
    rw [held] at held'
    cases held'
    have tables : t = t' := congrArg Store.sessions same
    subst tables
    have rows := placed.get.symm.trans placed'.get
    cases rows
    rw [review] at terminal
    contradiction

theorem handler_within {occurredAt : Instant} {evidence : Evidence}
    (success : Returns (evidence.handler env connector e data occurredAt sourceAt) s u s')
    (within : Within x s) (records : ∀ t, x.records t)
    (clears : ∀ key, evidence = .stop → Clears env connector e data sourceAt s key → x.abandons key) :
    Within x s' := by
  cases evidence with
  | start => exact start_within success within
  | stop => exact stop_within success within records fun key cleared => clears key rfl cleared
  | updated => exact updated_within success within
  | meterValues => exact meterValues_within success within
  | status =>
    obtain ⟨_, rfl⟩ := status_returns success
    exact within.ignored rfl rfl rfl (fun _ => id) within.records

theorem consume_within (env : Environment) (event : Mixed) (within : Within x s) (records : ∀ t, x.records t)
    (completes : ∀ key, Completes env s event key → x.abandons key) :
    Within x (after (consume env event) s) := by
  rcases consume_cases env event s with ⟨_, _, same⟩ | ⟨e, data, action, s₁, s₂, _, a, taken, run, same⟩
  · rw [same]
    exact within.ignored rfl rfl rfl (fun _ => id) within.records
  · have entry : Within x s₁ := by
      obtain ⟨_, _, rfl⟩ := taken.rows
      exact within.ignored rfl rfl rfl (fun _ => id) within.records
    have handled : Within x s₂ := by
      refine handler_within run entry records ?_
      intro key stop cleared
      exact completes key ⟨e, data, action, s₁, a, taken, stop, cleared⟩
    rw [same]
    exact handled.ignored rfl rfl rfl (fun _ => id) handled.records

end OcppEventConsumer

/-! ### Cancelling and reviewing -/

/-- The session has not ended and may still be cancelled. -/
def SessionLifecycleService.Cancels (q : ChargingSession) : Prop :=
  q.state.isTerminal = false ∧ q.state.isPhysicallyActive = false ∧ q.startedAt = none ∧
    q.state.canTransitionTo .cancelled = true

theorem SessionLifecycleService.cancel_within {env : Environment} {key : Nat} {reason : String} {u : Unit}
    (success : Returns (cancel env key reason) s u s') (within : Within x s)
    (abandoned : ∀ token, Admits x.at' s token key → ∀ q, s.sessions.get? key = some q → Cancels q →
      x.abandons key) : Within x s' := by
  have released : Released s s' key := by
    unfold cancel at success
    simp only [returns_transaction, returns_bind, returns_throwIf, lockSession_returns] at success
    obtain ⟨q, _, ⟨stored, rfl⟩, _, s, ⟨-, rfl⟩, _, _, saved, _, _, cancelled, releases⟩ := success
    obtain ⟨t₁, rfl, updated⟩ := saveSession_returns saved
    obtain ⟨-, t₂, version, rfl, -⟩ :=
      ChargingSessionStateMachine.transition_returns cancelled (updated.placed stored).get rfl
    have released := ConnectorReservationService.release_releases releases fun _ _ _ _ => within.single
    exact released
  obtain ⟨q, t, remarks, reservations, statuses, stored, inactive, unstarted, allowed, rfl, placed⟩ :=
    cancel_returns success
  refine within.rewritten stored placed ⟨rfl, rfl, fun _ => id, ?_, ?_, within.records⟩
  · intro k r open'
    obtain ⟨before, other⟩ := released k r open'
    exact ⟨before, fun same => absurd same other⟩
  · intro token k admits
    refine ⟨admits, ?_⟩
    rintro rfl -
    cases terminal : q.state.isTerminal with
    | true => exact Or.inl rfl
    | false => exact Or.inr (abandoned token admits q stored ⟨terminal, inactive, unstarted, allowed⟩)

namespace ManualSessionReviewService

theorem openReview_within {env : Environment} {key : Nat} {reasonCode : String} {notes : Option String}
    {u : Unit} (success : Returns (openReview env key reasonCode notes) s u s') (within : Within x s) :
    Within x s' := by
  unfold openReview at success
  simp only [returns_transaction, returns_bind, returns_ite, returns_throwIf, returns_write,
    lockSession_returns] at success
  obtain ⟨q, s, ⟨stored, rfl⟩, ⟨finalizing, _, _, moves, rfl⟩ | ⟨-, _, _, ⟨-, rfl⟩, rfl⟩⟩ := success
  · obtain ⟨-, t, version, rfl, placed⟩ := ChargingSessionStateMachine.transition_returns moves stored rfl
    refine within.resaved stored placed rfl rfl rfl ?_ ?_
    · unfold ChargingSession.waits
      rw [finalizing]
      exact id
    · intro terminal
      exact absurd terminal (by simp [ChargingSessionState.isTerminal])
  · exact within.ignored rfl rfl rfl (fun _ => id) within.records

theorem resolve_within (env : Environment) (key : Nat) (decision notes : String) (adjustments : Adjustments)
    (within : Within x s) (records : ∀ t, x.records t)
    (abandoned : ∀ q, s.sessions.get? key = some q → q.state = .reviewRequired →
      decision ∈ ["complete", "estimated", "unbillable"] →
      adjustments.values.any (fun v => v < 0) = false → x.abandons key) :
    Within x (after (resolve env key decision notes adjustments) s) := by
  unfold resolve
  refine after_bind (atomic_throwIf _ _) within ?_
  intro _ s₁ decided
  obtain ⟨supported, rfl⟩ := (returns_throwIf _ _ _ _ _).mp decided
  refine after_bind (atomic_throwIf _ _) within ?_
  intro _ s₂ bounded
  obtain ⟨nonnegative, rfl⟩ := (returns_throwIf _ _ _ _ _).mp bounded
  refine after_bind (atomic_transaction _) within ?_
  intro _ s₃ resolved
  simp only [returns_transaction, returns_bind, returns_throwIf, returns_write, lockSession_returns]
    at resolved
  obtain ⟨q, _, ⟨stored, rfl⟩, _, s₂, ⟨waiting, rfl⟩, reviewed, _, found, _, _, saves, rfl⟩ := resolved
  have review : q.state = .reviewRequired := by simpa using waiting
  obtain ⟨reviews, rfl⟩ := reviewKey_returns found
  obtain ⟨t, rfl, updated⟩ := saveSession_returns saves
  have adjusted := updated.placed stored
  have resolving : ∀ reviews', Within x { s₂ with sessions := t, reviews := reviews' } := fun reviews' =>
    within.resaved stored adjusted rfl rfl rfl id id
  refine after_atomic (atomic_transaction _) (resolving _) ?_
  intro _ s₄ generated
  obtain ⟨q₁, t₁, cdrs, q', cdrKey, c, stored₁, rfl, placed, -, -, -, -, outcome⟩ :=
    ChargeDetailRecordGenerator.generate_returns generated
  rw [adjusted.get] at stored₁
  cases stored₁
  rcases outcome with ⟨contra, -⟩ | ⟨-, _, _, _, rfl, -⟩
  · contradiction
  · refine (resolving _).rewritten adjusted.get placed ⟨rfl, rfl, fun _ => id, ?_, ?_, records _⟩
    · intro k r open'
      refine ⟨open', fun _ waits => ?_⟩
      have idle : q.waits = true := waits
      unfold ChargingSession.waits at idle
      rw [review] at idle
      contradiction
    · intro token k admits
      refine ⟨admits, fun _ _ => Or.inr (abandoned q stored review (not_not.mp supported) ?_)⟩
      exact Bool.eq_false_iff.mpr nonnegative

end ManualSessionReviewService

end VtsaCsms.Charging
