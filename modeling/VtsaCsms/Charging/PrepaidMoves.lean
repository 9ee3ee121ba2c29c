import VtsaCsms.Billing.WalletConservation
import VtsaCsms.Charging.CommandMoves
import VtsaCsms.Charging.System

/-!
# Prepaid charging makes lifecycle moves

The customer's start and cancellation and the monitor's reconciliation. Every settlement
names its cause: a captured record, or a session that ended before it started.
-/
namespace VtsaCsms.Charging
open Foundation Foundation.Action Billing

theorem customerOf_some {s : Store} {key customerKey : Nat} {owner : CustomerChargingSession}
    (found : customerOf s key = some (customerKey, owner)) :
    s.customers.get? customerKey = some owner ∧ owner.sessionId = key := by
  have hit := Indexed.first?_some found
  exact ⟨hit.1, by simpa using hit.2⟩

theorem saveSession_moves {p : Permits} {key : Nat} {f : ChargingSession → ChargingSession}
    {s s' : Store} {u : Unit} (success : Returns (saveSession key f) s u s')
    (identity : ∀ q, (f q).identity = q.identity) (standing : ∀ q, (f q).standing = q.standing)
    (measures : ∀ q, (f q).measures = q.measures) : Moves p s.core s'.core := by
  cases stored : s.sessions.get? key with
  | some q =>
    obtain ⟨t, rfl, updated⟩ := saveSession_returns success
    exact .single (.noted ⟨stored, updated.placed stored, identity q⟩ (standing q) (measures q))
  | none =>
    unfold saveSession onSessions at success
    rw [returns_focus] at success
    obtain ⟨t, saved, rfl⟩ := success
    rw [Indexed.update_missing saved stored]

namespace PrepaidChargingMonitor

/-- The stored customer is the one in hand, but for how the payment stands. -/
def Holds (s : Store) (customerKey : Nat) (owner : CustomerChargingSession) : Prop :=
  ∃ payment, s.customers.get? customerKey = some { owner with paymentState := payment }

variable {s s' : Store} {customerKey key : Nat} {owner : CustomerChargingSession} {p : Permits} {u : Unit}
  {env : Environment} {session : ChargingSession}

theorem Holds.of_stored (stored : s.customers.get? customerKey = some owner) : Holds s customerKey owner :=
  ⟨owner.paymentState, stored⟩

theorem requireAction_returns (success : Returns (requireAction customerKey) s u s')
    (holds : Holds s customerKey owner) :
    Moves p s.core s'.core ∧ s'.sessions = s.sessions ∧ s'.cdrs = s.cdrs ∧
      Holds s' customerKey owner := by
  obtain ⟨payment, stored⟩ := holds
  obtain ⟨t, rfl, updated⟩ := saveCustomer_returns success
  have placed := updated.placed stored
  exact ⟨.single (.alerted ⟨stored, placed, rfl, rfl, rfl⟩ rfl), rfl, rfl, .requiresAction, placed.get⟩

theorem settleHold_moves {q : ChargingSession} {spent : Int} {payment : PaymentState}
    (success : Returns (settleHold env key customerKey owner spent payment) s u s')
    (holds : Holds s customerKey owner) (session : owner.sessionId = key)
    (unsettled : owner.settledAt = none) (stored : s.sessions.get? key = some q)
    (cause : SettlementCause s.core owner q spent) : Moves p s.core s'.core := by
  obtain ⟨earlier, kept⟩ := holds
  unfold settleHold onWallet at success
  simp only [returns_bind, returns_focus] at success
  obtain ⟨_, _, ⟨wallet, paid, rfl⟩, saves⟩ := success
  obtain ⟨t, rfl, updated⟩ := saveCustomer_returns saves
  subst session
  have same : SettlementCause s.core { owner with paymentState := earlier } q spent := by
    cases cause with
    | captured state outcome record budget => exact .captured state outcome record budget
    | released nothing state unstarted => exact .released nothing state unstarted
  exact .single (.settled ⟨kept, updated.placed kept, rfl, rfl, rfl⟩ unsettled (by simp) stored paid same)

/-- An idle start that is confirmed is cancelled, and had not started; else nothing happens. -/
theorem cancelConfirmedIdleStart_returns {cancelled : Bool}
    (success : Returns (cancelConfirmedIdleStart env key session) s cancelled s') :
    (cancelled = false ∧ s' = s) ∨ (cancelled = true ∧ Moves p s.core s'.core ∧ s'.customers = s.customers ∧
      ∃ q, s'.sessions.get? key = some q ∧ q.state = .cancelled ∧ q.startedAt = none) := by
  unfold cancelConfirmedIdleStart at success
  simp only [returns_bind, returns_read] at success
  obtain ⟨command, s, ⟨-, rfl⟩, success⟩ := success
  cases deadline : session.startDeadlineAt with
  | none =>
    rw [deadline] at success
    simp only [returns_pure] at success
    exact Or.inl ⟨success.1, success.2⟩
  | some =>
    cases command with
    | none =>
      rw [deadline] at success
      simp only [returns_pure] at success
      exact Or.inl ⟨success.1, success.2⟩
    | some =>
      rw [deadline] at success
      simp only [returns_bind, returns_read, returns_ite, returns_pure] at success
      obtain ⟨_, s, ⟨-, rfl⟩, ⟨-, _, s₁, revokes, _, _, cancels, rfl, rfl⟩ | ⟨-, rfl, rfl⟩⟩ := success
      · unfold revokeTokens at revokes
        rw [returns_write] at revokes
        subst revokes
        have moves := SessionLifecycleService.cancel_moves (p := p) cancels
        obtain ⟨q, t, remarks, _, _, -, -, unstarted, -, rfl, placed⟩ :=
          SessionLifecycleService.cancel_returns cancels
        exact Or.inr ⟨rfl, moves, rfl, _, placed.get, rfl, unstarted⟩
      · exact Or.inl ⟨rfl, rfl⟩

theorem capturable_some {budgetMinor total : Int}
    {cdr : ChargeDetailRecord} (captures : capturable session budgetMinor cdr = some total) :
    cdr.totalMinor = some total ∧ total ≤ budgetMinor ∧
      session.finalizationOutcome = some "complete" := by
  unfold capturable at captures
  rw [Option.filter_eq_some_iff] at captures
  simp only [Bool.and_eq_true, decide_eq_true_eq] at captures
  exact ⟨captures.1, captures.2.1.2, captures.2.2⟩

theorem capture_moves (success : Returns (capture env key customerKey session owner) s u s')
    (holds : Holds s customerKey owner) (about : owner.sessionId = key)
    (unsettled : owner.settledAt = none) (stored : s.sessions.get? key = some session)
    (completed : session.state = .completed) : Moves p s.core s'.core := by
  unfold capture at success
  simp only [returns_bind, returns_read] at success
  obtain ⟨cdr, s, ⟨latest, rfl⟩, success⟩ := success
  cases captures : cdr.bind fun row => capturable session owner.budgetMinor row.2 with
  | none =>
    rw [captures] at success
    exact (requireAction_returns success holds).1
  | some =>
    rw [captures] at success
    rw [Option.bind_eq_some_iff] at captures
    obtain ⟨⟨cdrKey, record⟩, found, captures⟩ := captures
    rw [found] at latest
    obtain ⟨kept, session', finalized, highest⟩ :=
      (ChargeDetailRecordGenerator.latestFinalized_iff _ _ _ _).mp latest.symm
    obtain ⟨charged, within, outcome⟩ := capturable_some captures
    refine settleHold_moves success holds about unsettled stored
      (.captured completed outcome ⟨cdrKey, record, ?_, charged⟩ within)
    rw [about]
    exact ⟨kept, session', finalized, highest⟩

theorem releaseUnstarted_moves (success : Returns (releaseUnstarted env key customerKey owner) s u s')
    (holds : Holds s customerKey owner) (about : owner.sessionId = key)
    (unsettled : owner.settledAt = none) (stored : s.sessions.get? key = some session)
    (ended : session.state ∈ [.failed, .cancelled, .expired]) (unstarted : session.startedAt = none) :
    Moves p s.core s'.core := by
  unfold releaseUnstarted at success
  simp only [returns_bind, returns_read, returns_ite] at success
  obtain ⟨_, s, ⟨-, rfl⟩, ⟨-, settles⟩ | ⟨-, alerts⟩⟩ := success
  · exact settleHold_moves settles holds about unsettled stored (.released rfl ended unstarted)
  · exact (requireAction_returns alerts holds).1

theorem watchBudget_moves {startedAt : Instant}
    (success : Returns (watchBudget env key customerKey session owner startedAt) s u s')
    (holds : Holds s customerKey owner) : Moves p s.core s'.core := by
  unfold watchBudget at success
  simp only [returns_bind, returns_read, returns_lift, returns_ite, returns_pure] at success
  obtain ⟨_, _, ⟨-, rfl⟩, _, s, ⟨-, rfl⟩, ⟨-, -, rfl⟩ | ⟨-, _, _, ⟨-, rfl⟩, ⟨-, alerts⟩ | ⟨-, stops⟩⟩⟩ :=
    success
  · exact .refl
  · exact (requireAction_returns alerts holds).1
  · exact RemoteStopService.request_moves stops

theorem stopWithdrawn_moves (success : Returns (stopWithdrawn env key customerKey session) s u s')
    (holds : Holds s customerKey owner) : Moves p s.core s'.core := by
  unfold stopWithdrawn at success
  simp only [returns_bind, returns_read, returns_ite] at success
  obtain ⟨_, s, ⟨-, rfl⟩, ⟨-, alerts⟩ | ⟨-, stops⟩⟩ := success
  · exact (requireAction_returns alerts holds).1
  · exact RemoteStopService.request_moves stops

theorem reconcile_moves (success : Returns (reconcile env key) s u s') : Moves p s.core s'.core := by
  unfold reconcile at success
  simp only [returns_transaction, returns_bind, returns_read, returns_orThrow, lockSession_returns]
    at success
  obtain ⟨session, _, ⟨stored, rfl⟩, _, _, ⟨rfl, rfl⟩, ⟨customerKey, owner⟩, s, ⟨found, rfl⟩, success⟩ :=
    success
  obtain ⟨kept, about⟩ := customerOf_some found
  simp only [returns_ite, returns_pure, returns_bind, ne_eq] at success
  rcases success with ⟨-, -, rfl⟩ | ⟨settled, cancelled, s₁, cancels, success⟩
  · exact .refl
  have unsettled : owner.settledAt = none := not_not.mp settled
  rcases cancelConfirmedIdleStart_returns (p := p) cancels with
    ⟨rfl, rfl⟩ | ⟨rfl, moves, customers, q, cancelled, state, unstarted⟩
  · obtain ⟨impossible, -⟩ | ⟨-, alert, _, ⟨-, rfl⟩, _, s₂, alerts, success⟩ := success
    · contradiction
    -- whether the payment is marked or not, session and customer are those in hand
    obtain ⟨marked, sessions, holds⟩ : Moves p s₁.core s₂.core ∧ s₂.sessions = s₁.sessions ∧
        Holds s₂ customerKey owner := by
      rw [returns_doIf] at alerts
      rcases alerts with ⟨-, alerts⟩ | ⟨-, rfl⟩
      · obtain ⟨marked, sessions, -, holds⟩ := requireAction_returns alerts (.of_stored kept)
        exact ⟨marked, sessions, holds⟩
      · exact ⟨.refl, rfl, .of_stored kept⟩
    rw [← sessions] at stored
    refine marked.trans ?_
    obtain ⟨completed, captures⟩ | ⟨-, ⟨ended, releases⟩ | ⟨-, ⟨-, stops⟩ | ⟨-, watches⟩⟩⟩ := success
    · exact capture_moves captures holds about unsettled stored completed
    · exact releaseUnstarted_moves releases holds about unsettled stored ended.1 ended.2
    · exact stopWithdrawn_moves stops holds
    · cases started : session.startedAt with
      | none =>
        rw [started] at watches
        simp only [returns_pure] at watches
        rw [watches.2]
      | some =>
        rw [started] at watches
        simp only [returns_ite, returns_pure] at watches
        rcases watches with ⟨-, watches⟩ | ⟨-, -, rfl⟩
        · exact watchBudget_moves watches holds
        · exact .refl
  · obtain ⟨-, settles⟩ | ⟨uncancelled, -⟩ := success
    · refine moves.trans (settleHold_moves settles ?_ about unsettled cancelled
        (.released rfl (by rw [state]; simp) unstarted))
      exact .of_stored (by rw [customers]; exact kept)
    · exact absurd rfl uncancelled

end PrepaidChargingMonitor

namespace CustomerCharging

variable {env : Environment} {subject : String} {s s' : Store}

theorem owned_returns {sessionId : Nat}
    {q : ChargingSession} (success : Returns (owned env subject sessionId) s q s') : s' = s := by
  unfold owned at success
  simp only [returns_bind, returns_read, returns_orThrow, returns_ite, returns_throwIf, returns_lift,
    lockSession_returns] at success
  obtain ⟨_, _, ⟨-, rfl⟩, _, _, ⟨-, rfl⟩, ⟨-, _, _, ⟨-, rfl⟩, -, rfl⟩ | ⟨-, _, _, ⟨-, rfl⟩, -, rfl⟩⟩ :=
    success
  · rfl
  · rfl

theorem isActive_false (idle : isActive s subject = false) :
    ∀ k other q, s.customers.get? k = some other → other.subjectId = subject →
      s.sessions.get? other.sessionId = some q → other.settledAt ≠ none ∧ q.state.isTerminal = true := by
  intro k other q stored same session
  by_contra active
  have found : isActive s subject = true := by
    unfold isActive
    rw [Indexed.exists?_iff]
    refine ⟨k, other, stored, ?_⟩
    rw [session]
    simp only [same, decide_true, Bool.true_and, Option.any_some, Bool.or_eq_true, Bool.not_eq_true',
      decide_eq_true_eq]
    rw [not_and_or, not_not, Bool.not_eq_true] at active
    exact active.symm
  rw [idle] at found
  contradiction

theorem customer_single {index : String} {owner : CustomerChargingSession} {key : Nat}
    {t t' : Indexed Nat CustomerChargingSession CustomerChargingSession.clash}
    (success : Returns (Indexed.create index owner) t key t') :
    ∀ k other, t.get? k = some other → other.sessionId ≠ owner.sessionId := by
  intro k other stored same
  have clashing : t.clashes t.nextId owner = true := by
    rw [Indexed.clashes_iff]
    refine ⟨k, other, stored, (Indexed.lt_nextId stored).ne, Or.inl ?_⟩
    simp [CustomerChargingSession.clash, same]
  rw [Indexed.create_tolerated success] at clashing
  contradiction

theorem start_moves {p : Permits} {quoteId : Nat}
    {connectorId key : String} {selectedAccount : Option String} {sessionId : Nat}
    (success : Returns (start env subject quoteId connectorId key selectedAccount) s sessionId s') :
    Moves p s.core s'.core := by
  unfold start at success
  simp only [returns_transaction, returns_bind, returns_read] at success
  obtain ⟨existing, s, ⟨-, rfl⟩, success⟩ := success
  cases existing with
  | some =>
    simp only [returns_bind, returns_throwIf, returns_pure] at success
    obtain ⟨_, _, ⟨-, rfl⟩, _, _, own, _, _, ⟨-, rfl⟩, -, rfl⟩ := success
    rw [owned_returns own]
  | none =>
    simp only [returns_bind, returns_read, returns_throwIf, returns_orThrow, returns_lift, returns_pure]
      at success
    obtain ⟨busy, _, ⟨idle, rfl⟩, _, _, ⟨free, rfl⟩, _, _, ⟨-, rfl⟩, quote, _, ⟨-, rfl⟩, _, s,
      ⟨-, rfl⟩, _, _, ⟨-, rfl⟩, id, s₁, begins, _, s₂, priced, _, s₃, reserves, _, s', creates, rfl, rfl⟩ :=
      success
    obtain ⟨moves, customers, others, commanded⟩ := RemoteStartService.request_moves (p := p) begins
    have noted := saveSession_moves (p := p) priced (fun _ => rfl) (fun _ => rfl) fun _ => rfl
    obtain ⟨t, rfl, updated⟩ := saveSession_returns priced
    unfold onWallet at reserves
    rw [returns_focus] at reserves
    obtain ⟨wallet, held, rfl⟩ := reserves
    unfold onCustomers at creates
    rw [returns_focus] at creates
    obtain ⟨table, inserted, rfl⟩ := creates
    have created := Indexed.create_returns inserted
    have single : ∀ k other, s₁.customers.get? k = some other → other.sessionId ≠ sessionId :=
      customer_single inserted
    refine moves.trans (noted.trans (.single (.prepaid created.fresh created.placed rfl single ?_ commanded held)))
    intro k other q stored same session
    rw [idle, Bool.not_eq_true] at free
    refine isActive_false free k other q (by rw [← customers]; exact stored) same ?_
    have different := single k other stored
    rw [← others _ different, ← session]
    exact (by rw [updated, if_neg different] : t.get? other.sessionId = _).symm

theorem remoteStartOf_some {sessionId key : Nat} {command : ChargerCommand}
    (found : remoteStartOf s sessionId = some (key, command)) :
    s.commands.get? key = some command ∧ command.sessionId = sessionId ∧ command.type = .remoteStart := by
  have hit := Indexed.first?_some found
  simp only [Bool.and_eq_true, decide_eq_true_eq] at hit
  exact hit

theorem withdraw_moves {p : Permits} {id commandKey : Nat}
    {command : ChargerCommand} {session : ChargingSession} {reason : Option String}
    {u : Unit} (success : Returns (withdraw env id commandKey command session reason) s u s')
    (stored : s.commands.get? commandKey = some command) (start : command.type = .remoteStart) :
    Moves p s.core s'.core := by
  unfold withdraw revokeTokens at success
  simp only [returns_bind, returns_doIf, returns_write] at success
  obtain ⟨_, s₁, revoked, success⟩ := success
  have same : s₁.core = s.core ∧ s₁.commands = s.commands := by
    rcases revoked with ⟨-, rfl⟩ | ⟨-, rfl⟩
    · exact ⟨rfl, rfl⟩
    · exact ⟨rfl, rfl⟩
  rw [← same.1]
  rw [← same.2] at stored
  simp only [returns_ite, returns_bind, returns_pure] at success
  rcases success with ⟨-, _, _, expires, cancels⟩ | ⟨-, ⟨-, saves⟩ | ⟨-, -, rfl⟩⟩
  · obtain ⟨-, commands, dispatched, acknowledged, rfl, placed, -⟩ :=
      ChargerCommandStateMachine.transition_returns expires stored rfl
    have expired : Move p s₁.core { s₁.core with commands := commands } :=
      .commandMoved ⟨stored, placed, rfl, rfl, rfl⟩ fun stop => by
        rw [start] at stop
        contradiction
    exact .trans (.single expired) (SessionLifecycleService.cancel_moves cancels)
  · exact saveSession_moves saves (fun _ => rfl) (fun _ => rfl) fun _ => rfl
  · exact .refl

theorem cancel_moves {p : Permits} {id : Nat} {reason : Option String} {u : Unit}
    (success : Returns (cancel env subject id reason) s u s') : Moves p s.core s'.core := by
  unfold cancel at success
  simp only [returns_transaction, returns_bind] at success
  obtain ⟨first, s₁, own, success⟩ := success
  have same := owned_returns own
  subst same
  simp only [returns_ite, returns_pure, returns_bind, returns_read, returns_orThrow, returns_throwIf,
    lockSession_returns] at success
  rcases success with ⟨-, -, rfl⟩ | ⟨-, command, _, ⟨found, rfl⟩, ⟨commandKey, row⟩, _, ⟨some, rfl⟩,
    session, s, ⟨stored, rfl⟩, ⟨-, reconciles⟩ | ⟨-, _, s, ⟨-, rfl⟩, _, s₁, withdraws, reconciles⟩⟩
  · exact .refl
  · exact PrepaidChargingMonitor.reconcile_moves reconciles
  · obtain ⟨commanded, -, start⟩ := remoteStartOf_some (found.symm.trans some)
    exact (withdraw_moves withdraws commanded start).trans
      (PrepaidChargingMonitor.reconcile_moves reconciles)

end CustomerCharging
end VtsaCsms.Charging
