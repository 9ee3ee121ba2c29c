import VtsaCsms.Charging.Progress
import VtsaCsms.Charging.Stopping

/-!
# The expiry run

`ExpireChargingOperations::handle`: tenant by tenant, the commands whose deadline is behind
them and then the sessions that did not start in time, each in a transaction of its own.
The first throw ends the run for everything after it.
-/
namespace VtsaCsms.Charging
open Foundation Foundation.Action

namespace ExpireChargingOperations

def dueCommands (env : Environment) (s : Store) : List Nat :=
  (s.commands.rowsWhere fun _ c =>
    c.state ∈ [.requested, .dispatched] && c.expiresAt ≤ env.now).map Prod.fst

def dueSessions (env : Environment) (s : Store) : List Nat :=
  (s.sessions.rowsWhere fun _ q =>
    q.state ∈ [.requested, .authorizing, .authorized, .starting] && q.startedAt = none &&
      q.startDeadlineAt.any (fun t => t ≤ env.now)).map Prod.fst

def handleTenant (env : Environment) : Charge Unit := do
  let commandIds ← read (dueCommands env)
  forEach commandIds (expireCommand env)
  let sessionIds ← read (dueSessions env)
  forEach sessionIds (expireSession env)

def handle : List (Environment × Store) → Except Throwable Unit × List Store
  | [] => (.ok (), [])
  | (env, s) :: rest =>
    match handleTenant env s with
    | (.ok _, s') =>
      let out := handle rest
      (out.1, s' :: out.2)
    | (.error e, s') => (.error e, s' :: rest.map Prod.snd)

end ExpireChargingOperations

/-! ### One command -/

namespace CommandOutcomeService

/-- A start that did not come through, for a session whose transaction has ended and whose
record is not yet made: it is neither terminal nor physically active. -/
def Refuses (s : Store) (c : ChargerCommand) : Prop :=
  c.type = .remoteStart ∧ c.state ≠ .acknowledged ∧
    ¬ ((c.state = .timedOut ∨ c.state = .deliveryUnknown) ∧ hasCustomer s c.sessionId = true) ∧
    ∃ q, s.sessions.get? c.sessionId = some q ∧ q.state ∈ [.finalizing, .reviewRequired]

variable {q : ChargingSession}

theorem applyStart_finishes (env : Environment) {command : ChargerCommand} {s : Store}
    (stored : s.sessions.get? command.sessionId = some q)
    (awaiting : q.state.isAwaiting = true → q.state = .starting) :
    (∃ s', Returns (applyStart env command q) s () s') ↔
      ¬ (command.state ≠ .acknowledged ∧
        ¬ ((command.state = .timedOut ∨ command.state = .deliveryUnknown) ∧
          hasCustomer s command.sessionId = true) ∧ q.state ∈ [.finalizing, .reviewRequired]) := by
  unfold applyStart
  simp only [returns_bind, returns_read, returns_ite, returns_pure]
  constructor
  · rintro ⟨s', _, _, ⟨rfl, rfl⟩, success⟩ ⟨unacknowledged, unexcused, closing⟩
    rcases success with ⟨acknowledged, -⟩ | ⟨-, ⟨excused, -⟩ | ⟨-, ⟨-, _, s₁, saves, _, s₂, fails, -⟩ |
      ⟨inactive, -⟩⟩⟩
    · exact unacknowledged acknowledged
    · exact unexcused excused
    · obtain ⟨t, rfl, updated⟩ := saveSession_returns saves
      have allowed := (ChargingSessionStateMachine.transition_returns fails
        (updated.placed stored).get rfl).1
      revert closing allowed
      cases q.state <;> simp [ChargingSessionState.canTransitionTo, ChargingSessionState.successors]
    · apply inactive
      revert closing
      cases q.state <;> simp [ChargingSessionState.isTerminal, ChargingSessionState.isPhysicallyActive]
  · intro unrefused
    by_cases acknowledged : command.state = .acknowledged
    · exact ⟨s, _, s, ⟨rfl, rfl⟩, Or.inl ⟨acknowledged, trivial, rfl⟩⟩
    · by_cases excused : (command.state = .timedOut ∨ command.state = .deliveryUnknown) ∧
          hasCustomer s command.sessionId = true
      · obtain ⟨t, saved⟩ := saveSession_quieter command.sessionId (s := s)
          (f := fun s => { s with failureReason := some "prepaid_start_unconfirmed" })
          fun _ _ => ⟨rfl, rfl, rfl, rfl, id⟩
        exact ⟨_, _, s, ⟨rfl, rfl⟩, Or.inr ⟨acknowledged, Or.inl ⟨excused, saved⟩⟩⟩
      · by_cases waits : q.state.isTerminal = false ∧ q.state.isPhysicallyActive = false
        · have starting : q.state = .starting := by
            have open' : q.state ∉ [.finalizing, .reviewRequired] := fun closing =>
              unrefused ⟨acknowledged, excused, closing⟩
            revert awaiting open' waits
            cases q.state <;> simp [ChargingSessionState.isTerminal,
              ChargingSessionState.isPhysicallyActive, ChargingSessionState.isAwaiting]
          obtain ⟨t, saved⟩ := saveSession_quieter command.sessionId (s := s)
            (f := fun s => { s with failureReason := some ("remote_start_" ++ command.state.value) })
            fun _ _ => ⟨rfl, rfl, rfl, rfl, id⟩
          obtain ⟨t₁, same, updated⟩ := saveSession_returns saved
          cases same
          have row := (updated.placed stored).get
          obtain ⟨t₂, failed⟩ := ChargingSessionStateMachine.transition_succeeds
            command.sessionId q.state .failed
            (s := { s with sessions := t }) (by rw [starting]; rfl)
            (fun r found => by rw [row] at found; cases found; rfl) (by simp [ChargingSessionState.occupiesConnector])
          obtain ⟨reservations, statuses, released⟩ := ConnectorReservationService.release_succeeds env
            command.sessionId "remote_start_command_failed" true { s with sessions := t₂ }
          exact ⟨_, _, s, ⟨rfl, rfl⟩, Or.inr ⟨acknowledged, Or.inr ⟨excused, Or.inl
            ⟨waits, (), _, saved, (), _, failed, released⟩⟩⟩⟩
        · exact ⟨s, _, s, ⟨rfl, rfl⟩, Or.inr ⟨acknowledged, Or.inr ⟨excused, Or.inr ⟨waits, trivial, rfl⟩⟩⟩⟩

theorem applyStop_finishes (command : ChargerCommand) {s : Store}
    (stored : s.sessions.get? command.sessionId = some q) :
    ∃ s', Returns (applyStop command q) s () s' := by
  unfold applyStop
  simp only [returns_ite, returns_pure]
  by_cases applies : command.state = .rejected ∧ q.state = .stopping ∧
      q.state.canTransitionTo command.expectedSessionState = true
  · obtain ⟨t, moved⟩ := ChargingSessionStateMachine.transition_succeeds command.sessionId
      q.state command.expectedSessionState (s := s) applies.2.2 (fun r found => by rw [stored] at found; cases found; rfl)
      (fun _ => by rw [applies.2.1]; rfl)
    exact ⟨_, Or.inl ⟨applies, moved⟩⟩
  · exact ⟨s, Or.inr ⟨applies, trivial, rfl⟩⟩

theorem apply_finishes (env : Environment) (command : ChargerCommand) {s : Store}
    (stored : s.sessions.get? command.sessionId = some q)
    (awaiting : q.state.isAwaiting = true → q.state = .starting) :
    (∃ s', Returns (apply env command) s () s') ↔ ¬ Refuses s command := by
  have entered : ∀ s', Returns (apply env command) s () s' ↔
      (command.type = .remoteStart ∧ Returns (applyStart env command q) s () s') ∨
        (command.type = .remoteStop ∧ Returns (applyStop command q) s () s') := by
    intro s'
    unfold apply
    simp only [returns_bind, lockSession_returns]
    constructor
    · rintro ⟨r, _, ⟨found, rfl⟩, success⟩
      rw [stored] at found
      cases found
      cases type : command.type with
      | remoteStart => exact Or.inl ⟨rfl, by rwa [type] at success⟩
      | remoteStop => exact Or.inr ⟨rfl, by rwa [type] at success⟩
    · rintro (⟨type, success⟩ | ⟨type, success⟩)
      · exact ⟨q, s, ⟨stored, rfl⟩, by rwa [type]⟩
      · exact ⟨q, s, ⟨stored, rfl⟩, by rwa [type]⟩
  simp only [entered]
  cases type : command.type with
  | remoteStart =>
    have exact' := applyStart_finishes env stored awaiting
    constructor
    · rintro ⟨s', ⟨-, success⟩ | ⟨impossible, -⟩⟩
      · rintro ⟨-, unacknowledged, unexcused, r, found, closing⟩
        rw [stored] at found
        cases found
        exact exact'.mp ⟨s', success⟩ ⟨unacknowledged, unexcused, closing⟩
      · cases impossible
    · intro unrefused
      obtain ⟨s', success⟩ := exact'.mpr (by
        rintro ⟨unacknowledged, unexcused, closing⟩
        exact unrefused ⟨type, unacknowledged, unexcused, q, stored, closing⟩)
      exact ⟨s', Or.inl ⟨rfl, success⟩⟩
  | remoteStop =>
    obtain ⟨s', success⟩ := applyStop_finishes command stored
    constructor
    · rintro _ ⟨start, -⟩
      rw [type] at start
      cases start
    · exact fun _ => ⟨s', Or.inr ⟨rfl, success⟩⟩

/-- Applying changes no command and no customer and, unless a stop was rejected, neither ends
a transaction nor reviews one. -/
theorem apply_frame {env : Environment} {command : ChargerCommand} {s s' : Store} {u : Unit}
    (success : Returns (apply env command) s u s') (unrejected : command.state ≠ .rejected) :
    s'.commands = s.commands ∧ s'.customers = s.customers ∧
      ∀ k, (∃ q, s'.sessions.get? k = some q ∧ q.state ∈ [.finalizing, .reviewRequired]) ↔
        ∃ q, s.sessions.get? k = some q ∧ q.state ∈ [.finalizing, .reviewRequired] := by
  -- one row is rewritten, into a state that is in the list as little or as much as before
  have rewritten : ∀ {t : Indexed Nat ChargingSession ChargingSession.clash} {q q' : ChargingSession},
      s.sessions.get? command.sessionId = some q → Indexed.Placed s.sessions t command.sessionId q' →
      (q'.state ∈ [.finalizing, .reviewRequired] ↔ q.state ∈ [.finalizing, .reviewRequired]) →
      ∀ k, (∃ r, t.get? k = some r ∧ r.state ∈ [.finalizing, .reviewRequired]) ↔
        ∃ r, s.sessions.get? k = some r ∧ r.state ∈ [.finalizing, .reviewRequired] := by
    intro t q q' stored placed same k
    by_cases own : k = command.sessionId
    · rw [own, placed.get, stored]
      simpa using same
    · rw [placed.other own]
  obtain ⟨q, stored, ⟨-, starts⟩ | ⟨-, stops⟩⟩ := apply_returns success
  · unfold applyStart at starts
    simp only [returns_bind, returns_read, returns_ite, returns_pure] at starts
    obtain ⟨_, s, ⟨-, rfl⟩, ⟨-, -, rfl⟩ | ⟨-, ⟨-, saves⟩ |
      ⟨-, ⟨-, _, _, saves, _, _, fails, releases⟩ | ⟨-, -, rfl⟩⟩⟩⟩ := starts
    · exact ⟨rfl, rfl, fun _ => Iff.rfl⟩
    · obtain ⟨t, rfl, updated⟩ := saveSession_returns saves
      exact ⟨rfl, rfl, rewritten stored (updated.placed stored) Iff.rfl⟩
    · obtain ⟨t₁, rfl, updated⟩ := saveSession_returns saves
      have row := updated.placed stored
      obtain ⟨allowed, t, version, rfl, moved⟩ :=
        ChargingSessionStateMachine.transition_returns fails row.get rfl
      obtain ⟨_, _, rfl⟩ := ConnectorReservationService.release_returns releases
      refine ⟨rfl, rfl, rewritten stored (row.trans moved) ?_⟩
      revert allowed
      cases q.state <;> simp [ChargingSessionState.canTransitionTo, ChargingSessionState.successors]
    · exact ⟨rfl, rfl, fun _ => Iff.rfl⟩
  · rcases applyStop_returns stops stored with ⟨⟨rejected, -⟩, -⟩ | ⟨-, rfl⟩
    · exact absurd rejected unrejected
    · exact ⟨rfl, rfl, fun _ => Iff.rfl⟩

end CommandOutcomeService

/-! ### The passes of the run -/

namespace ExpireChargingOperations

/-- What a command whose deadline is behind it becomes. -/
def overdue (command : ChargerCommand) : ChargerCommand :=
  { command with state := if command.state = .requested then .expired else .timedOut }

/-- The command is due and its outcome is refused. -/
def Blocked (env : Environment) (s : Store) (key : Nat) : Prop :=
  ∃ c, s.commands.get? key = some c ∧ c.state.isTerminal = false ∧ c.expiresAt ≤ env.now ∧
    CommandOutcomeService.Refuses s (overdue c)

theorem overdue_allowed {command : ChargerCommand} (unended : command.state.isTerminal = false) :
    command.state.canTransitionTo (if command.state = .requested then .expired else .timedOut) = true := by
  revert unended
  cases command.state <;> simp [ChargerCommandState.isTerminal, ChargerCommandState.canTransitionTo,
    ChargerCommandState.successors]

theorem expireCommand_finishes (env : Environment) (key : Nat) (s : Store) (sound : Sound s.core) :
    (∃ s', Returns (expireCommand env key) s () s') ↔ ¬ Blocked env s key := by
  unfold expireCommand
  simp only [returns_transaction, returns_bind, returns_read]
  cases stored : s.commands.get? key with
  | none =>
    refine ⟨fun _ => ?_, fun _ => ⟨s, _, s, ⟨rfl, rfl⟩, rfl⟩⟩
    rintro ⟨c, found, -⟩
    rw [stored] at found
    cases found
  | some c =>
    by_cases skipped : c.state.isTerminal = true ∨ env.now < c.expiresAt
    · refine ⟨fun _ => ?_, fun _ => ⟨s, _, s, ⟨rfl, rfl⟩, ?_⟩⟩
      · rintro ⟨c', found, unended, due, -⟩
        rw [stored] at found
        cases found
        rcases skipped with ended | early
        · rw [ended] at unended
          cases unended
        · exact absurd due (not_le.mpr early)
      · show Returns (if c.state.isTerminal = true ∨ env.now < c.expiresAt then _ else _) _ _ _
        rw [if_pos skipped]
        rfl
    · have unended : c.state.isTerminal = false := by
        simpa using (not_or.mp skipped).1
      have due : c.expiresAt ≤ env.now := not_lt.mp (not_or.mp skipped).2
      obtain ⟨q, session⟩ := sound.commanded key c stored
      have awaiting := fun waits => (sound.awaiting _ q session waits).1
      -- the command's transition always goes through; what it leaves decides
      obtain ⟨t, moved⟩ := ChargerCommandStateMachine.transition_succeeds env key _ _ s (overdue_allowed unended)
      obtain ⟨-, t', dispatched, acknowledged, same, placed, -⟩ :=
        ChargerCommandStateMachine.transition_returns moved stored rfl
      cases same
      have refused : ∀ r : ChargerCommand, r.type = c.type → r.sessionId = c.sessionId →
          r.state = (overdue c).state →
          (CommandOutcomeService.Refuses { s with commands := t } r ↔
            CommandOutcomeService.Refuses s (overdue c)) := by
        intro r type session' state
        unfold CommandOutcomeService.Refuses
        rw [type, session', state]
        exact Iff.rfl
      have applied := (CommandOutcomeService.apply_finishes env
        { c with state := (overdue c).state, dispatchedAt := dispatched, acknowledgedAt := acknowledged }
        (s := { s with commands := t })
        session awaiting).trans (not_congr (refused _ rfl rfl rfl))
      have blocked : Blocked env s key ↔ CommandOutcomeService.Refuses s (overdue c) := by
        constructor
        · rintro ⟨c', found, -, -, refuses⟩
          rw [stored] at found
          cases found
          exact refuses
        · exact fun refuses => ⟨c, stored, unended, due, refuses⟩
      rw [blocked, ← applied]
      constructor
      · rintro ⟨s', _, _, ⟨rfl, rfl⟩, success⟩
        change Returns (if c.state.isTerminal = true ∨ env.now < c.expiresAt then _ else _) _ _ _ at success
        rw [if_neg skipped] at success
        simp only [returns_bind, lockCommand_returns] at success
        obtain ⟨_, s₁, again, r, _, ⟨found, rfl⟩, success⟩ := success
        obtain ⟨-, rfl⟩ := moved.unique again
        rw [placed.get] at found
        cases found
        exact ⟨s', success⟩
      · rintro ⟨s', success⟩
        refine ⟨s', _, s, ⟨rfl, rfl⟩, ?_⟩
        show Returns (if c.state.isTerminal = true ∨ env.now < c.expiresAt then _ else _) _ _ _
        rw [if_neg skipped]
        simp only [returns_bind, lockCommand_returns]
        exact ⟨(), _, moved, _, _, ⟨placed.get, rfl⟩, success⟩

theorem expireCommand_frame {env : Environment} {key : Nat} {s s' : Store} {u : Unit}
    (success : Returns (expireCommand env key) s u s') {other : Nat} (different : other ≠ key) :
    Blocked env s' other ↔ Blocked env s other := by
  unfold expireCommand at success
  simp only [returns_transaction, returns_bind, returns_read] at success
  obtain ⟨found, s, ⟨rfl, rfl⟩, success⟩ := success
  cases stored : s.commands.get? key with
  | none =>
    rw [stored] at success
    rw [((returns_pure _ _ _ _).mp success).2]
  | some c =>
    rw [stored] at success
    dsimp only at success
    rw [returns_ite] at success
    rcases success with ⟨-, success⟩ | ⟨due, success⟩
    · rw [((returns_pure _ _ _ _).mp success).2]
    · simp only [returns_bind, lockCommand_returns] at success
      obtain ⟨_, s₁, moves, r, _, ⟨refreshed, rfl⟩, applied⟩ := success
      obtain ⟨-, t, dispatched, acknowledged, rfl, placed, -⟩ :=
        ChargerCommandStateMachine.transition_returns moves stored rfl
      rw [placed.get] at refreshed
      cases refreshed
      have unrejected : (if c.state = .requested then ChargerCommandState.expired else .timedOut) ≠ .rejected := by
        split <;> decide
      obtain ⟨commands, customers, closing⟩ := CommandOutcomeService.apply_frame applied unrejected
      have refuses : ∀ r, CommandOutcomeService.Refuses s' r ↔ CommandOutcomeService.Refuses s r := by
        intro r
        unfold CommandOutcomeService.Refuses CommandOutcomeService.hasCustomer
        rw [closing, customers]
      unfold Blocked
      rw [commands]
      simp only [refuses]
      show (∃ c, t.get? other = some c ∧ _) ↔ _
      rw [placed.other different]

theorem revokes (env : Environment) (token : Option Nat) (s : Store) : ∃ s', Returns (match token with
    | some token => revokeTokens env fun k _ => k = token
    | none => pure ()) s () s' := by
  cases token with
  | none => exact ⟨s, rfl⟩
  | some => exact ⟨_, rfl⟩

theorem expireSession_finishes (env : Environment) (key : Nat) (s : Store) (sound : Sound s.core) :
    ∃ s', Returns (expireSession env key) s () s' := by
  unfold expireSession
  simp only [returns_transaction, returns_bind, returns_read]
  cases stored : s.sessions.get? key with
  | none => exact ⟨s, _, s, ⟨rfl, rfl⟩, rfl⟩
  | some q =>
    by_cases skipped : q.state ∉ [.requested, .authorizing, .authorized, .starting] ∨ q.startedAt ≠ none ∨
        q.startDeadlineAt = none ∨ q.startDeadlineAt.any (fun t => env.now < t) = true
    · refine ⟨s, _, s, ⟨rfl, rfl⟩, ?_⟩
      show Returns (if _ then _ else _) _ _ _
      rw [if_pos skipped]
      rfl
    · have waits : q.state.isAwaiting = true := by
        have member := (not_or.mp skipped).1
        rw [not_not] at member
        revert member
        cases q.state <;> simp [ChargingSessionState.isAwaiting]
      have starting := (sound.awaiting key q stored waits).1
      by_cases waiting : unconfirmed s key = true
      · obtain ⟨t, saved⟩ := saveSession_quieter key (s := s)
          (f := fun s => { s with failureReason := some "prepaid_start_unconfirmed" })
          fun _ _ => ⟨rfl, rfl, rfl, rfl, id⟩
        refine ⟨{ s with sessions := t }, _, s, ⟨rfl, rfl⟩, ?_⟩
        show Returns (if _ then _ else _) _ _ _
        rw [if_neg skipped]
        simp only [returns_bind, returns_read]
        refine ⟨_, s, ⟨rfl, rfl⟩, ?_⟩
        rw [if_pos waiting]
        exact saved
      · obtain ⟨t, expired⟩ := ChargingSessionStateMachine.transition_succeeds key
          q.state .expired (s := s) (by rw [starting]; rfl)
          (fun r found => by rw [stored] at found; cases found; rfl)
          (by simp [ChargingSessionState.occupiesConnector])
        obtain ⟨reservations, statuses, released⟩ := ConnectorReservationService.release_succeeds env key
          "start_deadline_elapsed" true { s with sessions := t }
        obtain ⟨s', revoked⟩ := revokes env q.authorizationTokenId { s with
          sessions := t, reservations := reservations, connectorStatuses := statuses }
        refine ⟨s', _, s, ⟨rfl, rfl⟩, ?_⟩
        show Returns (if _ then _ else _) _ _ _
        rw [if_neg skipped]
        simp only [returns_bind, returns_read]
        refine ⟨_, s, ⟨rfl, rfl⟩, ?_⟩
        rw [if_neg waiting]
        simp only [returns_bind]
        exact ⟨(), _, expired, (), _, released, revoked⟩

/-! ### The whole run -/

theorem nodup_of_rows {ρ : Type} {clash : ρ → ρ → Bool} (t : Indexed Nat ρ clash) (p : Nat → ρ → Bool) :
    ((t.rowsWhere p).map Prod.fst).Nodup :=
  t.table.nodup.sublist (List.filter_sublist.map Prod.fst)

theorem mem_dueCommands (env : Environment) (s : Store) (key : Nat) :
    key ∈ dueCommands env s ↔ ∃ c, s.commands.get? key = some c ∧ c.state.isTerminal = false ∧
      c.expiresAt ≤ env.now := by
  unfold dueCommands
  simp only [List.mem_map, Prod.exists, Indexed.mem_rowsWhere]
  constructor
  · rintro ⟨k, c, ⟨stored, due⟩, rfl⟩
    simp only [List.mem_cons, List.not_mem_nil, or_false, Bool.and_eq_true, decide_eq_true_eq] at due
    exact ⟨c, stored, by rcases due.1 with state | state <;> rw [state] <;> rfl, due.2⟩
  · rintro ⟨c, stored, unended, due⟩
    refine ⟨key, c, ⟨stored, ?_⟩, rfl⟩
    simp only [List.mem_cons, List.not_mem_nil, or_false, Bool.and_eq_true, decide_eq_true_eq]
    refine ⟨?_, due⟩
    revert unended
    cases c.state <;> simp [ChargerCommandState.isTerminal]

theorem handleTenant_finishes (env : Environment) (s : Store) (sound : Sound s.core) :
    (∃ s', Returns (handleTenant env) s () s') ↔ ∀ key, ¬ Blocked env s key := by
  have keepsCommands : ∀ k s s', Sound s.core → Returns (expireCommand env k) s () s' → Sound s'.core := by
    intro k s s' sound success
    have after' : Step.next env (.expireCommand k) s = s' := congrArg Prod.snd success
    rw [← after']
    exact Step.sound_next env _ sound
  have keepsSessions : ∀ k s s', Sound s.core → Returns (expireSession env k) s () s' → Sound s'.core := by
    intro k s s' sound success
    have after' : Step.next env (.expireSession k) s = s' := congrArg Prod.snd success
    rw [← after']
    exact Step.sound_next env _ sound
  have commands := forEach_finishes (P := fun s : Store => Sound s.core) (fun s k => Blocked env s k)
    (expireCommand_finishes env)
    (fun k s s' sound success => ⟨keepsCommands k s s' sound success, fun b different =>
      expireCommand_frame success different⟩)
    (dueCommands env s) s (nodup_of_rows _ _) sound
  have due : (∀ k ∈ dueCommands env s, ¬ Blocked env s k) ↔ ∀ k, ¬ Blocked env s k := by
    constructor
    · rintro none' k ⟨c, stored, unended, past, refuses⟩
      exact none' k ((mem_dueCommands env s k).mpr ⟨c, stored, unended, past⟩)
        ⟨c, stored, unended, past, refuses⟩
    · exact fun none' k _ => none' k
  rw [← due, ← commands]
  unfold handleTenant
  simp only [returns_bind, returns_read]
  constructor
  · rintro ⟨s', _, _, ⟨rfl, rfl⟩, _, s₁, first, -⟩
    exact ⟨s₁, first⟩
  · rintro ⟨s₁, first⟩
    have sound₁ : Sound s₁.core := forEach_keeps (P := fun s : Store => Sound s.core) keepsCommands sound first
    have sessions := forEach_finishes (P := fun s : Store => Sound s.core) (fun _ _ => False)
      (fun k s sound => ⟨fun _ => id, fun _ => expireSession_finishes env k s sound⟩)
      (fun k s s' sound success => ⟨keepsSessions k s s' sound success, fun _ _ => Iff.rfl⟩)
      (dueSessions env s₁) s₁ (nodup_of_rows _ _) sound₁
    obtain ⟨s', second⟩ := sessions.mpr fun _ _ => id
    exact ⟨s', _, s, ⟨rfl, rfl⟩, (), s₁, first, _, s₁, ⟨rfl, rfl⟩, second⟩

theorem handle_finishes (tenants : List (Environment × Store)) :
    (handle tenants).1 = .ok () ↔ ∀ t ∈ tenants, ∃ s', Returns (handleTenant t.1) t.2 () s' := by
  induction tenants with
  | nil => simp [handle]
  | cons t _ ih =>
    obtain ⟨env, s⟩ := t
    rw [List.forall_mem_cons]
    unfold handle
    rcases run : handleTenant env s with ⟨out, s'⟩
    cases out with
    | ok =>
      simp only [ih, iff_and_self]
      exact fun _ => ⟨s', run⟩
    | error =>
      simp only [reduceCtorEq, false_iff, not_and]
      rintro ⟨s'', success⟩
      rw [Returns, run] at success
      cases success

end ExpireChargingOperations

/-! ### Every reachable state -/

namespace Step
open ExpireChargingOperations CommandOutcomeService

/-- In every reachable state, applying a command throws exactly for a failed remote start whose
session has ended its transaction and is not completed; and the expiry run over the tenants
finishes exactly when no tenant has such a command due. -/
theorem outcomes_finish_iff (steps : List (Environment × Step)) (env : Environment)
    (tenants : List (Environment × List (Environment × Step))) :
    (∀ (k : Nat) (c : ChargerCommand), (run steps Store.empty).commands.get? k = some c →
      ((∃ s', Returns (apply env c) (run steps Store.empty) () s') ↔ ¬ Refuses (run steps Store.empty) c)) ∧
    ((handle (tenants.map fun t => (t.1, run t.2 Store.empty))).1 = .ok () ↔
      ∀ t ∈ tenants, ∀ k, ¬ Blocked t.1 (run t.2 Store.empty) k) := by
  constructor
  · intro k c stored
    obtain ⟨q, session⟩ := (sound steps).commanded k c stored
    exact apply_finishes env c session fun waits => ((sound steps).awaiting _ q session waits).1
  · rw [handle_finishes, List.forall_mem_map]
    constructor
    · intro all t member
      exact (handleTenant_finishes t.1 _ (sound t.2)).mp (all t member)
    · intro none' t member
      exact (handleTenant_finishes t.1 _ (sound t.2)).mpr (none' t member)

/-- The charger starts and stops while the gateway's answer to the start is outstanding, and
leaves no meter reading behind. -/
def unansweredRun : List (Environment × Step) :=
  Deployment.remotelyStarted ++ [(Deployment.environment "2.0.1" 1 1, .dispatch 0),
    (Deployment.environment "2.0.1" 1 2, .event (Deployment.transactionEvent "E1" "Started" "10:02:00"
      [("authorization_status", .string "Accepted")])),
    (Deployment.environment "2.0.1" 1 3, .event (Deployment.transactionEvent "E2" "Ended" "10:03:00" []))]

set_option maxRecDepth 20000 in
/-- The session is under review when the command's deadline passes, and the run ends there. -/
theorem expiry_throws_under_review :
    ¬ ∀ tenants : List (Environment × List (Environment × Step)),
      (handle (tenants.map fun t => (t.1, run t.2 Store.empty))).1 = .ok () := by
  intro all
  have finished := all [(Deployment.environment "2.0.1" 1 4, unansweredRun)]
  have thrown : (match (handle [(Deployment.environment "2.0.1" 1 4, run unansweredRun Store.empty)]).1 with
      | .ok _ => true
      | .error _ => false) = false := by decide +kernel
  change (handle [(Deployment.environment "2.0.1" 1 4, run unansweredRun Store.empty)]).1 = .ok () at finished
  rw [finished] at thrown
  cases thrown

end Step
end VtsaCsms.Charging
