import VtsaCsms.Charging.Lifecycle

/-!
# Invariants of the lifecycle

What a move does to one session's row, and from it what holds of sessions, commands and
records after any moves.
-/
namespace VtsaCsms.Charging
open Foundation Foundation.Action Billing

/-- The states of a session whose transaction has ended. -/
def ChargingSessionState.isClosing : ChargingSessionState → Bool
  | finalizing | reviewRequired | completed => true
  | _ => false

/-- What any move does to a session it finds. -/
structure RowStep (q q' : ChargingSession) : Prop where
  identity : q'.identity = q.identity
  terminal : q.state.isTerminal = true → q'.standing = q.standing
  awaiting : q'.state.isAwaiting = true → q'.standing = q.standing
  evidence : q'.protocolTransactionId.isSome = true → q'.startedAt.isSome = true ∨
    (q.protocolTransactionId.isSome = true ∧ q'.startedAt = q.startedAt)
  closing : q.state.isClosing = true → q'.state.isClosing = true

/-- What any move does where there was no session. -/
inductive NewRow (c : Core) (q : ChargingSession) : Prop
  | delivering (state : q.state.isDelivering = true) (started : q.startedAt.isSome = true)
  | starting (state : q.state = .starting) (unstarted : q.evidence = ⟨none, none⟩)
      (free : ∀ k row, c.sessions.get? k = some row → row.connectorId = q.connectorId →
        row.state.isTerminal = true)

namespace RowStep
variable {q q' : ChargingSession}

theorem refl (q : ChargingSession) : RowStep q q where
  identity := rfl
  terminal := fun _ => rfl
  awaiting := fun _ => rfl
  evidence := fun known => Or.inr ⟨known, rfl⟩
  closing := fun closing => closing

theorem of_standing (identity : q'.identity = q.identity) (same : q'.standing = q.standing) :
    RowStep q q' := by
  have state : q'.state = q.state := congrArg SessionStanding.state same
  have evidence : q'.evidence = q.evidence := congrArg SessionStanding.evidence same
  have transaction : q'.protocolTransactionId = q.protocolTransactionId :=
    congrArg SessionEvidence.protocolTransactionId evidence
  have startedAt : q'.startedAt = q.startedAt := congrArg SessionEvidence.startedAt evidence
  refine ⟨identity, fun _ => same, fun _ => same, ?_, ?_⟩
  · intro known
    rw [transaction] at known
    exact Or.inr ⟨known, startedAt⟩
  · intro closing
    rw [state]
    exact closing

/-- A session that has neither ended nor is about to: any state but an awaited one may follow. -/
theorem of_open (identity : q'.identity = q.identity) (before : q.state.isTerminal = false)
    (after : q'.state.isAwaiting = false)
    (evidence : q'.protocolTransactionId.isSome = true → q'.startedAt.isSome = true ∨
      (q.protocolTransactionId.isSome = true ∧ q'.startedAt = q.startedAt))
    (closing : q.state.isClosing = true → q'.state.isClosing = true) : RowStep q q' where
  identity := identity
  terminal := fun terminal => by simp [before] at terminal
  awaiting := fun awaiting => by simp [after] at awaiting
  evidence := evidence
  closing := closing

theorem of_evidence (same : q'.evidence = q.evidence) :
    q'.protocolTransactionId.isSome = true → q'.startedAt.isSome = true ∨
      (q.protocolTransactionId.isSome = true ∧ q'.startedAt = q.startedAt) := by
  intro known
  have transaction : q'.protocolTransactionId = q.protocolTransactionId :=
    congrArg SessionEvidence.protocolTransactionId same
  rw [transaction] at known
  exact Or.inr ⟨known, congrArg SessionEvidence.startedAt same⟩

end RowStep

/-! ### States and edges -/

namespace ChargingSessionState

variable {state : ChargingSessionState}

theorem driven_open (before : state.isAwaiting = true ∨ state.isPhysicallyActive = true) :
    state.isTerminal = false ∧ state.isClosing = false := by
  cases state <;> simp_all [isAwaiting, isPhysicallyActive, isTerminal, isClosing]

theorem delivering_not_awaiting (delivering : state.isDelivering = true) :
    state.isAwaiting = false := by
  cases state <;> simp_all [isDelivering, isAwaiting]

theorem from_stopping {next : ChargingSessionState}
    (allowed : stopping.canTransitionTo next = true) :
    next.isDelivering = true ∨ next = stopping ∨ next = finalizing := by
  cases next <;> simp_all [canTransitionTo, successors, isDelivering]

theorem ending_open (allowed : state.canTransitionTo finalizing = true) :
    state.isTerminal = false := by
  cases state <;> simp_all [canTransitionTo, successors, isTerminal]

end ChargingSessionState

variable {c c' : Core} {k : Nat} {p : Permits}

theorem Rewritten.rows {t : Indexed Nat ChargingSession ChargingSession.clash} {key : Nat}
    {q q' : ChargingSession} (row : Rewritten c t key q q') (step : RowStep q q')
    {old : ChargingSession} (stored : c.sessions.get? k = some old) :
    ∃ new, t.get? k = some new ∧ RowStep old new := by
  by_cases same : k = key
  · subst same
    rw [row.stored] at stored
    cases stored
    exact ⟨q', row.placed.get, step⟩
  · exact ⟨old, by rw [row.placed.other same, stored], RowStep.refl old⟩

theorem Rewritten.no_new {t : Indexed Nat ChargingSession ChargingSession.clash} {key : Nat}
    {q q' new : ChargingSession} (row : Rewritten c t key q q')
    (absent : c.sessions.get? k = none) (stored : t.get? k = some new) : False := by
  rcases row.placed.cases stored with ⟨rfl, -⟩ | ⟨-, stored⟩
  · rw [row.stored] at absent
    contradiction
  · rw [absent] at stored
    contradiction

theorem Move.row_step (move : Move p c c') :
    (∀ k q, c.sessions.get? k = some q → ∃ q', c'.sessions.get? k = some q' ∧ RowStep q q') ∧
    (∀ k q', c.sessions.get? k = none → c'.sessions.get? k = some q' → NewRow c q') := by
  have rewritten : ∀ {t key q q'}, Rewritten c t key q q' → RowStep q q' →
      (∀ k q, c.sessions.get? k = some q → ∃ q', t.get? k = some q' ∧ RowStep q q') ∧
      (∀ k q', c.sessions.get? k = none → t.get? k = some q' → NewRow c q') := by
    intro t key q q' row step
    exact ⟨fun k old stored => row.rows step stored,
      fun k new absent stored => (row.no_new absent stored).elim⟩
  have created : ∀ {t : Indexed Nat ChargingSession ChargingSession.clash} {key q},
      c.sessions.get? key = none → Indexed.Placed c.sessions t key q → NewRow c q →
      (∀ k q, c.sessions.get? k = some q → ∃ q', t.get? k = some q' ∧ RowStep q q') ∧
      (∀ k q', c.sessions.get? k = none → t.get? k = some q' → NewRow c q') := by
    intro t key q fresh placed new
    refine ⟨?_, ?_⟩
    · intro k old stored
      have other : k ≠ key := by
        intro same
        rw [same, fresh] at stored
        contradiction
      exact ⟨old, by rw [placed.other other, stored], RowStep.refl old⟩
    · intro k q' absent stored
      rcases placed.cases stored with ⟨-, rfl⟩ | ⟨-, stored⟩
      · exact new
      · rw [absent] at stored
        contradiction
  have untouched : (∀ k q, c.sessions.get? k = some q → ∃ q', c.sessions.get? k = some q' ∧ RowStep q q') ∧
      (∀ k q', c.sessions.get? k = none → c.sessions.get? k = some q' → NewRow c q') := by
    refine ⟨fun k q stored => ⟨q, stored, RowStep.refl q⟩, ?_⟩
    intro k q' absent stored
    rw [absent] at stored
    contradiction
  cases move with
  | noted row standing => exact rewritten row (RowStep.of_standing row.identity standing)
  | measured row standing => exact rewritten row (RowStep.of_standing row.identity standing)
  | driven row before delivering _ started =>
    obtain ⟨opened, unclosed⟩ := ChargingSessionState.driven_open before
    exact rewritten row (RowStep.of_open row.identity opened
      (ChargingSessionState.delivering_not_awaiting delivering) (fun _ => started)
      (fun closing => by simp [unclosed] at closing))
  | reconstructed fresh placed delivering _ started =>
    exact created fresh placed (.delivering delivering started)
  | requested fresh placed starting unstarted free =>
    exact created fresh placed (.starting starting unstarted free)
  | @stopRequested t _ key q q' _ _ row before _ stopping evidence =>
    refine rewritten row (RowStep.of_open row.identity ?_ ?_ (RowStep.of_evidence evidence) ?_)
    · rcases before with starting | delivering
      · rw [starting]; rfl
      · revert delivering
        cases q.state <;> simp [ChargingSessionState.isDelivering, ChargingSessionState.isTerminal]
    · rw [stopping]; rfl
    · intro closing
      rcases before with starting | delivering
      · rw [starting] at closing
        contradiction
      · revert delivering closing
        cases q.state <;> simp [ChargingSessionState.isDelivering, ChargingSessionState.isClosing]
  | commandMoved => exact untouched
  | stopExpired _ expiry =>
    cases expiry
    exact untouched
  | stopRejected _ rejection =>
    obtain @⟨t, commands, cmdKey, cmd, cmd', q, q', command, type, rejected, row, evidence, back, other⟩ :=
      rejection
    by_cases stopping : q.state = .stopping ∧
        q.state.canTransitionTo cmd.expectedSessionState = true
    · have state := back stopping.1 stopping.2
      have reached := stopping.2
      rw [stopping.1] at reached
      have after := ChargingSessionState.from_stopping reached
      rw [← state] at after
      refine rewritten row (RowStep.of_open row.identity (by rw [stopping.1]; rfl) ?_
        (RowStep.of_evidence evidence) (fun closing => by rw [stopping.1] at closing; contradiction))
      rcases after with delivering | same | same
      · exact ChargingSessionState.delivering_not_awaiting delivering
      · rw [same]; rfl
      · rw [same]; rfl
    · have same := other stopping
      subst same
      exact rewritten row (RowStep.refl _)
  | @resumed t cmdKey cmd q q' command type row stopping allowed back evidence =>
    rw [stopping] at allowed
    have after := ChargingSessionState.from_stopping allowed
    rw [← back] at after
    refine rewritten row (RowStep.of_open row.identity (by rw [stopping]; rfl) ?_
      (RowStep.of_evidence evidence) (fun closing => by rw [stopping] at closing; contradiction))
    rcases after with delivering | same | same
    · exact ChargingSessionState.delivering_not_awaiting delivering
    · rw [same]; rfl
    · rw [same]; rfl
  | ended row before evidence _ closing =>
    refine rewritten row (RowStep.of_open row.identity (ChargingSessionState.ending_open before) ?_
      (RowStep.of_evidence evidence) (fun _ => ?_))
    · cases closing with
      | review state => rw [state]; rfl
      | completed state => rw [state]; rfl
    · cases closing with
      | review state => rw [state]; rfl
      | completed state => rw [state]; rfl
  | reviewed row before review evidence =>
    exact rewritten row (RowStep.of_open row.identity (by rw [before]; rfl) (by rw [review]; rfl)
      (RowStep.of_evidence evidence) (fun _ => by rw [review]; rfl))
  | @withdrawn t key q q' row before closed evidence =>
    obtain ⟨opened, unclosed⟩ := ChargingSessionState.driven_open (Or.inl before)
    refine rewritten row (RowStep.of_open row.identity opened ?_ (RowStep.of_evidence evidence)
      (fun closing => by simp [unclosed] at closing))
    revert closed
    cases q'.state <;> simp [ChargingSessionState.isAwaiting]
  | prepaid => exact untouched
  | settled => exact untouched
  | alerted => exact untouched
  | funded => exact untouched

theorem Move.one_new (move : Move p c c') {k₁ k₂ : Nat}
    {q₁ q₂ : ChargingSession} (absent₁ : c.sessions.get? k₁ = none)
    (stored₁ : c'.sessions.get? k₁ = some q₁) (absent₂ : c.sessions.get? k₂ = none)
    (stored₂ : c'.sessions.get? k₂ = some q₂) : k₁ = k₂ := by
  have one : ∀ {t : Indexed Nat ChargingSession ChargingSession.clash} {key q},
      Indexed.Placed c.sessions t key q → t.get? k₁ = some q₁ → t.get? k₂ = some q₂ → k₁ = k₂ := by
    intro t key q placed stored₁ stored₂
    rcases placed.cases stored₁ with ⟨rfl, -⟩ | ⟨-, stored₁⟩
    · rcases placed.cases stored₂ with ⟨rfl, -⟩ | ⟨-, stored₂⟩
      · rfl
      · rw [absent₂] at stored₂
        contradiction
    · rw [absent₁] at stored₁
      contradiction
  cases move with
  | noted row => exact one row.placed stored₁ stored₂
  | measured row => exact one row.placed stored₁ stored₂
  | driven row => exact one row.placed stored₁ stored₂
  | reconstructed _ placed => exact one placed stored₁ stored₂
  | requested _ placed => exact one placed stored₁ stored₂
  | stopRequested row => exact one row.placed stored₁ stored₂
  | stopRejected _ rejection =>
    obtain ⟨_, _, _, row, -⟩ := rejection
    exact one row.placed stored₁ stored₂
  | resumed _ _ row => exact one row.placed stored₁ stored₂
  | ended row => exact one row.placed stored₁ stored₂
  | reviewed row => exact one row.placed stored₁ stored₂
  | withdrawn row => exact one row.placed stored₁ stored₂
  | stopExpired _ expiry =>
    cases expiry
    exact absurd (absent₁.symm.trans stored₁) (by simp)
  | _ =>
    rw [absent₁] at stored₁
    contradiction

/-! ### Sound tables -/

structure Sound (c : Core) : Prop where
  /-- Only a start waits for its charger, and it has seen nothing of it. -/
  awaiting : ∀ k q, c.sessions.get? k = some q → q.state.isAwaiting = true →
    q.state = .starting ∧ q.evidence = ⟨none, none⟩
  started : ∀ k q, c.sessions.get? k = some q → q.protocolTransactionId.isSome = true →
    q.startedAt.isSome = true
  /-- One start at a time waits on a connector. -/
  single : ∀ k k' q q', c.sessions.get? k = some q → c.sessions.get? k' = some q' →
    q.state.isAwaiting = true → q'.state.isAwaiting = true → q.connectorId = q'.connectorId → k = k'
  recorded : ∀ k cdr, c.cdrs.get? k = some cdr →
    ∃ q, c.sessions.get? cdr.sessionId = some q ∧ q.state.isClosing = true
  commanded : ∀ k cmd, c.commands.get? k = some cmd → ∃ q, c.sessions.get? cmd.sessionId = some q
  stops : ∀ k cmd, c.commands.get? k = some cmd → cmd.type = .remoteStop →
    cmd.expectedSessionState.isDelivering = true

theorem sound_empty : Sound Store.empty.core where
  awaiting := fun _ _ stored => by cases stored
  started := fun _ _ stored => by cases stored
  single := fun _ _ _ _ stored => by cases stored
  recorded := fun _ _ stored => by cases stored
  commanded := fun _ _ stored => by cases stored
  stops := fun _ _ stored => by cases stored

theorem Move.command_step (move : Move p c c')
    {cmd' : ChargerCommand} (stored : c'.commands.get? k = some cmd') :
    (∃ cmd, c.commands.get? k = some cmd ∧ cmd'.sessionId = cmd.sessionId ∧ cmd'.type = cmd.type ∧
      cmd'.expectedSessionState = cmd.expectedSessionState) ∨
    ((∃ q, c'.sessions.get? cmd'.sessionId = some q) ∧ (cmd'.type = .remoteStop →
      ∃ q, c.sessions.get? cmd'.sessionId = some q ∧ q.protocolTransactionId.isSome = true ∧
        (q.state = .starting ∨ q.state.isDelivering = true) ∧ cmd'.expectedSessionState = q.state)) := by
  have same : ∀ {cmd'}, c.commands.get? k = some cmd' → ∃ cmd, c.commands.get? k = some cmd ∧
      cmd'.sessionId = cmd.sessionId ∧ cmd'.type = cmd.type ∧
      cmd'.expectedSessionState = cmd.expectedSessionState :=
    fun {cmd'} stored => ⟨cmd', stored, rfl, rfl, rfl⟩
  have rewritten : ∀ {t key old new cmd'}, CommandRewritten c t key old new → t.get? k = some cmd' →
      ∃ cmd, c.commands.get? k = some cmd ∧ cmd'.sessionId = cmd.sessionId ∧ cmd'.type = cmd.type ∧
        cmd'.expectedSessionState = cmd.expectedSessionState := by
    intro t key old new cmd' row stored
    rcases row.placed.cases stored with ⟨rfl, rfl⟩ | ⟨-, stored⟩
    · exact ⟨old, row.stored, row.session, row.type, row.expected⟩
    · exact same stored
  cases move with
  | requested _ placed _ _ _ _ command session type =>
    rcases command.cases stored with ⟨rfl, rfl⟩ | ⟨-, stored⟩
    · refine Or.inr ⟨⟨_, by rw [session]; exact placed.get⟩, ?_⟩
      intro stop
      rw [type] at stop
      contradiction
    · exact Or.inl (same stored)
  | @stopRequested t commands key q q' cmdKey cmd row before known stopping evidence freshCommand command
      session type state expected =>
    rcases command.cases stored with ⟨rfl, rfl⟩ | ⟨-, stored⟩
    · subst session
      exact Or.inr ⟨⟨q', row.placed.get⟩, fun _ => ⟨q, row.stored, known, before, expected⟩⟩
    · exact Or.inl (same stored)
  | commandMoved row => exact Or.inl (rewritten row stored)
  | stopExpired _ expiry =>
    obtain ⟨row, -⟩ := expiry
    exact Or.inl (rewritten row stored)
  | stopRejected _ rejection =>
    obtain ⟨row, -⟩ := rejection
    exact Or.inl (rewritten row stored)
  | _ => exact Or.inl (same stored)

theorem Move.record_step (move : Move p c c')
    {cdr : ChargeDetailRecord} (stored : c'.cdrs.get? k = some cdr) :
    c.cdrs.get? k = some cdr ∨
      ∃ q, c'.sessions.get? cdr.sessionId = some q ∧ q.state.isClosing = true := by
  cases move with
  | @ended t cdrs key q q' cdrKey cdr₀ row before evidence record closing =>
    rcases record.placed.cases stored with ⟨rfl, rfl⟩ | ⟨-, stored⟩
    · refine Or.inr ⟨q', by rw [record.session]; exact row.placed.get, ?_⟩
      cases closing with
      | review state => rw [state]; rfl
      | completed state => rw [state]; rfl
    · exact Or.inl stored
  | stopExpired _ expiry =>
    cases expiry
    exact Or.inl stored
  | stopRejected _ rejection =>
    cases rejection
    exact Or.inl stored
  | _ => exact Or.inl stored

theorem awaiting_starting {q : ChargingSession} (state : q.state = .starting) :
    q.state.isAwaiting = true := by
  rw [state]
  rfl

theorem sound_move (move : Move p c c') (sound : Sound c) : Sound c' := by
  obtain ⟨kept, added⟩ := move.row_step
  -- every row afterwards is new, or one move away from a row before
  have origin : ∀ k q', c'.sessions.get? k = some q' →
      (∃ q, c.sessions.get? k = some q ∧ RowStep q q') ∨ (c.sessions.get? k = none ∧ NewRow c q') := by
    intro k q' stored
    cases before : c.sessions.get? k with
    | none => exact Or.inr ⟨rfl, added k q' before stored⟩
    | some q =>
      obtain ⟨q₁, stored₁, step⟩ := kept k q before
      rw [stored] at stored₁
      rw [Option.some.inj stored₁]
      exact Or.inl ⟨q, rfl, step⟩
  -- a row that still waits was waiting, unchanged
  have waited : ∀ {q q'}, RowStep q q' → q'.state.isAwaiting = true →
      q.state.isAwaiting = true ∧ q'.state = q.state ∧ q'.evidence = q.evidence := by
    intro q q' step awaiting
    have standing := step.awaiting awaiting
    have state : q'.state = q.state := congrArg SessionStanding.state standing
    rw [state] at awaiting
    exact ⟨awaiting, state, congrArg SessionStanding.evidence standing⟩
  have unstarted : ∀ {q}, NewRow c q → q.state.isAwaiting = true →
      q.state = .starting ∧ q.evidence = ⟨none, none⟩ ∧
        ∀ k row, c.sessions.get? k = some row → row.connectorId = q.connectorId →
          row.state.isAwaiting = false := by
    intro q new awaiting
    cases new with
    | delivering state =>
      rw [ChargingSessionState.delivering_not_awaiting state] at awaiting
      contradiction
    | starting state evidence free =>
      refine ⟨state, evidence, ?_⟩
      intro k row stored same
      have terminal := free k row stored same
      revert terminal
      cases row.state <;> simp [ChargingSessionState.isTerminal, ChargingSessionState.isAwaiting]
  refine ⟨?_, ?_, ?_, ?_, ?_, ?_⟩
  · intro k q' stored awaiting
    rcases origin k q' stored with ⟨q, before, step⟩ | ⟨-, new⟩
    · obtain ⟨awaited, state, evidence⟩ := waited step awaiting
      rw [state, evidence]
      exact sound.awaiting k q before awaited
    · exact ⟨(unstarted new awaiting).1, (unstarted new awaiting).2.1⟩
  · intro k q' stored known
    rcases origin k q' stored with ⟨q, before, step⟩ | ⟨-, new⟩
    · rcases step.evidence known with started | ⟨earlier, same⟩
      · exact started
      · rw [same]
        exact sound.started k q before earlier
    · cases new with
      | delivering _ started => exact started
      | starting _ evidence =>
        have nothing : q'.protocolTransactionId = none :=
          congrArg SessionEvidence.protocolTransactionId evidence
        rw [nothing] at known
        contradiction
  · intro k₁ k₂ q₁ q₂ stored₁ stored₂ awaiting₁ awaiting₂ connector
    have sameConnector : ∀ {q q' : ChargingSession}, RowStep q q' → q'.connectorId = q.connectorId :=
      fun step => congrArg SessionIdentity.connectorId step.identity
    rcases origin k₁ q₁ stored₁ with ⟨r₁, before₁, step₁⟩ | ⟨absent₁, new₁⟩
    · rcases origin k₂ q₂ stored₂ with ⟨r₂, before₂, step₂⟩ | ⟨absent₂, new₂⟩
      · refine sound.single k₁ k₂ r₁ r₂ before₁ before₂ (waited step₁ awaiting₁).1
          (waited step₂ awaiting₂).1 ?_
        rw [← sameConnector step₁, ← sameConnector step₂, connector]
      · have idle := (unstarted new₂ awaiting₂).2.2 k₁ r₁ before₁
          ((sameConnector step₁).symm.trans connector)
        rw [(waited step₁ awaiting₁).1] at idle
        contradiction
    · rcases origin k₂ q₂ stored₂ with ⟨r₂, before₂, step₂⟩ | ⟨absent₂, new₂⟩
      · have idle := (unstarted new₁ awaiting₁).2.2 k₂ r₂ before₂
          ((sameConnector step₂).symm.trans connector.symm)
        rw [(waited step₂ awaiting₂).1] at idle
        contradiction
      · exact move.one_new absent₁ stored₁ absent₂ stored₂
  · intro k cdr stored
    rcases move.record_step stored with before | closing
    · obtain ⟨q, stored, closing⟩ := sound.recorded k cdr before
      obtain ⟨q', stored', step⟩ := kept _ q stored
      exact ⟨q', stored', step.closing closing⟩
    · exact closing
  · intro k cmd' stored
    rcases move.command_step stored with ⟨cmd, before, session, -⟩ | ⟨present, -⟩
    · obtain ⟨q, stored⟩ := sound.commanded k cmd before
      obtain ⟨q', stored', -⟩ := kept _ q stored
      exact ⟨q', by rw [session]; exact stored'⟩
    · exact present
  · intro k cmd' stored stop
    rcases move.command_step stored with ⟨cmd, before, -, type, expected⟩ | ⟨-, requested⟩
    · rw [expected]
      exact sound.stops k cmd before (type.symm.trans stop)
    · obtain ⟨q, stored, known, starting | delivering, expected⟩ := requested stop
      · have evidence := (sound.awaiting _ q stored (awaiting_starting starting)).2
        have nothing : q.protocolTransactionId = none :=
          congrArg SessionEvidence.protocolTransactionId evidence
        rw [nothing] at known
        contradiction
      · rw [expected]
        exact delivering

theorem sound_moves (moves : Moves p c c') (sound : Sound c) : Sound c' :=
  moves.keep (P := Sound) sound_move sound

end VtsaCsms.Charging
