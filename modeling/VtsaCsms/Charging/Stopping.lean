import VtsaCsms.Charging.Refinement

/-!
# Stopping sessions

A stopping session waits for a remote stop that may still reach its charger. Rejecting the
stop takes the session back; letting it expire unsent does not, and strands the session.
-/
namespace VtsaCsms.Charging
open Foundation Foundation.Action

/-- Every stopping session has a remote stop that has not definitively failed. -/
def Awaited (c : Core) : Prop :=
  ∀ key q, c.sessions.get? key = some q → q.state = .stopping →
    q.protocolTransactionId.isSome = true ∧ ∃ k cmd, c.commands.get? k = some cmd ∧
      cmd.sessionId = key ∧ cmd.type = .remoteStop ∧ cmd.state.isLive = true

theorem awaited_empty : Awaited Store.empty.core := fun _ _ stored => by cases stored

/-! ### What a move does to stopping sessions and live stops -/

variable {c c' : Core}

theorem Move.stopping_row {p : Permits} (move : Move p c c') {key : Nat}
    {q' : ChargingSession} (stored : c'.sessions.get? key = some q') (stopping : q'.state = .stopping) :
    (∃ q, c.sessions.get? key = some q ∧ q.state = .stopping ∧ q'.evidence = q.evidence) ∨
    (q'.protocolTransactionId.isSome = true ∧ ∃ k cmd, c'.commands.get? k = some cmd ∧
      cmd.sessionId = key ∧ cmd.type = .remoteStop ∧ cmd.state = .requested) := by
  have same : ∀ {q'}, c.sessions.get? key = some q' → q'.state = .stopping →
      ∃ q, c.sessions.get? key = some q ∧ q.state = .stopping ∧ q'.evidence = q.evidence :=
    fun {q'} stored stopping => ⟨q', stored, stopping, rfl⟩
  -- a row whose new state is another is not the one in hand
  have elsewhere : ∀ {t k q₀ q'}, Indexed.Placed c.sessions t k q₀ → t.get? key = some q' →
      q'.state = .stopping → q₀.state ≠ .stopping →
      ∃ q, c.sessions.get? key = some q ∧ q.state = .stopping ∧ q'.evidence = q.evidence := by
    intro t k q₀ q' placed stored stopping other
    rcases placed.cases stored with ⟨-, rfl⟩ | ⟨-, stored⟩
    · exact absurd stopping other
    · exact same stored stopping
  have standing : ∀ {t k q₁ q₂ q'}, Rewritten c t k q₁ q₂ → q₂.standing = q₁.standing →
      t.get? key = some q' → q'.state = .stopping →
      ∃ q, c.sessions.get? key = some q ∧ q.state = .stopping ∧ q'.evidence = q.evidence := by
    intro t k q₁ q₂ q' row standing stored stopping
    rcases row.placed.cases stored with ⟨rfl, rfl⟩ | ⟨-, stored⟩
    · have state : q'.state = q₁.state := congrArg SessionStanding.state standing
      exact ⟨q₁, row.stored, state.symm.trans stopping, congrArg SessionStanding.evidence standing⟩
    · exact same stored stopping
  have delivers : ∀ {state : ChargingSessionState}, state.isDelivering = true → state ≠ .stopping := by
    intro state delivering stopping
    subst stopping
    contradiction
  cases move with
  | noted row kept => exact Or.inl (standing row kept stored stopping)
  | measured row kept => exact Or.inl (standing row kept stored stopping)
  | driven row _ delivering =>
    exact Or.inl (elsewhere row.placed stored stopping (delivers delivering))
  | reconstructed _ placed delivering =>
    exact Or.inl (elsewhere placed stored stopping (delivers delivering))
  | requested _ placed starting =>
    exact Or.inl (elsewhere placed stored stopping (by rw [starting]; simp))
  | stopRequested row _ known _ evidence _ command session type unsent =>
    rcases row.placed.cases stored with ⟨rfl, rfl⟩ | ⟨-, stored⟩
    · have transaction := congrArg SessionEvidence.protocolTransactionId evidence
      change q'.protocolTransactionId = _ at transaction
      exact Or.inr ⟨by rw [transaction]; exact known, _, _, command.get, session, type, unsent⟩
    · exact Or.inl (same stored stopping)
  | stopExpired _ expiry =>
    cases expiry
    exact Or.inl (same stored stopping)
  | stopRejected _ rejection =>
    obtain @⟨t, commands, cmdKey, cmd, cmd', q, q₁, command, type, rejected, row, evidence, back, other⟩ :=
      rejection
    rcases row.placed.cases stored with ⟨rfl, rfl⟩ | ⟨-, stored⟩
    · by_cases returns : q.state = .stopping ∧
          q.state.canTransitionTo cmd.expectedSessionState = true
      · exact Or.inl ⟨q, row.stored, returns.1, evidence⟩
      · have unchanged := other returns
        subst unchanged
        exact Or.inl (same row.stored stopping)
    · exact Or.inl (same stored stopping)
  | resumed _ _ row before _ _ evidence =>
    rcases row.placed.cases stored with ⟨rfl, rfl⟩ | ⟨-, stored⟩
    · exact Or.inl ⟨_, row.stored, before, evidence⟩
    · exact Or.inl (same stored stopping)
  | ended row _ _ _ closing =>
    refine Or.inl (elsewhere row.placed stored stopping ?_)
    cases closing with
    | review state => rw [state]; simp
    | completed state => rw [state]; simp
  | reviewed row _ review => exact Or.inl (elsewhere row.placed stored stopping (by rw [review]; simp))
  | withdrawn row _ closed =>
    refine Or.inl (elsewhere row.placed stored stopping ?_)
    intro same
    rw [same] at closed
    simp at closed
  | commandMoved => exact Or.inl (same stored stopping)
  | prepaid => exact Or.inl (same stored stopping)
  | settled => exact Or.inl (same stored stopping)
  | alerted => exact Or.inl (same stored stopping)
  | funded => exact Or.inl (same stored stopping)

theorem Move.live_stop {late : Prop} (move : Move ⟨late, False, False⟩ c c') {k : Nat}
    {cmd : ChargerCommand} (stored : c.commands.get? k = some cmd) (type : cmd.type = .remoteStop)
    (live : cmd.state.isLive = true) :
    ∃ cmd', c'.commands.get? k = some cmd' ∧ cmd'.sessionId = cmd.sessionId ∧
      cmd'.type = .remoteStop ∧ cmd'.state.isLive = true := by
  have added : ∀ {t cmdKey row}, c.commands.get? cmdKey = none →
      Indexed.Placed c.commands t cmdKey row → t.get? k = some cmd := by
    intro t cmdKey row fresh placed
    rw [placed.other, stored]
    intro same
    subst same
    rw [stored] at fresh
    contradiction
  cases move with
  | requested _ _ _ _ _ fresh command => exact ⟨cmd, added fresh command, rfl, type, live⟩
  | stopRequested _ _ _ _ _ fresh command => exact ⟨cmd, added fresh command, rfl, type, live⟩
  | @commandMoved t cmdKey old new row moved =>
    by_cases same : k = cmdKey
    · subst same
      have found := row.stored
      rw [stored] at found
      cases found
      refine ⟨new, row.placed.get, row.session, row.type.trans type, ?_⟩
      rcases moved type with state | both
      · rw [state]
        exact live
      · exact both.2
    · exact ⟨cmd, by rw [row.placed.other same]; exact stored, rfl, type, live⟩
  | stopExpired permitted => exact permitted.elim
  | stopRejected permitted => exact permitted.elim
  | _ => exact ⟨cmd, stored, rfl, type, live⟩

theorem Moves.live_stop {late : Prop} (moves : Moves ⟨late, False, False⟩ c c') {k : Nat}
    {cmd : ChargerCommand} (stored : c.commands.get? k = some cmd) (type : cmd.type = .remoteStop)
    (live : cmd.state.isLive = true) :
    ∃ cmd', c'.commands.get? k = some cmd' ∧ cmd'.sessionId = cmd.sessionId ∧
      cmd'.type = .remoteStop ∧ cmd'.state.isLive = true := by
  induction moves with
  | refl => exact ⟨cmd, stored, rfl, type, live⟩
  | tail _ move ih =>
    obtain ⟨before, kept, session, isStop, alive⟩ := ih
    obtain ⟨after, kept', session', isStop', alive'⟩ := move.live_stop kept isStop alive
    exact ⟨after, kept', session'.trans session, isStop', alive'⟩

theorem ChargerCommandState.requested_live {state : ChargerCommandState} (requested : state = .requested) :
    state.isLive = true := by
  rw [requested]
  rfl

theorem awaited_move {late : Prop} (move : Move ⟨late, False, False⟩ c c')
    (awaited : Awaited c) : Awaited c' := by
  intro key q' stored stopping
  rcases move.stopping_row stored stopping with ⟨q, before, waiting, evidence⟩ | ⟨known, k, cmd, command,
    session, type, requested⟩
  · obtain ⟨known, k, cmd, command, session, type, live⟩ := awaited key q before waiting
    obtain ⟨cmd', command', session', type', live'⟩ := move.live_stop command type live
    have transaction := congrArg SessionEvidence.protocolTransactionId evidence
    change q'.protocolTransactionId = _ at transaction
    exact ⟨by rw [transaction]; exact known, k, cmd', command', session'.trans session, type', live'⟩
  · exact ⟨known, k, cmd, command, session, type, ChargerCommandState.requested_live requested⟩

theorem ChargingSessionState.stopping_resumes {state : ChargingSessionState}
    (delivering : state.isDelivering = true) :
    ChargingSessionState.stopping.canTransitionTo state = true ∧ state ≠ .stopping ∧
      state ∈ RemoteStopService.stoppable := by
  revert delivering
  cases state <;> simp [isDelivering, canTransitionTo, successors, RemoteStopService.stoppable]

theorem StopRejection.resumes (rejection : StopRejection c c') (sound : Sound c) :
    ∃ cmdKey cmd, c.commands.get? cmdKey = some cmd ∧ cmd.type = .remoteStop ∧
      (∀ k, k ≠ cmdKey → c'.commands.get? k = c.commands.get? k) ∧
      (∀ key, key ≠ cmd.sessionId → c'.sessions.get? key = c.sessions.get? key) ∧
      ∃ q q', c.sessions.get? cmd.sessionId = some q ∧ c'.sessions.get? cmd.sessionId = some q' ∧
        (q.state ≠ .stopping → q' = q) ∧
        (q.state = .stopping → q'.state = cmd.expectedSessionState ∧ q'.state ≠ .stopping ∧
          q'.state ∈ RemoteStopService.stoppable ∧ q'.evidence = q.evidence) := by
  obtain @⟨t, commands, cmdKey, cmd, cmd', q, q', command, type, rejected, row, evidence, back, other⟩ :=
    rejection
  refine ⟨cmdKey, cmd, command.stored, type, fun k different => command.placed.other different,
    fun key different => row.placed.other different, q, q', row.stored, row.placed.get, ?_, ?_⟩
  · intro elsewhere
    exact other fun both => elsewhere both.1
  · intro stopping
    obtain ⟨allowed, left, stoppable⟩ :=
      ChargingSessionState.stopping_resumes (sound.stops cmdKey cmd command.stored type)
    rw [← stopping] at allowed
    have state := back stopping allowed
    exact ⟨state, by rw [state]; exact left, by rw [state]; exact stoppable, evidence⟩

theorem awaited_rejection (rejection : StopRejection c c') (sound : Sound c)
    (awaited : Awaited c) : Awaited c' := by
  obtain ⟨cmdKey, cmd, rejected, -, commands, sessions, q, q', before, after, unchanged, resumed⟩ :=
    rejection.resumes sound
  intro key row stored stopping
  by_cases same : key = cmd.sessionId
  · subst same
    rw [after] at stored
    cases stored
    by_cases was : q.state = .stopping
    · exact absurd stopping (resumed was).2.1
    · rw [unchanged was] at stopping
      exact absurd stopping was
  · rw [sessions key same] at stored
    obtain ⟨known, k, stop, command, session, type, live⟩ := awaited key row stored stopping
    refine ⟨known, k, stop, ?_, session, type, live⟩
    rw [commands k, command]
    intro own
    subst own
    rw [rejected] at command
    cases command
    exact same session.symm

theorem StopExpiry.strands {stranding : Prop} (expiry : StopExpiry stranding c c') :
    ∃ cmdKey cmd, c.commands.get? cmdKey = some cmd ∧ c'.sessions = c.sessions ∧
      (∀ k, k ≠ cmdKey → c'.commands.get? k = c.commands.get? k) ∧
      ∀ q, c.sessions.get? cmd.sessionId = some q → q.state = .stopping → stranding := by
  obtain ⟨command, -, -, -, stranded⟩ := expiry
  exact ⟨_, _, command.stored, rfl, fun k different => command.placed.other different, stranded⟩

theorem awaited_expiry {stranding : Prop} (expiry : StopExpiry stranding c c')
    (unstranded : ¬ stranding) (awaited : Awaited c) : Awaited c' := by
  obtain ⟨cmdKey, cmd, expired, sessions, commands, stranded⟩ := expiry.strands
  intro key q stored stopping
  rw [sessions] at stored
  obtain ⟨known, k, stop, command, session, type, live⟩ := awaited key q stored stopping
  refine ⟨known, k, stop, ?_, session, type, live⟩
  rw [commands k, command]
  intro own
  subst own
  rw [expired] at command
  cases command
  subst session
  exact unstranded (stranded q stored stopping)

/-! ### Runs -/

namespace Step

theorem awaited_next {env : Environment} {step : Step} {s : Store} (unstranded : ¬ step.StrandsStop env s)
    (sound : Sound s.core) (awaited : Awaited s.core) : Awaited (step.next env s).core := by
  rcases refines env step s with rejection | expiry | moves
  · exact awaited_rejection rejection sound awaited
  · exact awaited_expiry expiry unstranded awaited
  · exact moves.keep (P := Awaited) awaited_move awaited

theorem sound_next (env : Environment) (step : Step) {s : Store} (sound : Sound s.core) :
    Sound (step.next env s).core :=
  sound_moves (moves env step s) sound

/-- In a run that strands no stop, every stopping session waits for a stop that may still
reach its charger; and the step in which such a stop definitively fails takes the session
back to where the stop found it, from where it may be stopped again. -/
theorem stopping_never_stuck (steps : List (Environment × Step))
    (unstranded : Along (fun env s step => ¬ step.StrandsStop env s) steps Store.empty) :
    Awaited (run steps Store.empty).core ∧
    ∀ (env : Environment) (step : Step) (k : Nat) (cmd cmd' : ChargerCommand) (q : ChargingSession),
      ¬ step.StrandsStop env (run steps Store.empty) →
      (run steps Store.empty).commands.get? k = some cmd → cmd.type = .remoteStop →
      cmd.state.isLive = true →
      (step.next env (run steps Store.empty)).commands.get? k = some cmd' →
      cmd'.state = .rejected ∨ cmd'.state = .expired →
      (run steps Store.empty).sessions.get? cmd.sessionId = some q → q.state = .stopping →
      ∃ q', (step.next env (run steps Store.empty)).sessions.get? cmd.sessionId = some q' ∧
        q'.state = cmd.expectedSessionState ∧ q'.state ∈ RemoteStopService.stoppable ∧
        q'.protocolTransactionId ≠ none := by
  have both : Sound (run steps Store.empty).core ∧ Awaited (run steps Store.empty).core := by
    refine run_along (P := fun s => Sound s.core ∧ Awaited s.core) ?_ steps Store.empty unstranded
      ⟨sound_empty, awaited_empty⟩
    intro env step s met holds
    exact ⟨sound_next env step holds.1, awaited_next met holds.1 holds.2⟩
  obtain ⟨sound, awaited⟩ := both
  refine ⟨awaited, ?_⟩
  generalize run steps Store.empty = s at sound awaited
  intro env step k cmd cmd' q unstranded command type live command' failed session stopping
  have ended : cmd'.state.isLive = false := by
    rcases failed with state | state
    · rw [state]; rfl
    · rw [state]; rfl
  rcases refines env step s with rejection | expiry | moves
  · obtain ⟨cmdKey, other, rejected, -, commands, -, q₀, q', before, after, -, resumed⟩ :=
      rejection.resumes sound
    by_cases own : k = cmdKey
    · subst own
      have same : some cmd = some other := command.symm.trans rejected
      cases same
      have found : some q = some q₀ := session.symm.trans before
      cases found
      obtain ⟨state, -, stoppable, evidence⟩ := resumed stopping
      refine ⟨q', after, state, stoppable, ?_⟩
      have transaction : q'.protocolTransactionId = q.protocolTransactionId :=
        congrArg SessionEvidence.protocolTransactionId evidence
      have known := (awaited cmd.sessionId q session stopping).1
      rw [← transaction] at known
      exact Option.isSome_iff_ne_none.mp known
    · have kept : some cmd = some cmd' := command.symm.trans ((commands k own).symm.trans command')
      cases kept
      rw [live] at ended
      contradiction
  · obtain ⟨cmdKey, other, expired, -, commands, stranded⟩ := expiry.strands
    by_cases own : k = cmdKey
    · subst own
      have same : some cmd = some other := command.symm.trans expired
      cases same
      exact absurd (stranded q session stopping) unstranded
    · have kept : some cmd = some cmd' := command.symm.trans ((commands k own).symm.trans command')
      cases kept
      rw [live] at ended
      contradiction
  · obtain ⟨after, kept, -, -, alive⟩ := moves.live_stop command type live
    have same : some after = some cmd' := kept.symm.trans command'
    cases same
    rw [alive] at ended
    contradiction

def stoppedRun : List (Environment × Step) :=
  Deployment.remotelyStarted ++ [
    (Deployment.environment "2.0.1" 1 2, .event (Deployment.transactionEvent "E1" "Started" "10:02:00"
      [("authorization_status", .string "Accepted"), Deployment.register "10:02:00" 100])),
    (Deployment.environment "2.0.1" 1 3, .remoteStop 0 "stop-1")]

def refused : Environment × Step :=
  (Deployment.environment "2.0.1" 1 3, .gatewayAnswer 1 (.ok ⟨.rejected, none⟩))

set_option maxRecDepth 20000 in
theorem stopping_never_stuck_refused :
    Awaited (run stoppedRun Store.empty).core ∧
    ∃ q', (refused.2.next refused.1 (run stoppedRun Store.empty)).sessions.get? 0 = some q' ∧
      q'.state = .charging ∧ q'.state ∈ RemoteStopService.stoppable := by
  have unstranded : Along (fun env s step => ¬ step.StrandsStop env s) stoppedRun Store.empty :=
    ⟨id, id, id, id, trivial⟩
  have stuck := stopping_never_stuck stoppedRun unstranded
  refine ⟨stuck.1, ?_⟩
  have facts : ((run stoppedRun Store.empty).commands.get? 1).any (fun c => c.type = .remoteStop &&
        c.state.isLive && c.sessionId = 0 && c.expectedSessionState = .charging) = true ∧
      ((run stoppedRun Store.empty).sessions.get? 0).any (fun q => q.state = .stopping) = true ∧
      ((refused.2.next refused.1 (run stoppedRun Store.empty)).commands.get? 1).any
        (fun c => c.state = .rejected) = true := by decide +kernel
  generalize run stoppedRun Store.empty = s at stuck facts ⊢
  obtain ⟨cmd, stored, about⟩ := (Option.any_eq_true _ _).mp facts.1
  obtain ⟨q, session, stopping⟩ := (Option.any_eq_true _ _).mp facts.2.1
  obtain ⟨cmd', stored', failed⟩ := (Option.any_eq_true _ _).mp facts.2.2
  simp only [Bool.and_eq_true, decide_eq_true_eq] at about failed stopping
  obtain ⟨⟨⟨type, live⟩, own⟩, expected⟩ := about
  rw [← own] at session
  obtain ⟨q', after, state, stoppable, -⟩ := stuck.2 refused.1 refused.2 1 cmd cmd' q id stored type live
    stored' (Or.inl failed) session stopping
  rw [own] at after
  exact ⟨q', after, state.trans expected, stoppable⟩

def strandedRun : List (Environment × Step) :=
  stoppedRun ++ [(Deployment.environment "2.0.1" 1 5, .expireCommand 1)]

set_option maxRecDepth 20000 in
theorem stop_expired_unsent :
    ¬ Awaited (run strandedRun Store.empty).core ∧
    ((run strandedRun Store.empty).sessions.get? 0).map ChargingSession.state = some .stopping ∧
    ((run strandedRun Store.empty).commands.get? 1).map (fun c => (c.state, c.dispatchedAt)) =
      some (.expired, none) := by
  have facts : (((run strandedRun Store.empty).sessions.get? 0).map ChargingSession.state =
        some .stopping ∧
      ((run strandedRun Store.empty).commands.get? 1).map (fun c => (c.state, c.dispatchedAt)) =
        some (.expired, none)) ∧
      (run strandedRun Store.empty).commands.exists? (fun _ c =>
        c.sessionId = 0 && c.type = .remoteStop && c.state.isLive) = false := by decide +kernel
  generalize run strandedRun Store.empty = s at facts ⊢
  refine ⟨?_, facts.1⟩
  intro awaited
  obtain ⟨q, stored, state⟩ := Option.map_eq_some_iff.mp facts.1.1
  obtain ⟨-, k, cmd, command, session, type, live⟩ := awaited 0 q stored state
  have found : s.commands.exists? (fun _ c =>
      c.sessionId = 0 && c.type = .remoteStop && c.state.isLive) = true := by
    rw [Indexed.exists?_iff]
    exact ⟨k, cmd, command, by simp [session, type, live]⟩
  rw [facts.2] at found
  contradiction

end Step
end VtsaCsms.Charging
