import VtsaCsms.Mobile.AppliedSessions

/-!
# Unfinished sessions

The controller applies what it is answered to whatever it shows by then. An answer about a
session that has ended replaces the unfinished one that is shown unless the answer is not
applied at all, and the rest of an earlier one stops its polling.
-/
namespace VtsaCsms.Mobile
open Foundation

/-- What an answer, or the one an operation still acts on, is about. -/
def Suspended.about : Suspended → Answers → List ChargingSession
  | .written _ authoritative _, _ | .cleared _ authoritative _, _ => [authoritative]
  | .reference _ _ _, answers | .start _, answers | .stop _ _, answers | .cancelStart _, answers
  | .session _, answers | .detail _, answers => answers.session.toOption.toList
  | .active _ _ _, answers | .otherActive _ _ _, answers => (answers.active.toOption.bind id).toList
  | .history _ _ _, answers => (answers.page.toOption.map ChargingHistoryPage.sessions).getD []
  | .forgotten _ _ _, _ | .prepare _ _, _ | .mutation _, _ => []

/-- The answer that an operation applies, and the sign-in for which it does. The detail of a session
and the history are answered without being applied, and so is the session a restore found already. -/
def Suspended.applies : Suspended → Answers → Option (Request × ChargingSession)
  | .reference request _ _, answers | .start request, answers | .stop request _, answers
  | .cancelStart request, answers | .session request, answers =>
    answers.session.toOption.map fun answered => (request, answered)
  | .active request _ _, answers =>
    (answers.active.toOption.bind id).map fun answered => (request, answered)
  | .otherActive request recovered _, answers =>
    ((answers.active.toOption.bind id).filter fun answered => answered.id ≠ recovered.id).map
      fun answered => (request, answered)
  | _, _ => none

namespace ChargingController

def about (turn : Turn Event Answers) (w : App) : List ChargingSession :=
  match turn with
  | .enter (.update authoritative) => [authoritative]
  | .enter _ => []
  | .resume id answers => ((w.suspended id).map fun t => t.about answers).getD []

/-- The driver is shown a session that is unfinished. -/
structure Shows (c : ChargingController) (s : ChargingSession) : Prop where
  session : c.session = some s
  unfinished : c.hasUnfinishedSession = true
  authenticated : c.authenticated = true

/-- It is still shown, polled and referred to where it was. -/
structure Kept (s : ChargingSession) (c c' : ChargingController) : Prop where
  session : c'.session.map ChargingSession.id = some s.id
  unfinished : c'.hasUnfinishedSession = true
  polling : c.pollTimer = true → c'.pollTimer = true
  store : (∃ reference, c.store = some reference ∧ reference.sessionId = s.id) → c'.store = c.store

/-- No finished session that the turn is about displaces another that is not. -/
def Undisplaced (turn : Turn Event Answers) (w : App) : Prop :=
  ∀ s finished, Shows w.state s → finished ∈ about turn w → keepForRecovery finished = false →
    finished.id ≠ s.id → Kept s w.state (program.next turn w).state

/-- The turn acts on an answer about a finished session over `s`: it applies one, or it comes to the
end of one applied before, whose reference the device has forgotten by now. -/
inductive Displaces (s : ChargingSession) : Turn Event Answers → App → Prop
  | applied {id : Nat} {answers : Answers} {w : App} {t : Suspended} {request : Request} {finished : ChargingSession}
      (suspended : w.suspended id = some t) (applies : t.applies answers = some (request, finished))
      (current : w.state.isCurrent request = true) (unkept : keepForRecovery finished = false)
      (other : finished.id ≠ s.id) : Displaces s (.resume id answers) w
  | stopped {id : Nat} {answers : Answers} {w : App} {request : Request} {finished : ChargingSession} {k : AfterApply}
      (suspended : w.suspended id = some (.cleared request finished k))
      (current : w.state.isCurrent request = true) (polling : w.state.pollTimer = true)
      (unkept : keepForRecovery finished = false) (other : finished.id ≠ s.id) : Displaces s (.resume id answers) w
  | updated {finished : ChargingSession} {w : App} {subscription : RealtimeSubscription}
      (subscribed : w.state.realtimeSubscription = some subscription)
      (current : w.state.isCurrent subscription.request = true) (own : subscription.sessionId = s.id)
      (unkept : keepForRecovery finished = false) (other : finished.id ≠ s.id) :
      Displaces s (.enter (.update finished)) w

/-- No turn displaces the unfinished session that is shown. -/
def Undisturbing (turn : Turn Event Answers) (w : App) : Prop :=
  ∀ s, Shows w.state s → ¬ Displaces s turn w

section Steps
variable {c c' : ChargingController} {s finished authoritative : ChargingSession} {request : Request}
  {t : Suspended} {answers : Answers} {w : App}

theorem Undisturbed.kept (undisturbed : Undisturbed c c') (shows : Shows c s) : Kept s c c' where
  session := by rw [undisturbed.session, shows.session]; rfl
  unfinished := undisturbed.unfinished shows.unfinished
  polling polling := undisturbed.polling.trans polling
  store _ := undisturbed.store

theorem Shows.fresh (shows : Shows c s) (other : finished.id ≠ s.id) : c.overtaken finished = false := by
  simp [overtaken, shows.session, Ne.symm other]

theorem Shows.displaced (shows : Shows c s) (k : AfterApply) (current : c.isCurrent request = true)
    (other : finished.id ≠ s.id) : ¬ Kept s c (applySession finished request k c).1 := by
  intro kept
  have session := kept.session
  rw [applySession_session k current shows.authenticated (shows.fresh other)] at session
  exact other (Option.some.inj session)

theorem Shows.dropped (shows : Shows c s) (k : AfterApply) (stale : c.isCurrent request = false) :
    Kept s c (applySession finished request k c).1 := by
  rw [applySession_dropped k (Or.inl stale)]
  exact (applied_undisturbed k c).kept shows

theorem Shows.cleared (shows : Shows c s) (k : AfterApply) :
    Kept s c (syncApplied request finished k false c).1 ↔ ¬ (c.isCurrent request = true ∧ c.pollTimer = true) := by
  unfold syncApplied
  by_cases current : c.isCurrent request = true
  · rw [if_neg (by simp [current])]
    have later := (scheduleDeadline_undisturbed finished (stopSync c)).trans (applied_undisturbed k _)
    constructor
    · rintro kept ⟨-, polling⟩
      have off := later.polling.symm.trans (kept.polling polling)
      cases off
    · intro silent
      refine ⟨?_, ?_, ?_, ?_⟩
      · simp only [Bool.false_eq_true, if_false]
        rw [later.session]
        change c.session.map ChargingSession.id = some s.id
        rw [shows.session]
        rfl
      · exact later.unfinished shows.unfinished
      · exact fun polling => absurd ⟨current, polling⟩ silent
      · exact fun _ => later.store
  · rw [if_pos (by simpa using current)]
    exact ⟨fun _ both => current both.1, fun _ => (applied_undisturbed k c).kept shows⟩

/-! ### One turn -/

theorem applies_about (applies : t.applies answers = some (request, finished)) : finished ∈ t.about answers := by
  cases t with
  | reference | start | stop | cancelStart | session =>
    simp only [Suspended.applies, Option.map_eq_some_iff, Prod.mk.injEq] at applies
    obtain ⟨answered, came, -, rfl⟩ := applies
    simp [Suspended.about, came]
  | active =>
    simp only [Suspended.applies, Option.map_eq_some_iff, Prod.mk.injEq] at applies
    obtain ⟨answered, came, -, rfl⟩ := applies
    simp only [Suspended.about, came, Option.toList_some, List.mem_singleton]
  | otherActive =>
    simp only [Suspended.applies, Option.map_eq_some_iff, Prod.mk.injEq, Option.filter_eq_some_iff] at applies
    obtain ⟨answered, ⟨came, -⟩, -, rfl⟩ := applies
    simp only [Suspended.about, came, Option.toList_some, List.mem_singleton]
  | _ => cases applies

theorem session_of_map {request' : Request}
    (same : (answers.session.toOption.map fun answered => (request', answered)) = some (request, finished)) :
    request' = request ∧ answers.session = .ok finished := by
  cases session : answers.session with
  | error =>
    rw [session] at same
    cases same
  | ok =>
    rw [session] at same
    cases same
    exact ⟨rfl, rfl⟩

theorem active_of_bind (came : answers.active.toOption.bind id = some finished) :
    answers.active = .ok (some finished) := by
  cases active : answers.active with
  | error =>
    rw [active] at came
    cases came
  | ok =>
    rw [active] at came
    exact congrArg Except.ok came

theorem session_of_mem (member : finished ∈ answers.session.toOption.toList) : answers.session = .ok finished := by
  cases session : answers.session with
  | error =>
    rw [session] at member
    cases member
  | ok =>
    rw [session] at member
    rw [List.mem_singleton.mp member]

theorem active_of_mem (member : finished ∈ (answers.active.toOption.bind id).toList) :
    answers.active = .ok (some finished) :=
  active_of_bind (Option.mem_toList.mp member)

theorem resume_applies (applies : t.applies answers = some (request, finished))
    (current : c.isCurrent request = true) : ∃ k, resume t answers c = applySession finished request k c := by
  cases t with
  | reference request' reference k =>
    obtain ⟨rfl, session⟩ := session_of_map applies
    exact ⟨.restored request' (some reference) finished k, by simp [resume, session, restoreActive, current]⟩
  | start request' | stop request' current' | cancelStart request' =>
    obtain ⟨rfl, session⟩ := session_of_map applies
    exact ⟨.mutation request', by simp only [resume, session]⟩
  | session request' =>
    obtain ⟨rfl, session⟩ := session_of_map applies
    exact ⟨.sync request', by simp only [resume, session]⟩
  | active request' reference k =>
    simp only [Suspended.applies, Option.map_eq_some_iff, Prod.mk.injEq] at applies
    obtain ⟨answered, came, rfl, rfl⟩ := applies
    have active := active_of_bind came
    exact ⟨.restored request' reference answered k, by simp [resume, active, restoreActive, current]⟩
  | otherActive _ _ k =>
    simp only [Suspended.applies, Option.map_eq_some_iff, Prod.mk.injEq, Option.filter_eq_some_iff] at applies
    obtain ⟨answered, ⟨came, other⟩, rfl, rfl⟩ := applies
    have active := active_of_bind came
    exact ⟨.restoredOther k, by simp only [resume, active, if_pos (of_decide_eq_true other)]⟩
  | _ => cases applies

/-- Any other answer about a finished session leaves what is shown, but for the end of one applied before. -/
theorem resume_kept (shows : Shows c s) (member : finished ∈ t.about answers)
    (spared : ∀ request, t.applies answers = some (request, finished) → c.isCurrent request = false)
    (silent : ∀ request k, t = .cleared request finished k → ¬ (c.isCurrent request = true ∧ c.pollTimer = true)) :
    Kept s c (resume t answers c).1 := by
  have still := (Undisturbed.refl c).kept shows
  have ends : ∀ k, Kept s c (restored k c).1 := fun k => (restored_undisturbed k c).kept shows
  cases t with
  | written _ authoritative k =>
    have synced : Undisturbed { c with pollTimer := true } (startSync authoritative.id c) := ⟨rfl, rfl, rfl, id⟩
    have shows' : Shows { c with pollTimer := true } s := ⟨shows.session, shows.unfinished, shows.authenticated⟩
    simp only [resume, syncApplied]
    split
    · exact (applied_undisturbed k c).kept shows
    · have kept := ((synced.trans (scheduleDeadline_undisturbed authoritative _)).trans
        (applied_undisturbed k _)).kept shows'
      exact ⟨kept.session, kept.unfinished, fun _ => kept.polling rfl, kept.store⟩
  | cleared request authoritative k =>
    have same : finished = authoritative := by simpa [Suspended.about] using member
    subst same
    exact (shows.cleared k).mpr (silent request k rfl)
  | reference request _ k =>
    have session := session_of_mem member
    have away := spared request (by simp [Suspended.applies, session, Except.toOption])
    simp only [resume, session, restoreActive, if_pos away]
    exact ends k
  | start request | stop request current | cancelStart request | session request =>
    have session := session_of_mem member
    have away := spared request (by simp [Suspended.applies, session, Except.toOption])
    simp only [resume, session]
    exact shows.dropped _ away
  | detail =>
    have session := session_of_mem member
    simpa only [resume, session] using still
  | active request _ k =>
    have active := active_of_mem member
    have away := spared request (by simp [Suspended.applies, active, Except.toOption])
    simp only [resume, active, restoreActive, if_pos away]
    exact ends k
  | otherActive request recovered k =>
    have active := active_of_mem member
    simp only [resume, active]
    split
    · rename_i other
      have away := spared request (by simp [Suspended.applies, active, Except.toOption, Option.filter, other])
      exact shows.dropped _ away
    · exact ends k
  | history request accountGeneration nextPage =>
    have undisturbed : Undisturbed c (historyLoaded request accountGeneration nextPage answers.page c) := by
      unfold historyLoaded
      repeat' split
      all_goals exact ⟨rfl, rfl, rfl, id⟩
    exact undisturbed.kept shows
  | forgotten | prepare | mutation => cases member

theorem onUpdate_listening {subscription : RealtimeSubscription}
    (subscribed : c.realtimeSubscription = some subscription) (current : c.isCurrent subscription.request = true)
    (own : c.session.map ChargingSession.id = some subscription.sessionId) :
    onUpdate finished c =
      applySession finished subscription.request .realtime { c with realtimeConnected := true } := by
  simp [onUpdate, subscribed, current, own]

theorem Displaces.displaced {turn : Turn Event Answers} (displaces : Displaces s turn w) (shows : Shows w.state s) :
    ∃ finished ∈ about turn w, keepForRecovery finished = false ∧ finished.id ≠ s.id ∧
      ¬ Kept s w.state (program.next turn w).state := by
  cases displaces with
  | @applied _ _ _ t request finished suspended applies current unkept other =>
    refine ⟨finished, ?_, unkept, other, ?_⟩
    · simp only [about, suspended, Option.map_some, Option.getD_some]
      exact applies_about applies
    · obtain ⟨k, same⟩ := resume_applies applies current
      rw [Program.next_suspended suspended]
      change ¬ Kept s w.state (resume t _ w.state).1
      rw [same]
      exact shows.displaced k current other
  | @stopped _ _ _ request finished k suspended current polling unkept other =>
    refine ⟨finished, ?_, unkept, other, ?_⟩
    · simp only [about, suspended, Option.map_some, Option.getD_some]
      exact List.mem_singleton_self finished
    · rw [Program.next_suspended suspended]
      exact fun kept => (shows.cleared k).mp kept ⟨current, polling⟩
  | @updated finished _ subscription subscribed current own unkept other =>
    refine ⟨finished, List.mem_singleton_self finished, unkept, other, ?_⟩
    have shows' : Shows { w.state with realtimeConnected := true } s :=
      ⟨shows.session, shows.unfinished, shows.authenticated⟩
    change ¬ Kept s w.state (onUpdate finished w.state).1
    rw [onUpdate_listening subscribed current (by rw [shows.session, own]; rfl)]
    intro kept
    exact shows'.displaced .realtime current other ⟨kept.session, kept.unfinished, kept.polling, kept.store⟩

/-- A turn displaces a session that is shown exactly when it acts on an answer about a finished other. -/
theorem undisplaced_iff (turn : Turn Event Answers) (w : App) : Undisplaced turn w ↔ Undisturbing turn w := by
  constructor
  · intro undisplaced s shows displaces
    obtain ⟨finished, member, unkept, other, displaced⟩ := displaces.displaced shows
    exact displaced (undisplaced s finished shows member unkept other)
  · intro undisturbing s finished shows member unkept other
    have spared := undisturbing s shows
    cases turn with
    | enter e =>
      cases e with
      | update authoritative =>
        have same : finished = authoritative := by simpa [about] using member
        subst same
        have still := (Undisturbed.refl w.state).kept shows
        simp only [Program.next, program, enter, onUpdate]
        split
        · rename_i subscription subscribed
          split
          · exact still
          · rename_i listening
            simp only [not_or, Bool.not_eq_false, shows.session, Option.map_some, not_not,
              Option.some.injEq] at listening
            exact absurd (.updated subscribed listening.1 listening.2.symm unkept other) spared
        · exact still
      | _ => cases member
    | resume id =>
      cases suspended : w.suspended id with
      | none =>
        rw [about, suspended] at member
        cases member
      | some =>
        simp only [about, suspended, Option.map_some, Option.getD_some] at member
        rw [Program.next_suspended suspended]
        refine resume_kept shows member (fun request applies => ?_) fun request k same both => ?_
        · by_contra present
          exact spared (.applied suspended applies (by simpa using present) unkept other)
        · subst same
          exact spared (.stopped suspended both.1 both.2 unkept other)

end Steps

/-- Over a run no finished session displaces an unfinished one exactly when no turn acts on an answer
about a finished session while another, unfinished, is shown. -/
theorem undisplaced_iff_undisturbing (app : Surroundings) (store : LocalActiveSessionStore)
    (turns : List (Turn Event Answers)) :
    Runs.Met program.next Undisplaced turns (launched app store) ↔
      Runs.Met program.next Undisturbing turns (launched app store) :=
  Runs.met_congr undisplaced_iff turns (launched app store)

end ChargingController

/-! ### A refresh that comes late -/

namespace LateRefresh
open ChargingController

def snapshot (id : String) (state : Charging.ChargingSessionState) (aggregateVersion : Int) : ChargingSession where
  id
  state
  stationId := "site"
  connectorId := "connector"
  requestedAt := 0
  aggregateVersion
  paymentState := .captured

def running : ChargingSession := snapshot "A" .charging 5

def ended : ChargingSession := snapshot "A" .completed 7

def started : ChargingSession := snapshot "B" .charging 5

def driver : Surroundings where
  ownerId := "driver"
  authenticated := true
  online := true
  now := 10

def answering (session : ChargingSession) : Answers where
  session := .ok session
  active := .ok (some session)
  preparation := .ok ⟨⟨"connector", .available⟩, ⟨"quote", 1000⟩, [⟨"wallet", true⟩]⟩
  page := .ok ⟨[], none⟩
  done := .ok ()
  ulid := "01"

def noneActive : Answers := { answering running with active := .ok none }

/-- A poll asks for session A and waits. Meanwhile A is restored as ended, and B is started. -/
def overlapping : List (Turn Event Answers) :=
  [.enter .restoreAuthoritativeSession, .resume 0 (answering running), .resume 0 (answering running),
    .enter .poll, .enter .restoreAuthoritativeSession, .resume 2 (answering ended),
    .resume 2 (answering ended), .resume 2 noneActive, .enter (.prepare (.ok "VSTA-ABC_123")),
    .resume 3 (answering ended), .enter .start, .resume 4 (answering started), .resume 4 (answering started)]

set_option maxRecDepth 4000 in
/-- Then the answer to the poll comes, and B is gone. -/
theorem late_refresh_displaces :
    ¬ ∀ app store turns, Runs.Met program.next Undisplaced turns (launched app store) := by
  intro undisplaced
  have met := undisplaced driver none (overlapping ++ [.resume 1 (answering ended)])
  rw [Runs.met_append] at met
  have shows : Shows (Runs.reached program.next overlapping (launched driver none)).state started :=
    ⟨by decide +kernel, by decide +kernel, by decide +kernel⟩
  have kept := met.2.1 started ended shows (by decide +kernel) (by decide +kernel) (by decide +kernel)
  exact absurd kept.session (by decide +kernel)

end LateRefresh
end VtsaCsms.Mobile
