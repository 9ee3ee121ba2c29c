import VtsaCsms.Mobile.ChargingController

/-!
# Applying a session

What `_applySession` leaves of the shown session, its reference and the polling, and what the
ends of the operations leave of them.
-/
namespace VtsaCsms.Mobile.ChargingController
open Foundation
variable {c c' c'' : ChargingController} {request : Request} {authoritative : ChargingSession}

/-- The shown session, its reference and the polling are as before, and a session that was
unfinished still is. -/
structure Undisturbed (c c' : ChargingController) : Prop where
  session : c'.session = c.session
  store : c'.store = c.store
  polling : c'.pollTimer = c.pollTimer
  unfinished : c.hasUnfinishedSession = true → c'.hasUnfinishedSession = true

namespace Undisturbed

theorem refl (c : ChargingController) : Undisturbed c c := ⟨rfl, rfl, rfl, id⟩

theorem trans (first : Undisturbed c c') (second : Undisturbed c' c'') : Undisturbed c c'' :=
  ⟨second.session.trans first.session, second.store.trans first.store, second.polling.trans first.polling,
    fun held => second.unfinished (first.unfinished held)⟩

end Undisturbed

theorem finishMutation_undisturbed (request : Request) (c : ChargingController) :
    Undisturbed c (finishMutation request c) := by
  unfold finishMutation
  split <;> exact ⟨rfl, rfl, rfl, id⟩

theorem finishSync_undisturbed (request : Request) (c : ChargingController) :
    Undisturbed c (finishSync request c) := by
  unfold finishSync
  split <;> exact ⟨rfl, rfl, rfl, id⟩

theorem restored_undisturbed (k : AfterRestore) (c : ChargingController) : Undisturbed c (restored k c).1 := by
  cases k with
  | nothing => exact .refl c
  | start request =>
    simp only [restored]
    split
    · rename_i failing
      have given : Undisturbed c { c with phase := .failed } :=
        ⟨rfl, rfl, rfl, fun held => by rw [failing.2] at held; cases held⟩
      exact given.trans (finishMutation_undisturbed request _)
    · exact finishMutation_undisturbed request c

theorem applied_undisturbed (k : AfterApply) (c : ChargingController) : Undisturbed c (applied k c).1 := by
  cases k with
  | restored _ _ _ k =>
    simp only [applied]
    split
    · exact .refl c
    · exact restored_undisturbed k c
  | restoredOther k => exact restored_undisturbed k c
  | mutation request => exact finishMutation_undisturbed request c
  | sync request => exact finishSync_undisturbed request c
  | realtime => exact .refl c

theorem awaitsStart_unfinished {s : ChargingSession} (awaits : s.awaitsStart = true) : s.isTerminal = false := by
  unfold ChargingSession.awaitsStart at awaits
  unfold ChargingSession.isTerminal
  cases state : s.state <;> simp [state] at awaits ⊢

theorem markStartTimedOut_undisturbed (c : ChargingController) : Undisturbed c (markStartTimedOut c) := by
  unfold markStartTimedOut
  split
  · rename_i awaits
    refine ⟨rfl, rfl, rfl, fun _ => ?_⟩
    cases shown : c.session with
    | none =>
      rw [shown] at awaits
      cases awaits
    | some =>
      rw [shown] at awaits
      simp [hasUnfinishedSession, awaitsStart_unfinished awaits]
  · exact .refl c

theorem scheduleDeadline_undisturbed (value : ChargingSession) (c : ChargingController) :
    Undisturbed c (scheduleDeadline value c) := by
  have timer : ∀ deadline, Undisturbed c { c with deadlineTimer := deadline } := fun _ => ⟨rfl, rfl, rfl, id⟩
  unfold scheduleDeadline
  split
  · exact timer none
  · split
    · exact timer none
    · split
      · exact (timer none).trans (markStartTimedOut_undisturbed _)
      · exact timer _

/-! ### The rest of an applied session -/

theorem syncApplied_session (request : Request) (authoritative : ChargingSession) (k : AfterApply) (keep : Bool)
    (c : ChargingController) : (syncApplied request authoritative k keep c).1.session = c.session := by
  unfold syncApplied
  split
  · exact (applied_undisturbed k c).session
  · refine (applied_undisturbed k _).session.trans ((scheduleDeadline_undisturbed authoritative _).session.trans ?_)
    cases keep <;> rfl

theorem recordShown_session (authoritative : ChargingSession) (request : Request) (k : AfterApply)
    (c : ChargingController) : (recordShown authoritative request k c).1.session = c.session := by
  unfold recordShown
  split
  · rfl
  · split
    · rfl
    · exact syncApplied_session request authoritative k false c

theorem applySession_session (k : AfterApply) (current : c.isCurrent request = true)
    (authenticated : c.authenticated = true) (fresh : c.overtaken authoritative = false) :
    (applySession authoritative request k c).1.session = some authoritative := by
  unfold applySession
  rw [if_neg (by simp [current, authenticated]), if_neg (by simp [fresh])]
  exact recordShown_session authoritative request k _

theorem applySession_dropped (k : AfterApply) (refused : c.isCurrent request = false ∨ c.authenticated = false ∨
      c.overtaken authoritative = true) : applySession authoritative request k c = applied k c := by
  unfold applySession
  split
  · rfl
  · rename_i admitted
    rw [if_pos]
    rcases refused with stale | locked | overtaken
    · exact absurd (Or.inl stale) admitted
    · exact absurd (Or.inr locked) admitted
    · exact overtaken

end VtsaCsms.Mobile.ChargingController
