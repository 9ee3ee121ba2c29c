import VtsaCsms.Mobile.ChargingController

/-!
# Signing out

An operation goes on only while `_isCurrent` says that its sign-in lasts. A sign-out ends it
for every operation begun before, whatever is answered to them later, so what the next user
sees does not depend on those answers.
-/
namespace VtsaCsms.Mobile
open Foundation

/-! ### The sign-ins a suspended operation goes on for -/

def AfterRestore.requests : AfterRestore → List Request
  | .nothing => []
  | .start request => [request]

def AfterApply.requests : AfterApply → List Request
  | .restored request _ _ k => request :: k.requests
  | .restoredOther k => k.requests
  | .mutation request | .sync request => [request]
  | .realtime => []

def Suspended.requests : Suspended → List Request
  | .written request _ k | .cleared request _ k => request :: k.requests
  | .reference request _ k | .forgotten request _ k | .active request _ k
  | .otherActive request _ k => request :: k.requests
  | .prepare request _ | .start request | .stop request _ | .cancelStart request | .session request
  | .detail request | .history request _ _ | .mutation request => [request]

namespace ChargingController
variable {c : ChargingController} {r request : Request} {k : AfterRestore} {k' : AfterApply} {t t' : Suspended}

/-! ### What no answer changes -/

@[simp] theorem finishMutation_surroundings (request : Request) (c : ChargingController) :
    (finishMutation request c).toSurroundings = c.toSurroundings := by
  unfold finishMutation
  split <;> rfl

@[simp] theorem finishSync_surroundings (request : Request) (c : ChargingController) :
    (finishSync request c).toSurroundings = c.toSurroundings := by
  unfold finishSync
  split <;> rfl

@[simp] theorem fail_surroundings (request : Request) (failure : AppFailure) (c : ChargingController) :
    (fail request failure c).toSurroundings = c.toSurroundings := by
  unfold fail
  split <;> rfl

@[simp] theorem restored_surroundings (k : AfterRestore) (c : ChargingController) :
    (restored k c).1.toSurroundings = c.toSurroundings := by
  cases k with
  | nothing => rfl
  | start =>
    simp only [restored]
    split <;> simp

@[simp] theorem restoreThrew_surroundings (k : AfterRestore) (c : ChargingController) :
    (restoreThrew k c).1.toSurroundings = c.toSurroundings := by
  cases k <;> simp [restoreThrew]

@[simp] theorem applied_surroundings (k : AfterApply) (c : ChargingController) :
    (applied k c).1.toSurroundings = c.toSurroundings := by
  cases k with
  | restored =>
    simp only [applied]
    split <;> simp
  | _ => simp [applied]

@[simp] theorem scheduleDeadline_surroundings (value : ChargingSession) (c : ChargingController) :
    (scheduleDeadline value c).toSurroundings = c.toSurroundings := by
  unfold scheduleDeadline markStartTimedOut
  repeat' split
  all_goals rfl

@[simp] theorem syncApplied_surroundings (request : Request) (authoritative : ChargingSession) (k : AfterApply)
    (keep : Bool) (c : ChargingController) :
    (syncApplied request authoritative k keep c).1.toSurroundings = c.toSurroundings := by
  unfold syncApplied
  split
  · simp
  · cases keep <;> simp [startSync, stopSync]

@[simp] theorem applySession_surroundings (authoritative : ChargingSession) (request : Request) (k : AfterApply)
    (c : ChargingController) : (applySession authoritative request k c).1.toSurroundings = c.toSurroundings := by
  unfold applySession recordShown shown
  repeat' split
  all_goals simp

@[simp] theorem restoreAuthoritativeSession_surroundings (k : AfterRestore) (c : ChargingController) :
    (restoreAuthoritativeSession k c).1.toSurroundings = c.toSurroundings := by
  unfold restoreAuthoritativeSession
  repeat' split
  all_goals simp

@[simp] theorem restoreActive_surroundings (request : Request) (reference : Option ActiveSessionReference)
    (k : AfterRestore) (recovered : Option ChargingSession) (c : ChargingController) :
    (restoreActive request reference k recovered c).1.toSurroundings = c.toSurroundings := by
  unfold restoreActive
  repeat' split
  all_goals simp

@[simp] theorem restoreFailed_surroundings (request : Request) (k : AfterRestore) (failure : Option AppFailure)
    (c : ChargingController) : (restoreFailed request k failure c).1.toSurroundings = c.toSurroundings := by
  cases failure <;> simp [restoreFailed]

@[simp] theorem restoreMissing_surroundings (request : Request) (reference : ActiveSessionReference)
    (k : AfterRestore) (c : ChargingController) :
    (restoreMissing request reference k c).1.toSurroundings = c.toSurroundings := by
  unfold restoreMissing
  repeat' split
  all_goals simp

@[simp] theorem finishPrepare_surroundings (request : Request) (accountGeneration : Nat) (c : ChargingController) :
    (finishPrepare request accountGeneration c).toSurroundings = c.toSurroundings := by
  unfold finishPrepare
  split <;> rfl

@[simp] theorem prepared_surroundings (request : Request) (accountGeneration : Nat) (answers : Answers)
    (c : ChargingController) : (prepared request accountGeneration answers c).toSurroundings = c.toSurroundings := by
  unfold prepared
  repeat' split
  all_goals rfl

@[simp] theorem startFailed_surroundings (request : Request) (failure : AppFailure) (c : ChargingController) :
    (startFailed request failure c).1.toSurroundings = c.toSurroundings := by
  unfold startFailed
  repeat' split
  all_goals simp

@[simp] theorem stopFailed_surroundings (request : Request) (current : ChargingSession) (failure : AppFailure)
    (c : ChargingController) : (stopFailed request current failure c).toSurroundings = c.toSurroundings := by
  unfold stopFailed
  split <;> simp

@[simp] theorem historyLoaded_surroundings (request : Request) (accountGeneration : Nat) (nextPage : Bool)
    (page : Except AppFailure ChargingHistoryPage) (c : ChargingController) :
    (historyLoaded request accountGeneration nextPage page c).toSurroundings = c.toSurroundings := by
  unfold historyLoaded
  repeat' split
  all_goals rfl

theorem resume_surroundings (t : Suspended) (answers : Answers) (c : ChargingController) :
    (resume t answers c).1.toSurroundings = c.toSurroundings := by
  cases t with
  | written | cleared | prepare | history => simp [resume]
  | forgotten =>
    simp only [resume]
    split <;> simp
  | reference =>
    simp only [resume]
    repeat' split
    all_goals simp
  | active | start | stop | cancelStart | session | detail | mutation =>
    simp only [resume]
    split <;> simp
  | otherActive =>
    simp only [resume]
    repeat' split
    all_goals simp

/-! ### Operations of an earlier sign-in -/

/-- Every sign-in the operation goes on for is over. -/
def Spent (c : ChargingController) (t : Suspended) : Prop := ∀ r ∈ t.requests, r.generation < c.generation

/-- Nothing was changed, and what goes on is an operation of an earlier sign-in. -/
def Untouched (c : ChargingController) (out : ChargingController × Option Suspended) : Prop :=
  out.1 = c ∧ ∀ t, out.2 = some t → Spent c t

theorem untouched_none (c : ChargingController) : Untouched c (c, none) := ⟨rfl, fun _ none => by cases none⟩

theorem untouched_some (spent : Spent c t) : Untouched c (c, some t) :=
  ⟨rfl, fun _ same => Option.some.inj same ▸ spent⟩

theorem not_current (stale : request.generation < c.generation) : c.isCurrent request = false := by
  simp [isCurrent, Nat.ne_of_lt stale]

theorem finishMutation_stale (stale : request.generation < c.generation) : finishMutation request c = c := by
  simp [finishMutation, not_current stale]

theorem finishSync_stale (stale : request.generation < c.generation) : finishSync request c = c := by
  simp [finishSync, not_current stale]

theorem fail_stale (stale : request.generation < c.generation) (failure : AppFailure) :
    fail request failure c = c := by
  simp [fail, not_current stale]

theorem restored_stale (stale : ∀ r ∈ k.requests, r.generation < c.generation) : restored k c = (c, none) := by
  cases k with
  | nothing => rfl
  | start request =>
    have past : request.generation < c.generation := stale request List.mem_cons_self
    simp [restored, not_current past, finishMutation_stale past]

theorem restoreThrew_stale (stale : ∀ r ∈ k.requests, r.generation < c.generation) :
    restoreThrew k c = (c, none) := by
  cases k with
  | nothing => rfl
  | start request => simp only [restoreThrew, finishMutation_stale (stale request List.mem_cons_self)]

theorem restored_untouched (stale : ∀ r ∈ k.requests, r.generation < c.generation) :
    Untouched c (restored k c) := by
  rw [restored_stale stale]
  exact untouched_none c

theorem applied_untouched (stale : ∀ r ∈ k'.requests, r.generation < c.generation) :
    Untouched c (applied k' c) := by
  cases k' with
  | restored =>
    simp only [applied]
    split
    · exact untouched_some stale
    · exact restored_untouched fun r member => stale r (List.mem_cons_of_mem _ member)
  | restoredOther => exact restored_untouched stale
  | mutation request =>
    simp only [applied, finishMutation_stale (stale request List.mem_cons_self)]
    exact untouched_none c
  | sync request =>
    simp only [applied, finishSync_stale (stale request List.mem_cons_self)]
    exact untouched_none c
  | realtime => exact untouched_none c

theorem applySession_untouched (authoritative : ChargingSession) (stale : request.generation < c.generation)
    (stale' : ∀ r ∈ k'.requests, r.generation < c.generation) :
    Untouched c (applySession authoritative request k' c) := by
  unfold applySession
  rw [if_pos (Or.inl (not_current stale))]
  exact applied_untouched stale'

section Restoring
variable (stale : request.generation < c.generation) (stale' : ∀ r ∈ k.requests, r.generation < c.generation)
include stale stale'

theorem restoreActive_untouched (reference : Option ActiveSessionReference) (recovered : Option ChargingSession) :
    Untouched c (restoreActive request reference k recovered c) := by
  unfold restoreActive
  rw [if_pos (not_current stale)]
  exact restored_untouched stale'

theorem restoreFailed_untouched (failure : Option AppFailure) :
    Untouched c (restoreFailed request k failure c) := by
  cases failure with
  | some =>
    simp only [restoreFailed, fail_stale stale]
    exact restored_untouched stale'
  | none =>
    simp only [restoreFailed, restoreThrew_stale stale']
    exact untouched_none c

theorem restoreMissing_untouched (reference : ActiveSessionReference) :
    Untouched c (restoreMissing request reference k c) := by
  unfold restoreMissing
  rw [if_pos (not_current stale)]
  exact restored_untouched stale'

end Restoring

theorem resume_untouched (answers : Answers) (spent : Spent c t) : Untouched c (resume t answers c) := by
  have first : ∀ {request : Request} {rest : List Request}, t.requests = request :: rest →
      request.generation < c.generation ∧ ∀ r ∈ rest, r.generation < c.generation := by
    intro request rest own
    exact ⟨spent request (own ▸ List.mem_cons_self), fun r member => spent r (own ▸ List.mem_cons_of_mem _ member)⟩
  have silent : ∀ {m : ChargingController}, m = c → Untouched c (m, none) := fun same => same ▸ untouched_none c
  cases t with
  | written request authoritative k | cleared request authoritative k =>
    obtain ⟨stale, stale'⟩ := first rfl
    simp only [resume, syncApplied]
    rw [if_pos (not_current stale)]
    exact applied_untouched stale'
  | reference =>
    obtain ⟨stale, stale'⟩ := first rfl
    simp only [resume]
    split
    · exact restoreActive_untouched stale stale' _ _
    · split
      · exact restoreFailed_untouched stale stale' _
      · exact restoreMissing_untouched stale stale' _
  | forgotten =>
    obtain ⟨stale, stale'⟩ := first rfl
    simp only [resume]
    rw [if_pos (not_current stale)]
    exact restored_untouched stale'
  | active =>
    obtain ⟨stale, stale'⟩ := first rfl
    simp only [resume]
    split
    · exact restoreActive_untouched stale stale' _ _
    · exact restoreFailed_untouched stale stale' _
  | otherActive =>
    obtain ⟨stale, stale'⟩ := first rfl
    simp only [resume]
    split
    · split
      · exact applySession_untouched _ stale stale'
      · exact restored_untouched stale'
    · exact restored_untouched stale'
    · exact restoreFailed_untouched stale stale' _
  | prepare request accountGeneration =>
    have past := not_current (first rfl).1
    refine silent ?_
    have same : prepared request accountGeneration answers c = c := by
      unfold prepared
      split <;> simp [past]
    rw [same]
    simp [finishPrepare, past]
  | start =>
    have stale := (first rfl).1
    simp only [resume]
    split
    · exact applySession_untouched _ stale fun r member => spent r member
    · simp only [startFailed, not_current stale, if_true]
      exact untouched_none c
  | stop =>
    have stale := (first rfl).1
    simp only [resume]
    split
    · exact applySession_untouched _ stale fun r member => spent r member
    · exact silent (by simp [stopFailed, not_current stale])
  | cancelStart =>
    have stale := (first rfl).1
    simp only [resume]
    split
    · exact applySession_untouched _ stale fun r member => spent r member
    · exact silent (by rw [fail_stale stale, finishMutation_stale stale])
  | session =>
    have stale := (first rfl).1
    simp only [resume]
    split
    · exact applySession_untouched _ stale fun r member => spent r member
    · exact silent (by rw [fail_stale stale, finishSync_stale stale])
  | detail =>
    have stale := (first rfl).1
    simp only [resume]
    split
    · exact untouched_none c
    · exact silent (fail_stale stale _)
  | history =>
    exact silent (by simp [historyLoaded, not_current (first rfl).1])
  | mutation =>
    have stale := (first rfl).1
    simp only [resume]
    split
    · exact silent (finishMutation_stale stale)
    · exact silent (by rw [fail_stale stale, finishMutation_stale stale])

/-! ### What an event changes of the surroundings -/

end ChargingController

def Event.surroundings : Event → Surroundings → Surroundings
  | .account ownerId authenticated, s => { s with ownerId, authenticated }
  | .clock now, s => { s with now }
  | .network online, s => { s with online }
  | .onChargingAccountChanged, s => { s with accountGeneration := s.accountGeneration + 1 }
  | .onSignedOut _, s => { s with generation := s.generation + 1 }
  | .dispose, s => { s with disposed := true, generation := s.generation + 1 }
  | _, s => s

theorem Event.surroundings_generation (e : Event) (s : Surroundings) :
    s.generation ≤ (e.surroundings s).generation := by
  cases e <;> simp [Event.surroundings]

namespace ChargingController
variable {c m : ChargingController} {request : Request} {k : AfterRestore} {k' : AfterApply} {t : Suspended}

theorem refresh_surroundings (c : ChargingController) : (refresh c).1.toSurroundings = c.toSurroundings := by
  unfold refresh
  split <;> rfl

theorem recoverSession_surroundings (c : ChargingController) :
    (recoverSession c).1.toSurroundings = c.toSurroundings := by
  unfold recoverSession
  split <;> rfl

theorem enter_surroundings (e : Event) (c : ChargingController) :
    (enter e c).1.toSurroundings = e.surroundings c.toSurroundings := by
  cases e with
  | account | clock | onChargingAccountChanged | onSignedOut | dispose => rfl
  | network =>
    simp only [enter, onNetworkChanged]
    split <;> simp [Event.surroundings]
  | restoreAuthoritativeSession => exact restoreAuthoritativeSession_surroundings .nothing c
  | prepare =>
    simp only [enter, prepare]
    repeat' split
    all_goals rfl
  | selectPaymentMethod =>
    simp only [enter, selectPaymentMethod]
    split <;> rfl
  | start =>
    simp only [enter, start]
    repeat' split
    all_goals first | rfl | simp [Event.surroundings]
  | stop =>
    simp only [enter, stop]
    repeat' split
    all_goals rfl
  | cancelPendingStart =>
    simp only [enter, cancelPendingStart]
    repeat' split
    all_goals rfl
  | refresh => exact refresh_surroundings c
  | recoverSession => exact recoverSession_surroundings c
  | fetchSessionDetail =>
    simp only [enter, fetchSessionDetail]
    repeat' split
    all_goals first | exact refresh_surroundings c | rfl
  | loadHistory =>
    simp only [enter, loadHistory]
    split <;> rfl
  | runSessionMutation =>
    simp only [enter, runSessionMutation]
    split <;> rfl
  | resetStartFlow =>
    simp only [enter, resetStartFlow]
    split <;> rfl
  | push =>
    simp only [enter, onPush]
    repeat' split
    all_goals first
      | exact restoreAuthoritativeSession_surroundings .nothing c
      | exact refresh_surroundings c
      | exact recoverSession_surroundings c
      | rfl
  | update =>
    simp only [enter, onUpdate]
    repeat' split
    all_goals simp [Event.surroundings]
  | updatesEnded =>
    simp only [enter, onUpdatesEnded]
    repeat' split
    all_goals rfl
  | poll =>
    simp only [enter]
    split
    · exact refresh_surroundings c
    · rfl
  | deadline =>
    simp only [enter, onDeadline, markStartTimedOut]
    repeat' split
    all_goals rfl

/-! ### Operations go on for sign-ins there have been -/

/-- The operation that is left, if any, goes on for no sign-in after the `n`th. -/
def Within (n : Nat) (out : ChargingController × Option Suspended) : Prop :=
  ∀ t, out.2 = some t → ∀ r ∈ t.requests, r.generation ≤ n

section Within
variable {n : Nat}

theorem within_none (c : ChargingController) : Within n (c, none) := fun _ none => by cases none

theorem within_some (bounded : ∀ r ∈ t.requests, r.generation ≤ n) : Within n (c, some t) :=
  fun _ same => Option.some.inj same ▸ bounded

theorem within_own (own : t.requests = [c.request]) : Within c.generation (m, some t) := by
  refine within_some fun r member => ?_
  rw [own, List.mem_singleton] at member
  exact member ▸ Nat.le_refl _

theorem restored_within (k : AfterRestore) (c : ChargingController) : Within n (restored k c) := by
  cases k with
  | nothing => exact within_none c
  | start =>
    simp only [restored]
    split <;> exact within_none _

theorem restoreThrew_within (k : AfterRestore) (c : ChargingController) : Within n (restoreThrew k c) := by
  cases k <;> exact within_none _

theorem applied_within (bounded : ∀ r ∈ k'.requests, r.generation ≤ n) : Within n (applied k' c) := by
  cases k' with
  | restored _ _ _ k =>
    simp only [applied]
    split
    · exact within_some bounded
    · exact restored_within k c
  | restoredOther k => exact restored_within k c
  | mutation | sync | realtime => exact within_none _

theorem syncApplied_within (authoritative : ChargingSession) (keep : Bool)
    (bounded : ∀ r ∈ k'.requests, r.generation ≤ n) : Within n (syncApplied request authoritative k' keep c) := by
  unfold syncApplied
  split <;> exact applied_within bounded

theorem applySession_within (authoritative : ChargingSession)
    (bounded : ∀ r ∈ request :: k'.requests, r.generation ≤ n) :
    Within n (applySession authoritative request k' c) := by
  have later : ∀ r ∈ k'.requests, r.generation ≤ n := fun r member => bounded r (List.mem_cons_of_mem _ member)
  unfold applySession recordShown
  split
  · exact applied_within later
  · split
    · exact applied_within later
    · split
      · exact within_some bounded
      · split
        · exact within_some bounded
        · exact syncApplied_within authoritative false later

theorem restoreAuthoritativeSession_within (current : c.generation ≤ n) (bounded : ∀ r ∈ k.requests, r.generation ≤ n) :
    Within n (restoreAuthoritativeSession k c) := by
  have all : ∀ r ∈ c.request :: k.requests, r.generation ≤ n := List.forall_mem_cons.mpr ⟨current, bounded⟩
  unfold restoreAuthoritativeSession
  split
  · exact restored_within k c
  · split
    · exact restored_within k c
    · split <;> exact within_some all

theorem restoreActive_within (reference : Option ActiveSessionReference) (recovered : Option ChargingSession)
    (bounded : ∀ r ∈ request :: k.requests, r.generation ≤ n) :
    Within n (restoreActive request reference k recovered c) := by
  unfold restoreActive
  split
  · exact restored_within k c
  · split
    · exact applySession_within _ (List.forall_mem_cons.mpr ⟨bounded request List.mem_cons_self, bounded⟩)
    · exact restored_within k c

theorem restoreFailed_within (failure : Option AppFailure) : Within n (restoreFailed request k failure c) := by
  cases failure
  · exact restoreThrew_within k c
  · exact restored_within k _

theorem restoreMissing_within (reference : ActiveSessionReference)
    (bounded : ∀ r ∈ request :: k.requests, r.generation ≤ n) :
    Within n (restoreMissing request reference k c) := by
  unfold restoreMissing
  split
  · exact restored_within k c
  · split <;> exact within_some bounded

theorem resume_within (answers : Answers) (current : c.generation ≤ n)
    (bounded : ∀ r ∈ t.requests, r.generation ≤ n) : Within n (resume t answers c) := by
  cases t with
  | written request authoritative k | cleared request authoritative k =>
    exact syncApplied_within authoritative _ fun r member => bounded r (List.mem_cons_of_mem _ member)
  | reference _ reference =>
    simp only [resume]
    split
    · exact restoreActive_within _ _ bounded
    · split
      · exact restoreFailed_within _
      · exact restoreMissing_within reference bounded
  | forgotten _ _ k =>
    simp only [resume]
    split
    · exact restored_within k c
    · exact within_some bounded
  | active =>
    simp only [resume]
    split
    · exact restoreActive_within _ _ bounded
    · exact restoreFailed_within _
  | otherActive _ _ k =>
    simp only [resume]
    split
    · split
      · exact applySession_within _ bounded
      · exact restored_within k c
    · exact restored_within k c
    · exact restoreFailed_within _
  | start request =>
    simp only [resume]
    split
    · exact applySession_within _ (List.forall_mem_cons.mpr ⟨bounded request List.mem_cons_self, bounded⟩)
    · unfold startFailed
      split
      · exact within_none c
      · split
        · exact restoreAuthoritativeSession_within (c := { c with failure := _ }) current bounded
        · exact within_none _
  | stop request | cancelStart request | session request =>
    simp only [resume]
    split
    · exact applySession_within _ (List.forall_mem_cons.mpr ⟨bounded request List.mem_cons_self, bounded⟩)
    · exact within_none _
  | prepare => exact within_none _
  | detail =>
    simp only [resume]
    split <;> exact within_none _
  | history => exact within_none _
  | mutation =>
    simp only [resume]
    split <;> exact within_none _

theorem refresh_within (c : ChargingController) : Within c.generation (refresh c) := by
  unfold refresh
  split
  · exact within_none c
  · exact within_own rfl

theorem recoverSession_within (c : ChargingController) : Within c.generation (recoverSession c) := by
  unfold recoverSession
  split
  · exact within_none c
  · exact within_own rfl

theorem onUpdate_within (update : ChargingSession) (c : ChargingController) :
    Within c.generation (onUpdate update c) := by
  unfold onUpdate
  split
  · rename_i subscription _
    split
    · exact within_none c
    · rename_i listening
      refine applySession_within _ fun r member => ?_
      have own : r = subscription.request := by simpa [AfterApply.requests] using member
      simp only [not_or, Bool.not_eq_false] at listening
      have current := listening.1
      simp only [isCurrent, Bool.and_eq_true, decide_eq_true_eq] at current
      rw [own, current.1.2]
  · exact within_none c

theorem enter_within (e : Event) (c : ChargingController) : Within c.generation (enter e c) := by
  cases e with
  | account | clock | selectPaymentMethod | resetStartFlow | onChargingAccountChanged | onSignedOut
  | updatesEnded | deadline | dispose => exact within_none _
  | network online =>
    simp only [enter, onNetworkChanged]
    split
    · exact restoreAuthoritativeSession_within (c := { c with online }) (Nat.le_refl _) fun r none => by cases none
    · exact within_none _
  | restoreAuthoritativeSession =>
    exact restoreAuthoritativeSession_within (Nat.le_refl _) fun r none => by cases none
  | prepare =>
    simp only [enter, prepare]
    split
    · exact within_none c
    · split
      · exact within_none _
      · split
        · exact within_none _
        · exact within_own rfl
  | start =>
    simp only [enter, start]
    repeat' split
    all_goals first | exact within_none _ | exact within_own rfl
  | stop =>
    simp only [enter, stop]
    repeat' split
    all_goals first | exact within_none _ | exact within_own rfl
  | cancelPendingStart =>
    simp only [enter, cancelPendingStart]
    repeat' split
    all_goals first | exact within_none _ | exact within_own rfl
  | refresh => exact refresh_within c
  | recoverSession => exact recoverSession_within c
  | fetchSessionDetail =>
    simp only [enter, fetchSessionDetail]
    split
    · exact refresh_within c
    · split
      · exact within_none c
      · exact within_own rfl
  | loadHistory =>
    simp only [enter, loadHistory]
    split
    · exact within_none c
    · exact within_own rfl
  | runSessionMutation =>
    simp only [enter, runSessionMutation]
    split
    · exact within_none c
    · exact within_own rfl
  | push =>
    simp only [enter, onPush]
    split
    · exact within_none c
    · split
      · exact restoreAuthoritativeSession_within (Nat.le_refl _) fun r none => by cases none
      · split
        · exact refresh_within c
        · split
          · exact recoverSession_within c
          · exact within_none c
  | update authoritative => exact onUpdate_within authoritative c
  | poll =>
    simp only [enter]
    split
    · exact refresh_within c
    · exact within_none c

end Within

/-- An operation of this sign-in or an earlier one. -/
def Begun (c : ChargingController) (t : Suspended) : Prop := ∀ r ∈ t.requests, r.generation ≤ c.generation

theorem enter_generation (e : Event) (c : ChargingController) : c.generation ≤ (enter e c).1.generation := by
  have same := congrArg Surroundings.generation (enter_surroundings e c)
  rw [same]
  exact e.surroundings_generation c.toSurroundings

theorem resume_generation (t : Suspended) (answers : Answers) (c : ChargingController) :
    (resume t answers c).1.generation = c.generation :=
  congrArg Surroundings.generation (resume_surroundings t answers c)

theorem holds_begun : program.Holds Begun where
  entered e c t left r member := (enter_within e c t left r member).trans (enter_generation e c)
  resumed t answers c _ bounded left r member :=
    (resume_within answers (Nat.le_refl _) bounded _ left r member).trans_eq (resume_generation t answers c).symm
  keptEntering e c _ bounded r member := (bounded r member).trans (enter_generation e c)
  keptResuming t answers c _ bounded r member :=
    (bounded r member).trans_eq (resume_generation t answers c).symm

theorem retires_spent : program.Retires Spent where
  keptEntering e c _ spent r member := Nat.lt_of_lt_of_le (spent r member) (enter_generation e c)
  keptResuming t answers c _ spent r member :=
    (spent r member).trans_eq (resume_generation t answers c).symm
  inert _ answers _ spent := (resume_untouched answers spent).1
  spent _ answers _ _ spent left := (resume_untouched answers spent).2 _ left

/-! ### Runs -/

def after (turns : List (Turn Event Answers)) (w : App) : App := Runs.reached program.next turns w

theorem after_append (turns later : List (Turn Event Answers)) (w : App) :
    after (turns ++ later) w = after later (after turns w) := by
  unfold after Runs.reached
  exact List.foldl_append

theorem onSignedOut_eq (ownerId : Option String) (c : ChargingController) :
    onSignedOut ownerId c =
      { toSurroundings := (Event.onSignedOut ownerId).surroundings c.toSurroundings
        store := c.store.clear (ownerId.getD c.ownerId) } := rfl

theorem read_clear (ownerId : String) (store : LocalActiveSessionStore) : (store.clear ownerId).read ownerId = none := by
  unfold LocalActiveSessionStore.clear
  split
  · rfl
  · rename_i absent
    simpa using absent

theorem retired_signedOut {w : App} (begun : Program.EveryTask Begun w)
    (ownerId : Option String) :
    Program.Retired Spent w.tasks.length (program.next (.enter (.onSignedOut ownerId)) w) := by
  refine ⟨Program.length_le_next _ w, ?_⟩
  intro id t old suspended r member
  have before : w.tasks[id]? = some (some t) := by
    simp only [Program.next] at suspended
    rwa [List.getElem?_append_left old] at suspended
  exact Nat.lt_succ_of_le (begun id t before r member)

/-- The turn answers none of the chosen ones among the first `n` operations. -/
def spares (n : Nat) (answered : Nat → Bool) : Turn Event Answers → Bool
  | .enter _ => true
  | .resume id _ => !(decide (id < n) && answered id)

theorem filter_spares (n : Nat) (answered : Nat → Bool) (turns : List (Turn Event Answers)) :
    (turns.filter (spares n answered)).filter (Turn.laterThan n) = turns.filter (Turn.laterThan n) := by
  rw [List.filter_filter]
  refine List.filter_congr fun turn _ => ?_
  cases turn with
  | enter => rfl
  | resume id =>
    by_cases old : id < n
    · simp [Turn.laterThan, Nat.not_le_of_lt old]
    · simp [Turn.laterThan, spares, old]

section SignedOut
variable (app : Surroundings) (store : LocalActiveSessionStore) (before : List (Turn Event Answers))
  (ownerId : Option String) (answered : Nat → Bool)

/-- Turns without the chosen answers to the operations begun before a sign-out. -/
def silenced (turns : List (Turn Event Answers)) : List (Turn Event Answers) :=
  turns.filter (spares (after before (launched app store)).tasks.length answered)

def signedOut (turns : List (Turn Event Answers)) : App :=
  after (turns ++ [.enter (.onSignedOut ownerId)]) (launched app store)

/-- The sign-out parts what comes after it from the chosen answers. -/
structure Parted : Prop where
  /-- An answer that comes later changes nothing, ever. -/
  late : ∀ later, (after later (signedOut app store ownerId before)).state =
    (after (silenced app store before answered later) (signedOut app store ownerId before)).state
  /-- One that came before has left nothing in the controller, -/
  early : (signedOut app store ownerId before).state =
    { (signedOut app store ownerId (silenced app store before answered before)).state with
      store := (signedOut app store ownerId before).state.store }
  /-- nothing of the account that signs out in the preferences, -/
  forgotten : (signedOut app store ownerId before).state.store.read
    (ownerId.getD (after before (launched app store)).state.ownerId) = none
  /-- and unless it replaced a reference of another account there, nothing at all. -/
  ever : (signedOut app store ownerId before).state.store =
      (signedOut app store ownerId (silenced app store before answered before)).state.store →
    ∀ later, (after later (signedOut app store ownerId before)).state =
      (after (silenced app store before answered later)
        (signedOut app store ownerId (silenced app store before answered before))).state

theorem begun_launched (turns : List (Turn Event Answers)) :
    Program.EveryTask Begun (after turns (launched app store)) :=
  holds_begun.run turns fun _ _ suspended => by cases suspended

theorem signedOut_eq (turns : List (Turn Event Answers)) :
    signedOut app store ownerId turns =
      program.next (.enter (.onSignedOut ownerId)) (after turns (launched app store)) := by
  unfold signedOut
  rw [after_append]
  rfl

theorem signedOut_state (turns : List (Turn Event Answers)) :
    (signedOut app store ownerId turns).state = onSignedOut ownerId (after turns (launched app store)).state := by
  rw [signedOut_eq]
  rfl

theorem signedOut_tasks (turns : List (Turn Event Answers)) :
    (signedOut app store ownerId turns).tasks = (after turns (launched app store)).tasks ++ [none] := by
  rw [signedOut_eq]
  rfl

theorem retired_after (turns : List (Turn Event Answers)) :
    Program.Retired Spent (after turns (launched app store)).tasks.length (signedOut app store ownerId turns) := by
  rw [signedOut_eq]
  exact retired_signedOut (begun_launched app store turns) ownerId

theorem silenced_surroundings :
    (after before (launched app store)).state.toSurroundings =
      (after (silenced app store before answered before) (launched app store)).state.toSurroundings :=
  Program.part_reached (p := program) enter_surroundings resume_surroundings (fun _ => rfl) before rfl

theorem silenced_length :
    (after before (launched app store)).tasks.length =
      (after (silenced app store before answered before) (launched app store)).tasks.length :=
  Program.length_reached (p := program) (fun _ => rfl) before rfl

theorem silenced_memory : (signedOut app store ownerId before).state =
    { (signedOut app store ownerId (silenced app store before answered before)).state with
      store := (signedOut app store ownerId before).state.store } := by
  have same := silenced_surroundings app store before answered
  simp only [signedOut_state, onSignedOut_eq, same]

theorem silenced_alike
    (same : (signedOut app store ownerId before).state.store =
      (signedOut app store ownerId (silenced app store before answered before)).state.store) :
    Program.Alike (after before (launched app store)).tasks.length (signedOut app store ownerId before)
      (signedOut app store ownerId (silenced app store before answered before)) := by
  have lengths := silenced_length app store before answered
  refine ⟨?_, ?_, ?_⟩
  · rw [silenced_memory app store before ownerId answered, same]
  · simp only [signedOut_tasks, List.length_append, lengths]
  · intro id later
    rw [signedOut_tasks, signedOut_tasks, List.getElem?_append_right later,
      List.getElem?_append_right (lengths ▸ later), lengths]

end SignedOut
end ChargingController
end VtsaCsms.Mobile
