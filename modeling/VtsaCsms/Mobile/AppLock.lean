import VtsaCsms.Mobile.AuthController
import VtsaCsms.Mobile.SignOut

/-!
# Locking the app

An operation marks the controller as busy and takes the mark back when it ends, if its request is
still current. A request is current for its owner; while the app is locked nobody is. So a mark
stays for good exactly if the last answer to its operation comes while the app is locked.
-/
namespace VtsaCsms.Mobile
open Foundation

/-- What the controller does at most once at a time. -/
inductive Busy where
  | mutation | sync | history
  deriving DecidableEq

/-- The mark that an operation has set and is to take back. -/
structure Held where
  busy : Busy
  request : Request
  accountGeneration : Option Nat := none

/-- Nobody has signed out since, nor changed the charging account where that matters. -/
structure Held.Current (x : Held) (s : Surroundings) : Prop where
  generation : x.request.generation = s.generation
  account : ∀ n, x.accountGeneration = some n → n = s.accountGeneration

def AfterRestore.held : AfterRestore → Option Held
  | .nothing => none
  | .start request => some ⟨.mutation, request, none⟩

def AfterApply.held : AfterApply → Option Held
  | .restored _ _ _ k | .restoredOther k => k.held
  | .mutation request => some ⟨.mutation, request, none⟩
  | .sync request => some ⟨.sync, request, none⟩
  | .realtime => none

def Suspended.held : Suspended → Option Held
  | .written _ _ k | .cleared _ _ k => k.held
  | .reference _ _ k | .forgotten _ _ k | .active _ _ k | .otherActive _ _ k => k.held
  | .prepare request _ | .start request | .stop request _ | .cancelStart request | .mutation request =>
    some ⟨.mutation, request, none⟩
  | .session request => some ⟨.sync, request, none⟩
  | .detail _ => none
  | .history request accountGeneration _ => some ⟨.history, request, some accountGeneration⟩

namespace ChargingController
variable {c : ChargingController} {request : Request} {k : AfterRestore} {k' : AfterApply} {t : Suspended} {x : Held}

def busy (c : ChargingController) : Busy → Bool
  | .mutation => c.mutationInFlight
  | .sync => c.syncing
  | .history => c.historyLoading

/-! ### No answer marks the controller as busy -/

/-- Every mark of the second was set in the first. -/
def Frees (c c' : ChargingController) : Prop := ∀ b, c'.busy b = true → c.busy b = true

theorem Frees.refl (c : ChargingController) : Frees c c := fun _ busy => busy

variable {c' : ChargingController}

theorem Frees.trans {c c₁ : ChargingController} (first : Frees c c₁) (second : Frees c₁ c') : Frees c c' :=
  fun b busy => first b (second b busy)

theorem frees_of_same (same : ∀ b, c'.busy b = c.busy b) : Frees c c' :=
  fun b busy => same b ▸ busy

theorem finishMutation_frees (request : Request) (c : ChargingController) : Frees c (finishMutation request c) := by
  unfold finishMutation
  split
  · exact fun b busy => by cases b <;> simp_all [ChargingController.busy]
  · exact .refl c

theorem finishSync_frees (request : Request) (c : ChargingController) : Frees c (finishSync request c) := by
  unfold finishSync
  split
  · exact fun b busy => by cases b <;> simp_all [ChargingController.busy]
  · exact .refl c

theorem fail_busy (request : Request) (failure : AppFailure) (c : ChargingController) (b : Busy) :
    (fail request failure c).busy b = c.busy b := by
  unfold fail
  split <;> cases b <;> rfl

theorem restored_frees (k : AfterRestore) (c : ChargingController) : Frees c (restored k c).1 := by
  cases k with
  | nothing => exact .refl c
  | start request =>
    simp only [restored]
    split
    · have failed : Frees c { c with phase := .failed } := frees_of_same fun b => by cases b <;> rfl
      exact failed.trans (finishMutation_frees request _)
    · exact finishMutation_frees request c

theorem restoreThrew_frees (k : AfterRestore) (c : ChargingController) : Frees c (restoreThrew k c).1 := by
  cases k with
  | nothing => exact .refl c
  | start request => exact finishMutation_frees request c

theorem applied_frees (k : AfterApply) (c : ChargingController) : Frees c (applied k c).1 := by
  cases k with
  | restored _ _ _ k =>
    simp only [applied]
    split
    · exact .refl c
    · exact restored_frees k c
  | restoredOther k => exact restored_frees k c
  | mutation request => exact finishMutation_frees request c
  | sync request => exact finishSync_frees request c
  | realtime => exact .refl c

theorem scheduleDeadline_busy (value : ChargingSession) (c : ChargingController) (b : Busy) :
    (scheduleDeadline value c).busy b = c.busy b := by
  unfold scheduleDeadline markStartTimedOut
  repeat' split
  all_goals cases b <;> rfl

theorem syncApplied_frees (request : Request) (authoritative : ChargingSession) (k : AfterApply) (keep : Bool)
    (c : ChargingController) : Frees c (syncApplied request authoritative k keep c).1 := by
  unfold syncApplied
  split
  · exact applied_frees k c
  · refine Frees.trans (frees_of_same fun b => ?_) (applied_frees k _)
    rw [scheduleDeadline_busy]
    cases keep <;> cases b <;> rfl

theorem applySession_frees (authoritative : ChargingSession) (request : Request) (k : AfterApply)
    (c : ChargingController) : Frees c (applySession authoritative request k c).1 := by
  have shows : Frees c (shown authoritative c) := frees_of_same fun b => by cases b <;> rfl
  unfold applySession recordShown
  repeat' split
  · exact applied_frees k c
  · exact applied_frees k c
  · exact frees_of_same fun b => by cases b <;> rfl
  · exact frees_of_same fun b => by cases b <;> rfl
  · exact shows.trans (syncApplied_frees request authoritative k false _)

theorem restoreAuthoritativeSession_frees (k : AfterRestore) (c : ChargingController) :
    Frees c (restoreAuthoritativeSession k c).1 := by
  unfold restoreAuthoritativeSession
  repeat' split
  · exact restored_frees k c
  · exact restored_frees k c
  · exact .refl c
  · exact .refl c

theorem restoreActive_frees (request : Request) (reference : Option ActiveSessionReference) (k : AfterRestore)
    (recovered : Option ChargingSession) (c : ChargingController) :
    Frees c (restoreActive request reference k recovered c).1 := by
  unfold restoreActive
  repeat' split
  · exact restored_frees k c
  · exact applySession_frees _ request _ c
  · exact restored_frees k c

theorem restoreFailed_frees (request : Request) (k : AfterRestore) (failure : Option AppFailure)
    (c : ChargingController) : Frees c (restoreFailed request k failure c).1 := by
  cases failure with
  | some failure => exact (frees_of_same (fail_busy request failure c)).trans (restored_frees k _)
  | none => exact restoreThrew_frees k c

theorem restoreMissing_frees (request : Request) (reference : ActiveSessionReference) (k : AfterRestore)
    (c : ChargingController) : Frees c (restoreMissing request reference k c).1 := by
  unfold restoreMissing
  repeat' split
  · exact restored_frees k c
  · exact frees_of_same fun b => by cases b <;> rfl
  · exact .refl c

theorem resume_frees (t : Suspended) (answers : Answers) (c : ChargingController) :
    Frees c (resume t answers c).1 := by
  have fails (request : Request) (failure : AppFailure) : Frees c (fail request failure c) :=
    frees_of_same (fail_busy request failure c)
  cases t with
  | written request authoritative k | cleared request authoritative k =>
    exact syncApplied_frees request authoritative k _ c
  | reference request reference k =>
    simp only [resume]
    repeat' split
    · exact restoreActive_frees request _ k _ c
    · exact restoreFailed_frees request k _ c
    · exact restoreMissing_frees request reference k c
  | forgotten _ _ k =>
    simp only [resume]
    split
    · exact restored_frees k c
    · exact .refl c
  | active request reference k =>
    simp only [resume]
    split
    · exact restoreActive_frees request reference k _ c
    · exact restoreFailed_frees request k _ c
  | otherActive request _ k =>
    simp only [resume]
    repeat' split
    · exact applySession_frees _ request _ c
    · exact restored_frees k c
    · exact restored_frees k c
    · exact restoreFailed_frees request k _ c
  | prepare =>
    simp only [resume, finishPrepare, prepared]
    repeat' split
    all_goals exact fun b busy => by cases b <;> simp_all [ChargingController.busy]
  | start request =>
    simp only [resume, startFailed]
    repeat' split
    · exact applySession_frees _ request _ c
    · exact .refl c
    · exact (frees_of_same fun b => by cases b <;> rfl).trans (restoreAuthoritativeSession_frees (.start request) _)
    · exact (frees_of_same fun b => by cases b <;> rfl).trans (finishMutation_frees request _)
  | stop request =>
    simp only [resume]
    split
    · exact applySession_frees _ request _ c
    · unfold stopFailed
      split
      · exact .refl c
      · exact (frees_of_same fun b => by cases b <;> rfl).trans (finishMutation_frees request _)
  | cancelStart request =>
    simp only [resume]
    split
    · exact applySession_frees _ request _ c
    · exact (fails request _).trans (finishMutation_frees request _)
  | session request =>
    simp only [resume]
    split
    · exact applySession_frees _ request _ c
    · exact (fails request _).trans (finishSync_frees request _)
  | detail request =>
    simp only [resume]
    split
    · exact .refl c
    · exact fails request _
  | history =>
    simp only [resume, historyLoaded]
    repeat' split
    all_goals exact fun b busy => by cases b <;> simp_all [ChargingController.busy]
  | mutation request =>
    simp only [resume]
    split
    · exact finishMutation_frees request c
    · exact (fails request _).trans (finishMutation_frees request _)

/-! ### The last answer frees the controller -/

/-- Still busy, the operation goes on and has the mark to take back. -/
def GoesOn (x : Held) (out : ChargingController × Option Suspended) : Prop :=
  out.1.busy x.busy = true → ∃ t, out.2 = some t ∧ t.held = some x

theorem isCurrent_congr (same : c'.toSurroundings = c.toSurroundings) (request : Request) :
    c'.isCurrent request = c.isCurrent request := by
  simp only [isCurrent, same]

theorem goesOn_some (held : t.held = some x) (c : ChargingController) : GoesOn x (c, some t) :=
  fun _ => ⟨t, rfl, held⟩

theorem finishMutation_goesOn (current : c.isCurrent request = true) (account : Option Nat) :
    GoesOn ⟨.mutation, request, account⟩ (finishMutation request c, none) := by
  intro busy
  simp [finishMutation, current, ChargingController.busy] at busy

theorem finishSync_goesOn (current : c.isCurrent request = true) (account : Option Nat) :
    GoesOn ⟨.sync, request, account⟩ (finishSync request c, none) := by
  intro busy
  simp [finishSync, current, ChargingController.busy] at busy

theorem restored_goesOn (held : k.held = some x) (current : c.isCurrent x.request = true) :
    GoesOn x (restored k c) := by
  cases k with
  | nothing => cases held
  | start =>
    cases held
    simp only [restored]
    split
    · exact finishMutation_goesOn (c := { c with phase := .failed }) current none
    · exact finishMutation_goesOn current none

theorem restoreThrew_goesOn (held : k.held = some x) (current : c.isCurrent x.request = true) :
    GoesOn x (restoreThrew k c) := by
  cases k with
  | nothing => cases held
  | start =>
    cases held
    exact finishMutation_goesOn current none

theorem applied_goesOn (held : k'.held = some x) (current : c.isCurrent x.request = true) :
    GoesOn x (applied k' c) := by
  cases k' with
  | restored request _ recovered k =>
    simp only [applied]
    split
    · exact goesOn_some (t := .otherActive request recovered k) held c
    · exact restored_goesOn held current
  | restoredOther => exact restored_goesOn held current
  | mutation =>
    cases held
    exact finishMutation_goesOn current none
  | sync =>
    cases held
    exact finishSync_goesOn current none
  | realtime => cases held

theorem syncApplied_goesOn (request : Request) (authoritative : ChargingSession) (keep : Bool)
    (held : k'.held = some x) (current : c.isCurrent x.request = true) :
    GoesOn x (syncApplied request authoritative k' keep c) := by
  unfold syncApplied
  split
  · exact applied_goesOn held current
  · refine applied_goesOn held ((isCurrent_congr ?_ _).trans current)
    rw [scheduleDeadline_surroundings]
    cases keep <;> rfl

theorem applySession_goesOn (authoritative : ChargingSession) (request : Request) (held : k'.held = some x)
    (current : c.isCurrent x.request = true) : GoesOn x (applySession authoritative request k' c) := by
  unfold applySession recordShown
  repeat' split
  · exact applied_goesOn held current
  · exact applied_goesOn held current
  · exact goesOn_some (t := .written request authoritative k') held _
  · exact goesOn_some (t := .cleared request authoritative k') held _
  · exact syncApplied_goesOn (c := shown authoritative c) request authoritative false held current

theorem restoreAuthoritativeSession_goesOn (held : k.held = some x) (current : c.isCurrent x.request = true) :
    GoesOn x (restoreAuthoritativeSession k c) := by
  unfold restoreAuthoritativeSession
  repeat' split
  · exact restored_goesOn held current
  · exact restored_goesOn held current
  · exact goesOn_some (t := .reference c.request _ k) held c
  · exact goesOn_some (t := .active c.request none k) held c

theorem restoreActive_goesOn (request : Request) (reference : Option ActiveSessionReference)
    (recovered : Option ChargingSession) (held : k.held = some x) (current : c.isCurrent x.request = true) :
    GoesOn x (restoreActive request reference k recovered c) := by
  unfold restoreActive
  repeat' split
  · exact restored_goesOn held current
  · exact applySession_goesOn _ request held current
  · exact restored_goesOn held current

theorem restoreFailed_goesOn (request : Request) (failure : Option AppFailure) (held : k.held = some x)
    (current : c.isCurrent x.request = true) : GoesOn x (restoreFailed request k failure c) := by
  cases failure with
  | some failure =>
    exact restored_goesOn held ((isCurrent_congr (fail_surroundings request failure c) _).trans current)
  | none => exact restoreThrew_goesOn held current

theorem restoreMissing_goesOn (request : Request) (reference : ActiveSessionReference) (held : k.held = some x)
    (current : c.isCurrent x.request = true) : GoesOn x (restoreMissing request reference k c) := by
  unfold restoreMissing
  repeat' split
  · exact restored_goesOn held current
  · exact goesOn_some (t := .forgotten request reference k) held _
  · exact goesOn_some (t := .active request (some reference) k) held c

/-- An answer for the owner of the request ends the operation and takes the mark back, or leaves it suspended. -/
theorem resume_goesOn (answers : Answers) (held : t.held = some x) (current : c.isCurrent x.request = true)
    (account : ∀ n, x.accountGeneration = some n → n = c.accountGeneration) : GoesOn x (resume t answers c) := by
  have failed {failure : AppFailure} (request : Request) :
      (fail request failure c).isCurrent x.request = true :=
    (isCurrent_congr (fail_surroundings request failure c) _).trans current
  cases t with
  | written request authoritative k | cleared request authoritative k =>
    exact syncApplied_goesOn request authoritative _ held current
  | reference request reference =>
    simp only [resume]
    repeat' split
    · exact restoreActive_goesOn request _ _ held current
    · exact restoreFailed_goesOn request _ held current
    · exact restoreMissing_goesOn request reference held current
  | forgotten request reference k =>
    simp only [resume]
    split
    · exact restored_goesOn held current
    · exact goesOn_some (t := .active request (some reference) k) held c
  | active request reference =>
    simp only [resume]
    split
    · exact restoreActive_goesOn request reference _ held current
    · exact restoreFailed_goesOn request _ held current
  | otherActive request =>
    simp only [resume]
    repeat' split
    · exact applySession_goesOn _ request held current
    · exact restored_goesOn held current
    · exact restored_goesOn held current
    · exact restoreFailed_goesOn request _ held current
  | prepare request accountGeneration =>
    cases held
    intro busy
    have still := (isCurrent_congr (prepared_surroundings request accountGeneration answers c) request).trans current
    simp [resume, finishPrepare, still, ChargingController.busy] at busy
  | start request =>
    cases held
    simp only [resume]
    split
    · exact applySession_goesOn _ request rfl current
    · simp only [startFailed, current, Bool.true_eq_false, if_false]
      split
      · exact restoreAuthoritativeSession_goesOn (c := { c with failure := some _ }) rfl current
      · exact finishMutation_goesOn (c := { c with failure := some _, phase := .failed }) current none
  | stop request =>
    cases held
    simp only [resume]
    split
    · exact applySession_goesOn _ request rfl current
    · simp only [stopFailed, current, Bool.true_eq_false, if_false]
      exact finishMutation_goesOn (c := { c with failure := some _, phase := _ }) current none
  | cancelStart request =>
    cases held
    simp only [resume]
    split
    · exact applySession_goesOn _ request rfl current
    · exact finishMutation_goesOn (failed request) none
  | session request =>
    cases held
    simp only [resume]
    split
    · exact applySession_goesOn _ request rfl current
    · exact finishSync_goesOn (failed request) none
  | detail => cases held
  | history _ accountGeneration =>
    cases held
    have same := account accountGeneration rfl
    intro busy
    simp only [resume, historyLoaded, current, same, Bool.true_eq_false, ne_eq, not_true_eq_false, or_self, if_false,
      ChargingController.busy] at busy
    repeat' split at busy
    all_goals cases busy
  | mutation request =>
    cases held
    simp only [resume]
    split
    · exact finishMutation_goesOn current none
    · exact finishMutation_goesOn (failed request) none

/-! ### Operations that begin -/

/-- A mark that the event sets is one for the operation it begins to take back. -/
def Begins (c : ChargingController) (out : ChargingController × Option Suspended) : Prop :=
  ∀ b, out.1.busy b = true → c.busy b = true ∨
    ∃ t x, out.2 = some t ∧ t.held = some x ∧ x.busy = b ∧ x.Current out.1.toSurroundings

theorem begins_of_frees {out : ChargingController × Option Suspended} (frees : Frees c out.1) : Begins c out :=
  fun b busy => Or.inl (frees b busy)

theorem begins_of_held (held : t.held = some x) (own : x.Current c'.toSurroundings)
    (others : ∀ b, b ≠ x.busy → c'.busy b = c.busy b) : Begins c (c', some t) := by
  intro b busy
  by_cases same : b = x.busy
  · exact Or.inr ⟨t, x, rfl, held, same.symm, own⟩
  · exact Or.inl (others b same ▸ busy)

theorem refresh_begins (c : ChargingController) : Begins c (refresh c) := by
  unfold refresh
  split
  · exact begins_of_frees (.refl c)
  · refine begins_of_held (t := .session c.request) rfl ⟨rfl, fun _ none => by cases none⟩ fun b other => ?_
    cases b <;> first | rfl | exact absurd rfl other

theorem recoverSession_begins (c : ChargingController) : Begins c (recoverSession c) := by
  unfold recoverSession
  split
  · exact begins_of_frees (.refl c)
  · refine begins_of_held (t := .session c.request) rfl ⟨rfl, fun _ none => by cases none⟩ fun b other => ?_
    cases b <;> first | rfl | exact absurd rfl other

theorem enter_begins (e : Event) (alive : c.disposed = false) : Begins c (enter e c) := by
  cases e with
  | account | clock | dispose =>
    exact begins_of_frees (frees_of_same fun b => by cases b <;> rfl)
  | network =>
    simp only [enter, onNetworkChanged]
    split
    · refine begins_of_frees (Frees.trans (frees_of_same fun b => ?_) (restoreAuthoritativeSession_frees .nothing _))
      cases b <;> rfl
    · exact begins_of_frees (frees_of_same fun b => by cases b <;> rfl)
  | restoreAuthoritativeSession => exact begins_of_frees (restoreAuthoritativeSession_frees .nothing c)
  | prepare =>
    simp only [enter, prepare]
    repeat' split
    · exact begins_of_frees (.refl c)
    · exact begins_of_frees (frees_of_same fun b => by cases b <;> rfl)
    · exact begins_of_frees (frees_of_same fun b => by cases b <;> rfl)
    · refine begins_of_held (t := .prepare c.request c.accountGeneration) rfl ⟨rfl, fun _ none => by cases none⟩
        fun b other => ?_
      cases b <;> first | rfl | exact absurd rfl other
  | selectPaymentMethod =>
    refine begins_of_frees (frees_of_same fun b => ?_)
    simp only [enter, selectPaymentMethod]
    split <;> cases b <;> rfl
  | start =>
    simp only [enter, start]
    repeat' split
    · exact begins_of_frees (.refl c)
    · exact begins_of_frees (frees_of_same fun b => by cases b <;> rfl)
    · exact begins_of_frees (frees_of_same fun b => by cases b <;> rfl)
    · refine begins_of_frees fun b busy => ?_
      have own : c.isCurrent c.request = true := by simp [isCurrent, ChargingController.request, alive]
      cases b <;> simp_all [finishMutation, isCurrent, ChargingController.busy]
    · refine begins_of_held (t := .start c.request) rfl ⟨rfl, fun _ none => by cases none⟩ fun b other => ?_
      cases b <;> first | rfl | exact absurd rfl other
    · exact begins_of_frees (.refl c)
  | stop =>
    simp only [enter, stop]
    repeat' split
    · exact begins_of_frees (.refl c)
    · refine begins_of_held (t := .stop c.request _) rfl ⟨rfl, fun _ none => by cases none⟩ fun b other => ?_
      cases b <;> first | rfl | exact absurd rfl other
    · exact begins_of_frees (.refl c)
  | cancelPendingStart =>
    simp only [enter, cancelPendingStart]
    repeat' split
    · exact begins_of_frees (.refl c)
    · refine begins_of_held (t := .cancelStart c.request) rfl ⟨rfl, fun _ none => by cases none⟩ fun b other => ?_
      cases b <;> first | rfl | exact absurd rfl other
    · exact begins_of_frees (.refl c)
  | refresh => exact refresh_begins c
  | recoverSession => exact recoverSession_begins c
  | fetchSessionDetail =>
    simp only [enter, fetchSessionDetail]
    repeat' split
    · exact refresh_begins c
    · exact begins_of_frees (.refl c)
    · exact begins_of_frees (.refl c)
  | loadHistory nextPage =>
    simp only [enter, loadHistory]
    split
    · exact begins_of_frees (.refl c)
    · refine begins_of_held (t := .history c.request c.accountGeneration nextPage) rfl
        ⟨rfl, fun _ same => (Option.some.inj same).symm⟩ fun b other => ?_
      cases b <;> first | rfl | exact absurd rfl other
  | runSessionMutation =>
    simp only [enter, runSessionMutation]
    split
    · exact begins_of_frees (.refl c)
    · refine begins_of_held (t := .mutation c.request) rfl ⟨rfl, fun _ none => by cases none⟩ fun b other => ?_
      cases b <;> first | rfl | exact absurd rfl other
  | resetStartFlow =>
    refine begins_of_frees (frees_of_same fun b => ?_)
    simp only [enter, resetStartFlow]
    split <;> cases b <;> rfl
  | onChargingAccountChanged =>
    exact begins_of_frees fun b busy => by cases b <;> first | exact busy | cases busy
  | onSignedOut => exact begins_of_frees fun b busy => by cases b <;> cases busy
  | push =>
    simp only [enter, onPush]
    repeat' split
    · exact begins_of_frees (.refl c)
    · exact begins_of_frees (restoreAuthoritativeSession_frees .nothing c)
    · exact refresh_begins c
    · exact recoverSession_begins c
    · exact begins_of_frees (.refl c)
  | update =>
    simp only [enter, onUpdate]
    repeat' split
    · exact begins_of_frees (.refl c)
    · refine begins_of_frees (Frees.trans (frees_of_same fun b => ?_) (applySession_frees _ _ .realtime _))
      cases b <;> rfl
    · exact begins_of_frees (.refl c)
  | updatesEnded =>
    refine begins_of_frees (frees_of_same fun b => ?_)
    simp only [enter, onUpdatesEnded]
    repeat' split
    all_goals cases b <;> rfl
  | poll =>
    simp only [enter]
    split
    · exact refresh_begins c
    · exact begins_of_frees (.refl c)
  | deadline =>
    refine begins_of_frees (frees_of_same fun b => ?_)
    simp only [enter, onDeadline, markStartTimedOut]
    repeat' split
    all_goals cases b <;> rfl

/-! ### Every mark is attended to -/

theorem held_account (held : t.held = some x) {n : Nat} (account : x.accountGeneration = some n) :
    x.busy = .history := by
  have restore : ∀ k : AfterRestore, k.held = some x → x.busy = .history := by
    intro k held
    cases k <;> cases held
    cases account
  have apply : ∀ k : AfterApply, k.held = some x → x.busy = .history := by
    intro k held
    cases k with
    | restored _ _ _ k | restoredOther k => exact restore k held
    | mutation | sync =>
      cases held
      cases account
    | realtime => cases held
  cases t with
  | written _ _ k | cleared _ _ k => exact apply k held
  | reference _ _ k | forgotten _ _ k | active _ _ k | otherActive _ _ k => exact restore k held
  | history =>
    cases held
    rfl
  | detail => cases held
  | _ =>
    cases held
    cases account

theorem enter_current (e : Event) (lasting : e ≠ .dispose) (held : t.held = some x)
    (current : x.Current c.toSurroundings) (busy : (enter e c).1.busy x.busy = true) :
    x.Current (enter e c).1.toSurroundings := by
  rw [enter_surroundings]
  cases e with
  | onSignedOut => cases which : x.busy <;> simp [which, enter, onSignedOut, ChargingController.busy] at busy
  | onChargingAccountChanged =>
    refine ⟨current.generation, fun n account => ?_⟩
    rw [held_account held account] at busy
    cases busy
  | dispose => exact absurd rfl lasting
  | account | clock | network => exact ⟨current.generation, current.account⟩
  | _ => exact current

/-- For every mark an operation is suspended that will take it back. -/
def Attended (w : App) : Prop :=
  ∀ b, w.state.busy b = true →
    ∃ (id : Nat) (t : Suspended) (x : Held), w.tasks[id]? = some (some t) ∧ t.held = some x ∧ x.busy = b ∧
      x.Current w.state.toSurroundings

theorem Attended.enter {w : App} (attended : Attended w) (alive : w.state.disposed = false) {e : Event}
    (lasting : e ≠ .dispose) : Attended (program.next (.enter e) w) := by
  intro b busy
  rcases enter_begins e alive b busy with before | ⟨t, x, begun, held, own, current⟩
  · obtain ⟨id, t, x, suspended, held, rfl, current⟩ := attended b before
    refine ⟨id, t, x, ?_, held, rfl, enter_current e lasting held current busy⟩
    have old := (List.getElem?_eq_some_iff.mp suspended).1
    simp only [Program.next]
    rwa [List.getElem?_append_left old]
  · refine ⟨w.tasks.length, t, x, ?_, held, own, current⟩
    simp [Program.next, program, begun]

/-- Though its request is not current, the operation goes on to ask for the active session. -/
def asksFurther (c : ChargingController) : Suspended → Bool
  | .written request _ (.restored _ reference recovered _) | .cleared request _ (.restored _ reference recovered _) =>
    !c.isCurrent request && reference.isSome && recovered.isTerminal && c.phase ≠ .paymentProcessing
  | _ => false

theorem asksFurther_goesOn (answers : Answers) (further : c.asksFurther t = true) (held : t.held = some x) :
    GoesOn x (resume t answers c) := by
  have asked {request request' : Request} {authoritative recovered : ChargingSession} {k : AfterRestore} {keep : Bool}
      {reference : Option ActiveSessionReference} (own : k.held = some x)
      (further : (!c.isCurrent request && reference.isSome && recovered.isTerminal &&
        decide (c.phase ≠ .paymentProcessing)) = true) :
      GoesOn x (syncApplied request authoritative (.restored request' reference recovered k) keep c) := by
    simp only [Bool.and_eq_true, Bool.not_eq_true', decide_eq_true_eq] at further
    unfold syncApplied
    rw [if_pos further.1.1.1, applied, if_pos ⟨further.1.1.2, further.1.2, further.2⟩]
    exact goesOn_some (t := .otherActive request' recovered k) own c
  cases t with
  | written request authoritative k | cleared request authoritative k =>
    cases k with
    | restored => exact asked held further
    | _ => cases further
  | _ => cases further

theorem Attended.resume {w : App} (attended : Attended w) (alive : w.state.disposed = false) (id : Nat)
    (answers : Answers)
    (inPerson : ∀ t x, w.tasks[id]? = some (some t) → t.held = some x → x.Current w.state.toSurroundings →
      w.state.asksFurther t = false → x.request.ownerId = w.state.ownerId) :
    Attended (program.next (.resume id answers) w) := by
  by_cases idle : ∀ t, w.tasks[id]? ≠ some (some t)
  · rw [Program.next_idle idle]
    exact attended
  · push Not at idle
    obtain ⟨t, suspended⟩ := idle
    rw [Program.next_resume suspended]
    have inside := (List.getElem?_eq_some_iff.mp suspended).1
    have same := resume_surroundings t answers w.state
    intro b busy
    obtain ⟨other, t', x, there, held, rfl, current⟩ := attended b (resume_frees t answers w.state b busy)
    by_cases own : other = id
    · subst own
      obtain rfl : t' = t := by
        rw [there] at suspended
        exact Option.some.inj (Option.some.inj suspended)
      have goesOn : GoesOn x (ChargingController.resume t' answers w.state) := by
        cases further : w.state.asksFurther t' with
        | true => exact asksFurther_goesOn answers further held
        | false =>
          refine resume_goesOn answers held ?_ current.account
          simp [isCurrent, alive, current.generation, inPerson t' x there held current further]
      obtain ⟨t'', left, held'⟩ := goesOn busy
      refine ⟨other, t'', x, ?_, held', rfl, same ▸ current⟩
      change (w.tasks.set other (program.resume t' answers w.state).2)[other]? = _
      rw [List.getElem?_set_self inside]
      exact congrArg some left
    · refine ⟨other, t', x, ?_, held, rfl, same ▸ current⟩
      change (w.tasks.set id (program.resume t answers w.state).2)[other]? = _
      rwa [List.getElem?_set_ne (Ne.symm own)]

end ChargingController

namespace DriverApp
open ChargingController

/-- No last answer to a marked operation comes while nobody, or somebody else, is signed in for its request. -/
def InPerson : AppStep → DriverApp → Prop
  | .answer id _, d => ∀ t x, d.charging.tasks[id]? = some (some t) → t.held = some x →
      x.Current d.charging.state.toSurroundings → d.charging.state.asksFurther t = false →
      x.request.ownerId = d.charging.state.ownerId
  | _, _ => True

/-- The app has a controller, and each of its marks is attended to. -/
def Kept (d : DriverApp) : Prop := d.charging.state.disposed = false ∧ Attended d.charging

/-- None of the controller's operations is pending. -/
def Idle (d : DriverApp) : Prop := ∀ (id : Nat) (t : Suspended), d.charging.tasks[id]? ≠ some (some t)

theorem enter_kept {e : Event} (lasting : e ≠ .dispose) {w : App} (alive : w.state.disposed = false)
    (attended : Attended w) :
    (program.next (.enter e) w).state.disposed = false ∧ Attended (program.next (.enter e) w) := by
  refine ⟨?_, attended.enter alive lasting⟩
  have same := congrArg Surroundings.disposed (enter_surroundings e w.state)
  refine same.trans ?_
  cases e with
  | dispose => exact absurd rfl lasting
  | _ => exact alive

theorem next_kept (step : AppStep) (d : DriverApp) (kept : Kept d) (inPerson : InPerson step d) :
    Kept (next step d) := by
  obtain ⟨alive, attended⟩ := kept
  cases step with
  | auth e =>
    have owned := enter_kept (e := .account (e.perform d.auth).ownerId (e.perform d.auth).isAuthenticated)
      (fun same => by cases same) alive attended
    simp only [next, Kept, signOut]
    split
    · exact enter_kept (fun same => by cases same) owned.1 owned.2
    · exact owned
  | charging _ own =>
    exact enter_kept (fun same => by subst same; cases own) alive attended
  | answer id answers =>
    refine ⟨?_, attended.resume alive id answers inPerson⟩
    by_cases idle : ∀ t, d.charging.tasks[id]? ≠ some (some t)
    · exact (congrArg (fun w : App => w.state.disposed) (Program.next_idle idle)).trans alive
    · push Not at idle
      obtain ⟨t, suspended⟩ := idle
      have same := congrArg Surroundings.disposed (resume_surroundings t answers d.charging.state)
      exact (congrArg (fun w : App => w.state.disposed) (Program.next_resume suspended)).trans (same.trans alive)

/-- In every run in which the last answer to each marked operation comes to the driver it was made for, no mark is
left when nothing is pending. -/
theorem unlocked_never_wedged (now : Instant) (online : Bool) (store : LocalActiveSessionStore)
    (steps : List AppStep) (inPerson : Runs.Met next InPerson steps (launched now online store)) :
    Runs.Throughout next (fun d => Idle d → d.charging.state.mutationInFlight = false ∧
      d.charging.state.syncing = false ∧ d.charging.state.historyLoading = false) steps
      (launched now online store) := by
  have start : Kept (launched now online store) := ⟨rfl, fun b busy => by cases b <;> cases busy⟩
  have kept := Runs.throughout_of_met next_kept steps _ start inPerson
  intro before part idle
  have free : ∀ b, (Runs.reached next before (launched now online store)).charging.state.busy b = false := by
    intro b
    by_contra busy
    obtain ⟨id, t, _, suspended, -⟩ := (kept before part).2 b ((Bool.not_eq_false _).mp busy)
    exact idle id t suspended
  exact ⟨free .mutation, free .sync, free .history⟩

/-! A driver asks for a session and the answer is lost, without a lock and during one. -/

def lost : Answers where
  session := .error ⟨.timeout, "timeout", none⟩
  active := .ok none
  preparation := .error ⟨.timeout, "timeout", none⟩
  page := .error ⟨.timeout, "timeout", none⟩
  done := .ok ()
  ulid := "1"

def asked : List AppStep :=
  [.auth (.quickUnlock true), .auth (.signedIn ⟨"U1", true⟩), .charging (.recoverSession "S1") rfl]

theorem asked_answered : Runs.Throughout next (fun d => Idle d → d.charging.state.mutationInFlight = false ∧
    d.charging.state.syncing = false ∧ d.charging.state.historyLoading = false) (asked ++ [.answer 2 lost])
    (launched 0 true none) := by
  refine unlocked_never_wedged 0 true none _ ⟨trivial, trivial, trivial, ?_, trivial⟩
  intro t x suspended held _ _
  cases suspended
  cases held
  rfl

/-- After the lock and the unlock the driver is back, nothing is pending, and no refresh is let through. -/
theorem locked_wedged : ∃ steps : List AppStep,
    (Runs.reached next steps (launched 0 true none)).auth.ownerId = "U1" ∧
    (Runs.reached next steps (launched 0 true none)).auth.isAuthenticated = true ∧
    Idle (Runs.reached next steps (launched 0 true none)) ∧
    (Runs.reached next steps (launched 0 true none)).charging.state.syncing = true := by
  refine ⟨asked ++ [.auth .lock, .answer 2 lost, .auth (.unlock true (.ok ⟨"U1", true⟩))], by decide, by decide, ?_,
    by decide⟩
  have ended : (Runs.reached next (asked ++ [.auth .lock, .answer 2 lost, .auth (.unlock true (.ok ⟨"U1", true⟩))])
      (launched 0 true none)).charging.tasks = [none, none, none, none, none] := by decide
  intro id t suspended
  rw [ended] at suspended
  have there := List.mem_of_getElem? suspended
  simp at there

end DriverApp
end VtsaCsms.Mobile
