import VtsaCsms.Foundation.Succession
import VtsaCsms.Identity.Verifications

/-!
# Moves of a verification

What any call does to the verifications, as single moves of single rows: every call of `KycService` is a few of
them one after the other.
-/
namespace VtsaCsms.Identity
open Foundation Foundation.Action Organizations

/-- A call, in the context of a tenant, with the answers of the processor to it. The caller's copies of rows
may be stale, so what happens while the processor answers is a call before. -/
inductive KycCall where
  | latest (tenantId : Nat) (subjectId : String)
  | start (tenantId : Nat) (user : Account) (data : KycService.KycData) (resubmit : Bool) (response : KycAnswer)
  | upload (tenantId : Nat) (row : Nat × KycVerification) (kind : KycService.EvidenceKind) (response : KycAnswer)
  | live (tenantId : Nat) (row : Nat × KycVerification) (frame : Bool) (complete : Except KycFailure Bool)
      (response : KycAnswer)
  | submit (tenantId : Nat) (row : Nat × KycVerification) (response : KycAnswer)
  | reconcile (tenantId : Nat) (row : Nat × KycVerification) (response : KycAnswer)
  | apply (tenantId : Nat) (row : Nat × KycVerification) (response : KycAnswer) (eventId : Option String)
  | review (tenantId : Nat) (actor : Account) (row : Nat × KycVerification) (next : KycStatus) (reason : String)
      (response : KycAnswer)
  | cancel (tenantId : Nat) (row : Nat × KycVerification) (erased : Except KycFailure Unit)
  | updateSettings (tenantId : Nat) (actor : Account) (mode : ReviewMode)
  | elsewhere (change : Access → Access)

structure KycStep where
  config : KycConfig
  now : Instant
  call : KycCall

namespace KycStep
open KycService

def perform (step : KycStep) : KycAction Unit :=
  match step.call with
  | .latest tenantId subjectId => do
    let _ ← KycService.latest step.config step.now tenantId subjectId
  | .start tenantId user data resubmit response =>
    KycService.start step.config step.now tenantId user data resubmit response
  | .upload tenantId row kind response => KycService.upload step.config step.now tenantId row kind response
  | .live tenantId row frame complete response =>
    KycService.live step.config step.now tenantId row frame complete response
  | .submit tenantId row response => KycService.submit step.config step.now tenantId row response
  | .reconcile tenantId row response => KycService.reconcile step.config step.now tenantId row response
  | .apply tenantId row response eventId => KycService.apply step.config step.now tenantId row response eventId
  | .review tenantId actor row next reason response =>
    KycService.review step.config step.now tenantId actor row next reason response
  | .cancel tenantId row erased => KycService.cancel step.config step.now tenantId row erased
  | .updateSettings tenantId actor mode => KycSettings.update step.config step.now tenantId actor mode
  | .elsewhere change => write fun s => { s with access := change s.access }

def next (step : KycStep) (s : Verifications) : Verifications := after step.perform s

def snapshot? (step : KycStep) : Option Snapshot :=
  match step.call with
  | .start _ _ _ _ response | .upload _ _ _ response | .live _ _ _ _ response | .submit _ _ response
  | .reconcile _ _ response | .apply _ _ response _ | .review _ _ _ _ _ response => response.toOption
  | _ => none

def isCancel (step : KycStep) (id : Nat) : Prop :=
  ∃ tenantId row erased, step.call = .cancel tenantId row erased ∧ row.1 = id

/-- The call looks the latest attempt up, which lets it lapse. -/
def looksUp (step : KycStep) : Bool :=
  match step.call with
  | .latest .. | .start .. => true
  | _ => false

/-- The call is a review of the verification by that account, with that decision. -/
def isReview (step : KycStep) (id : Nat) (actor : Account) (decision : KycStatus) (s : Verifications) : Prop :=
  ∃ tenantId row reason response, step.call = .review tenantId actor row decision reason response ∧ row.1 = id ∧
    AuthorizationService.allows step.now tenantId actor.key .kycReview none s.access = true

end KycStep

def ofSubject (tenantId : Nat) (subjectId : String) (_ : Nat) (row : KycVerification) : Bool :=
  decide (row.tenantId = tenantId ∧ row.subjectId = subjectId)

/-- An approval that is over at the instant. -/
def Lapsed (now : Instant) (row : KycVerification) : Prop :=
  row.status = .approved ∧ ∃ expires, row.expiresAt = some expires ∧ expires < now

/-- A row as a new attempt is. -/
structure Opened (row : KycVerification) : Prop where
  status : row.status = .inProgress
  version : row.serviceVersion = 0
  unreviewed : row.reviewedAt = none

/-- What a step may do to a row that is there; `s` is where the step starts. -/
inductive RowMove (step : KycStep) (s : Verifications) (id : Nat) (row : KycVerification) : KycVerification → Prop where
  | absorbed (data : Snapshot) (answered : step.snapshot? = some data) (own : data.id = id)
      (newer : row.serviceVersion < data.version) :
      RowMove step s id row (KycService.absorb step.config step.now data row)
  | expired (called : step.looksUp = true) (lapsed : Lapsed step.now row) :
      RowMove step s id row (KycService.setState step.config step.now .expired (some "VERIFICATION_EXPIRED") row)
  | cancelled (called : step.isCancel id) (open' : row.status.canTransitionTo .cancelled = true) :
      RowMove step s id row (KycService.setState step.config step.now .cancelled (some "CONSENT_WITHDRAWN") row)
  | decided (actor : Account) (decision : KycStatus) (reason : String) (called : step.isReview id actor decision s)
      (waiting : row.status = .needsReview) (other : row.subjectId ≠ actor.publicId)
      (decides : decision ∈ [KycStatus.approved, .rejected, .actionRequired]) :
      RowMove step s id row { KycService.setState step.config step.now decision (some ("MANUAL_" ++ decision.value)) row with
        reviewedAt := some step.now, reviewedBy := some actor.publicId, reviewReason := some reason }

/-- What a step may do to the table, at a time. -/
inductive Move (step : KycStep) (s : Verifications) : Table Nat KycVerification → Table Nat KycVerification → Prop where
  | row {t : Table Nat KycVerification} {id : Nat} {row row' : KycVerification} (stored : t.get? id = some row)
      (moved : RowMove step s id row row') : Move step s t (t.update id fun _ => row')
  | opened {t : Table Nat KycVerification} {row : KycVerification} (fresh : Opened row)
      (previous : ∀ id last, t.last? (ofSubject row.tenantId row.subjectId) = some (id, last) →
        last.status.canResubmit = true) : Move step s t (t.create row)

abbrev Moves (step : KycStep) (s : Verifications) : Table Nat KycVerification → Table Nat KycVerification → Prop :=
  Relation.ReflTransGen (Move step s)

/-- The table of `x` comes from the table of `s` by moves of the step. -/
def Reaches (step : KycStep) (s x : Verifications) : Prop := Moves step s s.verifications x.verifications

theorem Reaches.congr {step : KycStep} {s x x' : Verifications} (reaches : Reaches step s x)
    (same : x'.verifications = x.verifications) : Reaches step s x' := by
  unfold Reaches
  rw [same]
  exact reaches

theorem Reaches.move {step : KycStep} {s x x' : Verifications} (reaches : Reaches step s x)
    (moved : Move step s x.verifications x'.verifications) : Reaches step s x' := Relation.ReflTransGen.tail reaches moved

/-! ### The parts of the calls -/

namespace KycService
variable {config : KycConfig} {now : Instant} {tenantId id : Nat} {x x' : Verifications}

theorem findOrFail_returns {row : KycVerification} (success : Returns (findOrFail tenantId id) x row x') :
    x' = x ∧ x.verifications.get? id = some row := by
  obtain ⟨found, same⟩ := (returns_find _ _ _ _ _).mp success
  exact ⟨same, (Option.filter_eq_some_iff.mp found).1⟩

theorem transition_cases (config : KycConfig) (now : Instant) (tenantId id : Nat) (next : KycStatus) (code : String)
    (x : Verifications) :
    (after (transition config now tenantId id next code) x).verifications = x.verifications ∨
      ∃ row, x.verifications.get? id = some row ∧ row.status.canTransitionTo next = true ∧
        (after (transition config now tenantId id next code) x).verifications =
          x.verifications.update id fun _ => setState config now next (some code) row := by
  have atomic : Atomic (transition config now tenantId id next code) := atomic_transaction _
  obtain ⟨unchanged, -⟩ | success := after_cases atomic x
  · exact Or.inl (congrArg Verifications.verifications unchanged)
  · generalize after (transition config now tenantId id next code) x = x' at success ⊢
    unfold transition at success
    obtain ⟨row, x₁, found, rest⟩ := (returns_bind ..).mp ((returns_transaction ..).mp success)
    obtain ⟨rfl, stored⟩ := findOrFail_returns found
    rcases (returns_doIf ..).mp rest with ⟨-, moved⟩ | ⟨-, rfl⟩
    · unfold save record at moved
      simp only [returns_bind, returns_throwIf, returns_write] at moved
      obtain ⟨_, _, ⟨allowed, rfl⟩, _, _, rfl, rfl⟩ := moved
      exact Or.inr ⟨row, stored, by simpa using allowed, rfl⟩
    · exact Or.inl rfl

theorem applyLocked_returns {data : Snapshot} {eventId : Option String}
    (success : Returns (applyLocked config now tenantId id data eventId) x () x') :
    x'.verifications = x.verifications ∨
      ∃ row, x.verifications.get? id = some row ∧ row.serviceVersion < data.version ∧
        x'.verifications = x.verifications.update id fun _ => absorb config now data row := by
  unfold applyLocked at success
  obtain ⟨row, x₁, found, rest⟩ := (returns_bind ..).mp success
  obtain ⟨rfl, stored⟩ := findOrFail_returns found
  obtain ⟨known, _, looked, rest⟩ := (returns_bind ..).mp rest
  obtain ⟨-, rfl⟩ := (returns_read ..).mp looked
  rcases (returns_doIf ..).mp rest with ⟨-, body⟩ | ⟨-, rfl⟩
  · rcases (returns_ite ..).mp body with ⟨newer, saved⟩ | ⟨-, noted⟩
    · obtain ⟨_, x₂, first, second⟩ := (returns_bind ..).mp saved
      rw [(returns_write ..).mp second, (returns_write ..).mp first]
      exact Or.inr ⟨row, stored, newer, rfl⟩
    · rw [(returns_write ..).mp noted]
      exact Or.inl rfl
  · exact Or.inl rfl

theorem reviewLocked_returns {actor : Account} {decision : KycStatus} {reason : String}
    (success : Returns (reviewLocked config now tenantId actor id decision reason) x () x') :
    ∃ row, x.verifications.get? id = some row ∧ row.status = .needsReview ∧ row.subjectId ≠ actor.publicId ∧
      x'.verifications = x.verifications.update id fun _ =>
        { setState config now decision (some ("MANUAL_" ++ decision.value)) row with
          reviewedAt := some now, reviewedBy := some actor.publicId, reviewReason := some reason } := by
  unfold reviewLocked at success
  obtain ⟨row, x₁, found, rest⟩ := (returns_bind ..).mp success
  obtain ⟨rfl, stored⟩ := findOrFail_returns found
  unfold save record at rest
  simp only [returns_bind, returns_throwIf, returns_write] at rest
  obtain ⟨_, _, ⟨waiting, rfl⟩, _, _, ⟨other, rfl⟩, _, _, rfl, rfl⟩ := rest
  refine ⟨row, stored, ?_, other, rfl⟩
  by_contra settled
  exact waiting (Or.inl settled)

variable {row : Nat × KycVerification} {subjectId : String}

theorem lapse_returns (stored : x.verifications.get? row.1 = some row.2)
    (success : Returns (doIf (row.2.status = .approved ∧
        row.2.expiresAt.any (fun expires => decide (expires < now)) = true)
      (transition config now tenantId row.1 .expired "VERIFICATION_EXPIRED")) x () x') :
    x'.verifications = x.verifications ∨ (Lapsed now row.2 ∧ x'.verifications = x.verifications.update row.1 fun _ =>
      setState config now .expired (some "VERIFICATION_EXPIRED") row.2) := by
  rcases (returns_doIf ..).mp success with ⟨⟨approved, past⟩, moved⟩ | ⟨-, rfl⟩
  · obtain ⟨expires, at', past⟩ := (Option.any_eq_true _ _).mp past
    rw [← Returns.after_eq moved]
    rcases transition_cases config now tenantId row.1 .expired "VERIFICATION_EXPIRED" x with same | ⟨r, stored', -, updated⟩
    · exact Or.inl same
    · cases stored.symm.trans stored'
      exact Or.inr ⟨⟨approved, expires, at', of_decide_eq_true past⟩, updated⟩
  · exact Or.inl rfl

theorem latest_returns {previous : Option (Nat × KycVerification)}
    (success : Returns (latest config now tenantId subjectId) x previous x') :
    (x'.verifications = x.verifications ∨ ∃ id row, x.verifications.get? id = some row ∧ Lapsed now row ∧
      x'.verifications = x.verifications.update id fun _ =>
        setState config now .expired (some "VERIFICATION_EXPIRED") row) ∧
    ∀ id last, x'.verifications.last? (ofSubject tenantId subjectId) = some (id, last) → previous = some (id, last) := by
  unfold latest at success
  obtain ⟨found, y, looked, rest⟩ := (returns_bind ..).mp success
  obtain ⟨here, rfl⟩ := (returns_read ..).mp looked
  cases found with
  | none =>
    obtain ⟨rfl, rfl⟩ := (returns_pure ..).mp rest
    refine ⟨Or.inl rfl, fun id last final => ?_⟩
    exact absurd (here.trans final) (by simp)
  | some row =>
    obtain ⟨key, r⟩ := row
    have here : y.verifications.last? (ofSubject tenantId subjectId) = some (key, r) := here.symm
    obtain ⟨stored, kind⟩ := Table.last?_some here
    obtain ⟨_, z, lapse, rest⟩ := (returns_bind ..).mp rest
    obtain ⟨fresh, _, looked, rest⟩ := (returns_bind ..).mp rest
    obtain ⟨rfl, same⟩ := (returns_read ..).mp looked
    obtain ⟨rfl, left⟩ := (returns_pure ..).mp rest
    obtain rfl : x' = z := left.trans same
    -- The row is still the last of its subject: the status alone has changed.
    have final : ∀ {f : KycVerification → KycVerification}, ofSubject tenantId subjectId key (f r) = true →
        x'.verifications = y.verifications.update key f → ∀ id last,
        x'.verifications.last? (ofSubject tenantId subjectId) = some (id, last) →
        (x'.verifications.get? key).map (fun r => (key, r)) = some (id, last) := by
      intro f still updated id last final
      rw [updated] at final ⊢
      rw [Table.last?_update f here still] at final
      cases final
      rw [Table.get?_update_self, stored]
      rfl
    rcases lapse_returns stored lapse with same | ⟨lapsed, updated⟩
    · refine ⟨Or.inl same, final (f := fun r => r) kind ?_⟩
      rw [same, Table.update_same stored rfl]
    · refine ⟨Or.inr ⟨key, r, stored, lapsed, updated⟩, ?_⟩
      exact final (f := fun _ => setState config now .expired (some "VERIFICATION_EXPIRED") r) kind updated

variable {step : KycStep} {s : Verifications}

theorem apply_reaches {response : KycAnswer} {eventId : Option String}
    (answered : response.toOption = step.snapshot?) (reaches : Reaches step s x) :
    Reaches step s (after (apply step.config step.now tenantId row response eventId) x) := by
  unfold apply
  cases response with
  | error =>
    rw [after_lift_error rfl]
    exact reaches
  | ok data =>
    rw [after_lift_ok rfl]
    refine after_silent_bind (keeps_throwIf _ _) reaches fun _ => ?_
    rw [after_throwIf]
    split
    · exact reaches
    · rename_i own
      refine after_transaction reaches fun _ x' success => ?_
      rcases applyLocked_returns success with same | ⟨r, stored, newer, updated⟩
      · exact reaches.congr same
      · refine reaches.move ?_
        rw [updated]
        exact Move.row stored (RowMove.absorbed data answered.symm (not_not.mp (not_or.mp own).1) newer)

theorem lapse_reaches (called : step.looksUp = true) (reaches : Reaches step s x)
    (lapse : x'.verifications = x.verifications ∨ ∃ id row, x.verifications.get? id = some row ∧ Lapsed step.now row ∧
      x'.verifications = x.verifications.update id fun _ =>
        setState step.config step.now .expired (some "VERIFICATION_EXPIRED") row) : Reaches step s x' := by
  rcases lapse with same | ⟨id, row, stored, lapsed, updated⟩
  · exact reaches.congr same
  · refine reaches.move ?_
    rw [updated]
    exact Move.row stored (RowMove.expired called lapsed)

theorem openAttempt_reaches {data : KycData} {resubmit : Bool} {profile : AssuranceProfile}
    (called : step.looksUp = true) (reaches : Reaches step s x)
    (success : Returns (openAttempt step.config step.now tenantId subjectId data resubmit profile) x row x') :
    Reaches step s x' := by
  unfold openAttempt record at success
  obtain ⟨previous, y, looked, rest⟩ := (returns_bind ..).mp success
  obtain ⟨lapse, final⟩ := latest_returns looked
  simp only [returns_bind, returns_throwIf, returns_read, returns_write, returns_pure] at rest
  obtain ⟨_, _, ⟨followed, rfl⟩, _, _, ⟨rfl, rfl⟩, _, _, ⟨rfl, rfl⟩, _, _, rfl, _, _, rfl, -, rfl⟩ := rest
  refine (lapse_reaches called reaches lapse).move ?_
  refine Move.opened ⟨rfl, rfl, rfl⟩ fun id last here => ?_
  rw [final id last here] at followed
  simp only [Option.any_some, Bool.not_eq_true, Bool.not_eq_false', Bool.and_eq_true] at followed
  exact followed.2

theorem startLocked_reaches {user : Account} {data : KycData} {resubmit : Bool} {profile : AssuranceProfile}
    (called : step.looksUp = true) (reaches : Reaches step s x)
    (success : Returns (startLocked step.config step.now tenantId user data resubmit profile) x row x') :
    Reaches step s x' := by
  unfold startLocked at success
  simp only [returns_bind, returns_read, returns_throwIf] at success
  obtain ⟨account, _, ⟨-, rfl⟩, _, _, ⟨-, rfl⟩, existing, _, ⟨-, rfl⟩, rest⟩ := success
  cases existing with
  | some =>
    simp only [returns_bind, returns_throwIf, returns_pure] at rest
    obtain ⟨_, _, ⟨-, rfl⟩, -, rfl⟩ := rest
    exact reaches
  | none => exact openAttempt_reaches called reaches rest

theorem latest_reaches (called : step.looksUp = true) (reaches : Reaches step s x) :
    Reaches step s (after (latest step.config step.now tenantId subjectId) x) := by
  unfold latest
  rw [after_read]
  split
  · exact reaches
  · rename_i row here
    have atomic : Atomic (doIf (row.2.status = .approved ∧
        row.2.expiresAt.any (fun expires => decide (expires < step.now)) = true)
        (transition step.config step.now tenantId row.1 .expired "VERIFICATION_EXPIRED")) := by
      unfold doIf
      split
      · exact atomic_transaction _
      · exact atomic_pure _
    refine after_bind atomic reaches fun _ x' lapse => ?_
    have stored := (Table.last?_some here).1
    refine lapse_reaches called reaches ?_
    rcases lapse_returns stored lapse with same | ⟨lapsed, updated⟩
    · exact Or.inl same
    · exact Or.inr ⟨row.1, row.2, stored, lapsed, updated⟩

theorem review_reaches {actor : Account} {decision : KycStatus} {reason : String}
    {response : KycAnswer} (called : step.call = .review tenantId actor row decision reason response) :
    Reaches step s (after (review step.config step.now tenantId actor row decision reason response) s) := by
  have answered : response.toOption = step.snapshot? := by rw [KycStep.snapshot?, called]
  have start : Reaches step s s := Relation.ReflTransGen.refl
  unfold review
  rw [after_read, after_throwIf]
  split
  · exact start
  · rename_i allowed
    rw [after_throwIf]
    split
    · exact start
    · rename_i accepted
      obtain ⟨decides, -⟩ := not_or.mp accepted
      have atomic : Atomic (reconcile step.config step.now tenantId row response) :=
        (keeps_lift _).atomic_bind fun _ => (keeps_throwIf _ _).atomic_bind fun _ =>
          (keeps_throwIf _ _).atomic_bind fun _ => atomic_transaction _
      refine after_bind atomic start fun _ x success => ?_
      have reaches : Reaches step s x := by
        rw [← Returns.after_eq success]
        exact apply_reaches answered start
      refine after_transaction reaches fun _ x' reviewed => ?_
      obtain ⟨r, stored, waiting, other, updated⟩ := reviewLocked_returns reviewed
      refine reaches.move ?_
      rw [updated]
      refine Move.row stored (RowMove.decided actor decision reason ?_ waiting other (not_not.mp decides))
      exact ⟨tenantId, row, reason, response, called, rfl, by simpa using allowed⟩

theorem cancel_reaches {erased : Except KycFailure Unit} (called : step.call = .cancel tenantId row erased) :
    Reaches step s (after (cancel step.config step.now tenantId row erased) s) := by
  have start : Reaches step s s := Relation.ReflTransGen.refl
  have moved : Reaches step s
      (after (transition step.config step.now tenantId row.1 .cancelled "CONSENT_WITHDRAWN") s) := by
    rcases transition_cases step.config step.now tenantId row.1 .cancelled "CONSENT_WITHDRAWN" s with
      same | ⟨r, stored, allowed, updated⟩
    · exact start.congr same
    · refine start.move ?_
      rw [updated]
      exact Move.row stored (RowMove.cancelled ⟨tenantId, row, erased, called, rfl⟩ allowed)
  unfold cancel
  split
  · exact moved
  · rw [after_throwIf]
    split
    · exact start
    · exact moved
  · exact start

end KycService

theorem KycStep.next_reaches (step : KycStep) (s : Verifications) : Reaches step s (next step s) := by
  have start : Reaches step s s := Relation.ReflTransGen.refl
  obtain ⟨config, now, call⟩ := step
  unfold next perform
  cases call with
  | latest tenantId subjectId =>
    have reaches : Reaches ⟨config, now, .latest tenantId subjectId⟩ s
        (after (KycService.latest config now tenantId subjectId) s) := KycService.latest_reaches rfl start
    rcases run : KycService.latest config now tenantId subjectId s with ⟨out, x⟩
    cases out with
    | ok =>
      rw [Returns.after_eq run] at reaches
      exact after_bind_of_returns (f := fun _ => pure ()) run ▸ reaches
    | error e =>
      have thrown : (KycService.latest config now tenantId subjectId s).1 = .error e := by rw [run]
      exact after_bind_of_throws (f := fun _ => pure ()) thrown ▸ reaches
  | start =>
    refine after_silent_bind (keeps_orThrow _ _) start fun profile => ?_
    refine after_bind (atomic_transaction _) start fun row x success => ?_
    have reaches := KycService.startLocked_reaches rfl start ((returns_transaction ..).mp success)
    unfold doIf
    split
    · exact KycService.apply_reaches rfl reaches
    · exact reaches
  | upload =>
    refine after_silent_bind (keeps_throwIf _ _) start fun _ => ?_
    refine after_silent_bind (keeps_throwIf _ _) start fun _ => ?_
    exact KycService.apply_reaches rfl start
  | live =>
    refine after_silent_bind (keeps_throwIf _ _) start fun _ => ?_
    refine after_silent_bind (keeps_lift _) start fun done => ?_
    unfold doIf
    split
    · exact KycService.apply_reaches rfl start
    · exact start
  | submit =>
    unfold KycService.submit doIf
    dsimp only
    split
    · exact KycService.apply_reaches rfl start
    · exact start
  | reconcile => exact KycService.apply_reaches rfl start
  | apply => exact KycService.apply_reaches rfl start
  | review => exact KycService.review_reaches rfl
  | cancel => exact KycService.cancel_reaches rfl
  | updateSettings =>
    refine after_silent_bind (keeps_read _) start fun _ => ?_
    refine after_silent_bind (keeps_throwIf _ _) start fun _ => ?_
    refine after_silent_bind (keeps_throwIf _ _) start fun _ => ?_
    exact start
  | elsewhere => exact start

end VtsaCsms.Identity
