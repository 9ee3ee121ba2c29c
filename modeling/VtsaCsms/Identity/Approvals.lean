import VtsaCsms.Foundation.Runs
import VtsaCsms.Identity.VerificationMoves

/-!
# Sound approvals

Over any run of the calls, with the answers of the processor in any order and any number of times: who or what
approved a verification, what no snapshot changes, and how many approvals a subject has in a tenant.
-/
namespace VtsaCsms.Identity
open Foundation Foundation.Action Organizations KycService

abbrev RowMoves (step : KycStep) (s : Verifications) (id : Nat) : KycVerification → KycVerification → Prop :=
  Relation.ReflTransGen (RowMove step s id)

/-- A verification that a person decided, or that was cancelled. -/
def Decided (row : KycVerification) : Prop := row.reviewedAt ≠ none ∨ row.status = .cancelled

/-- The state, until when it holds, and who decided on it, when and why. -/
def decision (row : KycVerification) :
    KycStatus × Option Instant × Option String × Option String × Option Instant × Option String :=
  (row.status, row.expiresAt, row.reasonCode, row.reviewedBy, row.reviewedAt, row.reviewReason)

theorem decision_status {row row' : KycVerification} (same : decision row' = decision row) : row'.status = row.status :=
  congrArg Prod.fst same

theorem decision_reviewedAt {row row' : KycVerification} (same : decision row' = decision row) :
    row'.reviewedAt = row.reviewedAt := congrArg (fun d => d.2.2.2.2.1) same

theorem decision_expiresAt {row row' : KycVerification} (same : decision row' = decision row) :
    row'.expiresAt = row.expiresAt := congrArg (fun d => d.2.1) same

/-- A reviewed verification is past its review. -/
def PastReview (row : KycVerification) : Prop :=
  row.reviewedAt ≠ none → row.status ∈ [KycStatus.approved, .rejected, .actionRequired, .expired, .cancelled]

/-- What a snapshot says of a check. -/
def Snapshot.outcome (data : Snapshot) (check : KycCheck) : Option CheckOutcome :=
  data.result.bind fun result => result.checks check

/-- Every check of the profile passed, none failed, and the evidence is there. -/
structure Snapshot.Passes (data : Snapshot) (profile : AssuranceProfile) : Prop where
  passed : ∀ check ∈ required profile, data.outcome check = some .passed
  unfailed : ∀ check, data.outcome check ≠ some .failed
  evidence : data.evidenceDeleted = false

theorem Snapshot.passes_of {config : KycConfig} {row : KycVerification} {data : Snapshot}
    (assured : assurancePassed config row data = true) : data.Passes row.assuranceProfile := by
  unfold assurancePassed at assured
  simp only [Bool.and_eq_true, Bool.not_eq_true', List.all_eq_true, decide_eq_true_eq] at assured
  obtain ⟨⟨⟨-, evidence⟩, unfailed⟩, passed⟩ := assured
  refine ⟨passed, fun check failed => ?_, evidence⟩
  obtain ⟨result, there, said⟩ := Option.bind_eq_some_iff.mp failed
  have listed : check ∈ KycCheck.all := by cases check <;> decide
  have reported : result.reports .failed = true := List.any_eq_true.mpr ⟨check, listed, decide_eq_true said⟩
  rw [there, Option.any_some, reported] at unfailed
  cases unfailed

/-! ### One move of one row -/

theorem absorb_cases (config : KycConfig) (now : Instant) (data : Snapshot) (row : KycVerification) :
    (row.reviewedAt = none ∧ row.status.canTransitionTo (asked config row data).1 = true ∧
      (absorb config now data row).status = (asked config row data).1 ∧
      (absorb config now data row).reviewedAt = row.reviewedAt) ∨
    decision (absorb config now data row) = decision row := by
  unfold absorb
  dsimp only
  split
  · rename_i moves
    exact Or.inl ⟨moves.1, moves.2, rfl, rfl⟩
  · exact Or.inr rfl

@[simp] theorem absorb_serviceVersion (config : KycConfig) (now : Instant) (data : Snapshot) (row : KycVerification) :
    (absorb config now data row).serviceVersion = data.version := by
  unfold absorb
  dsimp only
  split <;> rfl

theorem absorb_reviewedBy (config : KycConfig) (now : Instant) (data : Snapshot) (row : KycVerification) :
    (absorb config now data row).reviewedBy = row.reviewedBy := by
  unfold absorb
  dsimp only
  split <;> rfl

/-- A snapshot asks for an approval only in the automatic mode, after every check has passed. -/
theorem asked_approved {config : KycConfig} {row : KycVerification} {data : Snapshot}
    (approves : (asked config row data).1 = .approved) :
    row.reviewMode = .automatic ∧ data.status = .approved ∧ data.Passes row.assuranceProfile := by
  unfold asked at approves
  by_cases final : data.status = .approved ∨ data.status = .rejected
  · rw [if_pos final] at approves
    by_cases manual : row.reviewMode = .manual
    · rw [if_pos manual] at approves
      cases approves
    · rw [if_neg manual] at approves
      have automatic : row.reviewMode = .automatic := by
        cases mode : row.reviewMode with
        | manual => exact absurd mode manual
        | automatic => rfl
      by_cases incomplete : data.status = .approved ∧ assurancePassed config row data = false
      · rw [if_pos incomplete] at approves
        cases approves
      · rw [if_neg incomplete] at approves
        have assured : assurancePassed config row data = true := by
          by_contra refused
          exact incomplete ⟨approves, by simpa using refused⟩
        exact ⟨automatic, approves, Snapshot.passes_of assured⟩
  · rw [if_neg final] at approves
    exact absurd (Or.inl approves) final

/-- What never changes of a verification. -/
def identity (row : KycVerification) : Nat × String × ReviewMode × AssuranceProfile :=
  (row.tenantId, row.subjectId, row.reviewMode, row.assuranceProfile)

theorem identity_eq {row row' : KycVerification} (same : identity row' = identity row) :
    row'.tenantId = row.tenantId ∧ row'.subjectId = row.subjectId ∧ row'.reviewMode = row.reviewMode ∧
      row'.assuranceProfile = row.assuranceProfile := by
  simpa only [identity, Prod.mk.injEq] using same

section
variable {step : KycStep} {s : Verifications} {id : Nat} {row row' : KycVerification}

theorem RowMove.identity (moved : RowMove step s id row row') : Identity.identity row' = Identity.identity row := by
  cases moved with
  | absorbed =>
    unfold absorb
    dsimp only
    split <;> rfl
  | expired => rfl
  | cancelled => rfl
  | decided => rfl

theorem RowMove.version (moved : RowMove step s id row row') : row.serviceVersion ≤ row'.serviceVersion := by
  cases moved with
  | absorbed _ _ _ newer =>
    rw [absorb_serviceVersion]
    exact newer.le
  | expired => exact le_refl _
  | cancelled => exact le_refl _
  | decided => exact le_refl _

theorem RowMove.canResubmit (moved : RowMove step s id row row') (over' : row.status.canResubmit = true) :
    row'.status.canResubmit = true := by
  cases moved with
  | absorbed data answered own newer =>
    rcases absorb_cases step.config step.now data row with ⟨-, allowed, to', -⟩ | same
    · rw [to']
      generalize (asked step.config row data).1 = next at allowed ⊢
      revert over' allowed
      cases row.status <;> cases next <;> decide
    · rw [decision_status same]
      exact over'
  | expired => rfl
  | cancelled => rfl
  | decided _ _ _ _ waiting =>
    rw [waiting] at over'
    cases over'

theorem RowMove.pastReview (moved : RowMove step s id row row') (past : PastReview row) : PastReview row' := by
  intro reviewed
  cases moved with
  | absorbed data =>
    rcases absorb_cases step.config step.now data row with ⟨none', -, -, same⟩ | same
    · rw [same] at reviewed
      exact absurd none' reviewed
    · rw [decision_reviewedAt same] at reviewed
      rw [decision_status same]
      exact past reviewed
  | expired => simp [setState]
  | cancelled => simp [setState]
  | decided _ _ _ _ _ _ decides =>
    simp only [List.mem_cons, List.not_mem_nil, or_false] at decides ⊢
    rcases decides with rfl | rfl | rfl
    · exact Or.inl rfl
    · exact Or.inr (Or.inl rfl)
    · exact Or.inr (Or.inr (Or.inl rfl))

theorem RowMove.closed (moved : RowMove step s id row row') (closed : row.status = .expired ∨ row.status = .cancelled) :
    row'.status = row.status := by
  cases moved with
  | absorbed data =>
    rcases absorb_cases step.config step.now data row with ⟨-, allowed, -, -⟩ | same
    · rcases closed with expired | cancelled
      · simp [expired, KycStatus.canTransitionTo] at allowed
      · simp [cancelled, KycStatus.canTransitionTo] at allowed
    · exact decision_status same
  | expired _ lapsed =>
    rw [lapsed.1] at closed
    simp at closed
  | cancelled _ open' =>
    rcases closed with expired | cancelled
    · simp [expired, KycStatus.canTransitionTo] at open'
    · simp [cancelled, KycStatus.canTransitionTo] at open'
  | decided _ _ _ _ waiting =>
    rw [waiting] at closed
    simp at closed

theorem RowMove.decided_stays (moved : RowMove step s id row row') (past : PastReview row) (decided : Decided row) :
    decision row' = decision row ∨ (step.isCancel id ∧ row'.status = .cancelled) ∨
      (step.looksUp = true ∧ Lapsed step.now row ∧ row'.status = .expired) := by
  cases moved with
  | absorbed data =>
    rcases absorb_cases step.config step.now data row with ⟨unreviewed, allowed, -, -⟩ | same
    · rcases decided with reviewed | cancelled
      · exact absurd unreviewed reviewed
      · rw [cancelled] at allowed
        simp [KycStatus.canTransitionTo] at allowed
    · exact Or.inl same
  | expired called lapsed => exact Or.inr (Or.inr ⟨called, lapsed, rfl⟩)
  | cancelled called => exact Or.inr (Or.inl ⟨called, rfl⟩)
  | decided _ _ _ _ waiting =>
    rcases decided with reviewed | cancelled
    · have late := past reviewed
      rw [waiting] at late
      simp at late
    · rw [waiting] at cancelled
      cases cancelled

/-! ### The moves of one row in a call -/

theorem RowMoves.identity (moves : RowMoves step s id row row') : Identity.identity row' = Identity.identity row := by
  induction moves with
  | refl => rfl
  | tail _ moved ih => exact moved.identity.trans ih

theorem RowMoves.version (moves : RowMoves step s id row row') : row.serviceVersion ≤ row'.serviceVersion := by
  induction moves with
  | refl => exact le_refl _
  | tail _ moved ih => exact ih.trans moved.version

theorem RowMoves.pastReview (moves : RowMoves step s id row row') (past : PastReview row) : PastReview row' := by
  induction moves with
  | refl => exact past
  | tail _ moved ih => exact moved.pastReview ih

theorem RowMoves.decided_stays (moves : RowMoves step s id row row') (past : PastReview row) (decided : Decided row) :
    decision row' = decision row ∨ (step.isCancel id ∧ row'.status = .cancelled) ∨
      (step.looksUp = true ∧ Lapsed step.now row ∧ row'.status = .expired) := by
  induction moves with
  | refl => exact Or.inl rfl
  | @tail mid last before moved ih =>
    rcases ih with same | ⟨called, cancelled⟩ | ⟨called, lapsed, expired⟩
    · have decided' : Decided mid := by
        unfold Decided
        rw [decision_reviewedAt same, decision_status same]
        exact decided
      rcases moved.decided_stays (RowMoves.pastReview before past) decided' with
        same' | cancelled | ⟨called, ⟨approved, expires⟩, expired⟩
      · exact Or.inl (same'.trans same)
      · exact Or.inr (Or.inl cancelled)
      · rw [decision_status same] at approved
        rw [decision_expiresAt same] at expires
        exact Or.inr (Or.inr ⟨called, ⟨approved, expires⟩, expired⟩)
    · exact Or.inr (Or.inl ⟨called, (moved.closed (Or.inr cancelled)).trans cancelled⟩)
    · exact Or.inr (Or.inr ⟨called, lapsed, (moved.closed (Or.inl expired)).trans expired⟩)

/-- What approved a verification in a call. -/
inductive ApprovedIn (step : KycStep) (s : Verifications) (id : Nat) (row row' : KycVerification) : Prop where
  | already (was : row.status = .approved) (by' : row'.reviewedBy = row.reviewedBy)
  | reviewer (actor : Account) (called : step.isReview id actor .approved s)
      (by' : row'.reviewedBy = some actor.publicId) (other : row'.subjectId ≠ actor.publicId)
  | snapshot (data : Snapshot) (answered : step.snapshot? = some data) (own : data.id = id)
      (newer : row.serviceVersion < data.version) (taken : row'.serviceVersion = data.version)
      (automatic : row'.reviewMode = .automatic) (approves : data.status = .approved)
      (passes : data.Passes row'.assuranceProfile)

theorem RowMoves.approved (moves : RowMoves step s id row row') (approved : row'.status = .approved) :
    ApprovedIn step s id row row' := by
  induction moves with
  | refl => exact .already approved rfl
  | @tail mid last before moved ih =>
    obtain ⟨-, subject, mode, profile⟩ := identity_eq moved.identity
    cases moved with
    | absorbed data answered own newer =>
      have newer' := lt_of_le_of_lt (RowMoves.version before) newer
      rcases absorb_cases step.config step.now data mid with ⟨-, -, to', -⟩ | kept
      · obtain ⟨automatic, approves, passes⟩ := asked_approved (to'.symm.trans approved)
        refine .snapshot data answered own newer' (absorb_serviceVersion ..) ?_ approves ?_
        · rw [mode]
          exact automatic
        · rw [profile]
          exact passes
      · cases ih ((decision_status kept).symm.trans approved) with
        | already was by' => exact .already was ((absorb_reviewedBy ..).trans by')
        | reviewer actor called by' other =>
          refine .reviewer actor called ((absorb_reviewedBy ..).trans by') ?_
          rw [subject]
          exact other
        | snapshot _ answered' _ _ taken =>
          cases answered.symm.trans answered'
          exact absurd newer (by rw [taken]; exact lt_irrefl _)
    | expired => cases approved
    | cancelled => cases approved
    | decided actor decision _ called _ other =>
      obtain rfl : decision = .approved := approved
      exact .reviewer actor called rfl other

/-! ### The moves of a call in the table -/

variable {t t' : Table Nat KycVerification}

theorem Moves.kept (moves : Moves step s t t') (stored : t.get? id = some row) :
    ∃ row', t'.get? id = some row' ∧ RowMoves step s id row row' := by
  induction moves with
  | refl => exact ⟨row, stored, .refl⟩
  | tail _ move ih =>
    obtain ⟨mid, there, before⟩ := ih
    cases move with
    | @row key old new here moved =>
      by_cases same : id = key
      · subst same
        cases there.symm.trans here
        refine ⟨new, ?_, before.tail moved⟩
        rw [Table.get?_update_self, here]
        rfl
      · exact ⟨mid, (Table.get?_update_of_ne _ _ same).trans there, before⟩
    | opened => exact ⟨mid, Table.get?_create_of_some _ _ there, before⟩

theorem Moves.origin (moves : Moves step s t t') (stored : t'.get? id = some row') :
    (∃ row, t.get? id = some row ∧ RowMoves step s id row row') ∨
      (t.get? id = none ∧ ∃ row, Opened row ∧ RowMoves step s id row row') := by
  induction moves generalizing row' with
  | refl => exact Or.inl ⟨row', stored, .refl⟩
  | @tail t₁ t₂ before move ih =>
    cases move with
    | @row key old new here moved =>
      by_cases same : id = key
      · subst same
        rw [Table.get?_update_self, here] at stored
        cases stored
        rcases ih here with ⟨row, there, moves⟩ | ⟨absent, row, fresh, moves⟩
        · exact Or.inl ⟨row, there, moves.tail moved⟩
        · exact Or.inr ⟨absent, row, fresh, moves.tail moved⟩
      · exact ih ((Table.get?_update_of_ne _ _ same).symm.trans stored)
    | @opened row fresh previous =>
      obtain ⟨rfl, rfl⟩ | old := Table.get?_create_cases stored
      · refine Or.inr ⟨?_, row', fresh, .refl⟩
        by_contra there
        obtain ⟨r, there⟩ := Option.ne_none_iff_exists'.mp there
        obtain ⟨r', kept, -⟩ := Moves.kept before there
        rw [Table.get?_nextId] at kept
        cases kept
      · exact ih old

/-- Of two attempts of a subject in a tenant, the earlier one is over. -/
def Follows (earlier later : KycVerification) : Prop :=
  earlier.tenantId = later.tenantId → earlier.subjectId = later.subjectId → earlier.status.canResubmit = true

/-- Reviewed verifications are past their review, and the attempts of a subject follow each other. -/
structure Orderly (t : Table Nat KycVerification) : Prop where
  past : ∀ id row, t.get? id = some row → PastReview row
  attempts : Table.Succession Follows t

theorem Move.orderly (move : Move step s t t') (orderly : Orderly t) : Orderly t' := by
  cases move with
  | @row key old new here moved =>
    obtain ⟨tenant, subject, -, -⟩ := identity_eq moved.identity
    refine ⟨?_, ?_⟩
    · intro id row stored
      by_cases same : id = key
      · subst same
        rw [Table.get?_update_self, here] at stored
        cases stored
        exact moved.pastReview (orderly.past _ _ here)
      · exact orderly.past _ _ ((Table.get?_update_of_ne _ _ same).symm.trans stored)
    · refine orderly.attempts.update here ?_ ?_
      · intro other follows sameTenant sameSubject
        exact moved.canResubmit (follows (tenant.symm.trans sameTenant) (subject.symm.trans sameSubject))
      · intro other follows sameTenant sameSubject
        exact follows (sameTenant.trans tenant) (sameSubject.trans subject)
  | @opened row fresh previous =>
    refine ⟨?_, ?_⟩
    · intro id r stored
      obtain ⟨-, rfl⟩ | old := Table.get?_create_cases stored
      · exact fun reviewed => absurd fresh.unreviewed reviewed
      · exact orderly.past _ _ old
    · refine orderly.attempts.create ?_
      intro id r stored tenant subject
      have kind : ofSubject row.tenantId row.subjectId id r = true := decide_eq_true ⟨tenant, subject⟩
      -- The attempt is the last one of the subject, or the last one came after it.
      obtain ⟨⟨key, last⟩, final⟩ : ∃ e, t.last? (ofSubject row.tenantId row.subjectId) = some e := by
        have member := (Table.mem_rowsWhere t (ofSubject row.tenantId row.subjectId) id r).mpr ⟨stored, kind⟩
        exact ⟨_, List.getLast?_eq_some_getLast (List.ne_nil_of_mem member)⟩
      by_cases same : id = key
      · subst same
        cases stored.symm.trans (Table.last?_some final).1
        exact previous _ _ final
      · have kind' := of_decide_eq_true (Table.last?_some final).2
        exact orderly.attempts.last final stored kind same (tenant.trans kind'.1.symm) (subject.trans kind'.2.symm)

theorem Moves.orderly (moves : Moves step s t t') (orderly : Orderly t) :
    Orderly t' := by
  induction moves with
  | refl => exact orderly
  | tail _ move ih => exact move.orderly ih

end

/-! ### Runs -/

/-- A call whose snapshot a verification took in, past the version it had. -/
structure Applies (step : KycStep) (s : Verifications) (id : Nat) (data : Snapshot) : Prop where
  answered : step.snapshot? = some data
  own : data.id = id
  newer : ∀ row, s.verifications.get? id = some row → row.serviceVersion < data.version
  taken : ∃ row, (step.next s).verifications.get? id = some row ∧ row.serviceVersion = data.version

/-- A call that approves the verification: a review by another than its subject, or, in the automatic mode, an
applied snapshot that says so after every check of the profile. -/
inductive Approves (id : Nat) (row : KycVerification) (step : KycStep) (s : Verifications) : Prop where
  | reviewer (actor : Account) (called : step.isReview id actor .approved s)
      (by' : row.reviewedBy = some actor.publicId) (other : row.subjectId ≠ actor.publicId)
  | snapshot (data : Snapshot) (applied : Applies step s id data) (automatic : row.reviewMode = .automatic)
      (approves : data.status = .approved) (passes : data.Passes row.assuranceProfile)

/-- What a call leaves of the verifications there are: decisions stand, unless the call cancels them or finds them
over, and no version goes back. -/
structure Respects (step : KycStep) (s : Verifications) : Prop where
  decisions : ∀ id row, s.verifications.get? id = some row → Decided row →
    ∃ row', (step.next s).verifications.get? id = some row' ∧
      (decision row' = decision row ∨ (step.isCancel id ∧ row'.status = .cancelled) ∨
        (step.looksUp = true ∧ Lapsed step.now row ∧ row'.status = .expired))
  versions : ∀ id row, s.verifications.get? id = some row →
    ∃ row', (step.next s).verifications.get? id = some row' ∧ row.serviceVersion ≤ row'.serviceVersion

/-- A subject has one approved verification at most, in each tenant. -/
def OneApproval (s : Verifications) : Prop :=
  ∀ id id' row row', s.verifications.get? id = some row → s.verifications.get? id' = some row' →
    row.status = .approved → row'.status = .approved → row.tenantId = row'.tenantId →
    row.subjectId = row'.subjectId → id = id'

def opening (access : Access) (settings : List (Nat × ReviewMode)) : Verifications where
  access := access
  settings := settings
  verifications := Table.empty
  events := []

/-- The verification is stored and approved, as `row` is. -/
def ApprovedAs (id : Nat) (row : KycVerification) (s : Verifications) : Prop :=
  ∃ r, s.verifications.get? id = some r ∧ r.status = .approved ∧ r.reviewedBy = row.reviewedBy ∧
    identity r = identity row

theorem next_orderly (step : KycStep) (s : Verifications) (orderly : Orderly s.verifications) :
    Orderly (step.next s).verifications := Moves.orderly (step.next_reaches s) orderly

theorem next_respects (step : KycStep) (s : Verifications) (orderly : Orderly s.verifications) : Respects step s := by
  refine ⟨?_, ?_⟩
  · intro id row stored decided
    obtain ⟨row', there, moves⟩ := Moves.kept (step.next_reaches s) stored
    exact ⟨row', there, moves.decided_stays (orderly.past id row stored) decided⟩
  · intro id row stored
    obtain ⟨row', there, moves⟩ := Moves.kept (step.next_reaches s) stored
    exact ⟨row', there, moves.version⟩

/-- A verification that is approved after a call was approved before it, or by it. -/
theorem next_approved {id : Nat} {row : KycVerification} (step : KycStep) (s : Verifications)
    (approved : ApprovedAs id row (step.next s)) : ApprovedAs id row s ∨ Approves id row step s := by
  obtain ⟨row', stored, approved, by', same⟩ := approved
  obtain ⟨-, subject, mode, profile⟩ := identity_eq same
  have approves : ∀ old, (∀ r, s.verifications.get? id = some r → r = old) → ApprovedIn step s id old row' →
      old.status = .approved ∧ row'.reviewedBy = old.reviewedBy ∨ Approves id row step s := by
    intro old only within
    cases within with
    | already was by'' => exact Or.inl ⟨was, by''⟩
    | reviewer actor called by'' other =>
      exact Or.inr (.reviewer actor called (by'.symm.trans by'') (subject ▸ other))
    | snapshot data answered own newer taken automatic said passes =>
      refine Or.inr (.snapshot data ⟨answered, own, fun r there => ?_, row', stored, taken⟩ (mode ▸ automatic) said
        (profile ▸ passes))
      rw [only r there]
      exact newer
  rcases Moves.origin (step.next_reaches s) stored with ⟨old, there, moves⟩ | ⟨absent, old, fresh, moves⟩
  · have only : ∀ r, s.verifications.get? id = some r → r = old := fun r known =>
      Option.some.inj (known.symm.trans there)
    rcases approves old only (moves.approved approved) with ⟨was, by''⟩ | caused
    · exact Or.inl ⟨old, there, was, by''.symm.trans by', moves.identity.symm.trans same⟩
    · exact Or.inr caused
  · have only : ∀ r, s.verifications.get? id = some r → r = old := fun r known => absurd (absent.symm.trans known) (by simp)
    rcases approves old only (moves.approved approved) with ⟨was, -⟩ | caused
    · rw [fresh.status] at was
      cases was
    · exact Or.inr caused

theorem oneApproval_of_orderly {s : Verifications} (orderly : Orderly s.verifications) : OneApproval s := by
  intro id id' row row' stored stored' approved approved' tenant subject
  by_contra different
  rcases orderly.attempts.related different stored stored' with follows | follows
  · have over' := follows tenant subject
    rw [approved] at over'
    cases over'
  · have over' := follows tenant.symm subject.symm
    rw [approved'] at over'
    cases over'

theorem opening_orderly (access : Access) (settings : List (Nat × ReviewMode)) :
    Orderly (opening access settings).verifications :=
  ⟨fun _ _ stored => (by cases stored), Table.succession_empty⟩

/-- In every run each approved verification was approved by another person or by the checks, no snapshot changes a
decision, no version goes back, and a subject has one approval at most in a tenant. -/
theorem approvals_sound (access : Access) (settings : List (Nat × ReviewMode)) (steps : List KycStep) :
    (∀ id row, (Runs.reached KycStep.next steps (opening access settings)).verifications.get? id = some row →
      row.status = .approved → ∃ before step later, steps = before ++ step :: later ∧
        Approves id row step (Runs.reached KycStep.next before (opening access settings))) ∧
    OneApproval (Runs.reached KycStep.next steps (opening access settings)) ∧
    Runs.Met KycStep.next Respects steps (opening access settings) := by
  have start := opening_orderly access settings
  refine ⟨?_, ?_, ?_⟩
  · intro id row stored approved
    have caused := Runs.reached_caused (P := ApprovedAs id row) next_approved steps (opening access settings)
      ⟨row, stored, approved, rfl, rfl⟩
    rcases caused with ⟨r, there, -⟩ | caused
    · cases there
    · exact caused
  · have orderly := Runs.throughout_of_kept (P := fun s => Orderly s.verifications) next_orderly
      (fun _ kept => kept) steps _ start
    exact oneApproval_of_orderly orderly.last
  · exact Runs.met_of_kept (Q := fun s => Orderly s.verifications) next_orderly next_respects steps _ start

/-! ### A subject of two tenants -/

def twoTenants : Verifications :=
  opening
    { tenants := (Table.empty.create .active).create .active
      users := Table.empty.create { email := "driver@example.test", emailVerifiedAt := some 0, activatedAt := some 0 }
      memberships := Table.empty, roles := Table.empty, rolePermissions := [], assignments := Table.empty
      organizations := Table.empty, sites := Table.empty, invitations := Table.empty }
    [(0, .automatic), (1, .automatic)]

/-- The account starts in the tenant, and the processor reports every check passed. -/
def verifiedIn (tenantId id : Nat) : List KycStep :=
  let config : KycConfig :=
    { enabled := true, simulated := false, automaticVerificationEnabled := true, assuranceProfile := some .opticalV1
      validityDays := 365 }
  let copy : KycVerification :=
    { tenantId, subjectId := "01DRIVER", idempotencyKey := "01KEY", requestFingerprint := "f", status := .inProgress
      documentType := "passport", consentVersion := "v1", consentedAt := 0, reviewMode := .automatic
      assuranceProfile := .opticalV1 }
  let snapshot (version : Nat) (status : KycStatus) (result : Option ProcessingResult) : Snapshot :=
    { id, tenantId, subjectId := "01DRIVER", status, version, evidenceDeleted := false, result }
  let checked : ProcessingResult :=
    { provider := "local", reasonCode := "PROVIDER_VERIFIED"
      checks := fun check => if check = .document then none else some .passed, durationMs := 10 }
  [ ⟨config, 0, .start tenantId ⟨0, "01DRIVER"⟩ ⟨"01KEY", "passport", "v1", "f"⟩ false
      (.ok (snapshot 1 .pendingUpload none))⟩,
    ⟨config, 1, .apply tenantId (id, copy) (.ok (snapshot 5 .approved (some checked))) (some "01EVENT")⟩ ]

/-- In two tenants the same subject has two approved verifications. -/
theorem approvals_two_tenants : ∃ id id' row row',
    let s := Runs.reached KycStep.next (verifiedIn 0 0 ++ verifiedIn 1 1) twoTenants
    s.verifications.get? id = some row ∧ s.verifications.get? id' = some row' ∧ row.status = .approved ∧
      row'.status = .approved ∧ row.subjectId = row'.subjectId ∧ id ≠ id' := by
  have seen : ∀ id, id = 0 ∨ id = 1 →
      ((Runs.reached KycStep.next (verifiedIn 0 0 ++ verifiedIn 1 1) twoTenants).verifications.get? id).map
        (fun row => (row.status, row.subjectId)) = some (.approved, "01DRIVER") := by
    rintro id (rfl | rfl) <;> decide +kernel
  obtain ⟨row, stored, shape⟩ := Option.map_eq_some_iff.mp (seen 0 (Or.inl rfl))
  obtain ⟨row', stored', shape'⟩ := Option.map_eq_some_iff.mp (seen 1 (Or.inr rfl))
  obtain ⟨approved, subject⟩ := Prod.mk.inj shape
  obtain ⟨approved', subject'⟩ := Prod.mk.inj shape'
  exact ⟨0, 1, row, row', stored, stored', approved, approved', subject.trans subject'.symm, by decide⟩

end VtsaCsms.Identity
