import VtsaCsms.Organizations.AccessControl

/-!
# Identity verifications

`KycService.php`, `KycSettings.php` and `KycStatus.php`. The processor is outside: its answers come with the
calls, as `KycClient` hands them on, validated or as its exception. What is sent to it, the metadata of the
images and the audit are left out. The key of a verification sorts by creation.
-/
namespace VtsaCsms.Identity
open Foundation Foundation.Action Organizations

inductive KycStatus where
  | notStarted | inProgress | pendingUpload | submitted | processing | needsReview | actionRequired | approved
  | rejected | expired | cancelled
  deriving DecidableEq, Repr

namespace KycStatus

def value : KycStatus → String
  | notStarted => "NOT_STARTED"
  | inProgress => "IN_PROGRESS"
  | pendingUpload => "PENDING_UPLOAD"
  | submitted => "SUBMITTED"
  | processing => "PROCESSING"
  | needsReview => "NEEDS_REVIEW"
  | actionRequired => "ACTION_REQUIRED"
  | approved => "APPROVED"
  | rejected => "REJECTED"
  | expired => "EXPIRED"
  | cancelled => "CANCELLED"

def canTransitionTo (status next : KycStatus) : Bool :=
  decide (next ∈ match status with
    | inProgress => [pendingUpload, cancelled]
    | pendingUpload =>
      [submitted, processing, needsReview, actionRequired, approved, rejected, cancelled, expired]
    | submitted | processing => [processing, needsReview, actionRequired, approved, rejected, cancelled, expired]
    | needsReview => [approved, rejected, actionRequired, cancelled, expired]
    | approved => [expired, cancelled]
    | actionRequired | rejected => [cancelled]
    | _ => ([] : List KycStatus))

def canResubmit (status : KycStatus) : Bool := decide (status ∈ [actionRequired, rejected, expired, cancelled])

end KycStatus

inductive ReviewMode where
  | manual | automatic
  deriving DecidableEq, Repr

inductive AssuranceProfile where
  | issuerV1 | opticalV1
  deriving DecidableEq, Repr

inductive KycCheck where
  | ocr | document | documentData | opticalDocument | faceMatch | liveness
  deriving DecidableEq, Repr

inductive CheckOutcome where
  | passed | failed | unavailable | mock
  deriving DecidableEq, Repr

def KycCheck.all : List KycCheck := [ocr, document, documentData, opticalDocument, faceMatch, liveness]

structure ProcessingResult where
  provider : String
  reasonCode : String
  checks : KycCheck → Option CheckOutcome
  durationMs : Nat

/-- `in_array($outcome, $result['checks'])`. -/
def ProcessingResult.reports (result : ProcessingResult) (outcome : CheckOutcome) : Bool :=
  KycCheck.all.any fun check => decide (result.checks check = some outcome)

/-- What the processor reports of a verification. -/
structure Snapshot where
  id : Nat
  tenantId : Nat
  subjectId : String
  status : KycStatus
  version : Nat
  evidenceDeleted : Bool
  result : Option ProcessingResult

structure KycVerification where
  tenantId : Nat
  subjectId : String
  idempotencyKey : String
  requestFingerprint : String
  status : KycStatus
  documentType : String
  consentVersion : String
  consentedAt : Instant
  serviceVersion : Nat := 0
  processingResult : Option ProcessingResult := none
  evidenceDeleted : Bool := false
  submittedAt : Option Instant := none
  processingStartedAt : Option Instant := none
  verifiedAt : Option Instant := none
  rejectedAt : Option Instant := none
  expiresAt : Option Instant := none
  reviewedBy : Option String := none
  reviewedAt : Option Instant := none
  reasonCode : Option String := none
  reviewReason : Option String := none
  reviewMode : ReviewMode
  assuranceProfile : AssuranceProfile

structure KycEvent where
  tenantId : Nat
  verificationId : Nat
  eventId : Option String
  status : KycStatus
  reasonCode : Option String
  occurredAt : Instant

/-- `config/kyc.php` and the environment; a deployment may change them between calls. -/
structure KycConfig where
  enabled : Bool
  /-- The environment is `local` or `testing`. -/
  simulated : Bool
  automaticVerificationEnabled : Bool
  /-- None where the text names no profile. -/
  assuranceProfile : Option AssuranceProfile
  validityDays : Int

/-- The account of a request. -/
structure Account where
  key : Nat
  publicId : String
  deriving DecidableEq

structure Verifications where
  access : Access
  settings : List (Nat × ReviewMode)
  verifications : Table Nat KycVerification
  events : List KycEvent

inductive KycFailure where
  | kyc (errorCode : String) (status : Nat)
  | validation (field message : String)
  | forbidden
  | notFound
  deriving DecidableEq

abbrev KycAction (α : Type) := Action Verifications KycFailure α

/-- A validated snapshot, or what `KycClient` throws. -/
abbrev KycAnswer := Except KycFailure Snapshot

/-- The characters `trim` takes off. -/
def isTrimmed (c : Char) : Bool := c ∈ [' ', '\n', '\r', '\t', Char.ofNat 11, Char.ofNat 0]

/-- `mb_strlen(trim($text))`. -/
def trimmedLength (text : String) : Nat :=
  ((text.toList.dropWhile isTrimmed).reverse.dropWhile isTrimmed).length

namespace KycSettings

def mode (tenantId : Nat) (s : Verifications) : ReviewMode := (s.settings.lookup tenantId).getD .manual

def update (config : KycConfig) (now : Instant) (tenantId : Nat) (actor : Account) (mode : ReviewMode) :
    KycAction Unit := do
  let allowed ← read fun s => AuthorizationService.allows now tenantId actor.key .kycSettingsManage none s.access
  throwIf (¬ (config.enabled = true ∧ allowed = true)) .forbidden
  throwIf (mode = .automatic ∧ config.automaticVerificationEnabled = false)
    (.validation "mode"
      "Automatic verification requires an accepted document, face matching and liveness deployment.")
  write fun s => { s with settings := (tenantId, mode) :: s.settings.filter fun setting => setting.1 ≠ tenantId }

end KycSettings

namespace KycService

def findOrFail (tenantId id : Nat) : KycAction KycVerification := do
  let found ← read fun s => (s.verifications.get? id).filter fun row => decide (row.tenantId = tenantId)
  orThrow found .notFound

def setState (config : KycConfig) (now : Instant) (next : KycStatus) (code : Option String) (row : KycVerification) :
    KycVerification :=
  { row with
    status := next
    reasonCode := code
    submittedAt := if next = .submitted then some now else row.submittedAt
    processingStartedAt := if next = .processing then some now else row.processingStartedAt
    verifiedAt := if next = .approved then some now else row.verifiedAt
    expiresAt := if next = .approved then some (Instant.addSeconds now (config.validityDays * 86400)) else row.expiresAt
    rejectedAt := if next = .rejected then some now else row.rejectedAt }

def record (now : Instant) (id : Nat) (row : KycVerification) (code : Option String) (eventId : Option String) :
    KycAction Unit :=
  write fun s => { s with
    events := s.events ++
      [{ tenantId := row.tenantId, verificationId := id, eventId, status := row.status, reasonCode := code,
         occurredAt := now }] }

def save (id : Nat) (row : KycVerification) : KycAction Unit :=
  write fun s => { s with verifications := s.verifications.update id fun _ => row }

def transition (config : KycConfig) (now : Instant) (tenantId id : Nat) (next : KycStatus) (code : String) :
    KycAction Unit :=
  transaction do
    let row ← findOrFail tenantId id
    doIf (row.status ≠ next) do
      throwIf (row.status.canTransitionTo next = false) (.kyc "INVALID_STATE_TRANSITION" 409)
      save id (setState config now next (some code) row)
      record now id (setState config now next (some code) row) (some code) none

/-- The checks a profile requires. -/
def required : AssuranceProfile → List KycCheck
  | .opticalV1 => [.ocr, .opticalDocument, .documentData, .faceMatch, .liveness]
  | .issuerV1 => [.ocr, .document, .faceMatch, .liveness]

def assurancePassed (config : KycConfig) (row : KycVerification) (data : Snapshot) : Bool :=
  config.automaticVerificationEnabled && !data.evidenceDeleted &&
    !(data.result.any fun result => result.reports .failed) &&
    (required row.assuranceProfile).all fun check =>
      decide ((data.result.bind fun result => result.checks check) = some .passed)

/-- The status a snapshot asks for, under the rules of the review mode. -/
def asked (config : KycConfig) (row : KycVerification) (data : Snapshot) : KycStatus × Option String :=
  if data.status = .approved ∨ data.status = .rejected then
    if row.reviewMode = .manual then (.needsReview, some "MANUAL_REVIEW_REQUIRED")
    else if data.status = .approved ∧ assurancePassed config row data = false then
      (.needsReview, some "ASSURANCE_INCOMPLETE")
    else (data.status, data.result.map ProcessingResult.reasonCode)
  else (data.status, data.result.map ProcessingResult.reasonCode)

/-- The row with a newer snapshot. -/
def absorb (config : KycConfig) (now : Instant) (data : Snapshot) (row : KycVerification) : KycVerification :=
  let taken : KycVerification := { row with
    serviceVersion := data.version, evidenceDeleted := data.evidenceDeleted, processingResult := data.result }
  -- Human decisions and cancellation are authoritative over delayed provider results.
  if row.reviewedAt = none ∧ row.status.canTransitionTo (asked config row data).1 = true then
    setState config now (asked config row data).1 (asked config row data).2 taken
  else taken

/-- The transaction of `apply`. -/
def applyLocked (config : KycConfig) (now : Instant) (tenantId id : Nat) (data : Snapshot) (eventId : Option String) :
    KycAction Unit := do
  let row ← findOrFail tenantId id
  let known ← read fun s => eventId.any fun event => s.events.any fun e =>
    decide (e.tenantId = row.tenantId ∧ e.eventId = some event)
  doIf (¬ (known = true ∨ (data.version ≤ row.serviceVersion ∧ eventId = none))) do
    if row.serviceVersion < data.version then
      save id (absorb config now data row)
      record now id (absorb config now data row) (absorb config now data row).reasonCode eventId
    else record now id row row.reasonCode eventId

/-- A simulated provider, which only `local` and `testing` may use. -/
def mocked (data : Snapshot) : Bool :=
  data.result.any fun result => decide (result.provider = "mock") || result.reports .mock

/-- `row` is the caller's copy, which may be stale. -/
def apply (config : KycConfig) (now : Instant) (tenantId : Nat) (row : Nat × KycVerification) (response : KycAnswer)
    (eventId : Option String) : KycAction Unit := do
  let data ← lift response
  throwIf (config.simulated = false ∧ mocked data = true) (.kyc "MOCK_PROVIDER_FORBIDDEN" 503)
  throwIf (data.id ≠ row.1 ∨ data.tenantId ≠ row.2.tenantId ∨ data.subjectId ≠ row.2.subjectId)
    (.kyc "INVALID_SERVICE_RESPONSE" 503)
  transaction (applyLocked config now tenantId row.1 data eventId)

def reconcile (config : KycConfig) (now : Instant) (tenantId : Nat) (row : Nat × KycVerification)
    (response : KycAnswer) : KycAction Unit :=
  apply config now tenantId row response none

def latest (config : KycConfig) (now : Instant) (tenantId : Nat) (subjectId : String) :
    KycAction (Option (Nat × KycVerification)) := do
  let found ← read fun s => s.verifications.last? fun _ row => decide (row.tenantId = tenantId ∧ row.subjectId = subjectId)
  match found with
  | none => pure none
  | some row => do
    doIf (row.2.status = .approved ∧ row.2.expiresAt.any (fun expires => decide (expires < now)) = true)
      (transition config now tenantId row.1 .expired "VERIFICATION_EXPIRED")
    let fresh ← read fun s => s.verifications.get? row.1
    pure (fresh.map fun r => (row.1, r))

/-- A request to start; the fingerprint is the keyed hash of all of it. -/
structure KycData where
  idempotencyKey : String
  documentType : String
  consentVersion : String
  fingerprint : String

/-- A new attempt, where the attempt before it may be followed by one. -/
def openAttempt (config : KycConfig) (now : Instant) (tenantId : Nat) (subjectId : String) (data : KycData)
    (resubmit : Bool) (profile : AssuranceProfile) : KycAction (Nat × KycVerification) := do
  let previous ← latest config now tenantId subjectId
  throwIf (previous.any (fun row => !(resubmit && row.2.status.canResubmit)) = true)
    (.kyc "VERIFICATION_ALREADY_EXISTS" 409)
  let mode ← read (KycSettings.mode tenantId)
  let id ← read fun s => s.verifications.nextId
  let row : KycVerification :=
    { tenantId, subjectId, idempotencyKey := data.idempotencyKey, requestFingerprint := data.fingerprint
      status := .inProgress, documentType := data.documentType, consentVersion := data.consentVersion
      consentedAt := now, reviewMode := mode, assuranceProfile := profile }
  write fun s => { s with verifications := s.verifications.create row }
  record now id row (some "CONSENT_RECORDED") none
  pure (id, row)

/-- The transaction of `start`. -/
def startLocked (config : KycConfig) (now : Instant) (tenantId : Nat) (user : Account) (data : KycData)
    (resubmit : Bool) (profile : AssuranceProfile) : KycAction (Nat × KycVerification) := do
  let account ← read fun s => s.access.users.get? user.key
  throwIf (account = none) .notFound
  let existing ← read fun s => s.verifications.first? fun _ row =>
    decide (row.tenantId = tenantId ∧ row.subjectId = user.publicId ∧ row.idempotencyKey = data.idempotencyKey)
  match existing with
  | some row => do
    throwIf (row.2.requestFingerprint ≠ data.fingerprint) (.kyc "IDEMPOTENCY_CONFLICT" 409)
    pure row
  | none => openAttempt config now tenantId user.publicId data resubmit profile

def start (config : KycConfig) (now : Instant) (tenantId : Nat) (user : Account) (data : KycData) (resubmit : Bool)
    (response : KycAnswer) : KycAction Unit := do
  let profile ← orThrow config.assuranceProfile (.kyc "KYC_NOT_CONFIGURED" 503)
  let row ← transaction (startLocked config now tenantId user data resubmit profile)
  doIf (row.2.status = .inProgress) (apply config now tenantId row response none)

inductive EvidenceKind where
  | front | back | selfie
  deriving DecidableEq

def upload (config : KycConfig) (now : Instant) (tenantId : Nat) (row : Nat × KycVerification) (kind : EvidenceKind)
    (response : KycAnswer) : KycAction Unit := do
  throwIf (kind = .selfie ∧ row.2.assuranceProfile = .opticalV1) (.kyc "LIVE_CAPTURE_REQUIRED" 409)
  throwIf (row.2.status ≠ .pendingUpload) (.kyc "INVALID_STATE_TRANSITION" 409)
  apply config now tenantId row response none

/-- `complete` is what the challenge answers, `frame` whether a live frame was sent. -/
def live (config : KycConfig) (now : Instant) (tenantId : Nat) (row : Nat × KycVerification) (frame : Bool)
    (complete : Except KycFailure Bool) (response : KycAnswer) : KycAction Unit := do
  throwIf (row.2.status ≠ .pendingUpload ∨ row.2.assuranceProfile ≠ .opticalV1)
    (.kyc "INVALID_STATE_TRANSITION" 409)
  let done ← lift complete
  doIf (frame = false ∨ done = true) (reconcile config now tenantId row response)

def submit (config : KycConfig) (now : Instant) (tenantId : Nat) (row : Nat × KycVerification) (response : KycAnswer) :
    KycAction Unit :=
  doIf (row.2.status ∈ [KycStatus.pendingUpload, .submitted, .processing]) (apply config now tenantId row response none)

/-- The transaction of a review. -/
def reviewLocked (config : KycConfig) (now : Instant) (tenantId : Nat) (actor : Account) (id : Nat) (next : KycStatus)
    (reason : String) : KycAction Unit := do
  let row ← findOrFail tenantId id
  throwIf (row.status ≠ .needsReview ∨ row.evidenceDeleted = true) (.kyc "INVALID_STATE_TRANSITION" 409)
  throwIf (row.subjectId = actor.publicId) (.kyc "SELF_REVIEW_FORBIDDEN" 403)
  let decided : KycVerification := { setState config now next (some ("MANUAL_" ++ next.value)) row with
    reviewedAt := some now, reviewedBy := some actor.publicId, reviewReason := some reason }
  save id decided
  record now id decided decided.reasonCode none

def review (config : KycConfig) (now : Instant) (tenantId : Nat) (actor : Account) (row : Nat × KycVerification)
    (next : KycStatus) (reason : String) (response : KycAnswer) : KycAction Unit := do
  let allowed ← read fun s => AuthorizationService.allows now tenantId actor.key .kycReview none s.access
  throwIf (allowed = false) .forbidden
  throwIf (next ∉ [KycStatus.approved, .rejected, .actionRequired] ∨ trimmedLength reason < 5 ∨ reason.length > 500)
    (.kyc "REVIEW_REASON_REQUIRED" 422)
  reconcile config now tenantId row response
  transaction (reviewLocked config now tenantId actor row.1 next reason)

/-- `erased` is the answer to the request to erase. -/
def cancel (config : KycConfig) (now : Instant) (tenantId : Nat) (row : Nat × KycVerification)
    (erased : Except KycFailure Unit) : KycAction Unit := do
  match erased with
  | .ok _ => pure ()
  | .error (.kyc errorCode status) =>
    throwIf (row.2.status ≠ .inProgress ∨ errorCode ≠ "VERIFICATION_NOT_FOUND") (.kyc errorCode status)
  | .error e => raise e
  transition config now tenantId row.1 .cancelled "CONSENT_WITHDRAWN"

end KycService
end VtsaCsms.Identity
