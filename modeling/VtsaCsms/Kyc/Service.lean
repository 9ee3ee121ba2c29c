import Mathlib.Data.Rat.Defs
import VtsaCsms.Foundation.Php

/-!
# The identity processor

What `service.py`, `worker.py` and `live_capture.py` do to the row of one verification, transaction by
transaction. Personal data, what the text recognition extracted, tenant and subject are left out; a sealed
column is what it seals, and times are exact.
-/
namespace VtsaCsms.Kyc
open Foundation

inductive Status where
  | notStarted | inProgress | pendingUpload | submitted | processing | needsReview | actionRequired | approved
  | rejected | expired | cancelled
  deriving DecidableEq, Repr

structure KycError where
  code : String
  status : Nat := 422
  deriving DecidableEq

inductive Kind where
  | front | back | selfie
  deriving DecidableEq, Repr

/-- What a snapshot tells of an image. -/
structure Evidence where
  kind : Kind
  width : Nat
  height : Nat
  bytes : Nat
  sharpness : Rat
  deriving DecidableEq

/-- A stored image. -/
structure Item where
  key : Nat
  metadata : Evidence
  deriving DecidableEq

/-- A dictionary by kind, in order of insertion. -/
abbrev EvidenceItems := List (Kind × Item)

namespace EvidenceItems

def find (items : EvidenceItems) (kind : Kind) : Option Item := items.lookup kind

/-- `{**items, kind: item}`. -/
def put (items : EvidenceItems) (kind : Kind) (item : Item) : EvidenceItems :=
  if items.any fun e => decide (e.1 = kind) then items.map fun e => if e.1 = kind then (kind, item) else e
  else items ++ [(kind, item)]

end EvidenceItems

inductive Check where
  | passed | failed | unavailable | mock
  deriving DecidableEq, Repr

structure Result where
  provider : String
  reasonCode : String
  checks : List (String × Check)
  durationMs : Nat
  deriving DecidableEq

inductive Profile where
  | issuerV1 | opticalV1
  deriving DecidableEq, Repr

/-- The sides a document type asks for. -/
structure DocumentType where
  front : Bool
  back : Bool
  deriving DecidableEq

/-! ### Live challenges -/

inductive Direction where
  | center | left | right
  deriving DecidableEq, Repr

inductive Feedback where
  | followPrompt | holdStill | faceNotClear
  deriving DecidableEq, Repr

/-- `live_state`. -/
structure Challenge where
  token : Nat
  action : Direction := .center
  step : Nat := 0
  deadline : Instant
  stepDeadline : Instant
  complete : Bool := false
  hits : Nat := 0
  frames : Nat := 0
  hashes : List String := []
  lastAt : Instant := 0
  selfieKey : Option Nat := none
  selfieMetadata : Option Evidence := none
  lastToken : Option Nat := none
  lastDigest : Option String := none
  failed : Bool := false
  completedAt : Option Instant := none
  feedback : Option Feedback := none
  deriving DecidableEq

/-! ### Rows -/

structure Verification where
  status : Status := .pendingUpload
  version : Nat := 1
  document : DocumentType
  assuranceProfile : Profile
  liveState : Option Challenge := none
  liveExpiresAt : Option Instant := none
  evidence : EvidenceItems := []
  result : Option Result := none
  leaseUntil : Option Instant := none
  deleteAfter : Instant
  evidenceDeleted : Bool := false
  attempts : Nat := 0
  deriving DecidableEq

structure Snapshot where
  status : Status
  version : Nat
  evidence : List Evidence
  result : Option Result
  evidenceDeleted : Bool
  deriving DecidableEq

def snapshot (row : Verification) : Snapshot where
  status := row.status
  version := row.version
  evidence := row.evidence.map fun e => e.2.metadata
  result := row.result
  evidenceDeleted := row.evidenceDeleted

def invalidTransition : KycError := ⟨"INVALID_STATE_TRANSITION", 409⟩

/-! ### `service.py` -/

namespace KycService

/-- What `upload` asks of the row it has read, before it looks at the image. -/
def uploadable (kind : Kind) (row : Verification) : Except KycError Unit :=
  if row.status ≠ .pendingUpload ∨ row.evidenceDeleted = true then .error invalidTransition
  else if kind = .selfie ∧ row.assuranceProfile = .opticalV1 then .error ⟨"LIVE_CAPTURE_REQUIRED", 409⟩
  else .ok ()

/-- The transaction of `upload`. -/
def upload (kind : Kind) (item : Item) (row : Verification) : Except KycError Verification :=
  if row.status ≠ .pendingUpload ∨ row.evidenceDeleted = true then .error invalidTransition
  else if kind = .back ∧ row.document.back = false then .error ⟨"UNEXPECTED_DOCUMENT_SIDE", 422⟩
  else .ok { row with evidence := row.evidence.put kind item, version := row.version + 1 }

def required (document : DocumentType) : List Kind :=
  .selfie :: ((if document.front then [.front] else []) ++ if document.back then [.back] else [])

/-- The live challenge stands for the selfie. -/
def sealedBy (now : Instant) (row : Verification) : Bool :=
  match row.liveState with
  | none => false
  | some live => live.complete && !live.failed &&
    decide (live.selfieKey = (row.evidence.find .selfie).map Item.key) &&
    decide (now - live.completedAt.getD 0 ≤ 600 * 1000000)

/-- A verification past its upload is answered as it is. -/
def submit (now : Instant) (row : Verification) : Except KycError Verification :=
  if row.evidenceDeleted = true then .error ⟨"EVIDENCE_EXPIRED", 409⟩
  else if row.status ≠ .pendingUpload then .ok row
  else if ¬ (required row.document).all (fun kind => (row.evidence.find kind).isSome) then
    .error ⟨"EVIDENCE_INCOMPLETE", 422⟩
  else if row.assuranceProfile = .opticalV1 ∧ sealedBy now row = false then .error ⟨"LIVE_CAPTURE_REQUIRED", 409⟩
  else .ok { row with status := .submitted, version := row.version + 1 }

def erase (now : Instant) (row : Verification) : Verification :=
  { row with status := .cancelled, version := row.version + 1, deleteAfter := now }

end KycService

/-! ### `worker.py` -/

inductive Mode where
  | mock | localTesseract | selfHosted | provider
  deriving DecidableEq, Repr

inductive MockOutcome where
  | approved | rejected | needsReview | processingError
  deriving DecidableEq, Repr

structure Settings where
  mode : Mode
  mockOutcome : MockOutcome
  livenessCenterTolerance : Rat
  livenessTurnThreshold : Rat

/-- What a worker takes out of the row with its lease. -/
structure Claim where
  version : Nat
  attempts : Nat
  evidence : EvidenceItems
  profile : Profile
  live : Option Challenge
  deriving DecidableEq

/-- What the providers answer for a claim: their names, whether text came out of the images, and their checks. -/
structure ProviderAnswers where
  name : String
  extracted : Bool
  document : Check
  faceMatch : Check
  liveness : Check
  documentData : Option Check
  opticalExtracted : Bool
  opticalDocument : Check
  opticalData : Check
  /-- The personal data name a day of expiry in the past. -/
  documentExpired : Bool

namespace Worker

def leased (now : Instant) (row : Verification) : Bool := row.leaseUntil.any fun until' => decide (now ≤ until')

/-- The transaction in which a worker takes a verification. -/
def claim (now : Instant) (row : Verification) : Option (Verification × Claim) :=
  if (row.status = .submitted ∨ row.status = .processing) ∧ leased now row = false ∧ row.evidenceDeleted = false then
    let row' := { row with
      status := .processing, version := row.version + 1, attempts := row.attempts + 1
      leaseUntil := some (Instant.addSeconds now 300) }
    some (row', ⟨row'.version, row'.attempts, row.evidence, row.assuranceProfile, row.liveState⟩)
  else none

/-- The attempts a verification may take. -/
def checksRun (claim : Claim) : Bool := decide (claim.attempts ≤ 3)

def requiredChecks : Profile → List String
  | .opticalV1 => ["ocr", "optical_document", "document_data", "face_match", "liveness"]
  | .issuerV1 => ["ocr", "document", "face_match", "liveness"]

def decision (settings : Settings) (documentExpired : Bool) (profile : Profile) (checks : List (String × Check)) :
    Status × String :=
  if documentExpired = true then (.actionRequired, "DOCUMENT_EXPIRED")
  else if checks.any fun check => decide (check.2 = .failed) then (.needsReview, "ASSURANCE_CHECK_FAILED")
  else if (settings.mode = .provider ∨ settings.mode = .selfHosted) ∧
      (requiredChecks profile).all fun key => decide (checks.lookup key = some .passed) then
    (.approved, if profile = .opticalV1 then "OPTICAL_VERIFIED" else "PROVIDER_VERIFIED")
  else (.needsReview, "MANUAL_REVIEW_REQUIRED")

/-- The live challenge the worker took stands for the selfie it took. -/
def liveCheck (claim : Claim) : Check :=
  if claim.live.any (fun live => live.complete && !live.failed &&
      decide (live.selfieKey = (claim.evidence.find .selfie).map Item.key)) then .passed
  else .unavailable

def textCheck (extracted : Bool) : Check := if extracted then .passed else .unavailable

/-- A dictionary entry is replaced where it is there. -/
def setCheck (checks : List (String × Check)) (key : String) (check : Check) : List (String × Check) :=
  if checks.any fun c => decide (c.1 = key) then checks.map fun c => if c.1 = key then (key, check) else c
  else checks ++ [(key, check)]

def providerChecks (settings : Settings) (claim : Claim) (answers : ProviderAnswers) : List (String × Check) :=
  let optical := settings.mode = .selfHosted ∧ claim.profile = .opticalV1
  let plain := [("ocr", textCheck (answers.extracted && !decide optical)), ("document", answers.document),
    ("face_match", answers.faceMatch), ("liveness", answers.liveness)] ++
    (answers.documentData.map fun check => ("document_data", check)).toList
  if optical then
    setCheck (setCheck (setCheck (setCheck plain "optical_document" answers.opticalDocument) "ocr"
      (textCheck answers.opticalExtracted)) "document_data" answers.opticalData) "liveness" (liveCheck claim)
  else plain

/-- The status, the code, the provider and the checks that a worker comes to. The answers are those of the
providers, or what there was of them when one raised. -/
def inspect (settings : Settings) (claim : Claim) (answers : Except (String × List (String × Check)) ProviderAnswers)
    (durationMs : Nat) : Status × Result :=
  let failed (name : String) (checks : List (String × Check)) : Status × Result :=
    (.actionRequired, ⟨name, "PROCESSING_FAILED", checks, durationMs⟩)
  let before := if settings.mode = .mock then "mock" else "local-tesseract"
  let mocked (status : Status) (outcome : String) : Status × Result :=
    (status, ⟨"mock", "MOCK_" ++ outcome, [("document", .mock), ("face_match", .mock), ("liveness", .mock)], durationMs⟩)
  if checksRun claim = false then failed before []
  else match answers with
    | .error (name, checks) => failed name checks
    | .ok answers =>
      if settings.mode = .mock then
        match settings.mockOutcome with
        | .processingError => failed before []
        | .approved => mocked .approved "APPROVED"
        | .rejected => mocked .rejected "REJECTED"
        | .needsReview => mocked .needsReview "NEEDS_REVIEW"
      else
        let checks := providerChecks settings claim answers
        let (status, code) := decision settings answers.documentExpired claim.profile checks
        (status, ⟨answers.name, code, checks, durationMs⟩)

/-- The transaction that stores a result, if the claim is still the last thing that happened to the row. -/
def commit (claimedVersion : Nat) (status : Status) (result : Result) (row : Verification) : Option Verification :=
  if row.version ≠ claimedVersion ∨ row.status ≠ .processing then none
  else some { row with
    status := status, result := some result, liveState := none, liveExpiresAt := none, version := row.version + 1
    leaseUntil := none }

/-- What `prune` lists. -/
def prunable (now : Instant) (row : Verification) : Bool :=
  decide (row.deleteAfter ≤ now) && !row.evidenceDeleted

/-- The keys whose files are to go. -/
def keysOf (row : Verification) : List Nat :=
  let keys := row.evidence.map fun e => e.2.key
  match row.liveState.bind Challenge.selfieKey with
  | some key => if key ∈ keys then keys else keys ++ [key]
  | none => keys

/-- The first transaction of `prune`: the tombstone. -/
def mark (row : Verification) : Option Verification :=
  if row.evidenceDeleted = true then none
  else some { row with
    status := if row.status ∈ [Status.pendingUpload, .submitted, .processing, .needsReview] then .expired else row.status
    version := row.version + 1 }

/-- The row as the second transaction of `prune` leaves it: what it sets, on the row that is stored then. -/
def deleted (row : Verification) : Verification :=
  { row with evidence := [], liveState := none, liveExpiresAt := none, evidenceDeleted := true }

end Worker
end VtsaCsms.Kyc
