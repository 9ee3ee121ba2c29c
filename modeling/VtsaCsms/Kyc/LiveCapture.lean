import Mathlib.Algebra.Order.Ring.Rat
import Mathlib.Algebra.Order.Group.Unbundled.Abs
import Mathlib.Data.List.Dedup
import VtsaCsms.Kyc.Service

/-!
# Live capture

`live_capture.py`: a challenge is started, advanced by camera frames and swept when it has expired. What the
face analyser says of a frame, the token of an answer and the side of the next turn come from outside.
-/
namespace VtsaCsms.Kyc
open Foundation

namespace LiveCapture

/-- What the analyser says of a frame: a verdict, and how far the face is turned. -/
structure Verdict where
  check : Check
  ratio : Option Rat
  deriving DecidableEq

/-- A frame as `normalize` leaves it, with its token. -/
structure LiveFrame where
  token : Nat
  content : List UInt8
  metadata : Evidence
  deriving DecidableEq

def pending (now : Instant) (row : Verification) : Except KycError Unit :=
  if row.status ≠ .pendingUpload ∨ row.evidenceDeleted = true ∨ row.deleteAfter ≤ now then .error invalidTransition
  else if row.assuranceProfile ≠ .opticalV1 then .error ⟨"LIVE_CAPTURE_NOT_SUPPORTED", 409⟩
  else .ok ()

def expired : KycError := ⟨"LIVE_CHALLENGE_EXPIRED", 409⟩
def conflict : KycError := ⟨"LIVE_CHALLENGE_CONFLICT", 409⟩

def opened (now : Instant) (token : Nat) : Challenge :=
  { token, deadline := Instant.addSeconds now 120, stepDeadline := Instant.addSeconds now 20 }

def replacedKeys (row : Verification) : List Nat :=
  ((row.liveState.bind Challenge.selfieKey).toList ++ ((row.evidence.find .selfie).map Item.key).toList).dedup

/-- The transaction of `start`; `now` was read before it, `utcnow` is read in it. -/
def start (now utcnow : Instant) (token : Nat) (row : Verification) : Except KycError Verification :=
  match pending utcnow row with
  | .error e => .error e
  | .ok _ => .ok { row with
      evidence := row.evidence.filter fun e => decide (e.1 ≠ .selfie)
      liveState := some (opened now token), liveExpiresAt := some (Instant.addSeconds now 120)
      version := row.version + 1 }

/-- What becomes of a frame before it is analysed. -/
inductive Reading where
  | refused (e : KycError)
  /-- The answer to an exact retry of the last frame. -/
  | repeated (state : Challenge)
  | fresh (state : Challenge)

/-- What `frame` reads and asks before the analysis; `now` is read first. -/
def read (digest : String) (now utcnow : Instant) (token : Nat) (row : Verification) : Reading :=
  match pending utcnow row with
  | .error e => .refused e
  | .ok _ =>
    match row.liveState with
    | none => .refused expired
    | some state =>
      if state.deadline < now ∨ state.failed = true then .refused expired
      else if some token = state.lastToken ∧ some digest = state.lastDigest then .repeated state
      else if state.complete = true ∨ token ≠ state.token then .refused conflict
      else if state.stepDeadline < now ∨ 80 ≤ state.frames then .refused expired
      else if now - state.lastAt < 350000 then .refused ⟨"LIVE_CAPTURE_TOO_FAST", 429⟩
      else if digest ∈ state.hashes then .refused ⟨"LIVE_FRAME_REPLAY", 409⟩
      else .fresh state

/-- The face is where the action asks for it. -/
def matchesAction (settings : Settings) (action : Direction) (verdict : Verdict) : Bool :=
  decide (verdict.check = .passed) && verdict.ratio.any fun ratio =>
    match action with
    | .center => decide (|ratio| ≤ settings.livenessCenterTolerance)
    | .left => decide (settings.livenessTurnThreshold ≤ ratio)
    | .right => decide (ratio ≤ -settings.livenessTurnThreshold)

/-- What the analysis of a frame brings in. -/
structure Analysis where
  digest : String
  verdict : Verdict
  newToken : Nat
  /-- The key of the frame's file, where it is stored as the selfie. -/
  newKey : Nat
  turnsLeft : Bool

/-- The challenge after a frame. -/
def advanced (settings : Settings) (now : Instant) (frame : LiveFrame) (a : Analysis) (state : Challenge) :
    Challenge :=
  let held := matchesAction settings state.action a.verdict
  let feedback : Feedback :=
    if held then .holdStill else if a.verdict.check = .unavailable then .faceNotClear else .followPrompt
  let seen := { state with
    hits := if held then state.hits + 1 else 0
    frames := state.frames + 1
    hashes := state.hashes ++ [a.digest]
    lastAt := now
    lastToken := some frame.token
    lastDigest := some a.digest
    token := a.newToken
    failed := decide (a.verdict.check = Check.failed)
    selfieKey := if held ∧ state.selfieKey = none then some a.newKey else state.selfieKey
    selfieMetadata := if held ∧ state.selfieKey = none then some frame.metadata else state.selfieMetadata }
  if 2 ≤ seen.hits then
    { seen with
      step := state.step + 1
      hits := 0
      stepDeadline := Instant.addSeconds now 20
      complete := decide (state.step + 1 = 9)
      action := if (state.step + 1) % 2 = 0 then .center else if a.turnsLeft then .left else .right
      completedAt := if state.step + 1 = 9 then some now else seen.completedAt
      feedback := some .followPrompt }
  else { seen with feedback := some feedback }

/-- The frame is stored as the selfie: the first that matches. -/
def storesSelfie (settings : Settings) (verdict : Verdict) (state : Challenge) : Bool :=
  matchesAction settings state.action verdict && state.selfieKey.isNone

/-- The transaction of `frame`: `state` is what the analysis has come to. -/
def write (utcnow : Instant) (token : Nat) (state : Challenge) (row : Verification) :
    Except KycError Verification :=
  match pending utcnow row with
  | .error e => .error e
  | .ok _ =>
    match row.liveState with
    | none => .error conflict
    | some current =>
      if current.token ≠ token then .error conflict
      else if min state.deadline current.stepDeadline < utcnow then .error expired
      else if state.complete = true then
        .ok { row with
          liveState := some state, liveExpiresAt := some (Instant.addSeconds utcnow 600)
          evidence := (state.selfieKey.bind fun key => state.selfieMetadata.map fun metadata =>
            row.evidence.put .selfie ⟨key, metadata⟩).getD row.evidence
          version := row.version + 1 }
      else .ok { row with liveState := some state }

/-- The first transaction of `prune_captures`: an expired challenge is marked as failed. -/
def mark (now : Instant) (row : Verification) : Option (Verification × Option Challenge) :=
  if row.status ≠ .pendingUpload then none
  else match row.liveExpiresAt with
    | none => none
    | some expires =>
      if now < expires then none
      else
        let state := row.liveState.map fun live => { live with failed := true }
        some ({ row with liveState := state }, state)

/-- The second transaction of `prune_captures`, where the challenge is still the one marked. -/
def clear (state : Option Challenge) (row : Verification) : Option Verification :=
  if row.liveState.map Challenge.token ≠ state.map Challenge.token then none
  else some { row with
    evidence := row.evidence.filter fun e => decide (some e.2.key ≠ state.bind Challenge.selfieKey)
    liveState := none, liveExpiresAt := none, version := row.version + 1 }

end LiveCapture
end VtsaCsms.Kyc
