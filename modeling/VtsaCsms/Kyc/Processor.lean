import VtsaCsms.Foundation.Runs
import VtsaCsms.Kyc.LiveCapture

/-!
# Requests, workers and sweeps on one verification

Every request, worker and sweep is a task that goes from one transaction or access to the storage to the next;
tasks of any number interleave, and one that is not taken up again has crashed. Clock readings come with the
steps. Keys of files and tokens of challenges never repeat.
-/
namespace VtsaCsms.Kyc
open Foundation LiveCapture

/-- A frame that a challenge has taken, and the challenge as it was before it. -/
structure Accepted where
  token : Nat
  content : List UInt8
  digest : String
  takenAt : Instant
  verdict : Verdict
  held : Bool
  before : Challenge

/-- What has happened; nothing of the service reads it. -/
inductive Event where
  /-- A snapshot was answered or put into a callback. -/
  | handedOut (snapshot : Snapshot)
  | checked
  | committed (result : Result)
  | cancelled
  | expired
  | evidenceDeleted
  | started (token : Nat) (now : Instant)
  | accepted (frame : Accepted)
  | submitted

/-- Where a task is, with what it holds of its own. -/
inductive Task where
  /-- An upload whose file is stored. -/
  | uploading (kind : Kind) (item : Item)
  /-- Files to delete after a transaction. -/
  | deleting (keys : List Nat)
  /-- A worker with its claim. -/
  | working (claim : Claim)
  /-- A worker with its result. -/
  | worked (claim : Claim) (status : Status) (result : Result)
  /-- `prune` has listed the verification. -/
  | pruning
  /-- `prune` has marked it, with the files that are left to delete. -/
  | erasing (keys : List Nat)
  /-- `prune` has loaded the row of its second transaction. -/
  | loaded (row : Verification)
  /-- A frame that is to be analysed, with the challenge it has read. -/
  | reading (now : Instant) (frame : LiveFrame) (state : Challenge)
  /-- An analysed frame, with the challenge it makes and the file it has stored. -/
  | analysed (frame : LiveFrame) (state : Challenge) (newKey : Option Nat) (accepted : Accepted)
  /-- `prune_captures` has marked a challenge. -/
  | sweeping (state : Option Challenge)
  /-- `prune_captures` has deleted the file of the challenge it marked. -/
  | swept (state : Option Challenge)
  | done

/-- The service, as far as one verification goes. -/
structure Processor where
  row : Verification
  files : List (Nat × List UInt8)
  outbox : List Snapshot
  tasks : List Task
  nextKey : Nat
  nextToken : Nat
  log : List Event

inductive Step where
  | read
  | upload (kind : Kind) (content : List UInt8) (metadata : Evidence)
  | submit (now : Instant)
  | erase (now : Instant)
  | claim (now : Instant)
  | prune (now : Instant)
  | start (now utcnow : Instant)
  | frame (now utcnow : Instant) (frame : LiveFrame)
  | sweep (now : Instant)
  | uploadWrite (task : Nat)
  | deleteFiles (task : Nat)
  | inspect (task : Nat) (settings : Settings) (answers : Except (String × List (String × Check)) ProviderAnswers)
      (durationMs : Nat)
  | commit (task : Nat)
  | mark (task : Nat)
  | eraseFiles (task : Nat)
  | load (task : Nat)
  | finish (task : Nat)
  | analyse (task : Nat) (settings : Settings) (verdict : Verdict) (turnsLeft : Bool)
  | frameWrite (task : Nat) (utcnow : Instant)
  | sweepFile (task : Nat)
  | clear (task : Nat)

namespace Processor

def setTask (s : Processor) (i : Nat) (t : Task) : Processor := { s with tasks := s.tasks.set i t }

def spawn (s : Processor) (t : Task) : Processor := { s with tasks := s.tasks ++ [t] }

def note (s : Processor) (e : Event) : Processor := { s with log := s.log ++ [e] }

def store (s : Processor) (row : Verification) : Processor := { s with row := row }

def handOut (s : Processor) : Processor := s.note (.handedOut (snapshot s.row))

/-- `enqueue_callback`, of the row as the transaction sees it. -/
def enqueue (s : Processor) (row : Verification) : Processor :=
  ({ s with outbox := s.outbox ++ [snapshot row] }).note (.handedOut (snapshot row))

def putFile (s : Processor) (content : List UInt8) : Processor :=
  { s with files := s.files ++ [(s.nextKey, content)], nextKey := s.nextKey + 1 }

def deleteFile (s : Processor) (key : Nat) : Processor :=
  { s with files := s.files.filter fun f => decide (f.1 ≠ key) }

def deleteNew (s : Processor) (newKey : Option Nat) : Processor :=
  match newKey with
  | some key => s.deleteFile key
  | none => s

/-! ### Requests -/

def upload (kind : Kind) (content : List UInt8) (metadata : Evidence) (s : Processor) : Processor :=
  match KycService.uploadable kind s.row with
  | .error _ => s
  | .ok _ => (s.putFile content).spawn (.uploading kind ⟨s.nextKey, metadata⟩)

def uploadWrite (i : Nat) (kind : Kind) (item : Item) (s : Processor) : Processor :=
  match KycService.upload kind item s.row with
  | .error _ => (s.deleteFile item.key).setTask i .done
  | .ok row =>
    ((s.store row).handOut).setTask i (.deleting ((s.row.evidence.find kind).map Item.key).toList)

def submit (now : Instant) (s : Processor) : Processor :=
  match KycService.submit now s.row with
  | .error _ => s
  | .ok row =>
    if s.row.status = .pendingUpload then ((s.store row).handOut).note .submitted else (s.store row).handOut

def erase (now : Instant) (s : Processor) : Processor := (s.store (KycService.erase now s.row)).note .cancelled

/-! ### Workers -/

def claim (now : Instant) (s : Processor) : Processor :=
  match Worker.claim now s.row with
  | none => s
  | some (row, claim) => (s.store row).spawn (.working claim)

def inspect (i : Nat) (settings : Settings) (claim : Claim)
    (answers : Except (String × List (String × Check)) ProviderAnswers) (durationMs : Nat) (s : Processor) :
    Processor :=
  let outcome := Worker.inspect settings claim answers durationMs
  let s' := s.setTask i (.worked claim outcome.1 outcome.2)
  if Worker.checksRun claim then s'.note .checked else s'

def commit (i : Nat) (claim : Claim) (status : Status) (result : Result) (s : Processor) : Processor :=
  match Worker.commit claim.version status result s.row with
  | none => s.setTask i .done
  | some row => (((s.store row).enqueue row).note (.committed result)).setTask i .done

/-! ### Retention -/

def mark (i : Nat) (s : Processor) : Processor :=
  match Worker.mark s.row with
  | none => s.setTask i .done
  | some row =>
    let s' := (s.store row).setTask i (.erasing (Worker.keysOf s.row))
    if row.status = .expired ∧ s.row.status ≠ .expired then s'.note .expired else s'

/-- The columns that `prune` sets on its copy of the row, and the callback it makes of the copy. -/
def finish (i : Nat) (copy : Verification) (s : Processor) : Processor :=
  (((s.store (Worker.deleted s.row)).enqueue (Worker.deleted copy)).note .evidenceDeleted).setTask i .done

/-! ### Live capture -/

def start (now utcnow : Instant) (s : Processor) : Processor :=
  match LiveCapture.start now utcnow s.nextToken s.row with
  | .error _ => s
  | .ok row =>
    (({ s with row := row, nextToken := s.nextToken + 1 }).note (.started s.nextToken now)).spawn
      (.deleting (replacedKeys s.row))

def frame (sha256 : List UInt8 → String) (now utcnow : Instant) (frame : LiveFrame) (s : Processor) : Processor :=
  match LiveCapture.read (sha256 frame.content) now utcnow frame.token s.row with
  | .fresh state => s.spawn (.reading now frame state)
  | _ => s

/-- The frame that would match has been read as the selfie by then, or its file is read for comparison. -/
def baselineThere (s : Processor) (state : Challenge) : Bool :=
  match state.selfieKey with
  | some key => (s.files.lookup key).isSome
  | none => true

def analyse (sha256 : List UInt8 → String) (i : Nat) (settings : Settings) (verdict : Verdict) (turnsLeft : Bool)
    (now : Instant) (frame : LiveFrame) (state : Challenge) (s : Processor) : Processor :=
  if s.baselineThere state = false then s.setTask i .done
  else
    let a : Analysis := ⟨sha256 frame.content, verdict, s.nextToken, s.nextKey, turnsLeft⟩
    let accepted : Accepted :=
      { token := frame.token, content := frame.content, digest := a.digest, takenAt := now, verdict
        held := matchesAction settings state.action verdict, before := state }
    let s' := { s with nextToken := s.nextToken + 1 }
    if storesSelfie settings verdict state then
      (s'.putFile frame.content).setTask i
        (.analysed frame (advanced settings now frame a state) (some s.nextKey) accepted)
    else s'.setTask i (.analysed frame (advanced settings now frame a state) none accepted)

def frameWrite (i : Nat) (utcnow : Instant) (frame : LiveFrame) (state : Challenge) (newKey : Option Nat)
    (accepted : Accepted) (s : Processor) : Processor :=
  match LiveCapture.write utcnow frame.token state s.row with
  | .error _ => (s.deleteNew newKey).setTask i .done
  | .ok row => ((s.store row).note (.accepted accepted)).setTask i .done

def sweep (now : Instant) (s : Processor) : Processor :=
  match LiveCapture.mark now s.row with
  | none => s
  | some (row, state) => (s.store row).spawn (.sweeping state)

def clear (i : Nat) (state : Option Challenge) (s : Processor) : Processor :=
  match LiveCapture.clear state s.row with
  | none => s.setTask i .done
  | some row => (s.store row).setTask i .done

/-! ### Steps -/

/-- A task is taken up; what it needs from outside comes with the step. -/
def resume (sha256 : List UInt8 → String) (step : Step) (task : Task) (s : Processor) : Processor :=
  match step, task with
  | .uploadWrite i, .uploading kind item => uploadWrite i kind item s
  | .deleteFiles i, .deleting (key :: keys) => (s.deleteFile key).setTask i (.deleting keys)
  | .inspect i settings answers durationMs, .working claim => inspect i settings claim answers durationMs s
  | .commit i, .worked claim status result => commit i claim status result s
  | .mark i, .pruning => mark i s
  | .eraseFiles i, .erasing (key :: keys) => (s.deleteFile key).setTask i (.erasing keys)
  | .load i, .erasing [] => s.setTask i (.loaded s.row)
  | .finish i, .loaded copy => finish i copy s
  | .analyse i settings verdict turnsLeft, .reading now frame state =>
    analyse sha256 i settings verdict turnsLeft now frame state s
  | .frameWrite i utcnow, .analysed frame state newKey accepted => frameWrite i utcnow frame state newKey accepted s
  | .sweepFile i, .sweeping state => (s.deleteNew (state.bind Challenge.selfieKey)).setTask i (.swept state)
  | .clear i, .swept state => clear i state s
  | _, _ => s

/-- The task a step takes up. -/
def taskOf : Step → Option Nat
  | .uploadWrite i | .deleteFiles i | .inspect i .. | .commit i | .mark i | .eraseFiles i | .load i | .finish i
  | .analyse i .. | .frameWrite i _ | .sweepFile i | .clear i => some i
  | _ => none

def next (sha256 : List UInt8 → String) (step : Step) (s : Processor) : Processor :=
  match step with
  | .read => s.handOut
  | .upload kind content metadata => upload kind content metadata s
  | .submit now => submit now s
  | .erase now => erase now s
  | .claim now => claim now s
  | .prune now => if Worker.prunable now s.row then s.spawn .pruning else s
  | .start now utcnow => start now utcnow s
  | .frame now utcnow data => frame sha256 now utcnow data s
  | .sweep now => sweep now s
  | step =>
    match (taskOf step).bind fun i => s.tasks[i]? with
    | some task => resume sha256 step task s
    | none => s

end Processor

/-- A verification as `create` stores and answers it. -/
def opening (document : DocumentType) (profile : Profile) (deleteAfter : Instant) : Processor :=
  let row : Verification := { document, assuranceProfile := profile, deleteAfter }
  { row, files := [], outbox := [], tasks := [], nextKey := 0, nextToken := 0, log := [.handedOut (snapshot row)] }

end VtsaCsms.Kyc
