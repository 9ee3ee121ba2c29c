import VtsaCsms.Kyc.Processor

/-!
# Moves of the processor

What each function makes of the row when it goes through, and what one step can do: it leaves everything as it
is, or it is one of the moves listed here, with what the step has checked.
-/
namespace VtsaCsms.Kyc
open Foundation LiveCapture

/-! ### What the transactions write -/

section
variable {row row' : Verification} {now utcnow : Instant} {status : Status} {result : Result}

theorem KycService.upload_returns {kind : Kind} {item : Item} (written : KycService.upload kind item row = .ok row') :
    row.status = .pendingUpload ∧ row.evidenceDeleted = false ∧ (kind = .back → row.document.back = true) ∧
      row' = { row with evidence := row.evidence.put kind item, version := row.version + 1 } := by
  unfold KycService.upload at written
  split at written
  · cases written
  rename_i open'
  rw [not_or, not_not, Bool.not_eq_true] at open'
  split at written
  · cases written
  rename_i expected
  cases written
  exact ⟨open'.1, open'.2, fun back => by simpa [back] using expected, rfl⟩

/-- A first submission has every image that the document asks for, and the live challenge where it is optical. -/
theorem KycService.submit_returns (answered : KycService.submit now row = .ok row') :
    row.evidenceDeleted = false ∧
      (row.status ≠ .pendingUpload ∧ row' = row ∨
        row.status = .pendingUpload ∧
        (∀ kind ∈ KycService.required row.document, (row.evidence.find kind).isSome = true) ∧
        (row.assuranceProfile = .opticalV1 → KycService.sealedBy now row = true) ∧
        row' = { row with status := .submitted, version := row.version + 1 }) := by
  unfold KycService.submit at answered
  split at answered
  · cases answered
  rename_i kept
  refine ⟨by simpa using kept, ?_⟩
  split at answered
  · rename_i past
    cases answered
    exact Or.inl ⟨past, rfl⟩
  rename_i waiting
  split at answered
  · cases answered
  rename_i complete
  split at answered
  · cases answered
  rename_i captured
  cases answered
  refine Or.inr ⟨not_not.mp waiting, ?_, ?_, rfl⟩
  · exact List.all_eq_true.mp (not_not.mp complete)
  · intro optical
    rw [not_and] at captured
    simpa using captured optical

theorem Worker.claim_returns {claim : Claim} (taken : Worker.claim now row = some (row', claim)) :
    (row.status = .submitted ∨ row.status = .processing) ∧ row.evidenceDeleted = false ∧
      row' = { row with
        status := .processing, version := row.version + 1, attempts := row.attempts + 1
        leaseUntil := some (Instant.addSeconds now 300) } ∧
      claim = ⟨row.version + 1, row.attempts + 1, row.evidence, row.assuranceProfile, row.liveState⟩ := by
  unfold Worker.claim at taken
  split at taken
  · rename_i free
    cases taken
    exact ⟨free.1, free.2.2, rfl, rfl⟩
  · cases taken

theorem Worker.commit_returns {version : Nat} (stored : Worker.commit version status result row = some row') :
    row.version = version ∧ row.status = .processing ∧
      row' = { row with
        status := status, result := some result, liveState := none, liveExpiresAt := none
        version := row.version + 1, leaseUntil := none } := by
  unfold Worker.commit at stored
  split at stored
  · cases stored
  · rename_i claimed
    rw [not_or, not_not, not_not] at claimed
    cases stored
    exact ⟨claimed.1, claimed.2, rfl⟩

theorem Worker.mark_returns (marked : Worker.mark row = some row') :
    row.evidenceDeleted = false ∧
      row' = { row with
        status :=
          if row.status ∈ [Status.pendingUpload, .submitted, .processing, .needsReview] then .expired else row.status
        version := row.version + 1 } := by
  unfold Worker.mark at marked
  split at marked
  · cases marked
  · rename_i kept
    cases marked
    exact ⟨by simpa using kept, rfl⟩

theorem LiveCapture.pending_returns (waits : pending now row = .ok ()) :
    row.status = .pendingUpload ∧ row.evidenceDeleted = false ∧ row.assuranceProfile = .opticalV1 := by
  unfold pending at waits
  split at waits
  · cases waits
  rename_i waiting
  split at waits
  · cases waits
  rename_i optical
  rw [not_or, not_or, not_not, Bool.not_eq_true] at waiting
  exact ⟨waiting.1, waiting.2.1, not_not.mp optical⟩

variable {token : Nat} {state : Challenge}

theorem LiveCapture.start_returns (began : LiveCapture.start now utcnow token row = .ok row') :
    pending utcnow row = .ok () ∧
      row' = { row with
        evidence := row.evidence.filter fun e => decide (e.1 ≠ .selfie)
        liveState := some (opened now token), liveExpiresAt := some (Instant.addSeconds now 120)
        version := row.version + 1 } := by
  unfold LiveCapture.start at began
  split at began
  · cases began
  · rename_i waits
    cases began
    exact ⟨waits, rfl⟩

theorem LiveCapture.write_returns (written : LiveCapture.write utcnow token state row = .ok row') :
    pending utcnow row = .ok () ∧
    ∃ current, row.liveState = some current ∧ current.token = token ∧ utcnow ≤ current.stepDeadline ∧
      (state.complete = false ∧ row' = { row with liveState := some state } ∨
        state.complete = true ∧ row' = { row with
          liveState := some state, liveExpiresAt := some (Instant.addSeconds utcnow 600)
          evidence := (state.selfieKey.bind fun key => state.selfieMetadata.map fun metadata =>
            row.evidence.put .selfie ⟨key, metadata⟩).getD row.evidence
          version := row.version + 1 }) := by
  unfold LiveCapture.write at written
  split at written
  · cases written
  rename_i waits
  split at written
  · cases written
  rename_i current stored
  split at written
  · cases written
  rename_i own
  split at written
  · cases written
  rename_i inTime
  have before : utcnow ≤ current.stepDeadline := le_trans (not_lt.mp inTime) (min_le_right _ _)
  refine ⟨waits, current, stored, not_not.mp own, before, ?_⟩
  split at written
  · rename_i whole
    cases written
    exact Or.inr ⟨whole, rfl⟩
  · rename_i more
    cases written
    exact Or.inl ⟨by simpa using more, rfl⟩

theorem LiveCapture.mark_returns {state : Option Challenge} (marked : LiveCapture.mark now row = some (row', state)) :
    row.status = .pendingUpload ∧ (∃ expires, row.liveExpiresAt = some expires ∧ expires ≤ now) ∧
      state = row.liveState.map (fun live => { live with failed := true }) ∧ row' = { row with liveState := state } := by
  unfold LiveCapture.mark at marked
  split at marked
  · cases marked
  rename_i waiting
  split at marked
  · cases marked
  rename_i expires stored
  split at marked
  · cases marked
  rename_i past
  cases marked
  exact ⟨not_not.mp waiting, ⟨expires, stored, not_lt.mp past⟩, rfl, rfl⟩

theorem LiveCapture.clear_returns {state : Option Challenge} (cleared : LiveCapture.clear state row = some row') :
    row.liveState.map Challenge.token = state.map Challenge.token ∧
      row' = { row with
        evidence := row.evidence.filter fun e => decide (some e.2.key ≠ state.bind Challenge.selfieKey)
        liveState := none, liveExpiresAt := none, version := row.version + 1 } := by
  unfold LiveCapture.clear at cleared
  split at cleared
  · cases cleared
  · rename_i own
    cases cleared
    exact ⟨not_not.mp own, rfl⟩

end

/-! ### Steps -/

namespace Processor

/-- What a step can do. -/
inductive Move (sha256 : List UInt8 → String) (s : Processor) : Step → Processor → Prop where
  | idle (step : Step) : Move sha256 s step s
  | read : Move sha256 s .read s.handOut
  | stored (kind : Kind) (content : List UInt8) (metadata : Evidence)
      (allowed : KycService.uploadable kind s.row = .ok ()) :
      Move sha256 s (.upload kind content metadata) ((s.putFile content).spawn (.uploading kind ⟨s.nextKey, metadata⟩))
  | unstored (i : Nat) (kind : Kind) (item : Item) (task : s.tasks[i]? = some (.uploading kind item)) :
      Move sha256 s (.uploadWrite i) ((s.deleteFile item.key).setTask i .done)
  | uploaded (i : Nat) (kind : Kind) (item : Item) (row : Verification)
      (task : s.tasks[i]? = some (.uploading kind item)) (written : KycService.upload kind item s.row = .ok row) :
      Move sha256 s (.uploadWrite i)
        (((s.store row).handOut).setTask i (.deleting ((s.row.evidence.find kind).map Item.key).toList))
  | submitted (now : Instant) (row : Verification)
      (answered : KycService.submit now s.row = .ok row) (waiting : s.row.status = .pendingUpload) :
      Move sha256 s (.submit now) (((s.store row).handOut).note .submitted)
  | resubmitted (now : Instant) (past : s.row.status ≠ .pendingUpload) :
      Move sha256 s (.submit now) s.handOut
  | erased (now : Instant) :
      Move sha256 s (.erase now) ((s.store (KycService.erase now s.row)).note .cancelled)
  | claimed (now : Instant) (row : Verification) (claim : Claim)
      (taken : Worker.claim now s.row = some (row, claim)) :
      Move sha256 s (.claim now) ((s.store row).spawn (.working claim))
  | inspected (i : Nat) (settings : Settings) (claim : Claim)
      (answers : Except (String × List (String × Check)) ProviderAnswers) (durationMs : Nat)
      (task : s.tasks[i]? = some (.working claim)) :
      Move sha256 s (.inspect i settings answers durationMs) (inspect i settings claim answers durationMs s)
  | superseded (i : Nat) (claim : Claim) (status : Status) (result : Result)
      (task : s.tasks[i]? = some (.worked claim status result)) : Move sha256 s (.commit i) (s.setTask i .done)
  | committed (i : Nat) (claim : Claim) (status : Status) (result : Result) (row : Verification)
      (task : s.tasks[i]? = some (.worked claim status result))
      (stored : Worker.commit claim.version status result s.row = some row) :
      Move sha256 s (.commit i) ((((s.store row).enqueue row).note (.committed result)).setTask i .done)
  | listed (now : Instant) : Move sha256 s (.prune now) (s.spawn .pruning)
  | unmarked (i : Nat) (task : s.tasks[i]? = some .pruning) :
      Move sha256 s (.mark i) (s.setTask i .done)
  | marked (i : Nat) (row : Verification) (task : s.tasks[i]? = some .pruning)
      (tombstone : Worker.mark s.row = some row) : Move sha256 s (.mark i) (mark i s)
  | fileErased (i key : Nat) (keys : List Nat) (task : s.tasks[i]? = some (.erasing (key :: keys))) :
      Move sha256 s (.eraseFiles i) ((s.deleteFile key).setTask i (.erasing keys))
  | loaded (i : Nat) (task : s.tasks[i]? = some (.erasing [])) :
      Move sha256 s (.load i) (s.setTask i (.loaded s.row))
  | finished (i : Nat) (copy : Verification) (task : s.tasks[i]? = some (.loaded copy)) :
      Move sha256 s (.finish i) (finish i copy s)
  | started (now utcnow : Instant) (row : Verification)
      (began : LiveCapture.start now utcnow s.nextToken s.row = .ok row) :
      Move sha256 s (.start now utcnow)
        ((({ s with row := row, nextToken := s.nextToken + 1 }).note (.started s.nextToken now)).spawn
          (.deleting (replacedKeys s.row)))
  | framed (now utcnow : Instant) (frame : LiveFrame) (state : Challenge)
      (fresh : LiveCapture.read (sha256 frame.content) now utcnow frame.token s.row = .fresh state) :
      Move sha256 s (.frame now utcnow frame) (s.spawn (.reading now frame state))
  | unread (i : Nat) (settings : Settings) (verdict : Verdict) (turnsLeft : Bool) (now : Instant) (frame : LiveFrame)
      (state : Challenge) (task : s.tasks[i]? = some (.reading now frame state)) :
      Move sha256 s (.analyse i settings verdict turnsLeft) (s.setTask i .done)
  | analysed (i : Nat) (settings : Settings) (verdict : Verdict) (turnsLeft : Bool) (now : Instant)
      (frame : LiveFrame) (state : Challenge) (task : s.tasks[i]? = some (.reading now frame state))
      (there : s.baselineThere state = true) :
      Move sha256 s (.analyse i settings verdict turnsLeft) (analyse sha256 i settings verdict turnsLeft now frame state s)
  | unwritten (i : Nat) (utcnow : Instant) (frame : LiveFrame) (state : Challenge) (newKey : Option Nat)
      (accepted : Accepted) (task : s.tasks[i]? = some (.analysed frame state newKey accepted)) :
      Move sha256 s (.frameWrite i utcnow) ((s.deleteNew newKey).setTask i .done)
  | written (i : Nat) (utcnow : Instant) (frame : LiveFrame) (state : Challenge) (newKey : Option Nat)
      (accepted : Accepted) (row : Verification)
      (task : s.tasks[i]? = some (.analysed frame state newKey accepted))
      (written : LiveCapture.write utcnow frame.token state s.row = .ok row) :
      Move sha256 s (.frameWrite i utcnow) (((s.store row).note (.accepted accepted)).setTask i .done)
  | swept (now : Instant) (row : Verification) (state : Option Challenge)
      (marked : LiveCapture.mark now s.row = some (row, state)) :
      Move sha256 s (.sweep now) ((s.store row).spawn (.sweeping state))
  | sweptFile (i : Nat) (state : Option Challenge) (task : s.tasks[i]? = some (.sweeping state)) :
      Move sha256 s (.sweepFile i) ((s.deleteNew (state.bind Challenge.selfieKey)).setTask i (.swept state))
  | uncleared (i : Nat) (state : Option Challenge) (task : s.tasks[i]? = some (.swept state)) :
      Move sha256 s (.clear i) (s.setTask i .done)
  | cleared (i : Nat) (state : Option Challenge) (row : Verification)
      (task : s.tasks[i]? = some (.swept state)) (cleared : LiveCapture.clear state s.row = some row) :
      Move sha256 s (.clear i) ((s.store row).setTask i .done)
  | fileDeleted (i key : Nat) (keys : List Nat) (task : s.tasks[i]? = some (.deleting (key :: keys))) :
      Move sha256 s (.deleteFiles i) ((s.deleteFile key).setTask i (.deleting keys))

theorem resume_moves (sha256 : List UInt8 → String) (step : Step) (i : Nat) (task : Task) (s : Processor)
    (own : taskOf step = some i) (there : s.tasks[i]? = some task) : Move sha256 s step (resume sha256 step task s) := by
  unfold resume
  split
  case h_1 j kind item =>
    cases own
    unfold uploadWrite
    split
    · exact .unstored _ kind item there
    · rename_i row written
      exact .uploaded _ kind item row there written
  case h_2 j key keys =>
    cases own
    exact .fileDeleted _ key keys there
  case h_3 j settings answers durationMs claim =>
    cases own
    exact .inspected _ settings claim answers durationMs there
  case h_4 j claim status result =>
    cases own
    unfold commit
    split
    · exact .superseded _ claim status result there
    · rename_i row stored
      exact .committed _ claim status result row there stored
  case h_5 j =>
    cases own
    cases marks : Worker.mark s.row with
    | none =>
      unfold mark
      rw [marks]
      exact .unmarked _ there
    | some row => exact .marked _ row there marks
  case h_6 j key keys =>
    cases own
    exact .fileErased _ key keys there
  case h_7 j =>
    cases own
    exact .loaded _ there
  case h_8 j copy =>
    cases own
    exact .finished _ copy there
  case h_9 j settings verdict turnsLeft now frame state =>
    cases own
    cases readable : s.baselineThere state with
    | false =>
      unfold analyse
      rw [if_pos readable]
      exact .unread _ settings verdict turnsLeft now frame state there
    | true => exact .analysed _ settings verdict turnsLeft now frame state there readable
  case h_10 j utcnow frame state newKey accepted =>
    cases own
    unfold frameWrite
    split
    · exact .unwritten _ utcnow frame state newKey accepted there
    · rename_i row written
      exact .written _ utcnow frame state newKey accepted row there written
  case h_11 j state =>
    cases own
    exact .sweptFile _ state there
  case h_12 j state =>
    cases own
    unfold clear
    split
    · exact .uncleared _ state there
    · rename_i row cleared
      exact .cleared _ state row there cleared
  case h_13 => exact .idle _

theorem next_moves (sha256 : List UInt8 → String) (step : Step) (s : Processor) :
    Move sha256 s step (next sha256 step s) := by
  unfold next
  split
  · exact .read
  · rename_i kind content metadata
    unfold upload
    split
    · exact .idle _
    · rename_i allowed
      exact .stored kind content metadata allowed
  · rename_i now
    unfold submit
    split
    · exact .idle _
    · rename_i row answered
      split
      · rename_i waiting
        exact .submitted now row answered waiting
      · rename_i past
        rcases (KycService.submit_returns answered).2 with ⟨-, same⟩ | ⟨waiting, -⟩
        · rw [same]
          exact .resubmitted now past
        · exact absurd waiting past
  · exact .erased _
  · rename_i now
    unfold claim
    split
    · exact .idle _
    · rename_i row claim taken
      exact .claimed now row claim taken
  · split
    · exact .listed _
    · exact .idle _
  · rename_i now utcnow
    unfold start
    split
    · exact .idle _
    · rename_i row began
      exact .started now utcnow row began
  · rename_i now utcnow data
    unfold frame
    split
    · rename_i state fresh
      exact .framed now utcnow data state fresh
    · exact .idle _
  · rename_i now
    unfold sweep
    split
    · exact .idle _
    · rename_i row state marked
      exact .swept now row state marked
  · split
    · rename_i task found
      obtain ⟨i, own, there⟩ := Option.bind_eq_some_iff.mp found
      exact resume_moves sha256 step i task s own there
    · exact .idle _

section
variable {sha256 : List UInt8 → String} {step : Step} {s s' : Processor}

@[simp] theorem deleteNew_row (s : Processor) (newKey : Option Nat) : (s.deleteNew newKey).row = s.row := by
  cases newKey <;> rfl

@[simp] theorem deleteNew_tasks (s : Processor) (newKey : Option Nat) : (s.deleteNew newKey).tasks = s.tasks := by
  cases newKey <;> rfl

@[simp] theorem deleteNew_log (s : Processor) (newKey : Option Nat) : (s.deleteNew newKey).log = s.log := by
  cases newKey <;> rfl

theorem analyse_effects (sha256 : List UInt8 → String) (i : Nat) (settings : Settings) (verdict : Verdict)
    (turnsLeft : Bool) (now : Instant) (frame : LiveFrame) (state : Challenge) {s : Processor}
    (there : s.baselineThere state = true) :
    (analyse sha256 i settings verdict turnsLeft now frame state s).row = s.row ∧
    (analyse sha256 i settings verdict turnsLeft now frame state s).log = s.log ∧
    (analyse sha256 i settings verdict turnsLeft now frame state s).nextToken = s.nextToken + 1 ∧
    (analyse sha256 i settings verdict turnsLeft now frame state s).tasks = s.tasks.set i (.analysed frame
      (advanced settings now frame ⟨sha256 frame.content, verdict, s.nextToken, s.nextKey, turnsLeft⟩ state)
      (if storesSelfie settings verdict state then some s.nextKey else none)
      { token := frame.token, content := frame.content, digest := sha256 frame.content, takenAt := now, verdict
        held := matchesAction settings state.action verdict, before := state }) := by
  unfold analyse
  rw [if_neg (by simp [there])]
  dsimp only
  split <;> exact ⟨rfl, rfl, rfl, rfl⟩

/-! ### New tasks -/

/-- How a task comes to be where it is. -/
inductive Made (sha256 : List UInt8 → String) (s s' : Processor) : Task → Prop where
  | uploading (kind : Kind) (metadata : Evidence) (content : List UInt8)
      (allowed : KycService.uploadable kind s.row = .ok ()) (stored : s'.files = s.files ++ [(s.nextKey, content)])
      (next : s'.nextKey = s.nextKey + 1) : Made sha256 s s' (.uploading kind ⟨s.nextKey, metadata⟩)
  | replacing (kind : Kind) (item : Item) (task : .uploading kind item ∈ s.tasks)
      (written : KycService.upload kind item s.row = .ok s'.row) :
      Made sha256 s s' (.deleting ((s.row.evidence.find kind).map Item.key).toList)
  | restarting (now utcnow : Instant) (began : LiveCapture.start now utcnow s.nextToken s.row = .ok s'.row) :
      Made sha256 s s' (.deleting (replacedKeys s.row))
  | deleting (key : Nat) (keys : List Nat) (task : .deleting (key :: keys) ∈ s.tasks) : Made sha256 s s' (.deleting keys)
  | working (now : Instant) (claim : Claim) (taken : Worker.claim now s.row = some (s'.row, claim)) :
      Made sha256 s s' (.working claim)
  | worked (settings : Settings) (claim : Claim) (answers : Except (String × List (String × Check)) ProviderAnswers)
      (durationMs : Nat) : Made sha256 s s'
        (.worked claim (Worker.inspect settings claim answers durationMs).1
          (Worker.inspect settings claim answers durationMs).2)
  | pruning : Made sha256 s s' .pruning
  | marked (tombstone : Worker.mark s.row = some s'.row) : Made sha256 s s' (.erasing (Worker.keysOf s.row))
  | erasing (key : Nat) (keys : List Nat) (task : .erasing (key :: keys) ∈ s.tasks) (same : s'.row = s.row) :
      Made sha256 s s' (.erasing keys)
  | loaded (task : .erasing [] ∈ s.tasks) (same : s'.row = s.row) : Made sha256 s s' (.loaded s.row)
  | reading (now utcnow : Instant) (frame : LiveFrame) (state : Challenge)
      (fresh : LiveCapture.read (sha256 frame.content) now utcnow frame.token s.row = .fresh state)
      (same : s'.row = s.row) : Made sha256 s s' (.reading now frame state)
  | analysed (i : Nat) (settings : Settings) (verdict : Verdict) (turnsLeft : Bool) (now : Instant) (frame : LiveFrame)
      (state : Challenge) (task : s.tasks[i]? = some (.reading now frame state))
      (after : s' = analyse sha256 i settings verdict turnsLeft now frame state s)
      (there : s.baselineThere state = true) :
      Made sha256 s s' (.analysed frame
        (advanced settings now frame ⟨sha256 frame.content, verdict, s.nextToken, s.nextKey, turnsLeft⟩ state)
        (if storesSelfie settings verdict state then some s.nextKey else none)
        { token := frame.token, content := frame.content, digest := sha256 frame.content, takenAt := now, verdict
          held := matchesAction settings state.action verdict, before := state })
  | sweeping (now : Instant) (state : Option Challenge) (marked : LiveCapture.mark now s.row = some (s'.row, state)) :
      Made sha256 s s' (.sweeping state)
  | swept (state : Option Challenge) (task : .sweeping state ∈ s.tasks) (same : s'.row = s.row) :
      Made sha256 s s' (.swept state)
  | done : Made sha256 s s' .done

/-- What a step puts in the place of the task it takes up, or adds. -/
inductive Placed (sha256 : List UInt8 → String) (s s' : Processor) : Prop where
  | kept (same : s'.tasks = s.tasks)
  | replaced (i : Nat) (t : Task) (tasks : s'.tasks = s.tasks.set i t) (made : Made sha256 s s' t)
  | added (t : Task) (tasks : s'.tasks = s.tasks ++ [t]) (made : Made sha256 s s' t)

theorem Placed.others (placed : Placed sha256 s s') :
    ∃ i : Nat, (∀ (j : Nat) (t : Task), j ≠ i → s'.tasks[j]? = some t → s.tasks[j]? = some t) ∧
      ∀ t : Task, s'.tasks[i]? = some t → s.tasks[i]? = some t ∨ Made sha256 s s' t := by
  cases placed with
  | kept same =>
    rw [same]
    exact ⟨0, fun _ _ _ there => there, fun _ there => Or.inl there⟩
  | replaced i _ tasks made =>
    rw [tasks]
    refine ⟨i, fun j t other there => ?_, fun t there => ?_⟩
    · rwa [List.getElem?_set_ne (Ne.symm other)] at there
    · rw [List.getElem?_set_self'] at there
      obtain ⟨-, -, rfl⟩ := Option.map_eq_some_iff.mp there
      exact Or.inr made
  | added _ tasks made =>
    rw [tasks]
    refine ⟨s.tasks.length, fun j t other there => ?_, fun t there => ?_⟩
    · rcases Nat.lt_or_gt_of_ne other with old | beyond
      · rwa [List.getElem?_append_left old] at there
      · rw [List.getElem?_eq_none (by simpa using Nat.succ_le_of_lt beyond)] at there
        cases there
    · rw [List.getElem?_concat_length] at there
      cases there
      exact Or.inr made

theorem Placed.mem {t : Task} (placed : Placed sha256 s s') (there : t ∈ s'.tasks) :
    t ∈ s.tasks ∨ Made sha256 s s' t := by
  obtain ⟨j, found⟩ := List.mem_iff_getElem?.mp there
  obtain ⟨i, others, own⟩ := placed.others
  by_cases changed : j = i
  · subst changed
    exact (own t found).imp_left List.mem_of_getElem?
  · exact Or.inl (List.mem_of_getElem? (others j t changed found))

theorem Move.places (move : Move sha256 s step s') : Placed sha256 s s' := by
  cases move with
  | idle => exact .kept rfl
  | read => exact .kept rfl
  | stored kind content metadata allowed => exact .added _ rfl (.uploading kind metadata content allowed rfl rfl)
  | unstored i => exact .replaced i _ rfl .done
  | uploaded i kind item _ task written =>
    exact .replaced i _ rfl (.replacing kind item (List.mem_of_getElem? task) written)
  | submitted => exact .kept rfl
  | resubmitted => exact .kept rfl
  | erased => exact .kept rfl
  | claimed now _ claim taken => exact .added _ rfl (.working now claim taken)
  | inspected i settings claim answers durationMs =>
    refine .replaced i _ ?_ (.worked settings claim answers durationMs)
    unfold inspect
    dsimp only
    split <;> rfl
  | superseded i => exact .replaced i _ rfl .done
  | committed i => exact .replaced i _ rfl .done
  | listed => exact .added _ rfl .pruning
  | unmarked i => exact .replaced i _ rfl .done
  | marked i row _ tombstone =>
    have after : (mark i s).tasks = s.tasks.set i (.erasing (Worker.keysOf s.row)) ∧ (mark i s).row = row := by
      unfold mark
      rw [tombstone]
      dsimp only
      split <;> exact ⟨rfl, rfl⟩
    exact .replaced i _ after.1 (.marked (after.2 ▸ tombstone))
  | fileErased i key keys task => exact .replaced i _ rfl (.erasing key keys (List.mem_of_getElem? task) rfl)
  | loaded i task => exact .replaced i _ rfl (.loaded (List.mem_of_getElem? task) rfl)
  | finished i => exact .replaced i _ rfl .done
  | started now utcnow _ began => exact .added _ rfl (.restarting now utcnow began)
  | framed now utcnow frame state fresh => exact .added _ rfl (.reading now utcnow frame state fresh rfl)
  | unread i => exact .replaced i _ rfl .done
  | analysed i settings verdict turnsLeft now frame state task there =>
    have effects := analyse_effects sha256 i settings verdict turnsLeft now frame state there
    exact .replaced i _ effects.2.2.2 (.analysed i settings verdict turnsLeft now frame state task rfl there)
  | unwritten i _ _ _ newKey =>
    exact .replaced i _ (congrArg (List.set · i _) (deleteNew_tasks s newKey)) .done
  | written i => exact .replaced i _ rfl .done
  | swept now _ state marked => exact .added _ rfl (.sweeping now state marked)
  | sweptFile i state task =>
    exact .replaced i _ (congrArg (List.set · i _) (deleteNew_tasks s _)) 
      (.swept state (List.mem_of_getElem? task) (deleteNew_row s _))
  | uncleared i => exact .replaced i _ rfl .done
  | cleared i => exact .replaced i _ rfl .done
  | fileDeleted i key keys task => exact .replaced i _ rfl (.deleting key keys (List.mem_of_getElem? task))

/-! ### New events -/

/-- What an event of a step says of the states around it. -/
inductive Told (step : Step) (s s' : Processor) : Event → Prop where
  | handedOut : Told step s s' (.handedOut (snapshot s'.row))
  | tombstone (i : Nat) (copy : Verification) (own : step = .finish i) (task : s.tasks[i]? = some (.loaded copy))
      (after : s'.row = Worker.deleted s.row) : Told step s s' (.handedOut (snapshot (Worker.deleted copy)))
  | checked : Told step s s' .checked
  | committed (claim : Claim) (status : Status) (result : Result) (task : .worked claim status result ∈ s.tasks)
      (stored : Worker.commit claim.version status result s.row = some s'.row)
      (callback : s'.outbox = s.outbox ++ [snapshot s'.row]) : Told step s s' (.committed result)
  | cancelled (now : Instant) (after : s'.row = KycService.erase now s.row) : Told step s s' .cancelled
  | expired (tombstone : Worker.mark s.row = some s'.row) : Told step s s' .expired
  | evidenceDeleted (copy : Verification) (task : .loaded copy ∈ s.tasks) (after : s'.row = Worker.deleted s.row) :
      Told step s s' .evidenceDeleted
  | started (now utcnow : Instant) (began : LiveCapture.start now utcnow s.nextToken s.row = .ok s'.row) :
      Told step s s' (.started s.nextToken now)
  | accepted (utcnow : Instant) (frame : LiveFrame) (state : Challenge) (newKey : Option Nat) (accepted : Accepted)
      (task : .analysed frame state newKey accepted ∈ s.tasks)
      (written : LiveCapture.write utcnow frame.token state s.row = .ok s'.row) : Told step s s' (.accepted accepted)
  | submitted (now : Instant) (answered : KycService.submit now s.row = .ok s'.row)
      (waiting : s.row.status = .pendingUpload) : Told step s s' .submitted

/-- What a step adds to the log: only the last event is more than a snapshot. -/
def Logged (step : Step) (s s' : Processor) : Prop :=
  ∃ news, s'.log = s.log ++ news ∧ (∀ e ∈ news, Told step s s' e) ∧ news.Pairwise fun e _ => ∃ shown, e = .handedOut shown

theorem Logged.none (same : s'.log = s.log) : Logged step s s' :=
  ⟨[], by rw [same, List.append_nil], fun _ there => (by cases there), List.Pairwise.nil⟩

theorem Logged.one {e : Event} (added : s'.log = s.log ++ [e]) (told : Told step s s' e) : Logged step s s' :=
  ⟨[e], added, fun _ there => List.mem_singleton.mp there ▸ told, List.pairwise_singleton _ _⟩

theorem Logged.two {shown : Snapshot} {e : Event} (added : s'.log = (s.log ++ [.handedOut shown]) ++ [e])
    (first : Told step s s' (.handedOut shown)) (last : Told step s s' e) : Logged step s s' := by
  refine ⟨[.handedOut shown, e], by rw [added, List.append_assoc]; rfl, ?_, List.pairwise_pair.mpr ⟨shown, rfl⟩⟩
  intro e' there
  rcases List.mem_cons.mp there with rfl | there
  · exact first
  · exact List.mem_singleton.mp there ▸ last

theorem Move.logged (move : Move sha256 s step s') : Logged step s s' := by
  cases move with
  | idle => exact .none rfl
  | read => exact .one rfl .handedOut
  | stored => exact .none rfl
  | unstored => exact .none rfl
  | uploaded => exact .one rfl .handedOut
  | submitted now _ answered waiting => exact .two rfl .handedOut (.submitted now answered waiting)
  | resubmitted => exact .one rfl .handedOut
  | erased now => exact .one rfl (.cancelled now rfl)
  | claimed => exact .none rfl
  | inspected =>
    unfold inspect
    dsimp only
    split
    · exact .one rfl .checked
    · exact .none rfl
  | superseded => exact .none rfl
  | committed _ claim status result _ task stored =>
    exact .two rfl .handedOut (.committed claim status result (List.mem_of_getElem? task) stored rfl)
  | listed => exact .none rfl
  | unmarked => exact .none rfl
  | marked _ _ _ tombstone =>
    unfold mark
    rw [tombstone]
    dsimp only
    split
    · exact .one rfl (.expired tombstone)
    · exact .none rfl
  | fileErased => exact .none rfl
  | loaded => exact .none rfl
  | finished i copy task =>
    exact .two rfl (.tombstone i copy rfl task rfl) (.evidenceDeleted copy (List.mem_of_getElem? task) rfl)
  | started now utcnow _ began => exact .one rfl (.started now utcnow began)
  | framed => exact .none rfl
  | unread => exact .none rfl
  | analysed i settings verdict turnsLeft now frame state _ there =>
    exact .none (analyse_effects sha256 i settings verdict turnsLeft now frame state there).2.1
  | unwritten _ _ _ _ newKey => exact .none (deleteNew_log s newKey)
  | written _ utcnow frame state newKey accepted _ task written =>
    exact .one rfl (.accepted utcnow frame state newKey accepted (List.mem_of_getElem? task) written)
  | swept => exact .none rfl
  | sweptFile => exact .none (deleteNew_log s _)
  | uncleared => exact .none rfl
  | cleared => exact .none rfl
  | fileDeleted => exact .none rfl

end

end Processor
end VtsaCsms.Kyc
