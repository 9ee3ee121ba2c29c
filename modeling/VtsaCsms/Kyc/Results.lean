import VtsaCsms.Kyc.Moves

/-!
# One result

However requests, workers and sweeps interleave, crash and outlive their leases: a verification gets one result,
with one callback, none after it was closed, and its checks run three times at most.
-/
namespace VtsaCsms.Kyc
open Foundation LiveCapture

/-- Nothing is uploaded, submitted or checked any more. -/
def Over (status : Status) : Prop := status ≠ .pendingUpload ∧ status ≠ .submitted ∧ status ≠ .processing

theorem over_mark (status : Status) :
    Over (if status ∈ [Status.pendingUpload, .submitted, .processing, .needsReview] then .expired else status) := by
  cases status <;> simp [Over]

theorem Worker.inspect_over (settings : Settings) (claim : Claim)
    (answers : Except (String × List (String × Check)) ProviderAnswers) (durationMs : Nat) :
    Over (Worker.inspect settings claim answers durationMs).1 := by
  have decided : ∀ expired profile checks, Over (Worker.decision settings expired profile checks).1 := by
    intro expired profile checks
    unfold Worker.decision
    split
    · simp [Over]
    split
    · simp [Over]
    split <;> simp [Over]
  unfold Worker.inspect
  dsimp only
  split
  · simp [Over]
  cases answers with
  | error => simp [Over]
  | ok =>
    dsimp only
    split
    · split <;> simp [Over]
    · exact decided _ _ _

namespace Event

def isCommitted : Event → Bool
  | .committed _ => true
  | _ => false

def isChecked : Event → Bool
  | .checked => true
  | _ => false

/-- A result is stored, or the verification is cancelled, expired or without its evidence. -/
def closes : Event → Bool
  | .committed _ | .cancelled | .expired | .evidenceDeleted => true
  | _ => false

end Event

namespace Task

/-- The worker has its checks before it. -/
def toCheck : Task → Bool
  | .working claim => Worker.checksRun claim
  | _ => false

/-- `prune` has marked the verification. -/
def erases : Task → Bool
  | .erasing _ | .loaded _ => true
  | _ => false

end Task

namespace Processor
variable {sha256 : List UInt8 → String} {step : Step} {s s' : Processor}

/-! ### What a step keeps -/

theorem Move.over (move : Move sha256 s step s') (past : Over s.row.status) : Over s'.row.status := by
  cases move with
  | uploaded _ _ _ _ _ written => exact absurd (KycService.upload_returns written).1 past.1
  | submitted _ _ _ waiting => exact absurd waiting past.1
  | erased => exact ⟨nofun, nofun, nofun⟩
  | claimed _ _ _ taken =>
    exact absurd (Worker.claim_returns taken).1 (not_or.mpr past.2)
  | inspected =>
    unfold inspect
    dsimp only
    split <;> exact past
  | committed _ _ _ _ _ _ stored => exact absurd (Worker.commit_returns stored).2.1 past.2.2
  | marked _ row _ tombstone =>
    unfold mark
    rw [tombstone]
    dsimp only
    have after : Over row.status := by
      rw [(Worker.mark_returns tombstone).2]
      exact over_mark _
    split <;> exact after
  | started _ _ _ began =>
    exact absurd (pending_returns (LiveCapture.start_returns began).1).1 past.1
  | analysed i settings verdict turnsLeft now frame state _ there =>
    rw [(analyse_effects sha256 i settings verdict turnsLeft now frame state there).1]
    exact past
  | unwritten _ _ _ _ newKey =>
    change Over (s.deleteNew newKey).row.status
    rwa [deleteNew_row]
  | written _ _ _ _ _ _ _ _ written =>
    exact absurd (pending_returns (LiveCapture.write_returns written).1).1 past.1
  | swept _ _ _ marked => exact absurd (LiveCapture.mark_returns marked).1 past.1
  | sweptFile =>
    change Over (s.deleteNew _).row.status
    rwa [deleteNew_row]
  | cleared _ _ row _ cleared =>
    have after : Over row.status := by
      rw [(LiveCapture.clear_returns cleared).2]
      exact past
    exact after
  | _ => exact past

/-- The checks that have been run, and those that a worker has before it. -/
def checks (s : Processor) : Nat := s.log.countP Event.isChecked + s.tasks.countP Task.toCheck

variable {t : Task}

theorem countP_set_le (tasks : List Task) (i : Nat) (idle : t.toCheck = false) :
    (tasks.set i t).countP Task.toCheck ≤ tasks.countP Task.toCheck := by
  rcases Nat.lt_or_ge i tasks.length with inside | beyond
  · rw [List.countP_set inside, idle]
    exact Nat.sub_le _ _
  · rw [List.set_eq_of_length_le beyond]

theorem countP_append_idle (tasks : List Task) (idle : t.toCheck = false) :
    (tasks ++ [t]).countP Task.toCheck = tasks.countP Task.toCheck := by
  rw [List.countP_append, List.countP_singleton, idle]
  rfl

theorem checks_setTask (s : Processor) (i : Nat) (idle : t.toCheck = false) :
    (s.setTask i t).checks ≤ s.checks :=
  Nat.add_le_add_left (countP_set_le s.tasks i idle) _

theorem checks_spawn (s : Processor) (idle : t.toCheck = false) : (s.spawn t).checks = s.checks :=
  congrArg (s.log.countP Event.isChecked + ·) (countP_append_idle s.tasks idle)

theorem checks_note (s : Processor) {e : Event} (other : e.isChecked = false) : (s.note e).checks = s.checks := by
  unfold checks note
  rw [List.countP_append, List.countP_singleton, other]
  rfl

theorem checks_handOut (s : Processor) : s.handOut.checks = s.checks := checks_note s rfl

theorem checks_enqueue (s : Processor) (row : Verification) : (s.enqueue row).checks = s.checks := checks_note _ rfl

theorem checks_deleteNew (s : Processor) (newKey : Option Nat) : (s.deleteNew newKey).checks = s.checks := by
  unfold checks
  rw [deleteNew_log, deleteNew_tasks]

theorem checks_inspect {i : Nat} (settings : Settings) {claim : Claim}
    (answers : Except (String × List (String × Check)) ProviderAnswers) (durationMs : Nat)
    (task : s.tasks[i]? = some (.working claim)) : (inspect i settings claim answers durationMs s).checks = s.checks := by
  obtain ⟨inside, found⟩ := List.getElem?_eq_some_iff.mp task
  have fewer : ∀ status result, (s.tasks.set i (.worked claim status result)).countP Task.toCheck =
      s.tasks.countP Task.toCheck - if Worker.checksRun claim = true then 1 else 0 := by
    intro status result
    rw [List.countP_set inside, found]
    rfl
  unfold inspect
  dsimp only
  split
  · rename_i runs
    have there : 0 < s.tasks.countP Task.toCheck :=
      List.countP_pos_iff.mpr ⟨_, List.mem_of_getElem? task, runs⟩
    unfold checks note setTask
    rw [List.countP_append, fewer, if_pos runs, List.countP_singleton]
    simp only [Event.isChecked, if_true]
    omega
  · rename_i refused
    unfold checks setTask
    rw [fewer, if_neg refused]
    rfl

theorem Move.checks (move : Move sha256 s step s') :
    s'.checks ≤ s.checks ∧ s'.row.attempts = s.row.attempts ∨
      s'.checks ≤ s.checks + (if s'.row.attempts ≤ 3 then 1 else 0) ∧ s'.row.attempts = s.row.attempts + 1 := by
  cases move with
  | idle => exact Or.inl ⟨le_refl _, rfl⟩
  | read => exact Or.inl ⟨(checks_handOut s).le, rfl⟩
  | stored => exact Or.inl ⟨(checks_spawn _ rfl).le, rfl⟩
  | unstored i => exact Or.inl ⟨checks_setTask _ i rfl, rfl⟩
  | uploaded i _ _ row _ written =>
    refine Or.inl ⟨(checks_setTask _ i rfl).trans (checks_handOut _).le, ?_⟩
    change row.attempts = _
    rw [(KycService.upload_returns written).2.2.2]
  | submitted _ row answered =>
    refine Or.inl ⟨(checks_note _ rfl).le.trans (checks_handOut _).le, ?_⟩
    change row.attempts = _
    rcases (KycService.submit_returns answered).2 with ⟨-, rfl⟩ | ⟨-, -, -, rfl⟩ <;> rfl
  | resubmitted => exact Or.inl ⟨(checks_handOut s).le, rfl⟩
  | erased => exact Or.inl ⟨(checks_note _ rfl).le, rfl⟩
  | claimed _ row claim taken =>
    obtain ⟨-, -, rowIs, claimIs⟩ := Worker.claim_returns taken
    have attempts : row.attempts = s.row.attempts + 1 := by rw [rowIs]
    have toCheck : Task.toCheck (.working claim) = decide (row.attempts ≤ 3) := by rw [claimIs, attempts]; rfl
    refine Or.inr ⟨?_, attempts⟩
    unfold Processor.checks spawn store
    rw [List.countP_append, List.countP_singleton, toCheck]
    simp only [decide_eq_true_eq]
    omega
  | inspected _ settings _ answers durationMs task =>
    refine Or.inl ⟨(checks_inspect settings answers durationMs task).le, ?_⟩
    unfold inspect
    dsimp only
    split <;> rfl
  | superseded i => exact Or.inl ⟨checks_setTask _ i rfl, rfl⟩
  | committed i _ _ _ row _ stored =>
    refine Or.inl ⟨(checks_setTask _ i rfl).trans ((checks_note _ rfl).le.trans (checks_enqueue _ row).le), ?_⟩
    change row.attempts = _
    rw [(Worker.commit_returns stored).2.2]
  | listed => exact Or.inl ⟨(checks_spawn _ rfl).le, rfl⟩
  | unmarked i => exact Or.inl ⟨checks_setTask _ i rfl, rfl⟩
  | marked i row _ tombstone =>
    have attempts : row.attempts = s.row.attempts := by rw [(Worker.mark_returns tombstone).2]
    unfold mark
    rw [tombstone]
    dsimp only
    split
    · exact Or.inl ⟨(checks_note _ rfl).le.trans (checks_setTask _ i rfl), attempts⟩
    · exact Or.inl ⟨checks_setTask _ i rfl, attempts⟩
  | fileErased i => exact Or.inl ⟨checks_setTask _ i rfl, rfl⟩
  | loaded i => exact Or.inl ⟨checks_setTask _ i rfl, rfl⟩
  | finished i =>
    exact Or.inl ⟨(checks_setTask _ i rfl).trans ((checks_note _ rfl).le.trans (checks_enqueue _ _).le), rfl⟩
  | started _ _ row began =>
    refine Or.inl ⟨(checks_spawn _ rfl).le.trans (checks_note _ rfl).le, ?_⟩
    change row.attempts = _
    rw [(LiveCapture.start_returns began).2]
  | framed => exact Or.inl ⟨(checks_spawn _ rfl).le, rfl⟩
  | unread i => exact Or.inl ⟨checks_setTask _ i rfl, rfl⟩
  | analysed i settings verdict turnsLeft now frame state _ there =>
    obtain ⟨row, log, -, tasks⟩ :=
      analyse_effects sha256 i settings verdict turnsLeft now frame state there
    refine Or.inl ⟨?_, congrArg Verification.attempts row⟩
    unfold Processor.checks
    rw [log, tasks]
    exact checks_setTask s i rfl
  | unwritten i _ _ _ newKey =>
    exact Or.inl ⟨(checks_setTask _ i rfl).trans (checks_deleteNew s newKey).le,
      congrArg Verification.attempts (deleteNew_row s newKey)⟩
  | written i _ _ _ _ _ row _ written =>
    refine Or.inl ⟨(checks_setTask _ i rfl).trans (checks_note _ rfl).le, ?_⟩
    change row.attempts = _
    obtain ⟨-, current, -, -, -, ⟨-, rfl⟩ | ⟨-, rfl⟩⟩ := LiveCapture.write_returns written <;> rfl
  | swept _ row _ marked =>
    refine Or.inl ⟨(checks_spawn _ rfl).le, ?_⟩
    change row.attempts = _
    rw [(LiveCapture.mark_returns marked).2.2.2]
  | sweptFile i =>
    exact Or.inl ⟨(checks_setTask _ i rfl).trans (checks_deleteNew s _).le,
      congrArg Verification.attempts (deleteNew_row s _)⟩
  | uncleared i => exact Or.inl ⟨checks_setTask _ i rfl, rfl⟩
  | cleared i _ row _ cleared =>
    refine Or.inl ⟨checks_setTask _ i rfl, ?_⟩
    change row.attempts = _
    rw [(LiveCapture.clear_returns cleared).2]
  | fileDeleted i => exact Or.inl ⟨checks_setTask _ i rfl, rfl⟩

/-! ### What holds in every state -/

structure OneResult (s : Processor) : Prop where
  worked : ∀ claim status result, .worked claim status result ∈ s.tasks → Over status
  erasing : ∀ t ∈ s.tasks, t.erases = true → Over s.row.status
  closed : ∀ e ∈ s.log, e.closes = true → Over s.row.status
  once : s.log.Pairwise fun e e' => e.closes = true → e'.isCommitted = false
  counted : s.checks ≤ min 3 s.row.attempts

theorem OneResult.told_over (safe : OneResult s) {e : Event} (told : Told step s s' e) (closes : e.closes = true) :
    Over s'.row.status := by
  cases told with
  | committed claim status result task stored =>
    rw [(Worker.commit_returns stored).2.2]
    exact safe.worked claim status result task
  | cancelled _ after =>
    rw [after]
    exact ⟨nofun, nofun, nofun⟩
  | expired tombstone =>
    rw [(Worker.mark_returns tombstone).2]
    exact over_mark _
  | evidenceDeleted _ task after =>
    rw [after]
    exact safe.erasing _ task rfl
  | _ => cases closes

theorem Told.processing {e : Event} (told : Told step s s' e) (committed : e.isCommitted = true) :
    s.row.status = .processing := by
  cases told with
  | committed _ _ _ _ stored => exact (Worker.commit_returns stored).2.1
  | _ => cases committed

theorem OneResult.kept (move : Move sha256 s step s') (safe : OneResult s) : OneResult s' := by
  obtain ⟨news, grown, told, last⟩ := move.logged
  refine ⟨?_, ?_, ?_, ?_, ?_⟩
  · intro claim status result there
    rcases move.places.mem there with old | made
    · exact safe.worked claim status result old
    · cases made
      exact Worker.inspect_over _ _ _ _
  · intro t there erases
    rcases move.places.mem there with old | made
    · exact move.over (safe.erasing t old erases)
    · cases made with
      | marked tombstone =>
        rw [(Worker.mark_returns tombstone).2]
        exact over_mark _
      | erasing _ _ task same => exact same ▸ safe.erasing _ task rfl
      | loaded task same => exact same ▸ safe.erasing _ task rfl
      | _ => cases erases
  · intro e there closes
    rw [grown] at there
    rcases List.mem_append.mp there with old | new
    · exact move.over (safe.closed e old closes)
    · exact safe.told_over (told e new) closes
  · rw [grown]
    refine List.pairwise_append.mpr ⟨safe.once, last.imp ?_, fun e old e' new closes => ?_⟩
    · rintro e e' ⟨shown, rfl⟩ closes
      cases closes
    · cases committed : e'.isCommitted with
      | false => rfl
      | true => exact absurd ((told e' new).processing committed) (safe.closed e old closes).2.2
  · have counted := safe.counted
    rcases move.checks with ⟨fewer, same⟩ | ⟨more, next⟩
    · omega
    · split at more <;> omega

theorem opening_oneResult (document : DocumentType) (profile : Profile) (deleteAfter : Instant) :
    OneResult (opening document profile deleteAfter) where
  worked := fun _ _ _ there => (by cases there)
  erasing := fun _ there => (by cases there)
  closed := by
    intro e there closes
    rw [List.mem_singleton.mp there] at closes
    cases closes
  once := List.pairwise_singleton _ _
  counted := Nat.zero_le _

theorem countP_committed_le (log : List Event)
    (once : log.Pairwise fun e e' => e.closes = true → e'.isCommitted = false) : log.countP Event.isCommitted ≤ 1 := by
  induction log with
  | nil => exact Nat.zero_le _
  | cons e log ih =>
    obtain ⟨first, later⟩ := List.pairwise_cons.mp once
    rw [List.countP_cons]
    split
    · rename_i committed
      have closes : e.closes = true := by
        cases e with
        | committed => rfl
        | _ => cases committed
      have none : log.countP Event.isCommitted = 0 :=
        List.countP_eq_zero.mpr fun e' there => by simp [first e' there closes]
      omega
    · exact ih later

/-- A result that the step stores is the row's, and one callback tells the row. -/
def CommitsWithCallback (sha256 : List UInt8 → String) (step : Step) (s : Processor) : Prop :=
  ∃ news, (next sha256 step s).log = s.log ++ news ∧
    ∀ result, .committed result ∈ news → (next sha256 step s).row.result = some result ∧
      (next sha256 step s).outbox = s.outbox ++ [snapshot (next sha256 step s).row]

theorem next_commitsWithCallback (sha256 : List UInt8 → String) (step : Step) (s : Processor) :
    CommitsWithCallback sha256 step s := by
  obtain ⟨news, grown, told, -⟩ := (next_moves sha256 step s).logged
  refine ⟨news, grown, fun result new => ?_⟩
  cases told _ new with
  | committed _ _ _ _ stored callback =>
    refine ⟨?_, callback⟩
    rw [(Worker.commit_returns stored).2.2]

/-- Over any run: one result at most, none after the verification was closed, three checks at most, and a callback
with the result. -/
theorem one_result (sha256 : List UInt8 → String) (document : DocumentType) (profile : Profile)
    (deleteAfter : Instant) (steps : List Step) :
    Runs.Throughout (next sha256)
      (fun s => s.log.countP Event.isCommitted ≤ 1 ∧
        s.log.Pairwise (fun e e' => e.closes = true → e'.isCommitted = false) ∧ s.log.countP Event.isChecked ≤ 3)
      steps (opening document profile deleteAfter) ∧
    Runs.Met (next sha256) (CommitsWithCallback sha256) steps (opening document profile deleteAfter) := by
  have kept : ∀ step s, OneResult s → OneResult (next sha256 step s) :=
    fun step s safe => safe.kept (next_moves sha256 step s)
  have first := opening_oneResult document profile deleteAfter
  constructor
  · refine Runs.throughout_of_kept kept (fun s safe => ?_) steps _ first
    have counted : s.log.countP Event.isChecked ≤ 3 :=
      (Nat.le_add_right _ _).trans (safe.counted.trans (Nat.min_le_left _ _))
    exact ⟨countP_committed_le s.log safe.once, safe.once, counted⟩
  · exact Runs.met_of_kept kept (fun step s _ => next_commitsWithCallback sha256 step s) steps _ first

end Processor
end VtsaCsms.Kyc
