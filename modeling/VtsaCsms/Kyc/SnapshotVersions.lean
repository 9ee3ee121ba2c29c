import VtsaCsms.Kyc.Moves

/-!
# Versions of snapshots

A snapshot's version tells its status and its result. It tells the whole snapshot unless the row was shown between
the two transactions of `prune`, which deletes the evidence without another version.
-/
namespace VtsaCsms.Kyc
open Foundation LiveCapture

/-- The version with what it always tells. -/
def Snapshot.fact (x : Snapshot) : Nat × Status × Option Result := (x.version, x.status, x.result)

theorem Snapshot.eq_of_fact {x y : Snapshot} (same : x.fact = y.fact) (evidence : x.evidence = y.evidence)
    (deleted : x.evidenceDeleted = y.evidenceDeleted) : x = y := by
  cases x
  cases y
  simp only [Snapshot.fact, Prod.mk.injEq] at same
  obtain ⟨rfl, rfl, rfl⟩ := same
  cases evidence
  cases deleted
  rfl

def Event.shown : Event → Option Snapshot
  | .handedOut x => some x
  | _ => none

theorem Event.shown_eq_some {e : Event} {x : Snapshot} (same : e.shown = some x) : e = .handedOut x := by
  cases e with
  | handedOut => exact congrArg Event.handedOut (Option.some.inj same)
  | _ => cases same

namespace Processor
variable {sha256 : List UInt8 → String} {step : Step} {s s' : Processor}

/-- Every snapshot that was answered or put into a callback. -/
def handedOut (s : Processor) : List Snapshot := s.log.filterMap Event.shown

/-! ### What a step keeps -/

theorem Move.snapshot (move : Move sha256 s step s') :
    s'.row.version = s.row.version + 1 ∨ Kyc.snapshot s'.row = Kyc.snapshot s.row ∨
      ∃ i copy, step = .finish i ∧ s.tasks[i]? = some (.loaded copy) ∧ s'.row = Worker.deleted s.row := by
  cases move with
  | uploaded _ _ _ row _ written =>
    refine Or.inl ?_
    change row.version = _
    rw [(KycService.upload_returns written).2.2.2]
  | submitted _ row answered waiting =>
    rcases (KycService.submit_returns answered).2 with ⟨past, -⟩ | ⟨-, -, -, rowIs⟩
    · exact absurd waiting past
    · refine Or.inl ?_
      change row.version = _
      rw [rowIs]
  | erased => exact Or.inl rfl
  | claimed _ row _ taken =>
    refine Or.inl ?_
    change row.version = _
    rw [(Worker.claim_returns taken).2.2.1]
  | inspected =>
    refine Or.inr (Or.inl ?_)
    unfold inspect
    dsimp only
    split <;> rfl
  | committed _ _ _ _ row _ stored =>
    refine Or.inl ?_
    change row.version = _
    rw [(Worker.commit_returns stored).2.2]
  | marked _ row _ tombstone =>
    have version : row.version = s.row.version + 1 := by rw [(Worker.mark_returns tombstone).2]
    unfold mark
    rw [tombstone]
    dsimp only
    split <;> exact Or.inl version
  | finished i copy task => exact Or.inr (Or.inr ⟨i, copy, rfl, task, rfl⟩)
  | started _ _ row began =>
    refine Or.inl ?_
    change row.version = _
    rw [(LiveCapture.start_returns began).2]
  | analysed i settings verdict turnsLeft now frame state _ there =>
    have row := (analyse_effects sha256 i settings verdict turnsLeft now frame state there).1
    exact Or.inr (Or.inl (congrArg Kyc.snapshot row))
  | unwritten _ _ _ _ newKey =>
    exact Or.inr (Or.inl (congrArg Kyc.snapshot (deleteNew_row s newKey)))
  | written _ _ _ _ _ _ row _ written =>
    obtain ⟨-, current, -, -, -, ⟨-, rowIs⟩ | ⟨-, rowIs⟩⟩ := LiveCapture.write_returns written
    · refine Or.inr (Or.inl ?_)
      change Kyc.snapshot row = _
      rw [rowIs]
      rfl
    · refine Or.inl ?_
      change row.version = _
      rw [rowIs]
  | swept _ row _ marked =>
    refine Or.inr (Or.inl ?_)
    change Kyc.snapshot row = _
    rw [(LiveCapture.mark_returns marked).2.2.2]
    rfl
  | sweptFile => exact Or.inr (Or.inl (congrArg Kyc.snapshot (deleteNew_row s _)))
  | cleared _ _ row _ cleared =>
    refine Or.inl ?_
    change row.version = _
    rw [(LiveCapture.clear_returns cleared).2]
  | _ => exact Or.inr (Or.inl rfl)

theorem Move.version_fact (move : Move sha256 s step s') :
    s'.row.version = s.row.version + 1 ∨ (Kyc.snapshot s'.row).fact = (Kyc.snapshot s.row).fact := by
  rcases move.snapshot with more | same | ⟨i, copy, -, -, after⟩
  · exact Or.inl more
  · exact Or.inr (congrArg Snapshot.fact same)
  · rw [after]
    exact Or.inr rfl

variable {x : Snapshot} {copy : Verification}

/-- What a step hands out: the row as it is then, or the copy that `prune` holds, without its evidence. -/
theorem Move.handsOut (move : Move sha256 s step s') (shown : x ∈ s'.handedOut) :
    x ∈ s.handedOut ∨ x = Kyc.snapshot s'.row ∨
      ∃ i copy, step = .finish i ∧ s.tasks[i]? = some (.loaded copy) ∧ s'.row = Worker.deleted s.row ∧
        x = Kyc.snapshot (Worker.deleted copy) := by
  obtain ⟨news, grown, told, -⟩ := move.logged
  obtain ⟨e, there, isShown⟩ := List.mem_filterMap.mp shown
  rw [Event.shown_eq_some isShown, grown] at there
  rcases List.mem_append.mp there with old | new
  · exact Or.inl (List.mem_filterMap.mpr ⟨_, old, rfl⟩)
  · cases told _ new with
    | handedOut => exact Or.inr (Or.inl rfl)
    | tombstone i copy own task after => exact Or.inr (Or.inr ⟨i, copy, own, task, after, rfl⟩)

/-- The evidence of a row that has lost it. -/
def EvidenceGone (row : Verification) : Prop := row.evidenceDeleted = true → row.evidence = []

theorem EvidenceGone.of_kept {row : Verification} (kept : row.evidenceDeleted = false) : EvidenceGone row := by
  intro deleted
  rw [kept] at deleted
  cases deleted

theorem Move.evidenceGone (move : Move sha256 s step s') (gone : EvidenceGone s.row) : EvidenceGone s'.row := by
  cases move with
  | uploaded _ _ _ row _ written =>
    obtain ⟨-, kept, -, rowIs⟩ := KycService.upload_returns written
    have after : row.evidenceDeleted = false := by rw [rowIs, kept]
    exact EvidenceGone.of_kept after
  | submitted _ row answered =>
    obtain ⟨kept, moved⟩ := KycService.submit_returns answered
    have after : row.evidenceDeleted = false := by
      rcases moved with ⟨-, rfl⟩ | ⟨-, -, -, rfl⟩ <;> exact kept
    exact EvidenceGone.of_kept after
  | claimed _ row _ taken =>
    obtain ⟨-, kept, rowIs, -⟩ := Worker.claim_returns taken
    have after : row.evidenceDeleted = false := by rw [rowIs, kept]
    exact EvidenceGone.of_kept after
  | inspected =>
    unfold inspect
    dsimp only
    split <;> exact gone
  | committed _ _ _ _ row _ stored =>
    have after : EvidenceGone row := by
      rw [(Worker.commit_returns stored).2.2]
      exact gone
    exact after
  | marked _ row _ tombstone =>
    obtain ⟨kept, rowIs⟩ := Worker.mark_returns tombstone
    have after : row.evidenceDeleted = false := by rw [rowIs, kept]
    unfold mark
    rw [tombstone]
    dsimp only
    split <;> exact EvidenceGone.of_kept after
  | finished => exact fun _ => rfl
  | started _ _ row began =>
    obtain ⟨waits, rowIs⟩ := LiveCapture.start_returns began
    have after : row.evidenceDeleted = false := by rw [rowIs, (pending_returns waits).2.1]
    exact EvidenceGone.of_kept after
  | analysed i settings verdict turnsLeft now frame state _ there =>
    rw [(analyse_effects sha256 i settings verdict turnsLeft now frame state there).1]
    exact gone
  | unwritten _ _ _ _ newKey =>
    change EvidenceGone (s.deleteNew newKey).row
    rwa [deleteNew_row]
  | written _ _ _ _ _ _ row _ written =>
    obtain ⟨waits, current, -, -, -, moved⟩ := LiveCapture.write_returns written
    have kept := (pending_returns waits).2.1
    have after : row.evidenceDeleted = false := by
      rcases moved with ⟨-, rfl⟩ | ⟨-, rfl⟩ <;> exact kept
    exact EvidenceGone.of_kept after
  | swept _ row _ marked =>
    have after : EvidenceGone row := by
      rw [(LiveCapture.mark_returns marked).2.2.2]
      exact gone
    exact after
  | sweptFile =>
    change EvidenceGone (s.deleteNew _).row
    rwa [deleteNew_row]
  | cleared _ _ row _ cleared =>
    have after : EvidenceGone row := by
      rw [(LiveCapture.clear_returns cleared).2]
      intro deleted
      rw [gone deleted]
      rfl
    exact after
  | _ => exact gone

/-! ### Facts -/

/-- What has been told of the row under its versions: by itself, by the copies that `prune` holds and by every
snapshot. -/
inductive Known (s : Processor) : Nat × Status × Option Result → Prop where
  | row : Known s (Kyc.snapshot s.row).fact
  | copy (copy : Verification) (task : .loaded copy ∈ s.tasks) : Known s (Kyc.snapshot copy).fact
  | shown (x : Snapshot) (there : x ∈ s.handedOut) : Known s x.fact

theorem Move.known (move : Move sha256 s step s') {f : Nat × Status × Option Result} (known : Known s' f) :
    Known s f ∨ f = (Kyc.snapshot s'.row).fact := by
  cases known with
  | row => exact Or.inr rfl
  | copy copy task =>
    rcases move.places.mem task with old | made
    · exact Or.inl (.copy copy old)
    · cases made with
      | loaded => exact Or.inl .row
  | shown x there =>
    rcases move.handsOut there with old | rfl | ⟨i, copy, -, task, -, rfl⟩
    · exact Or.inl (.shown x old)
    · exact Or.inr rfl
    · exact Or.inl (.copy copy (List.mem_of_getElem? task))

/-- One version, one status and one result, none of them ahead of the row. -/
structure Versioned (s : Processor) : Prop where
  positive : ∀ f, Known s f → 0 < f.1
  below : ∀ f, Known s f → f.1 ≤ s.row.version
  one : ∀ f g, Known s f → Known s g → f.1 = g.1 → f = g

theorem Versioned.kept (move : Move sha256 s step s') (versioned : Versioned s) : Versioned s' := by
  have step' : s.row.version ≤ s'.row.version ∧ ∀ f, Known s f → f.1 = s'.row.version → f = (Kyc.snapshot s'.row).fact := by
    rcases move.version_fact with more | same
    · refine ⟨by omega, fun f known equal => ?_⟩
      have := versioned.below f known
      omega
    · have version : s'.row.version = s.row.version := congrArg Prod.fst same
      refine ⟨version.ge, fun f known equal => ?_⟩
      rw [same]
      exact versioned.one f _ known .row (equal.trans version)
  refine ⟨fun f known => ?_, fun f known => ?_, fun f g known known' equal => ?_⟩
  · rcases move.known known with old | rfl
    · exact versioned.positive f old
    · exact lt_of_lt_of_le (versioned.positive _ .row) step'.1
  · rcases move.known known with old | rfl
    · exact (versioned.below f old).trans step'.1
    · exact le_refl _
  · rcases move.known known with old | rfl
    · rcases move.known known' with old' | rfl
      · exact versioned.one f g old old' equal
      · exact step'.2 f old equal
    · rcases move.known known' with old' | rfl
      · exact (step'.2 g old' equal.symm).symm
      · rfl

/-! ### Whole snapshots -/

/-- The copy that a second transaction of `prune` is about to write from. -/
def finishing (step : Step) (s : Processor) : Option Verification :=
  match step with
  | .finish i =>
    match s.tasks[i]? with
    | some (.loaded copy) => some copy
    | _ => none
  | _ => none

/-- Where `prune` finishes, the versions of the row and of its copy have been shown only without evidence. -/
def Unshown (step : Step) (s : Processor) : Prop :=
  ∀ copy ∈ finishing step s,
    ∀ x ∈ s.handedOut, x.version = copy.version ∨ x.version = s.row.version → x.evidenceDeleted = true

instance (step : Step) (s : Processor) : Decidable (Unshown step s) :=
  inferInstanceAs (Decidable (∀ copy ∈ finishing step s,
    ∀ x ∈ s.handedOut, x.version = copy.version ∨ x.version = s.row.version → x.evidenceDeleted = true))

theorem Unshown.finish {i : Nat} (unshown : Unshown (.finish i) s)
    (task : s.tasks[i]? = some (.loaded copy)) (there : x ∈ s.handedOut)
    (equal : x.version = copy.version ∨ x.version = s.row.version) : x.evidenceDeleted = true := by
  have held : finishing (.finish i) s = some copy := by simp [finishing, task]
  exact unshown copy held x there equal

structure Agreeing (s : Processor) : Prop where
  versioned : Versioned s
  gone : EvidenceGone s.row
  goneShown : ∀ x ∈ s.handedOut, x.evidenceDeleted = true → x.evidence = []
  current : ∀ x ∈ s.handedOut, x.version = s.row.version → x = Kyc.snapshot s.row
  agree : ∀ x ∈ s.handedOut, ∀ y ∈ s.handedOut, x.version = y.version → x = y

/-- A snapshot without evidence is that of any copy it shares its fact with, once that has lost its evidence. -/
theorem eq_tombstone (fact : x.fact = (Kyc.snapshot copy).fact)
    (evidence : x.evidence = []) (deleted : x.evidenceDeleted = true) : x = Kyc.snapshot (Worker.deleted copy) :=
  Snapshot.eq_of_fact fact evidence deleted

/-- A snapshot that was shown before `prune` finishes, of its copy's version or the row's, is the row's or the
copy's without evidence. -/
theorem Agreeing.shown_tombstone (safe : Agreeing s) (there : x ∈ s.handedOut)
    (known : Known s (Kyc.snapshot copy).fact) (equal : x.version = copy.version) (deleted : x.evidenceDeleted = true) :
    x = Kyc.snapshot (Worker.deleted copy) :=
  eq_tombstone (safe.versioned.one _ _ (.shown x there) known equal) (safe.goneShown x there deleted) deleted

theorem Agreeing.kept_current (move : Move sha256 s step s') (safe : Agreeing s) (unshown : Unshown step s)
    (there : x ∈ s'.handedOut) (equal : x.version = s'.row.version) : x = Kyc.snapshot s'.row := by
  rcases move.handsOut there with old | rfl | ⟨i, copy, own, task, after, rfl⟩
  · rcases move.snapshot with more | same | ⟨i, copy, own, task, after⟩
    · have below : x.version ≤ s.row.version := safe.versioned.below _ (.shown x old)
      omega
    · have version : s'.row.version = s.row.version := congrArg Kyc.Snapshot.version same
      rw [same]
      exact safe.current x old (equal.trans version)
    · subst own
      rw [after] at equal ⊢
      exact safe.shown_tombstone old .row equal (unshown.finish task old (Or.inr equal))
  · rfl
  · rw [after] at equal ⊢
    have known : Known s (Kyc.snapshot copy).fact := .copy copy (List.mem_of_getElem? task)
    exact eq_tombstone (safe.versioned.one _ _ known .row equal) rfl rfl

theorem Agreeing.kept_agree (move : Move sha256 s step s') (safe : Agreeing s) (unshown : Unshown step s)
    {y : Snapshot} (there : x ∈ s'.handedOut) (there' : y ∈ s'.handedOut) (equal : x.version = y.version) : x = y := by
  -- An old snapshot of the version of a copy that is finished now.
  have finished : ∀ {z : Snapshot} {i : Nat} {copy : Verification}, z ∈ s.handedOut → step = .finish i →
      s.tasks[i]? = some (.loaded copy) → z.version = copy.version → z = Kyc.snapshot (Worker.deleted copy) :=
    fun old own task equal => safe.shown_tombstone old (.copy _ (List.mem_of_getElem? task)) equal
      (Unshown.finish (own ▸ unshown) task old (Or.inl equal))
  rcases move.handsOut there' with old' | rfl | ⟨i, copy, own, task, -, rfl⟩
  · rcases move.handsOut there with old | rfl | ⟨i, copy, own, task, -, rfl⟩
    · exact safe.agree x old y old' equal
    · exact (safe.kept_current move unshown there' equal.symm).symm
    · exact (finished old' own task equal.symm).symm
  · exact safe.kept_current move unshown there equal
  · rcases move.handsOut there with old | rfl | ⟨j, copy', own', task', -, rfl⟩
    · exact finished old own task equal
    · exact (safe.kept_current move unshown there' equal.symm).symm
    · cases own.symm.trans own'
      cases task.symm.trans task'
      rfl

theorem Agreeing.kept (move : Move sha256 s step s') (safe : Agreeing s) (unshown : Unshown step s) : Agreeing s' where
  versioned := safe.versioned.kept move
  gone := move.evidenceGone safe.gone
  goneShown := by
    intro x there deleted
    rcases move.handsOut there with old | rfl | ⟨i, copy, -, -, -, rfl⟩
    · exact safe.goneShown x old deleted
    · have empty : s'.row.evidence = [] := move.evidenceGone safe.gone deleted
      exact congrArg (List.map _) empty
    · rfl
  current := fun _ there equal => safe.kept_current move unshown there equal
  agree := fun _ there _ there' equal => safe.kept_agree move unshown there there' equal

theorem opening_agreeing (document : DocumentType) (profile : Profile) (deleteAfter : Instant) :
    Agreeing (opening document profile deleteAfter) := by
  have known : ∀ f, Known (opening document profile deleteAfter) f → f = (1, .pendingUpload, none) := by
    intro f known
    cases known with
    | row => rfl
    | copy _ task => cases task
    | shown _ there => rw [List.mem_singleton.mp there]; rfl
  have shown : ∀ x ∈ (opening document profile deleteAfter).handedOut,
      x = Kyc.snapshot (opening document profile deleteAfter).row := fun x there => List.mem_singleton.mp there
  refine ⟨⟨fun f this => ?_, fun f this => ?_, fun f g this that _ => ?_⟩, fun _ => rfl, fun x there _ => ?_,
    fun x there _ => shown x there, fun x there y there' _ => (shown x there).trans (shown y there').symm⟩
  · rw [known f this]
    exact Nat.one_pos
  · rw [known f this]
    exact le_refl _
  · rw [known f this, known g that]
  · rw [shown x there]
    rfl

end Processor

/-! ### The platform -/

/-- What the platform keeps of a verification's snapshots. -/
structure Kept where
  serviceVersion : Nat := 0
  evidence : Option (List Evidence) := none
  evidenceDeleted : Bool := false
  result : Option Result := none

/-- `KycService.apply`, as to what a snapshot says: one that is not newer changes nothing. -/
def Kept.apply (kept : Kept) (data : Snapshot) : Kept :=
  if kept.serviceVersion < data.version then
    { serviceVersion := data.version, evidence := some data.evidence, evidenceDeleted := data.evidenceDeleted
      result := data.result }
  else kept

/-- What it keeps of the snapshots that came, in the order they came in. -/
def Kept.applyAll (deliveries : List Snapshot) : Kept := deliveries.foldl Kept.apply {}

/-- It keeps the facts of that snapshot. -/
def Kept.Holds (kept : Kept) (x : Snapshot) : Prop :=
  kept.evidence = some x.evidence ∧ kept.evidenceDeleted = x.evidenceDeleted ∧ kept.result = x.result

theorem Kept.foldl_apply (deliveries : List Snapshot) (kept : Kept) :
    (deliveries.foldl Kept.apply kept = kept ∨ ∃ x ∈ deliveries,
      (deliveries.foldl Kept.apply kept).serviceVersion = x.version ∧ (deliveries.foldl Kept.apply kept).Holds x) ∧
    kept.serviceVersion ≤ (deliveries.foldl Kept.apply kept).serviceVersion ∧
    ∀ x ∈ deliveries, x.version ≤ (deliveries.foldl Kept.apply kept).serviceVersion := by
  induction deliveries generalizing kept with
  | nil => exact ⟨Or.inl rfl, le_refl _, fun _ there => (by cases there)⟩
  | cons d rest ih =>
    obtain ⟨source, grows, covers⟩ := ih (kept.apply d)
    have taken : kept.serviceVersion ≤ (kept.apply d).serviceVersion ∧ d.version ≤ (kept.apply d).serviceVersion := by
      unfold Kept.apply
      split
      · rename_i newer
        exact ⟨newer.le, le_refl _⟩
      · rename_i older
        exact ⟨le_refl _, not_lt.mp older⟩
    rw [List.foldl_cons]
    refine ⟨?_, taken.1.trans grows, fun x there => ?_⟩
    · rcases source with same | ⟨x, there, found⟩
      · rw [same]
        unfold Kept.apply
        split
        · exact Or.inr ⟨d, List.mem_cons_self, rfl, rfl, rfl, rfl⟩
        · exact Or.inl rfl
      · exact Or.inr ⟨x, List.mem_cons_of_mem d there, found⟩
    · rcases List.mem_cons.mp there with rfl | later
      · exact taken.2.trans grows
      · exact covers x later

/-- Where a version tells the snapshot, the platform keeps no stale fact of its version, whatever came in which
order. -/
theorem Kept.applyAll_fresh {deliveries : List Snapshot}
    (agree : ∀ x ∈ deliveries, ∀ y ∈ deliveries, x.version = y.version → x = y)
    (positive : ∀ x ∈ deliveries, 0 < x.version) {x : Snapshot} (there : x ∈ deliveries) :
    x.version ≤ (Kept.applyAll deliveries).serviceVersion ∧
      (x.version = (Kept.applyAll deliveries).serviceVersion → (Kept.applyAll deliveries).Holds x) := by
  obtain ⟨source, -, covers⟩ := Kept.foldl_apply deliveries {}
  refine ⟨covers x there, fun equal => ?_⟩
  rcases source with same | ⟨y, came, version, holds⟩
  · have initial : (Kept.applyAll deliveries).serviceVersion = 0 := congrArg Kept.serviceVersion same
    have := positive x there
    omega
  · rw [agree x there y came (equal.trans version)]
    exact holds

namespace Processor

/-- An image, the verification past its day, and `prune` up to its second transaction. -/
def pruned : List Step :=
  [.upload .front [1] ⟨.front, 640, 480, 1, 100⟩, .uploadWrite 0, .prune 10, .mark 1, .eraseFiles 1, .load 1]

end Processor
end VtsaCsms.Kyc
