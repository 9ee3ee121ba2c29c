import VtsaCsms.Settlements.SettlementService

/-!
# What is settled

Whether every batch is accepted once, for the sum it was approved with, by another actor than the one who prepared
it, and no source is paid in two settled batches: exactly when no submission and no save goes against it.
-/
namespace VtsaCsms.Settlements
open Foundation

/-- A settlement that the provider has accepted for the batch. -/
def Submission.pays (batch : Nat) (x : Submission) : Bool := x.accepted && x.settlementBatchId == batch

namespace Tables
open SettlementService

def settled (s : Tables) (batch : Nat) : Bool := (s.batches[batch]?).any fun row => row.settledAt.isSome

/-- What the adjustments come to that were added since the batch was last approved. -/
def sinceApproval (s : Tables) (batch : Nat) : Int :=
  match s.lastApproval batch with
  | none => 0
  | some approval => adjustmentsMinor (s.adjustments.drop approval.adjustments) batch

/-- A settlement pays what was approved, once. -/
structure Sound (s : Tables) : Prop where
  once : ∀ batch, s.submissions.countP (Submission.pays batch) ≤ 1
  amounts : ∀ x ∈ s.submissions, x.approvedMinor = some x.amountMinor
  approvers : ∀ row ∈ s.batches, row.approvedBy.isSome → row.approvedBy ≠ row.preparedBy
  payees : ∀ x ∈ s.items, ∀ y ∈ s.items, x.payee = y.payee → x.settlementBatchId ≠ y.settlementBatchId →
    s.settled x.settlementBatchId = true → s.settled y.settlementBatchId = false

/-- A submission is clear where nothing was added since the approval, and the provider has not accepted the batch or
knows the key; a save as settled, where no source of the batch is in another settled batch. -/
def Clear : Call → Tables → Prop
  | .submit i key answer, s => ∀ batch ∈ s.loaded[i]?, ∀ configurationId ∈ batch.row.providerConfigId,
      batch.row.status = .approved → 0 ≤ s.totalMinor batch.key →
        s.sinceApproval batch.key = 0 ∧
        (answer.done = true → knows s configurationId key = false → s.submissions.any (Submission.pays batch.key) = false)
  | .settle i _, s => ∀ batch ∈ s.answered[i]?, ∀ x ∈ s.items, ∀ y ∈ s.items, x.payee = y.payee →
      x.settlementBatchId = batch.key → y.settlementBatchId ≠ batch.key → s.settled y.settlementBatchId = false
  | _, _ => True

/-- What a call does: nothing, where it throws or its object is not there, or the writes it is made for. -/
inductive Move (s : Tables) : Call → Tables → Prop where
  | refused (call : Call) (clear : Clear call s) : Move s call s
  | prepared (configurationId currency : String) (start stop : Instant) (items : List Item)
      (actorId : Option String) (now : Instant) (batch : SettlementBatch) (rows : List SettlementItem)
      (waiting : batch.status = .prepared) (unapproved : batch.approvedBy = none) (unsettled : batch.settledAt = none)
      (own : ∀ row ∈ rows, row.settlementBatchId = s.batches.length) :
      Move s (.prepare configurationId currency start stop items actorId now)
        { s with
          batches := s.batches ++ [batch]
          items := s.items ++ rows
          loaded := s.loaded ++ [⟨s.batches.length, batch⟩] }
  | adjusted (i : Nat) (beneficiaryType beneficiaryId : String) (amountMinor : Int) (reasonCode notes : String)
      (actorId : Option String) (row : SettlementAdjustment) :
      Move s (.addAdjustment i beneficiaryType beneficiaryId amountMinor reasonCode notes actorId)
        { s with adjustments := s.adjustments ++ [row] }
  | approved (i : Nat) (actorId : Option String) (now : Instant) (batch : BatchObject)
      (there : s.loaded[i]? = some batch) (different : actorId ≠ batch.row.preparedBy) :
      Move s (.approve i actorId now)
        { s.save batch.key (fun row =>
            { row with status := .approved, approvedBy := actorId, approvedAt := some now }) with
          approvals := ⟨batch.key, s.totalMinor batch.key, s.adjustments.length⟩ :: s.approvals }
  | submitted (i : Nat) (key : String) (answer : Answer) (batch : BatchObject) (configurationId : String)
      (there : s.loaded[i]? = some batch) (configured : batch.row.providerConfigId = some configurationId)
      (standing : batch.row.status = .approved) (payable : 0 ≤ s.totalMinor batch.key) :
      Move s (.submit i key answer)
        { s with
          submissions := s.submissions ++ [⟨batch.key, configurationId, s.totalMinor batch.key, batch.row.currency,
            key, answer.done && !knows s configurationId key, (s.lastApproval batch.key).map Approval.totalMinor⟩]
          answered := s.answered ++ if answer = .succeeded then [batch] else [] }
  | settled (i : Nat) (now : Instant) (batch : BatchObject) (there : s.answered[i]? = some batch) :
      Move s (.settle i now)
        { s.save batch.key (fun row => { row with status := .settled, settledAt := some now }) with
          answered := s.answered.eraseIdx i }

variable {s s' : Tables} {call : Call}
variable {batch : Nat} {rows : List SettlementItem} {f : SettlementBatch → SettlementBatch}

theorem prepareItem_ok {item : Item} {row : SettlementItem} (made : prepareItem batch item = .ok row) :
    row.settlementBatchId = batch := by
  unfold prepareItem at made
  dsimp only at made
  split at made
  · cases made
  · cases made
    rfl

theorem prepareItems_ok {items : List Item}
    (made : items.mapM (prepareItem batch) = .ok rows) : ∀ row ∈ rows, row.settlementBatchId = batch := by
  induction items generalizing rows with
  | nil =>
    cases made
    simp
  | cons item rest ih =>
    rw [List.mapM_cons] at made
    cases first : prepareItem batch item with
    | error =>
      rw [first] at made
      cases made
    | ok =>
      cases later : rest.mapM (prepareItem batch) with
      | error =>
        rw [first, later] at made
        cases made
      | ok =>
        rw [first, later] at made
        cases made
        exact List.forall_mem_cons.mpr ⟨prepareItem_ok first, ih later⟩

theorem next_moves (call : Call) (s : Tables) : Move s call (next call s) := by
  cases call with
  | prepare configurationId currency start stop items actorId now =>
    simp only [next, prepare]
    split
    · exact .refused _ trivial
    · cases made : items.mapM (prepareItem s.batches.length) with
      | error => exact .refused _ trivial
      | ok rows =>
        exact .prepared configurationId currency start stop items actorId now _ rows rfl rfl rfl (prepareItems_ok made)
  | addAdjustment i beneficiaryType beneficiaryId amountMinor reasonCode notes =>
    simp only [next]
    split
    · exact .refused _ trivial
    · simp only [addAdjustment]
      split
      · exact .refused _ trivial
      · split
        · exact .refused _ trivial
        · exact .adjusted i beneficiaryType beneficiaryId amountMinor reasonCode notes _ _
  | approve i actorId now =>
    simp only [next]
    split
    · exact .refused _ trivial
    · rename_i batch there
      simp only [approve]
      split
      · exact .refused _ trivial
      · rename_i passed
        exact .approved i actorId now batch there fun same => passed (Or.inr (Or.inr same))
  | submit i key answer =>
    simp only [next]
    split
    · rename_i missing
      exact .refused _ fun batch there => by
        rw [missing] at there
        cases there
    · rename_i batch there
      simp only [submit]
      split
      · rename_i configurationId standing configured
        split
        · rename_i negative
          refine .refused _ fun other same configurationId' _ _ payable => ?_
          rw [there] at same
          cases same
          omega
        · rename_i payable
          exact .submitted i key answer batch configurationId there configured standing (by omega)
      · rename_i otherwise
        refine .refused _ fun other same configurationId configured standing _ => ?_
        rw [there] at same
        cases same
        exact absurd configured (otherwise configurationId standing)
  | settle i now =>
    simp only [next]
    split
    · rename_i missing
      exact .refused _ fun batch there => by
        rw [missing] at there
        cases there
    · rename_i batch there
      exact .settled i now batch there

/-! ### Saves -/

theorem save_batch (s : Tables) (batch : Nat) (f : SettlementBatch → SettlementBatch) (k : Nat) :
    (s.save batch f).batches[k]? = if batch = k then (s.batches[k]?).map f else s.batches[k]? := by
  change (s.batches.modify batch f)[k]? = _
  rw [List.getElem?_modify]
  by_cases same : batch = k
  · simp [same]
  · simp [same]

theorem length_save (s : Tables) (batch : Nat) (f : SettlementBatch → SettlementBatch) :
    (s.save batch f).batches.length = s.batches.length :=
  List.length_modify ..

theorem mem_save {row : SettlementBatch} (member : row ∈ (s.save batch f).batches) :
    row ∈ s.batches ∨ ∃ old, s.batches[batch]? = some old ∧ row = f old := by
  obtain ⟨k, stored⟩ := List.mem_iff_getElem?.mp member
  rw [save_batch] at stored
  by_cases same : batch = k
  · rw [if_pos same, ← same, Option.map_eq_some_iff] at stored
    obtain ⟨old, found, changed⟩ := stored
    exact Or.inr ⟨old, found, changed.symm⟩
  · rw [if_neg same] at stored
    exact Or.inl (List.mem_of_getElem? stored)

theorem mem_loaded_save {o : BatchObject} (member : o ∈ (s.save batch f).loaded) :
    o ∈ s.loaded ∨ ∃ row, s.batches[batch]? = some row ∧ o = ⟨batch, f row⟩ := by
  rcases List.mem_append.mp member with old | new
  · exact Or.inl old
  · obtain ⟨row, found, same⟩ := List.mem_map.mp new
    exact Or.inr ⟨row, Option.mem_toList.mp found, same.symm⟩

theorem settled_save (s : Tables) (batch : Nat)
    (same : ∀ row, (f row).settledAt = row.settledAt) (k : Nat) : (s.save batch f).settled k = s.settled k := by
  unfold settled
  rw [save_batch]
  split
  · cases s.batches[k]? with
    | none => rfl
    | some row => simp [same row]
  · rfl

/-! ### What every call keeps -/

/-- What an object, an item or an approval tells of its batch. -/
structure Known (s : Tables) : Prop where
  objects : ∀ o ∈ s.loaded, ∃ row, s.batches[o.key]? = some row ∧ o.row.preparedBy = row.preparedBy
  answers : ∀ o ∈ s.answered, o ∈ s.loaded
  items : ∀ item ∈ s.items, item.settlementBatchId < s.batches.length
  approvals : ∀ a ∈ s.approvals, a.settlementBatchId < s.batches.length ∧ a.adjustments ≤ s.adjustments.length ∧
    a.totalMinor = s.itemsMinor a.settlementBatchId +
      adjustmentsMinor (s.adjustments.take a.adjustments) a.settlementBatchId
  standing : ∀ o ∈ s.loaded, o.row.status = .approved → (s.lastApproval o.key).isSome

theorem objects_save (same : ∀ row, (f row).preparedBy = row.preparedBy)
    (objects : ∀ o ∈ s.loaded, ∃ row, s.batches[o.key]? = some row ∧ o.row.preparedBy = row.preparedBy) :
    ∀ o ∈ (s.save batch f).loaded,
      ∃ row, (s.save batch f).batches[o.key]? = some row ∧ o.row.preparedBy = row.preparedBy := by
  intro o member
  have stored : ∃ row, s.batches[o.key]? = some row ∧ o.row.preparedBy = row.preparedBy := by
    rcases mem_loaded_save member with old | ⟨row, found, rfl⟩
    · exact objects o old
    · exact ⟨row, found, same row⟩
  obtain ⟨row, found, preparer⟩ := stored
  rw [save_batch, found]
  split
  · exact ⟨f row, rfl, preparer.trans (same row).symm⟩
  · exact ⟨row, rfl, preparer⟩

theorem Move.objects (move : Move s call s') (known : Known s) :
    ∀ o ∈ s'.loaded, ∃ row, s'.batches[o.key]? = some row ∧ o.row.preparedBy = row.preparedBy := by
  cases move with
  | prepared _ _ _ _ _ _ _ batch =>
    intro o member
    rcases List.mem_append.mp member with old | new
    · obtain ⟨row, found, preparer⟩ := known.objects o old
      have inside : o.key < s.batches.length := (List.getElem?_eq_some_iff.mp found).1
      exact ⟨row, (List.getElem?_append_left inside).trans found, preparer⟩
    · rw [List.mem_singleton.mp new]
      exact ⟨batch, by simp, rfl⟩
  | approved => exact objects_save (fun _ => rfl) known.objects
  | settled => exact objects_save (fun _ => rfl) known.objects
  | _ => exact known.objects

theorem Move.answers (move : Move s call s') (known : Known s) : ∀ o ∈ s'.answered, o ∈ s'.loaded := by
  cases move with
  | submitted _ _ _ _ _ there =>
    intro o member
    rcases List.mem_append.mp member with old | new
    · exact known.answers o old
    · split at new
      · rw [List.mem_singleton.mp new]
        exact List.mem_of_getElem? there
      · cases new
  | settled =>
    intro o member
    exact List.mem_append_left _ (known.answers o (List.mem_of_mem_eraseIdx member))
  | refused => exact known.answers
  | adjusted => exact known.answers
  | _ => exact fun o member => List.mem_append_left _ (known.answers o member)

theorem Move.items (move : Move s call s') (known : Known s) :
    ∀ item ∈ s'.items, item.settlementBatchId < s'.batches.length := by
  cases move with
  | prepared _ _ _ _ items _ _ _ _ _ _ _ own =>
    intro item member
    rw [List.length_append, List.length_singleton]
    rcases List.mem_append.mp member with old | new
    · have := known.items item old
      omega
    · rw [own item new]
      omega
  | approved =>
    intro item member
    exact lt_of_lt_of_eq (known.items item member) (length_save ..).symm
  | settled =>
    intro item member
    exact lt_of_lt_of_eq (known.items item member) (length_save ..).symm
  | _ => exact known.items

theorem itemsMinor_append {fresh : Nat}
    (own : ∀ row ∈ rows, row.settlementBatchId = fresh) (other : batch ≠ fresh) (items : List SettlementItem) :
    (((items ++ rows).filter fun item => item.settlementBatchId == batch).map SettlementItem.netMinor).sum =
      ((items.filter fun item => item.settlementBatchId == batch).map SettlementItem.netMinor).sum := by
  have none : rows.filter (fun item => item.settlementBatchId == batch) = [] := by
    rw [List.filter_eq_nil_iff]
    intro row member same
    exact other ((beq_iff_eq.mp same).symm.trans (own row member))
  rw [List.filter_append, none, List.append_nil]

theorem Move.approvals (move : Move s call s') (known : Known s) :
    ∀ a ∈ s'.approvals, a.settlementBatchId < s'.batches.length ∧ a.adjustments ≤ s'.adjustments.length ∧
      a.totalMinor = s'.itemsMinor a.settlementBatchId +
        adjustmentsMinor (s'.adjustments.take a.adjustments) a.settlementBatchId := by
  cases move with
  | prepared _ _ _ _ items _ _ _ _ _ _ _ own =>
    intro a member
    obtain ⟨inside, counted, total⟩ := known.approvals a member
    refine ⟨?_, counted, ?_⟩
    · rw [List.length_append]
      omega
    · rw [total]
      exact congrArg (· + _) (itemsMinor_append own (Nat.ne_of_lt inside) s.items).symm
  | adjusted =>
    intro a member
    obtain ⟨inside, counted, total⟩ := known.approvals a member
    refine ⟨inside, ?_, ?_⟩
    · rw [List.length_append]
      omega
    · rw [List.take_append_of_le_length counted]
      exact total
  | approved _ _ _ batch there =>
    refine List.forall_mem_cons.mpr ⟨⟨?_, le_refl _, ?_⟩, ?_⟩
    · obtain ⟨row, found, -⟩ := known.objects batch (List.mem_of_getElem? there)
      exact lt_of_lt_of_eq (List.getElem?_eq_some_iff.mp found).1 (length_save ..).symm
    · change s.totalMinor batch.key = s.itemsMinor batch.key +
        adjustmentsMinor (s.adjustments.take s.adjustments.length) batch.key
      rw [List.take_length]
      rfl
    · intro a member
      obtain ⟨inside, counted, total⟩ := known.approvals a member
      exact ⟨lt_of_lt_of_eq inside (length_save ..).symm, counted, total⟩
  | settled =>
    intro a member
    obtain ⟨inside, counted, total⟩ := known.approvals a member
    exact ⟨lt_of_lt_of_eq inside (length_save ..).symm, counted, total⟩
  | _ => exact known.approvals

theorem Move.standing (move : Move s call s') (known : Known s) :
    ∀ o ∈ s'.loaded, o.row.status = .approved → (s'.lastApproval o.key).isSome := by
  cases move with
  | prepared _ _ _ _ _ _ _ _ _ waiting =>
    intro o member approved
    rcases List.mem_append.mp member with old | new
    · exact known.standing o old approved
    · rw [List.mem_singleton.mp new] at approved
      rw [waiting] at approved
      cases approved
  | approved i actorId now batch there different =>
    intro o member approved
    change (List.find? _ (_ :: s.approvals)).isSome
    rw [List.find?_cons]
    split
    · rfl
    · rename_i other
      rcases mem_loaded_save member with old | ⟨row, found, rfl⟩
      · exact known.standing o old approved
      · simp at other
  | settled =>
    intro o member approved
    rcases mem_loaded_save member with old | ⟨row, found, rfl⟩
    · exact known.standing o old approved
    · cases approved
  | _ => exact known.standing

theorem Move.known (move : Move s call s') (known : Known s) : Known s' :=
  ⟨move.objects known, move.answers known, move.items known, move.approvals known, move.standing known⟩

/-! ### The exact condition -/

theorem adjustmentsMinor_append (xs ys : List SettlementAdjustment) (batch : Nat) :
    adjustmentsMinor (xs ++ ys) batch = adjustmentsMinor xs batch + adjustmentsMinor ys batch := by
  simp [adjustmentsMinor]

theorem totalMinor_eq {approval : Approval} (known : Known s) (last : s.lastApproval batch = some approval) :
    s.totalMinor batch = approval.totalMinor + s.sinceApproval batch := by
  have own : approval.settlementBatchId = batch := by
    simpa using List.find?_some (p := fun a : Approval => a.settlementBatchId == batch) last
  obtain ⟨-, -, total⟩ := known.approvals approval (List.mem_of_find?_eq_some last)
  rw [own] at total
  have split := adjustmentsMinor_append (s.adjustments.take approval.adjustments)
    (s.adjustments.drop approval.adjustments) batch
  rw [List.take_append_drop] at split
  simp only [totalMinor, sinceApproval, last, total, split]
  omega

theorem countP_pays_append (xs : List Submission) (x : Submission) (batch : Nat) :
    (xs ++ [x]).countP (Submission.pays batch) =
      xs.countP (Submission.pays batch) + if x.pays batch then 1 else 0 := by
  rw [List.countP_append, List.countP_singleton]

theorem Sound.of_submissions (sound : Sound s) (batches : s'.batches = s.batches) (items : s'.items = s.items)
    (once : ∀ batch, s'.submissions.countP (Submission.pays batch) ≤ 1)
    (amounts : ∀ x ∈ s'.submissions, x.approvedMinor = some x.amountMinor) : Sound s' := by
  refine ⟨once, amounts, ?_, ?_⟩
  · rw [batches]
    exact sound.approvers
  · have settled' : s'.settled = s.settled := by
      unfold settled
      rw [batches]
    rw [items, settled']
    exact sound.payees

theorem settled_append {batch : SettlementBatch} {objects : List BatchObject}
    (unsettled : batch.settledAt = none) (k : Nat) :
    settled { s with batches := s.batches ++ [batch], items := rows, loaded := objects } k = s.settled k := by
  unfold settled
  dsimp only
  rcases Nat.lt_trichotomy k s.batches.length with inside | new | outside
  · rw [List.getElem?_append_left inside]
  · simp [new, unsettled]
  · rw [List.getElem?_eq_none (by simp; omega), List.getElem?_eq_none (by omega)]

theorem settled_outside {k : Nat} (outside : s.batches.length ≤ k) : s.settled k = false := by
  unfold settled
  rw [List.getElem?_eq_none outside]
  rfl

theorem settled_settle {batch : BatchObject} {row : SettlementBatch} (found : s.batches[batch.key]? = some row)
    (now : Instant) (k : Nat) :
    (settle batch now s).settled k = if batch.key = k then true else s.settled k := by
  unfold settled settle
  rw [save_batch]
  by_cases same : batch.key = k
  · rw [if_pos same, if_pos same, ← same, found]
    rfl
  · rw [if_neg same, if_neg same]

theorem Sound.prepared {batch : SettlementBatch} {objects : List BatchObject}
    (sound : Sound s) (unapproved : batch.approvedBy = none) (unsettled : batch.settledAt = none)
    (own : ∀ row ∈ rows, row.settlementBatchId = s.batches.length) :
    Sound { s with batches := s.batches ++ [batch], items := s.items ++ rows, loaded := objects } := by
  refine ⟨sound.once, sound.amounts, ?_, ?_⟩
  · intro row member
    rcases List.mem_append.mp member with old | new
    · exact sound.approvers row old
    · intro approved
      rw [List.mem_singleton.mp new, unapproved] at approved
      cases approved
  · intro x inX y inY same different paid
    rw [settled_append unsettled] at paid ⊢
    rcases List.mem_append.mp inX with oldX | newX
    · rcases List.mem_append.mp inY with oldY | newY
      · exact sound.payees x oldX y oldY same different paid
      · exact settled_outside (le_of_eq (own y newY).symm)
    · rw [settled_outside (le_of_eq (own x newX).symm)] at paid
      cases paid

theorem Sound.approved {batch : BatchObject} {actorId : Option String} {now : Instant} {approvals : List Approval}
    (sound : Sound s) (known : Known s) (there : batch ∈ s.loaded) (different : actorId ≠ batch.row.preparedBy) :
    Sound { s.save batch.key (fun row =>
      { row with status := .approved, approvedBy := actorId, approvedAt := some now }) with
      approvals := approvals } := by
  refine ⟨sound.once, sound.amounts, ?_, ?_⟩
  · intro row member approved
    rcases mem_save member with old | ⟨old, found, rfl⟩
    · exact sound.approvers row old approved
    · obtain ⟨row, found', preparer⟩ := known.objects batch there
      rw [found] at found'
      cases found'
      exact fun same => different (same.trans preparer.symm)
  · intro x inX y inY same distinct paid
    have unchanged := settled_save s batch.key (f := fun row =>
      { row with status := .approved, approvedBy := actorId, approvedAt := some now }) fun _ => rfl
    exact (unchanged _).trans (sound.payees x inX y inY same distinct ((unchanged _).symm.trans paid))

/-- A submission leaves the tables sound exactly when its sum is the approved one, and it is not a second one that the
provider accepts. -/
theorem sound_submitted {x : Submission} {answered : List BatchObject} (sound : Sound s) :
    Sound { s with submissions := s.submissions ++ [x], answered := answered } ↔
      x.approvedMinor = some x.amountMinor ∧
        (x.accepted = true → s.submissions.any (Submission.pays x.settlementBatchId) = false) := by
  constructor
  · intro after
    refine ⟨after.amounts x (List.mem_append_right _ (List.mem_singleton_self x)), fun accepted => ?_⟩
    have counted := after.once x.settlementBatchId
    rw [countP_pays_append, if_pos (by simp [Submission.pays, accepted])] at counted
    have none : s.submissions.countP (Submission.pays x.settlementBatchId) = 0 := by omega
    rw [List.any_eq_false]
    intro y member
    exact List.countP_eq_zero.mp none y member
  · rintro ⟨approved, first⟩
    refine sound.of_submissions rfl rfl (fun batch => ?_) ?_
    · have before := sound.once batch
      rw [countP_pays_append]
      split
      · rename_i pays
        have accepted : x.accepted = true ∧ x.settlementBatchId = batch := by
          simpa [Submission.pays] using pays
        have none : s.submissions.countP (Submission.pays batch) = 0 := by
          rw [← accepted.2, List.countP_eq_zero]
          exact fun y member => List.any_eq_false.mp (first accepted.1) y member
        omega
      · exact before
    · intro y member
      rcases List.mem_append.mp member with old | new
      · exact sound.amounts y old
      · rw [List.mem_singleton.mp new]
        exact approved

theorem Sound.settled_iff {batch : BatchObject} {now : Instant} {answered : List BatchObject} (sound : Sound s)
    (known : Known s) (there : batch ∈ s.answered) :
    Sound { s.save batch.key (fun row => { row with status := .settled, settledAt := some now }) with
        answered := answered } ↔
      ∀ x ∈ s.items, ∀ y ∈ s.items, x.payee = y.payee → x.settlementBatchId = batch.key →
        y.settlementBatchId ≠ batch.key → s.settled y.settlementBatchId = false := by
  obtain ⟨row, found, -⟩ := known.objects batch (known.answers batch there)
  have now_settled := settled_settle found now
  constructor
  · intro after x inX y inY same own different
    have after' := after.payees x inX y inY same (by rw [own]; exact Ne.symm different)
      ((now_settled _).trans (if_pos own.symm))
    exact (if_neg (Ne.symm different)).symm.trans ((now_settled _).symm.trans after')
  · intro clear
    refine ⟨sound.once, sound.amounts, ?_, ?_⟩
    · intro row member
      rcases mem_save member with old | ⟨old, found', rfl⟩
      · exact sound.approvers row old
      · exact sound.approvers old (List.mem_of_getElem? found')
    · intro x inX y inY same different paid
      refine (now_settled _).trans ?_
      have paid' := (now_settled _).symm.trans paid
      by_cases ownX : batch.key = x.settlementBatchId
      · rw [if_neg fun ownY => different (ownX.symm.trans ownY)]
        exact clear x inX y inY same ownX.symm fun ownY => different (ownX.symm.trans ownY.symm)
      · rw [if_neg ownX] at paid'
        by_cases ownY : batch.key = y.settlementBatchId
        · have free := clear y inY x inX same.symm ownY.symm (Ne.symm ownX)
          rw [paid'] at free
          cases free
        · rw [if_neg ownY]
          exact sound.payees x inX y inY same different paid'

theorem Move.sound_iff (move : Move s call s') (known : Known s) (sound : Sound s) : Sound s' ↔ Clear call s := by
  cases move with
  | refused _ clear => exact ⟨fun _ => clear, fun _ => sound⟩
  | prepared _ _ _ _ _ _ _ _ _ _ unapproved unsettled own =>
    exact ⟨fun _ => trivial, fun _ => sound.prepared unapproved unsettled own⟩
  | adjusted =>
    exact ⟨fun _ => trivial, fun _ => sound.of_submissions rfl rfl sound.once sound.amounts⟩
  | approved _ _ _ _ there different =>
    exact ⟨fun _ => trivial, fun _ => sound.approved known (List.mem_of_getElem? there) different⟩
  | submitted _ key _ batch _ there configured standing payable =>
    obtain ⟨approval, last⟩ := Option.isSome_iff_exists.mp
      (known.standing batch (List.mem_of_getElem? there) standing)
    have total := totalMinor_eq known last
    have unchanged : some approval.totalMinor = some (s.totalMinor batch.key) ↔ s.sinceApproval batch.key = 0 := by
      rw [Option.some.injEq]
      omega
    rw [sound_submitted sound]
    simp only [last, Option.map_some, unchanged, Clear, there, configured, Option.mem_some_iff, forall_eq',
      standing, payable, forall_const, Bool.and_eq_true, Bool.not_eq_true', and_imp]
  | settled _ _ _ there =>
    rw [sound.settled_iff known (List.mem_of_getElem? there)]
    simp only [Clear, there, Option.mem_some_iff, forall_eq']

/-! ### Runs -/

theorem known_empty : Known .empty :=
  ⟨fun _ there => (by cases there), fun _ there => (by cases there), fun _ there => (by cases there),
    fun _ there => (by cases there), fun _ there => (by cases there)⟩

theorem sound_empty : Sound .empty :=
  ⟨fun _ => Nat.zero_le _, fun _ there => (by cases there), fun _ there => (by cases there),
    fun _ there => (by cases there)⟩

end Tables
end VtsaCsms.Settlements
