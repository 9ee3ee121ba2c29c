import Mathlib.Algebra.BigOperators.Group.List.Basic
import VtsaCsms.Foundation.Php
import VtsaCsms.Foundation.Runs

/-!
# Settlements

`SettlementService.php`, on the batches of one tenant. A batch object is what was read from its row at some earlier
moment, and `submit` calls the provider between its sums and its save, with no lock. The provider knows a submission
by its idempotency key only.
-/
namespace VtsaCsms.Settlements
open Foundation

inductive BatchStatus where
  | prepared | approved | settled
  deriving DecidableEq, Repr

structure SettlementBatch where
  providerConfigId : Option String
  status : BatchStatus
  currency : String
  periodStart : Instant
  periodEnd : Instant
  preparedBy : Option String
  preparedAt : Option Instant
  approvedBy : Option String := none
  approvedAt : Option Instant := none
  settledAt : Option Instant := none
  deriving DecidableEq

/-- An item as it is given to `prepare`. -/
structure Item where
  beneficiaryType : String
  beneficiaryId : String
  sourceType : String
  sourceId : String
  grossMinor : Int
  feeMinor : Int
  adjustmentMinor : Int
  deriving DecidableEq

structure SettlementItem where
  settlementBatchId : Nat
  item : Item
  netMinor : Int
  deriving DecidableEq

def SettlementItem.payee (row : SettlementItem) : String × String × String × String :=
  (row.item.beneficiaryType, row.item.beneficiaryId, row.item.sourceType, row.item.sourceId)

structure SettlementAdjustment where
  settlementBatchId : Nat
  beneficiaryType : String
  beneficiaryId : String
  amountMinor : Int
  currency : String
  reasonCode : String
  reasonNotes : String
  createdBy : String
  deriving DecidableEq

/-- A model object: the key of a row, and the row as it was when it was loaded. -/
structure BatchObject where
  key : Nat
  row : SettlementBatch

/-- A call that has reached the provider, and whether the provider accepted a new settlement for it. -/
structure Submission where
  settlementBatchId : Nat
  providerConfigId : String
  amountMinor : Int
  currency : String
  idempotencyKey : String
  accepted : Bool
  /-- What the batch came to when it was last approved. -/
  approvedMinor : Option Int

/-- An approval, with what the batch came to then and how many adjustments there were. -/
structure Approval where
  settlementBatchId : Nat
  totalMinor : Int
  adjustments : Nat

/-- The tables; `loaded` are the objects that may be in somebody's hands, `answered` the calls of `submit` that have
the provider's consent and have not saved, `submissions` and `approvals` what has happened, the last approval first. -/
structure Tables where
  batches : List SettlementBatch
  items : List SettlementItem
  adjustments : List SettlementAdjustment
  loaded : List BatchObject
  answered : List BatchObject
  submissions : List Submission
  approvals : List Approval

def Tables.empty : Tables := ⟨[], [], [], [], [], [], []⟩

namespace Tables

/-- `SUM(net_minor)` of the items of a batch. -/
def itemsMinor (s : Tables) (batch : Nat) : Int :=
  ((s.items.filter (fun item => item.settlementBatchId == batch)).map SettlementItem.netMinor).sum

/-- `SUM(amount_minor)` of the adjustments of a batch. -/
def adjustmentsMinor (adjustments : List SettlementAdjustment) (batch : Nat) : Int :=
  ((adjustments.filter (fun row => row.settlementBatchId == batch)).map SettlementAdjustment.amountMinor).sum

/-- What `submit` sends for a batch. -/
def totalMinor (s : Tables) (batch : Nat) : Int := s.itemsMinor batch + adjustmentsMinor s.adjustments batch

def lastApproval (s : Tables) (batch : Nat) : Option Approval :=
  s.approvals.find? (fun approval => approval.settlementBatchId == batch)

/-- A save of one row, after which an object with the row as it is now can be loaded. -/
def save (s : Tables) (batch : Nat) (f : SettlementBatch → SettlementBatch) : Tables :=
  { s with
    batches := s.batches.modify batch f
    loaded := s.loaded ++ ((s.batches[batch]?).toList.map fun row => ⟨batch, f row⟩) }

end Tables

namespace SettlementService

/-- One item of `prepare`. -/
def prepareItem (batch : Nat) (item : Item) : Except Throwable SettlementItem :=
  let net := item.grossMinor - item.feeMinor + item.adjustmentMinor
  if item.grossMinor < 0 ∨ item.feeMinor < 0 ∨ net < 0 then
    .error (.invalidArgument "Settlement item amounts are invalid.")
  else .ok ⟨batch, item, net⟩

def prepare (configurationId currency : String) (start stop : Instant) (items : List Item) (actorId : Option String)
    (now : Instant) (s : Tables) : Except Throwable Tables :=
  if items = [] ∨ stop ≤ start ∨ actorId = none then
    .error (.invalidArgument "Settlement preparation requires an actor, period, and items.")
  else do
    let batch : SettlementBatch := {
      providerConfigId := some configurationId, status := .prepared, currency := strToUpper currency
      periodStart := start, periodEnd := stop, preparedBy := actorId, preparedAt := some now }
    let rows ← items.mapM (prepareItem s.batches.length)
    .ok { s with
      batches := s.batches ++ [batch]
      items := s.items ++ rows
      loaded := s.loaded ++ [⟨s.batches.length, batch⟩] }

def addAdjustment (batch : BatchObject) (beneficiaryType beneficiaryId : String) (amountMinor : Int)
    (reasonCode notes : String) (actorId : Option String) (s : Tables) : Except Throwable Tables :=
  match actorId with
  | none => .error (.invalidArgument "Only prepared batches can receive non-zero adjustments.")
  | some actor =>
    if batch.row.status ≠ .prepared ∨ amountMinor = 0 then
      .error (.invalidArgument "Only prepared batches can receive non-zero adjustments.")
    else .ok { s with
      adjustments := s.adjustments ++
        [⟨batch.key, beneficiaryType, beneficiaryId, amountMinor, batch.row.currency, reasonCode, notes, actor⟩] }

def approve (batch : BatchObject) (actorId : Option String) (now : Instant) (s : Tables) :
    Except Throwable Tables :=
  if batch.row.status ≠ .prepared ∨ actorId = none ∨ actorId = batch.row.preparedBy then
    .error (.invalidArgument "Settlement approval requires a different authorized actor.")
  else
    let saved := s.save batch.key fun row =>
      { row with status := .approved, approvedBy := actorId, approvedAt := some now }
    .ok { saved with
      approvals := ⟨batch.key, s.totalMinor batch.key, s.adjustments.length⟩ :: s.approvals }

/-- What becomes of a call to the provider: it says yes, it says no, or the answer is lost, whether the provider
went through with it or not. -/
inductive Answer where
  | succeeded
  | refused
  | lost (done : Bool)
  deriving DecidableEq

def Answer.done : Answer → Bool
  | succeeded => true
  | refused => false
  | lost done => done

/-- Whether the provider has accepted a settlement under the key. -/
def knows (s : Tables) (configurationId key : String) : Bool :=
  s.submissions.any fun x => x.accepted && x.providerConfigId == configurationId && x.idempotencyKey == key

/-- `submit` up to the provider's answer. -/
def submit (batch : BatchObject) (key : String) (answer : Answer) (s : Tables) :
    Except Throwable Tables :=
  match batch.row.status, batch.row.providerConfigId with
  | .approved, some configurationId =>
    if s.totalMinor batch.key < 0 then .error (.invalidArgument "Settlement total cannot be negative.")
    else .ok { s with
      submissions := s.submissions ++ [⟨batch.key, configurationId, s.totalMinor batch.key, batch.row.currency, key,
        answer.done && !knows s configurationId key, (s.lastApproval batch.key).map Approval.totalMinor⟩]
      answered := s.answered ++ if answer = .succeeded then [batch] else [] }
  | _, _ => .error (.invalidArgument "Only an approved provider-backed batch can be submitted.")

/-- The save at the end of `submit`. -/
def settle (batch : BatchObject) (now : Instant) (s : Tables) : Tables :=
  s.save batch.key fun row => { row with status := .settled, settledAt := some now }

end SettlementService

/-- The calls, by any actor on any object; a call of `submit` that the provider has consented to goes on to `settle`
at some later moment, or never. -/
inductive Call where
  | prepare (configurationId currency : String) (start stop : Instant) (items : List Item)
      (actorId : Option String) (now : Instant)
  | addAdjustment (object : Nat) (beneficiaryType beneficiaryId : String) (amountMinor : Int)
      (reasonCode notes : String) (actorId : Option String)
  | approve (object : Nat) (actorId : Option String) (now : Instant)
  | submit (object : Nat) (key : String) (answer : SettlementService.Answer)
  | settle (answered : Nat) (now : Instant)

namespace Tables
open SettlementService

def next (call : Call) (s : Tables) : Tables :=
  let kept (result : Except Throwable Tables) : Tables := result.toOption.getD s
  match call with
  | .prepare configurationId currency start stop items actorId now =>
    kept (prepare configurationId currency start stop items actorId now s)
  | .addAdjustment i beneficiaryType beneficiaryId amountMinor reasonCode notes actorId =>
    match s.loaded[i]? with
    | none => s
    | some batch => kept (addAdjustment batch beneficiaryType beneficiaryId amountMinor reasonCode notes actorId s)
  | .approve i actorId now =>
    match s.loaded[i]? with
    | none => s
    | some batch => kept (approve batch actorId now s)
  | .submit i key answer =>
    match s.loaded[i]? with
    | none => s
    | some batch => kept (submit batch key answer s)
  | .settle i now =>
    match s.answered[i]? with
    | none => s
    | some batch => { settle batch now s with answered := s.answered.eraseIdx i }

end Tables
end VtsaCsms.Settlements
