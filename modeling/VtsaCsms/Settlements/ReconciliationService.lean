import VtsaCsms.Foundation.Json
import VtsaCsms.Payments.PaymentIntents

/-!
# Reconciliation

`ReconciliationService.php`: what a provider exports for a period against the payment intents of its configuration.
The loop walks the export; whether it agrees with the intents also depends on what the export leaves out.
-/
namespace VtsaCsms.Settlements
open Foundation Payments

structure ReconciliationRecord where
  providerReference : String
  currency : String
  grossMinor : Int
  refundMinor : Int
  feeMinor : Int
  netMinor : Int
  safeEvidence : List (String × Mixed) := []

inductive ReconciliationOutcome where
  | matched | mismatch
  deriving DecidableEq, Repr

structure ReconciliationLine where
  providerReference : String
  paymentIntentId : Option Nat
  currency : String
  providerGrossMinor : Int
  providerRefundMinor : Int
  providerFeeMinor : Int
  providerNetMinor : Int
  platformCapturedMinor : Int
  platformRefundedMinor : Int
  differenceMinor : Int
  outcome : ReconciliationOutcome
  safeEvidence : List (String × Mixed)

inductive ReconciliationStatus where
  | completed | reviewRequired
  deriving DecidableEq, Repr

structure ReconciliationRun where
  providerConfigId : String
  status : ReconciliationStatus
  periodStart : Instant
  periodEnd : Instant
  matchedCount : Nat
  mismatchCount : Nat
  completedAt : Instant

/-- A run that was committed, with its lines. -/
structure Reconciliation where
  run : ReconciliationRun
  lines : List ReconciliationLine

namespace ReconciliationService

/-- `findForProviderReference`: the first row, where there are several. -/
def paymentByProviderReference (intents : Table Nat StoredIntent) (configurationId reference : String) :
    Option (Nat × StoredIntent) :=
  intents.first? fun _ i =>
    i.1.providerConfigId = configurationId && i.1.providerIntentReference = some reference

def line (intents : Table Nat StoredIntent) (configurationId : String) (record : ReconciliationRecord) :
    ReconciliationLine :=
  let intent := paymentByProviderReference intents configurationId record.providerReference
  let platformCaptured := (intent.map fun i => i.2.1.amountCapturedMinor).getD 0
  let platformRefunded := (intent.map fun i => i.2.1.amountRefundedMinor).getD 0
  let platformNet := platformCaptured - platformRefunded
  let difference := record.netMinor - platformNet
  { providerReference := record.providerReference
    paymentIntentId := intent.map Prod.fst
    currency := record.currency
    providerGrossMinor := record.grossMinor
    providerRefundMinor := record.refundMinor
    providerFeeMinor := record.feeMinor
    providerNetMinor := record.netMinor
    platformCapturedMinor := platformCaptured
    platformRefundedMinor := platformRefunded
    differenceMinor := difference
    outcome :=
      if intent.any (fun i => i.2.1.currency = record.currency) && difference = 0 then .matched else .mismatch
    safeEvidence := record.safeEvidence }

/-- The lines created so far, and the two counters. -/
structure Progress where
  lines : List ReconciliationLine
  matched : Nat
  mismatches : Nat

/-- The loop's body: `reconciliation_line_ref_uq` refuses a reference for the second time, and the column a difference
that PHP has turned into a float. -/
def account (intents : Table Nat StoredIntent) (configurationId : String) (soFar : Progress)
    (record : ReconciliationRecord) : Except Throwable Progress :=
  let created := line intents configurationId record
  if created.providerReference ∈ soFar.lines.map ReconciliationLine.providerReference then
    .error (.uniqueConstraint "reconciliation_line_ref_uq")
  else if created.differenceMinor < phpIntMin ∨ phpIntMax < created.differenceMinor then .error .bigintOutOfRange
  else if created.outcome = .matched then .ok ⟨soFar.lines ++ [created], soFar.matched + 1, soFar.mismatches⟩
  else .ok ⟨soFar.lines ++ [created], soFar.matched, soFar.mismatches + 1⟩

/-- `reconcile`, in one transaction after the export. -/
def reconcile (intents : Table Nat StoredIntent) (configurationId : String) (start stop : Instant)
    (reconciliationExport : Except Throwable (List ReconciliationRecord)) (now : Instant) :
    Except Throwable Reconciliation :=
  if stop ≤ start then .error (.invalidArgument "Reconciliation period end must follow its start.")
  else do
    let records ← reconciliationExport
    let done ← records.foldlM (account intents configurationId) ⟨[], 0, 0⟩
    .ok ⟨{
      providerConfigId := configurationId
      status := if done.mismatches = 0 then .completed else .reviewRequired
      periodStart := start
      periodEnd := stop
      matchedCount := done.matched
      mismatchCount := done.mismatches
      completedAt := now }, done.lines⟩

variable {intents : Table Nat StoredIntent} {configurationId : String} {start stop now : Instant}

/-! ### The loop -/

/-- The record has the currency and the net amount of the intent that is found under its reference. -/
def Matches (intents : Table Nat StoredIntent) (configurationId : String) (record : ReconciliationRecord) : Prop :=
  (line intents configurationId record).outcome = .matched

instance : DecidablePred (Matches intents configurationId) := fun record =>
  inferInstanceAs (Decidable ((line intents configurationId record).outcome = .matched))

variable {record : ReconciliationRecord} {records : List ReconciliationRecord}

theorem matches_iff :
    Matches intents configurationId record ↔
      ∃ i, paymentByProviderReference intents configurationId record.providerReference = some i ∧
        i.2.1.currency = record.currency ∧
        i.2.1.amountCapturedMinor - i.2.1.amountRefundedMinor = record.netMinor := by
  unfold Matches line
  cases paymentByProviderReference intents configurationId record.providerReference with
  | none => simp
  | some i =>
    simp only [Option.any_some, Option.map_some, Option.getD_some, Option.some.injEq, exists_eq_left']
    constructor
    · intro matched
      split at matched
      · rename_i both
        simp only [Bool.and_eq_true, decide_eq_true_eq] at both
        exact ⟨both.1, by omega⟩
      · cases matched
    · rintro ⟨currency, net⟩
      rw [if_pos]
      simp only [Bool.and_eq_true, decide_eq_true_eq]
      exact ⟨currency, by omega⟩

theorem Matches.difference (matched : Matches intents configurationId record) :
    (line intents configurationId record).differenceMinor = 0 := by
  obtain ⟨i, found, -, net⟩ := matches_iff.mp matched
  simp only [line, found, Option.map_some, Option.getD_some]
  omega

theorem account_ok {soFar done : Progress} (ok : account intents configurationId soFar record = .ok done) :
    record.providerReference ∉ soFar.lines.map ReconciliationLine.providerReference ∧
      done.lines = soFar.lines ++ [line intents configurationId record] ∧
      done.mismatches = soFar.mismatches + if Matches intents configurationId record then 0 else 1 := by
  unfold account at ok
  dsimp only at ok
  split at ok
  · cases ok
  · rename_i new
    refine ⟨new, ?_⟩
    split at ok
    · cases ok
    · split at ok
      · rename_i matched
        cases ok
        refine ⟨rfl, ?_⟩
        rw [if_pos (show Matches intents configurationId record from matched)]
        rfl
      · rename_i differs
        cases ok
        refine ⟨rfl, ?_⟩
        rw [if_neg (show ¬ Matches intents configurationId record from differs)]

theorem account_matched {soFar : Progress}
    (new : record.providerReference ∉ soFar.lines.map ReconciliationLine.providerReference)
    (matched : Matches intents configurationId record) :
    account intents configurationId soFar record =
      .ok ⟨soFar.lines ++ [line intents configurationId record], soFar.matched + 1, soFar.mismatches⟩ := by
  have new' : (line intents configurationId record).providerReference ∉
      soFar.lines.map ReconciliationLine.providerReference := new
  have matched' : (line intents configurationId record).outcome = .matched := matched
  unfold account
  dsimp only
  rw [if_neg new', if_neg (by rw [matched.difference]; decide), if_pos matched']

/-- A loop that ends without a mismatch has met every reference once, and matched every record. -/
theorem loop_unmismatched {soFar done : Progress}
    (ok : records.foldlM (account intents configurationId) soFar = .ok done) :
    soFar.mismatches ≤ done.mismatches ∧
      (done.mismatches = soFar.mismatches →
        (∀ record ∈ records, Matches intents configurationId record) ∧
          (records.map ReconciliationRecord.providerReference).Nodup ∧
          ∀ record ∈ records,
            record.providerReference ∉ soFar.lines.map ReconciliationLine.providerReference) := by
  induction records generalizing soFar with
  | nil =>
    cases ok
    simp
  | cons record _ ih =>
    rw [List.foldlM_cons] at ok
    cases first : account intents configurationId soFar record with
    | error =>
      rw [first] at ok
      cases ok
    | ok =>
      rw [first] at ok
      obtain ⟨new, lines, counted⟩ := account_ok first
      obtain ⟨more, later⟩ := ih ok
      refine ⟨by omega, fun none => ?_⟩
      have matched : Matches intents configurationId record := by
        by_contra differs
        rw [if_neg differs] at counted
        omega
      rw [if_pos matched] at counted
      obtain ⟨others, distinct, fresh⟩ := later (by omega)
      refine ⟨List.forall_mem_cons.mpr ⟨matched, others⟩, ?_, List.forall_mem_cons.mpr ⟨new, ?_⟩⟩
      · rw [List.map_cons, List.nodup_cons]
        refine ⟨fun member => ?_, distinct⟩
        obtain ⟨other, there, same⟩ := List.mem_map.mp member
        apply fresh other there
        rw [lines, same]
        simp [line]
      · intro other there member
        apply fresh other there
        rw [lines, List.map_append]
        exact List.mem_append_left _ member

/-- Over references that are met once each and records that match, the loop ends without a mismatch. -/
theorem loop_matched {p : Progress} (all : ∀ record ∈ records, Matches intents configurationId record)
    (distinct : (records.map ReconciliationRecord.providerReference).Nodup)
    (new : ∀ record ∈ records, record.providerReference ∉ p.lines.map ReconciliationLine.providerReference) :
    ∃ done, records.foldlM (account intents configurationId) p = .ok done ∧
      done.mismatches = p.mismatches := by
  induction records generalizing p with
  | nil => exact ⟨p, rfl, rfl⟩
  | cons record _ ih =>
    obtain ⟨matched, others⟩ := List.forall_mem_cons.mp all
    obtain ⟨first, later⟩ := List.forall_mem_cons.mp new
    obtain ⟨away, distinct'⟩ := List.nodup_cons.mp distinct
    rw [List.foldlM_cons, account_matched first matched]
    refine ih others distinct' fun other there member => ?_
    rw [List.map_append] at member
    rcases List.mem_append.mp member with old | own
    · exact later other there old
    · have same : other.providerReference = record.providerReference := by simpa [line] using own
      exact away (same ▸ List.mem_map_of_mem there)

/-- A run is completed exactly over a valid period and an export that names every reference once, and only with
records that match. -/
theorem reconcile_completed_iff (now : Instant)
    {reconciliationExport : Except Throwable (List ReconciliationRecord)} :
    (∃ result, reconcile intents configurationId start stop reconciliationExport now = .ok result ∧
        result.run.status = .completed) ↔
      start < stop ∧ ∃ records, reconciliationExport = .ok records ∧
        (records.map ReconciliationRecord.providerReference).Nodup ∧
        ∀ record ∈ records, Matches intents configurationId record := by
  unfold reconcile
  by_cases valid : stop ≤ start
  · simp [valid, not_lt.mpr valid]
  · rw [if_neg valid]
    cases reconciliationExport with
    | error => simp [bind, Except.bind]
    | ok records =>
      simp only [bind, Except.bind, Except.ok.injEq, exists_eq_left']
      constructor
      · rintro ⟨result, ok, completed⟩
        cases loop : records.foldlM (account intents configurationId) ⟨[], 0, 0⟩ with
        | error =>
          rw [loop] at ok
          cases ok
        | ok done =>
          rw [loop] at ok
          cases ok
          have none : done.mismatches = 0 := by
            by_contra some
            simp [some] at completed
          obtain ⟨all, distinct, -⟩ := (loop_unmismatched loop).2 none
          exact ⟨not_le.mp valid, distinct, all⟩
      · rintro ⟨-, distinct, all⟩
        have new : ∀ record ∈ records, record.providerReference ∉ ([] : List ReconciliationLine).map
            ReconciliationLine.providerReference := fun _ _ => List.not_mem_nil
        obtain ⟨done, loop, none⟩ := loop_matched (p := ⟨[], 0, 0⟩) all distinct new
        rw [loop]
        exact ⟨_, rfl, if_pos none⟩

/-! ### Agreement -/

/-- The record accounts for the intent: it reports the intent's reference. -/
def Accounts (configurationId : String) (record : ReconciliationRecord) (intent : StoredIntent) : Prop :=
  intent.1.providerConfigId = configurationId ∧ intent.1.providerIntentReference = some record.providerReference

/-- Money of the configuration that was captured in the period. -/
def CapturedWithin (configurationId : String) (start stop : Instant) (intent : StoredIntent) : Prop :=
  intent.1.providerConfigId = configurationId ∧ 0 < intent.1.amountCapturedMinor ∧
    ∃ moment ∈ intent.1.capturedAt, start ≤ moment ∧ moment ≤ stop

/-- No record reports the intent. -/
def Unreported (configurationId : String) (records : List ReconciliationRecord) (intent : StoredIntent) : Prop :=
  ∀ record ∈ records, ¬ Accounts configurationId record intent

/-- Both sides agree on the period. -/
structure Agreed (intents : Table Nat StoredIntent) (configurationId : String) (start stop : Instant)
    (records : List ReconciliationRecord) : Prop where
  accounted : ∀ record ∈ records, ∃ key intent, intents.get? key = some intent ∧
    Accounts configurationId record intent ∧ intent.1.currency = record.currency ∧
    intent.1.amountCapturedMinor - intent.1.amountRefundedMinor = record.netMinor ∧
    ∀ key' intent', intents.get? key' = some intent' → Accounts configurationId record intent' → key' = key
  separate : records.Pairwise fun record record' => ∀ key intent, intents.get? key = some intent →
    Accounts configurationId record intent → ¬ Accounts configurationId record' intent
  covered : ∀ key intent, intents.get? key = some intent → CapturedWithin configurationId start stop intent →
    ¬ Unreported configurationId records intent

/-- A run that is completed means that both sides agree, and unreported money yields a review. -/
def Meaningful (intents : Table Nat StoredIntent) (configurationId : String) (start stop : Instant)
    (records : List ReconciliationRecord) (result : Reconciliation) : Prop :=
  (result.run.status = .completed → Agreed intents configurationId start stop records) ∧
    ∀ key intent, intents.get? key = some intent → CapturedWithin configurationId start stop intent →
      Unreported configurationId records intent → result.run.status = .reviewRequired

/-- Unless some record does not match or is there twice, no reported reference is shared by two intents, and all
money captured in the period is reported. -/
def Covered (intents : Table Nat StoredIntent) (configurationId : String) (start stop : Instant)
    (records : List ReconciliationRecord) : Prop :=
  start < stop → (records.map ReconciliationRecord.providerReference).Nodup →
    (∀ record ∈ records, Matches intents configurationId record) →
      (∀ record ∈ records, ∀ key intent key' intent', intents.get? key = some intent →
        intents.get? key' = some intent' → Accounts configurationId record intent →
        Accounts configurationId record intent' → key' = key) ∧
      ∀ key intent, intents.get? key = some intent → CapturedWithin configurationId start stop intent →
        ¬ Unreported configurationId records intent

theorem Matches.accounts (matched : Matches intents configurationId record) :
    ∃ key intent, intents.get? key = some intent ∧ Accounts configurationId record intent ∧
      intent.1.currency = record.currency ∧
      intent.1.amountCapturedMinor - intent.1.amountRefundedMinor = record.netMinor := by
  obtain ⟨⟨key, intent⟩, found, currency, net⟩ := matches_iff.mp matched
  obtain ⟨stored, own⟩ := Table.first?_some found
  rw [Bool.and_eq_true, decide_eq_true_eq, decide_eq_true_eq] at own
  exact ⟨key, intent, stored, own, currency, net⟩

theorem agreed_iff (distinct : (records.map ReconciliationRecord.providerReference).Nodup)
    (all : ∀ record ∈ records, Matches intents configurationId record) :
    Agreed intents configurationId start stop records ↔
      (∀ record ∈ records, ∀ key intent key' intent', intents.get? key = some intent →
        intents.get? key' = some intent' → Accounts configurationId record intent →
        Accounts configurationId record intent' → key' = key) ∧
      ∀ key intent, intents.get? key = some intent → CapturedWithin configurationId start stop intent →
        ¬ Unreported configurationId records intent := by
  constructor
  · intro agreed
    refine ⟨fun record member key intent key' intent' stored stored' own own' => ?_, agreed.covered⟩
    obtain ⟨only, -, -, -, -, -, unique⟩ := agreed.accounted record member
    exact (unique key' intent' stored' own').trans (unique key intent stored own).symm
  · rintro ⟨unshared, covered⟩
    refine ⟨fun record member => ?_, ?_, covered⟩
    · obtain ⟨key, intent, stored, own, currency, net⟩ := (all record member).accounts
      exact ⟨key, intent, stored, own, currency, net, fun key' intent' stored' own' =>
        unshared record member key intent key' intent' stored stored' own own'⟩
    · refine (List.pairwise_map.mp distinct).imp ?_
      rintro record record' different key intent - ⟨-, own⟩ ⟨-, own'⟩
      exact different (Option.some.inj (own.symm.trans own'))

/-- What a completed run means, exactly. -/
theorem meaningful_iff_covered (intents : Table Nat StoredIntent) (configurationId : String)
    (start stop now : Instant) (records : List ReconciliationRecord) :
    (∀ result, reconcile intents configurationId start stop (.ok records) now = .ok result →
        Meaningful intents configurationId start stop records result) ↔
      Covered intents configurationId start stop records := by
  constructor
  · intro meaningful valid distinct all
    obtain ⟨result, ok, completed⟩ := (reconcile_completed_iff now).mpr ⟨valid, records, rfl, distinct, all⟩
    exact (agreed_iff distinct all).mp ((meaningful result ok).1 completed)
  · intro covered result ok
    cases status : result.run.status with
    | reviewRequired =>
      refine ⟨fun completed => ?_, fun _ _ _ _ _ => status⟩
      rw [status] at completed
      cases completed
    | completed =>
      obtain ⟨valid, records', same, distinct, all⟩ := (reconcile_completed_iff now).mp ⟨result, ok, status⟩
      cases same
      have both := covered valid distinct all
      exact ⟨fun _ => (agreed_iff distinct all).mpr both, fun key intent stored captured missing =>
        absurd missing (both.2 key intent stored captured)⟩

def captured : StoredIntent :=
  ⟨{ providerConfigId := "fake", paymentMethodId := none, billableType := "charging_session", billableId := "session"
     state := .captured, currency := "PHP", amountRequestedMinor := 1500, amountAuthorizedMinor := 1500
     amountCapturedMinor := 1500, idempotencyKey := "capture", providerIntentReference := some "fake_pi"
     capturedAt := some 5 }, by decide⟩

/-- A provider that reports nothing, and a run that is completed over money the platform has captured. -/
theorem unreported_completed :
    ¬ ∀ result, reconcile (Table.empty.insert 0 captured rfl) "fake" 0 10 (.ok []) 11 = .ok result →
      Meaningful (Table.empty.insert 0 captured rfl) "fake" 0 10 [] result := by
  intro meaningful
  obtain ⟨result, ok, completed⟩ := (reconcile_completed_iff 11).mpr
    ⟨show (0 : Instant) < 10 by decide, [], rfl, List.nodup_nil, fun _ member => by cases member⟩
  have review := (meaningful result ok).2 0 captured rfl ⟨rfl, by decide, 5, rfl, by decide, by decide⟩
    fun _ member => by cases member
  rw [completed] at review
  cases review

end ReconciliationService
end VtsaCsms.Settlements
