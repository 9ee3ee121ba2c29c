import VtsaCsms.Foundation.Projections
import VtsaCsms.Payments.PaymentAmounts

/-!
# Payment attempts

`PaymentIntentService.php` with the idempotency keys of its operations: `recordAttempt` logs
the provider's first answer under a key. The log is written and not read back.
-/
namespace VtsaCsms.Payments
open Foundation Foundation.Action

inductive ProviderAttemptState where
  | prepared | submitted | succeeded | failed | outcomeUnknown | manualReview | canceled
  deriving DecidableEq, Repr

deriving instance DecidableEq for PaymentResult

/-- The state an outcome is logged as. -/
def attemptState (outcome : String) : ProviderAttemptState :=
  if outcome ∈ ["succeeded", "requires_action"] then .succeeded
  else if outcome = "failed" then .failed
  else .outcomeUnknown

/-- A logged row is never changed (`payment_attempts_immutable`), so its state stays the one of
its outcome. `result` stands for the provider's columns and the outcome in `safe_evidence`. -/
structure PaymentAttempt where
  paymentIntentId : Nat
  operation : ProviderOperation
  state : ProviderAttemptState
  currency : String
  amountMinor : Int
  idempotencyKey : String
  result : PaymentResult
  submittedAt : Instant
  resolvedAt : Option Instant
  logged : state = attemptState result.outcome

structure Books where
  payments : Store
  attempts : Table Nat PaymentAttempt

def Books.empty : Books := ⟨Store.empty, Table.empty⟩

abbrev Logged (α : Type) := Action Books Throwable α

def onPayments {α : Type} (m : Pay α) : Logged α :=
  focus Books.payments (fun b s => { b with payments := s }) m

namespace PaymentIntentService

def recordAttempt (env : Environment) (key : Nat) (operation : ProviderOperation) (currency : String)
    (amountMinor : Int) (idempotencyKey : String) (result : PaymentResult) : Logged Unit := do
  let existing ← read fun b => b.attempts.first? fun _ a => a.idempotencyKey = idempotencyKey
  match existing with
  | some _ => pure ()
  | none =>
    let row : PaymentAttempt :=
      { paymentIntentId := key, operation, state := attemptState result.outcome, currency, amountMinor
        idempotencyKey, result, submittedAt := env.now
        resolvedAt := if result.outcome = "outcome_unknown" then none else some env.now, logged := rfl }
    write fun b => { b with attempts := b.attempts.create row }

namespace Keyed

def applyOperation (env : Environment) (key : Nat) (operation : ProviderOperation) (intent : PaymentIntent)
    (amountMinor : Int) (idempotencyKey : String) (result : PaymentResult) : Logged Unit := do
  recordAttempt env key operation intent.currency amountMinor idempotencyKey result
  onPayments (PaymentIntentService.applyOperation env key operation amountMinor result)

def authorize (env : Environment) (key : Nat) (idempotencyKey : String)
    (answer : Except Throwable PaymentResult) : Logged Unit := do
  let intent ← onPayments (findIntent key)
  if intent.state = .authorized then pure ()
  else do
    throwIf (intent.state ∉ authorizable)
      (.invalidArgument "The payment intent cannot be authorized in its current state.")
    onPayments (method env intent)
    onPayments (saveIntent key fun i => { i with state := .authorizationPending })
    applyOperation env key .authorize intent intent.amountRequestedMinor idempotencyKey (call answer)

def incrementAuthorization (env : Environment) (key : Nat) (newTotalMinor : Int) (idempotencyKey : String)
    (answer : Except Throwable PaymentResult) : Logged Unit := do
  let intent ← onPayments (findIntent key)
  throwIf (intent.state ≠ .authorized ∨ newTotalMinor ≤ intent.amountAuthorizedMinor) (.invalidArgument
    "Incremental authorization requires an authorized intent and a higher total amount.")
  onPayments (method env intent)
  applyOperation env key .incrementAuthorization intent newTotalMinor idempotencyKey (call answer)

def capture (env : Environment) (key : Nat) (amountMinor : Int) (idempotencyKey : String)
    (answer : Except Throwable PaymentResult) : Logged Unit := do
  let intent ← onPayments (findIntent key)
  throwIf (intent.state ∉ capturable)
    (.invalidArgument "Only an authorized payment intent can be captured.")
  throwIf (amountMinor ≤ 0 ∨ intent.amountAuthorizedMinor < intent.amountCapturedMinor + amountMinor)
    (.invalidArgument "Capture amount exceeds the remaining authorization.")
  onPayments (saveIntent key fun i => { i with state := .capturePending })
  onPayments (method env intent)
  applyOperation env key .capture intent amountMinor idempotencyKey (call answer)

def void (env : Environment) (key : Nat) (idempotencyKey : String)
    (answer : Except Throwable PaymentResult) : Logged Unit := do
  let intent ← onPayments (findIntent key)
  throwIf (intent.state ∉ voidable) (.invalidArgument "Only an authorization can be voided.")
  onPayments (saveIntent key fun i => { i with state := .cancelPending })
  onPayments (method env intent)
  applyOperation env key .void intent intent.amountAuthorizedMinor idempotencyKey (call answer)

def refund (env : Environment) (key : Nat) (amountMinor : Int) (idempotencyKey reasonCode : String)
    (notes : Option String) (answer : Except Throwable PaymentResult) : Logged Unit := do
  let intent ← onPayments (findIntent key)
  throwIf (amountMinor ≤ 0 ∨ intent.amountCapturedMinor - intent.amountRefundedMinor < amountMinor)
    (.invalidArgument "Refund amount exceeds the refundable balance.")
  let existing ← onPayments (read fun s => s.refunds.first? fun _ r => r.idempotencyKey = idempotencyKey)
  match existing with
  | some _ => pure ()
  | none => do
    let refund ← onPayments (read fun s => s.refunds.nextId)
    let row : PaymentRefund :=
      { paymentIntentId := key, currency := intent.currency, amountMinor, idempotencyKey, reasonCode
        reasonNotes := notes }
    onPayments (write fun s => { s with refunds := s.refunds.create row })
    onPayments (method env intent)
    let result := call answer
    recordAttempt env key .refund intent.currency amountMinor idempotencyKey result
    onPayments (transaction do
      if result.succeeded = true then do
        saveIntent key (refunded amountMinor)
        saveRefund refund fun r => { r with
          state := "completed", providerReference := result.providerReference, completedAt := some env.now }
      else
        saveRefund refund fun r => { r with
          state := if result.outcome = "outcome_unknown" then "outcome_unknown" else "failed"
          failedAt := some env.now })

def retrieve (env : Environment) (key : Nat) (idempotencyKey : String)
    (answer : Except Throwable PaymentResult) : Logged Unit := do
  let intent ← onPayments (findIntent key)
  onPayments (method env intent)
  applyOperation env key .retrieve intent 0 idempotencyKey (call answer)

end Keyed
end PaymentIntentService

/-- A call and the key its attempt is logged under; a refund has a key of its own, and neither a
new intent nor a notification is an attempt. -/
structure KeyedStep where
  step : Step
  idempotencyKey : String

namespace KeyedStep
open PaymentIntentService

def perform (env : Environment) (call : KeyedStep) : Logged Unit :=
  match call.step with
  | .authorize intent answer => Keyed.authorize env intent call.idempotencyKey answer
  | .incrementAuthorization intent newTotalMinor answer =>
    Keyed.incrementAuthorization env intent newTotalMinor call.idempotencyKey answer
  | .capture intent amountMinor answer => Keyed.capture env intent amountMinor call.idempotencyKey answer
  | .void intent answer => Keyed.void env intent call.idempotencyKey answer
  | .refund intent amountMinor idempotencyKey reasonCode notes answer =>
    Keyed.refund env intent amountMinor idempotencyKey reasonCode notes answer
  | .retrieve intent answer => Keyed.retrieve env intent call.idempotencyKey answer
  | other => onPayments (other.perform env)

def next (call : Environment × KeyedStep) (b : Books) : Books := after (call.2.perform call.1) b

end KeyedStep

/-! ### The log changes nothing else -/

section Projection
variable {env : Environment} {key : Nat} {amountMinor : Int} {idempotencyKey : String}

theorem projects_onPayments {α : Type} (m : Pay α) : Projects Books.payments (onPayments m) m :=
  projects_focus (fun _ _ => rfl) m

theorem PaymentIntentService.recordAttempt_unseen {operation : ProviderOperation} {currency : String}
    {result : PaymentResult} (b : Books) : ∃ b', Returns (recordAttempt env key operation currency amountMinor
      idempotencyKey result) b () b' ∧ b'.payments = b.payments := by
  unfold recordAttempt
  simp only [returns_bind, returns_read]
  cases used : b.attempts.first? fun _ a => decide (a.idempotencyKey = idempotencyKey) with
  | some row => exact ⟨b, ⟨some row, b, ⟨rfl, rfl⟩, rfl⟩, rfl⟩
  | none => exact ⟨_, ⟨none, b, ⟨rfl, rfl⟩, rfl⟩, rfl⟩

theorem PaymentIntentService.Keyed.applyOperation_projects {operation : ProviderOperation} {intent : PaymentIntent}
    {result : PaymentResult} :
    Projects Books.payments (applyOperation env key operation intent amountMinor idempotencyKey result)
      (PaymentIntentService.applyOperation env key operation amountMinor result) :=
  .unseen recordAttempt_unseen (projects_onPayments _)

open PaymentIntentService in
theorem KeyedStep.perform_projects (call : KeyedStep) :
    Projects Books.payments (call.perform env) (call.step.perform env) := by
  obtain ⟨step, idempotencyKey⟩ := call
  cases step with
  | create =>
    exact projects_onPayments _
  | webhook => exact projects_onPayments _
  | authorize =>
    apply (projects_onPayments _).bind
    intro i
    apply (projects_pure _).ite
    exact (projects_throwIf _ _).bind fun _ => (projects_onPayments _).bind fun _ =>
      (projects_onPayments _).bind fun _ => Keyed.applyOperation_projects
  | incrementAuthorization =>
    exact (projects_onPayments _).bind fun i => (projects_throwIf _ _).bind fun _ =>
      (projects_onPayments _).bind fun _ => Keyed.applyOperation_projects
  | capture =>
    exact (projects_onPayments _).bind fun i => (projects_throwIf _ _).bind fun _ =>
      (projects_throwIf _ _).bind fun _ => (projects_onPayments _).bind fun _ =>
      (projects_onPayments _).bind fun _ => Keyed.applyOperation_projects
  | void =>
    exact (projects_onPayments _).bind fun i => (projects_throwIf _ _).bind fun _ =>
      (projects_onPayments _).bind fun _ => (projects_onPayments _).bind fun _ => Keyed.applyOperation_projects
  | refund =>
    apply (projects_onPayments _).bind
    intro i
    apply (projects_throwIf _ _).bind
    intro _
    apply (projects_onPayments _).bind
    intro existing
    cases existing with
    | some => exact projects_pure _
    | none =>
      exact (projects_onPayments _).bind fun _ => (projects_onPayments _).bind fun _ =>
        (projects_onPayments _).bind fun _ => .unseen recordAttempt_unseen (projects_onPayments _)
  | retrieve =>
    exact (projects_onPayments _).bind fun i => (projects_onPayments _).bind fun _ =>
      Keyed.applyOperation_projects

theorem KeyedStep.next_payments (call : Environment × KeyedStep) (b : Books) :
    (next call b).payments = Step.next (call.1, call.2.step) b.payments :=
  call.2.perform_projects.after b

end Projection

/-! ### Captures under a used key -/

namespace PaymentIntentService
variable {env : Environment} {i : StoredIntent} {answer : Except Throwable PaymentResult} {amountMinor : Int}

/-- The checks of a capture let it through to the provider. -/
def CaptureAccepted (env : Environment) (i : StoredIntent) (amountMinor : Int) : Prop :=
  (i.1.state ∈ capturable ∧ 0 < amountMinor ∧
    i.1.amountCapturedMinor + amountMinor ≤ i.1.amountAuthorizedMinor) ∧ methodFound env i.1 = true

theorem operated_capture (now : Instant) (amountMinor : Int) {result : PaymentResult} (i : PaymentIntent)
    (succeeded : result.succeeded = true) :
    (operated now .capture amountMinor result i).amountCapturedMinor = i.amountCapturedMinor + amountMinor ∧
      (operated now .capture amountMinor result i).amountAuthorizedMinor = i.amountAuthorizedMinor ∧
      (operated now .capture amountMinor result i).amountRefundedMinor = i.amountRefundedMinor := by
  have known : result.outcome ≠ "outcome_unknown" := by
    intro unknown
    simp [PaymentResult.succeeded, unknown] at succeeded
  have through : ¬ result.succeeded = false := by simp [succeeded]
  unfold operated
  simp only [if_neg known, if_neg through, and_self]

theorem captureRow_accepted (accepted : CaptureAccepted env i amountMinor)
    (succeeded : (call answer).succeeded = true) :
    (captureRow env amountMinor answer i).1.amountCapturedMinor = i.1.amountCapturedMinor + amountMinor := by
  obtain ⟨⟨state, positive, within⟩, found⟩ := accepted
  obtain ⟨captured, authorized, refunded⟩ := operated_capture env.now amountMinor
    (restated .capturePending i).1 succeeded
  have ordered : (operated env.now .capture amountMinor (call answer)
      (restated .capturePending i).1).AmountsOrdered := by
    have before := i.2
    unfold PaymentIntent.AmountsOrdered at before ⊢
    rw [captured, authorized, refunded]
    simp only [restated]
    omega
  rw [captureRow, if_pos ⟨state, positive, within⟩, if_pos found, settled, amended_ordered ordered, captured]
  rfl

theorem captureRow_turned_away (refused : ¬ CaptureAccepted env i amountMinor) :
    (captureRow env amountMinor answer i).1.amountCapturedMinor = i.1.amountCapturedMinor := by
  unfold captureRow
  split
  · rename_i guards
    rw [if_neg fun found => refused ⟨guards, found⟩]
    rfl
  · rfl

end PaymentIntentService

namespace KeyedStep
open PaymentIntentService

/-- A capture under a key with which a capture of this intent has succeeded; the provider
returns the original result. -/
def RepeatsCapture (call : Environment × KeyedStep) (b : Books) : Prop :=
  match call.2.step with
  | .capture intent _ answer => ∃ id a, b.attempts.get? id = some a ∧
      a.idempotencyKey = call.2.idempotencyKey ∧ a.paymentIntentId = intent ∧ a.operation = .capture ∧
      a.state = .succeeded ∧ answer = .ok a.result
  | _ => False

/-- No captured amount changes. -/
def KeepsCaptured (call : Environment × KeyedStep) (b : Books) : Prop :=
  ∀ k i j, b.payments.intents.get? k = some i → (next call b).payments.intents.get? k = some j →
    j.1.amountCapturedMinor = i.1.amountCapturedMinor

/-- The intent can still be captured, by at least the call's amount. -/
def CapturesAgain (call : Environment × KeyedStep) (b : Books) : Prop :=
  match call.2.step with
  | .capture intent amountMinor _ => ∃ i, b.payments.intents.get? intent = some i ∧
      CaptureAccepted call.1 i amountMinor
  | _ => False

theorem logged_succeeded (a : PaymentAttempt) (succeeded : a.state = .succeeded) :
    a.result.succeeded = true := by
  have logged := a.logged
  rw [succeeded] at logged
  unfold attemptState at logged
  unfold PaymentResult.succeeded
  by_cases known : a.result.outcome ∈ ["succeeded", "requires_action"]
  · simpa using known
  · rw [if_neg known] at logged
    split at logged <;> contradiction

theorem keepsCaptured_iff {call : Environment × KeyedStep} {b : Books} (repeats : RepeatsCapture call b) :
    KeepsCaptured call b ↔ ¬ CapturesAgain call b := by
  obtain ⟨env, step, idempotencyKey⟩ := call
  cases step with
  | capture intent amountMinor answer =>
    obtain ⟨id, a, -, -, -, -, state, rfl⟩ := repeats
    have succeeded : (Payments.call (.ok a.result)).succeeded = true := logged_succeeded a state
    have amends : Amended intent (captureRow env amountMinor (.ok a.result)) b.payments
        (next (env, ⟨.capture intent amountMinor (.ok a.result), idempotencyKey⟩) b).payments := by
      rw [next_payments]
      exact capture_amended
    constructor
    · rintro kept ⟨i, stored, accepted⟩
      have moved := amends intent
      rw [if_pos rfl, stored, Option.map_some] at moved
      have same := kept intent i _ stored moved
      rw [captureRow_accepted accepted succeeded] at same
      have positive := accepted.1.2.1
      omega
    · intro turnedAway k i j stored moved
      rw [amends k] at moved
      split at moved
      · rename_i here
        subst here
        rw [stored] at moved
        cases moved
        exact captureRow_turned_away fun accepted => turnedAway ⟨i, stored, accepted⟩
      · rw [stored] at moved
        cases moved
        rfl
  | _ => exact repeats.elim

/-- In a run every repeated capture keeps the captured amounts exactly if none of them finds an
intent that can still be captured by its amount. -/
theorem captures_idempotent_iff (calls : List (Environment × KeyedStep)) :
    Runs.Met next (fun call b => RepeatsCapture call b → KeepsCaptured call b) calls Books.empty ↔
      Runs.Met next (fun call b => RepeatsCapture call b → ¬ CapturesAgain call b) calls Books.empty :=
  Runs.met_congr (fun _ _ => imp_congr_right keepsCaptured_iff) calls Books.empty

/-- Forty of a hundred are captured, and the call is made again with its key. -/
def retriedRun : List (Environment × KeyedStep) :=
  let env : Environment := ⟨0, .ok (), fun _ => .ok ()⟩
  let captured : PaymentResult := ⟨"succeeded", "captured", some "ref", none, none⟩
  [(env, ⟨.create "P" "charging_session" "S" 100 "PHP" "intent-1" none, ""⟩),
    (env, ⟨.authorize 0 (.ok ⟨"succeeded", "authorized", some "ref", none, none⟩), "authorize-1"⟩),
    (env, ⟨.capture 0 40 (.ok captured), "capture-1"⟩),
    (env, ⟨.capture 0 40 (.ok captured), "capture-1"⟩)]

/-- Eighty are captured. -/
theorem retried_capture_captures_again : ¬ ∀ calls,
    Runs.Met next (fun call b => RepeatsCapture call b → KeepsCaptured call b) calls Books.empty := by
  intro all
  let before := Runs.reached next (retriedRun.take 3) Books.empty
  have logged : (before.attempts.get? 1).any (fun a => a.idempotencyKey = "capture-1" ∧
      a.paymentIntentId = 0 ∧ a.operation = .capture ∧ a.state = .succeeded ∧
      a.result = ⟨"succeeded", "captured", some "ref", none, none⟩) = true := by decide +kernel
  have first : (before.payments.intents.get? 0).any (fun i => i.1.amountCapturedMinor = 40) = true := by
    decide +kernel
  have second : ((Runs.reached next retriedRun Books.empty).payments.intents.get? 0).any
      (fun i => i.1.amountCapturedMinor = 80) = true := by decide +kernel
  obtain ⟨a, attempted, facts⟩ := (Option.any_eq_true _ _).mp logged
  obtain ⟨i, stored, forty⟩ := (Option.any_eq_true _ _).mp first
  obtain ⟨j, later, eighty⟩ := (Option.any_eq_true _ _).mp second
  obtain ⟨sameKey, sameIntent, capture, succeeded, result⟩ := of_decide_eq_true facts
  have kept := (all retriedRun).2.2.2.1
    ⟨1, a, attempted, sameKey, sameIntent, capture, succeeded, by rw [result]⟩ 0 i j stored later
  have forty := of_decide_eq_true forty
  have eighty := of_decide_eq_true eighty
  omega

end KeyedStep
end VtsaCsms.Payments
