import VtsaCsms.Foundation.Action
import VtsaCsms.Foundation.Mixed
import VtsaCsms.Foundation.Runs
import VtsaCsms.Foundation.Table

/-!
# Payment intents

`PaymentIntentService.php` and `PaymentWebhookService.php`. Each call loads its intent
first; what the provider answers is an argument of the call. Attempts, finance reviews,
audit and outbox are left out: nothing reads them back.
-/
namespace VtsaCsms.Payments
open Foundation Foundation.Action

inductive PaymentIntentState where
  | created | requiresPaymentMethod | authorizationPending | requiresAction | authorized
  | capturePending | partiallyCaptured | captured | cancelPending | canceled | failed | expired
  | refundPending | partiallyRefunded | refunded
  deriving DecidableEq, Repr

inductive ProviderOperation where
  | hostedCheckout | tokenize | authorize | incrementAuthorization | capture | void | refund | retrieve
  deriving DecidableEq, Repr

structure PaymentIntent where
  providerConfigId : String
  paymentMethodId : Option String
  billableType : String
  billableId : String
  state : PaymentIntentState
  currency : String
  amountRequestedMinor : Int
  amountAuthorizedMinor : Int := 0
  amountCapturedMinor : Int := 0
  amountRefundedMinor : Int := 0
  idempotencyKey : String
  providerIntentReference : Option String := none
  failureCode : Option String := none
  failureMessage : Option String := none
  authorizedAt : Option Instant := none
  capturedAt : Option Instant := none
  canceledAt : Option Instant := none
  deriving DecidableEq

/-- `pay_intent_amounts_chk`. -/
def PaymentIntent.AmountsOrdered (i : PaymentIntent) : Prop :=
  i.amountCapturedMinor ≤ i.amountAuthorizedMinor ∧ i.amountRefundedMinor ≤ i.amountCapturedMinor
  deriving Decidable

/-- A row the database has accepted. -/
abbrev StoredIntent := { i : PaymentIntent // i.AmountsOrdered }

structure PaymentRefund where
  paymentIntentId : Nat
  state : String := "pending"
  currency : String
  amountMinor : Int
  idempotencyKey : String
  providerReference : Option String := none
  reasonCode : String
  reasonNotes : Option String
  completedAt : Option Instant := none
  failedAt : Option Instant := none
  deriving DecidableEq

structure PaymentWebhookReceipt where
  eventType : String
  providerResourceReference : Option String
  outcome : String := "received"
  ignoredReason : Option String := none
  processedAt : Option Instant := none
  deriving DecidableEq

/-- Receipts are unique by provider configuration and provider event. -/
structure Store where
  intents : Table Nat StoredIntent
  refunds : Table Nat PaymentRefund
  receipts : Table (String × String) PaymentWebhookReceipt

def Store.empty : Store := ⟨Table.empty, Table.empty, Table.empty⟩

abbrev Pay (α : Type) := Action Store Throwable α

/-- What a call reads from outside these tables. -/
structure Environment where
  now : Instant
  kycAllowed : Except Throwable Unit
  requireMethod : String → Except Throwable Unit

/-! ### Provider answers -/

structure PaymentResult where
  outcome : String
  providerStatus : String
  providerReference : Option String := none
  errorCode : Option String := none
  safeMessage : Option String := none

def PaymentResult.succeeded (r : PaymentResult) : Bool := r.outcome ∈ ["succeeded", "requires_action"]

/-- An exception of the provider is an unknown outcome. -/
def call (answer : Except Throwable PaymentResult) : PaymentResult :=
  match answer with
  | .ok result => result
  | .error _ =>
    { outcome := "outcome_unknown", providerStatus := "transport_error"
      errorCode := some "provider_transport_error"
      safeMessage := some "Provider outcome is unknown and requires retrieval." }

structure VerifiedWebhook where
  eventId : String
  eventType : String
  resourceReference : Option String
  normalizedPayload : Mixed

/-! ### Rows -/

def pay_intent_amounts_chk : Throwable := ⟨.query, "pay_intent_amounts_chk"⟩

def findIntent (key : Nat) : Pay PaymentIntent := do
  let stored ← read fun s => s.intents.get? key
  let found ← orThrow stored (.modelNotFound "PaymentIntent")
  pure found.1

def saveIntent (key : Nat) (f : PaymentIntent → PaymentIntent) : Pay Unit := do
  let stored ← read fun s => s.intents.get? key
  match stored with
  | none => pure ()
  | some i =>
    if ordered : (f i.1).AmountsOrdered then
      write fun s => { s with intents := s.intents.update key fun _ => ⟨f i.1, ordered⟩ }
    else raise pay_intent_amounts_chk

def method (env : Environment) (intent : PaymentIntent) : Pay Unit :=
  match intent.paymentMethodId with
  | none => pure ()
  | some id => lift (env.requireMethod id)

namespace PaymentIntentService

/-- `/^[A-Z]{3}$/`. -/
def isoCurrency (currency : String) : Bool :=
  currency.toList.length = 3 && currency.toList.all Char.isUpper

def newIntent (configuration billableType billableId : String) (amountMinor : Int)
    (currency idempotencyKey : String) (paymentMethodId : Option String) : PaymentIntent where
  providerConfigId := configuration
  paymentMethodId
  billableType
  billableId
  state := if paymentMethodId = none then .requiresPaymentMethod else .created
  currency
  amountRequestedMinor := amountMinor
  idempotencyKey

def create (env : Environment) (configuration billableType billableId : String) (amountMinor : Int)
    (currency idempotencyKey : String) (paymentMethodId : Option String) : Pay Unit := do
  lift env.kycAllowed
  let currency := strToUpper currency
  throwIf (amountMinor ≤ 0 ∨ isoCurrency currency = false)
    (.invalidArgument "A positive minor-unit amount and ISO currency are required.")
  let existing ← read fun s => s.intents.first? fun _ i => i.1.idempotencyKey = idempotencyKey
  match existing with
  | some (_, i) =>
    throwIf (i.1.billableType ≠ billableType ∨ i.1.billableId ≠ billableId ∨
        i.1.amountRequestedMinor ≠ amountMinor ∨ i.1.currency ≠ currency)
      (.invalidArgument "The idempotency key was already used for a different payment intent.")
  | none =>
    let row : StoredIntent := ⟨newIntent configuration billableType billableId amountMinor currency
      idempotencyKey paymentMethodId, le_refl _, le_refl _⟩
    write fun s => { s with intents := s.intents.create row }

/-- The state and amounts a provider's status stands for. -/
def retrievedChanges (now : Instant) (result : PaymentResult) (i : PaymentIntent) : PaymentIntent :=
  if result.providerStatus ∈ ["authorized", "requires_capture"] then
    { i with
      state := .authorized
      amountAuthorizedMinor := max i.amountAuthorizedMinor i.amountRequestedMinor
      authorizedAt := some (i.authorizedAt.getD now) }
  else if result.providerStatus ∈ ["captured", "succeeded"] then
    { i with
      state := .captured
      amountAuthorizedMinor := max i.amountAuthorizedMinor i.amountRequestedMinor
      amountCapturedMinor := max i.amountCapturedMinor i.amountRequestedMinor
      capturedAt := some (i.capturedAt.getD now) }
  else if result.providerStatus = "partially_refunded" then { i with state := .partiallyRefunded }
  else if result.providerStatus = "refunded" then { i with state := .refunded }
  else if result.providerStatus = "canceled" then { i with state := .canceled, canceledAt := some now }
  else if result.providerStatus = "requires_action" then { i with state := .requiresAction }
  else i

def operated (now : Instant) (operation : ProviderOperation) (amountMinor : Int) (result : PaymentResult)
    (intent : PaymentIntent) : PaymentIntent :=
  let i : PaymentIntent := { intent with
    providerIntentReference := result.providerReference.or intent.providerIntentReference
    failureCode := result.errorCode
    failureMessage := result.safeMessage }
  if result.outcome = "outcome_unknown" then
    { i with state := if operation = .capture then .capturePending else .authorizationPending }
  else if result.succeeded = false then
    { i with state := match operation with
        | .capture => .authorized
        | .refund => intent.state
        | _ => .failed }
  else match operation with
    | .authorize | .incrementAuthorization =>
      if result.outcome = "requires_action" then { i with state := .requiresAction }
      else { i with state := .authorized, amountAuthorizedMinor := amountMinor, authorizedAt := some now }
    | .capture => { i with
        amountCapturedMinor := intent.amountCapturedMinor + amountMinor
        capturedAt := some now
        state := if intent.amountCapturedMinor + amountMinor = intent.amountAuthorizedMinor then .captured
          else .partiallyCaptured }
    | .void => { i with state := .canceled, canceledAt := some now }
    | .retrieve => retrievedChanges now result i
    | _ => i

def applyOperation (env : Environment) (key : Nat) (operation : ProviderOperation) (amountMinor : Int)
    (result : PaymentResult) : Pay Unit :=
  transaction (saveIntent key (operated env.now operation amountMinor result))

def authorizable : List PaymentIntentState :=
  [.created, .requiresPaymentMethod, .authorizationPending, .requiresAction]

def authorize (env : Environment) (key : Nat) (answer : Except Throwable PaymentResult) : Pay Unit := do
  let intent ← findIntent key
  if intent.state = .authorized then pure ()
  else do
    throwIf (intent.state ∉ authorizable)
      (.invalidArgument "The payment intent cannot be authorized in its current state.")
    method env intent
    saveIntent key fun i => { i with state := .authorizationPending }
    applyOperation env key .authorize intent.amountRequestedMinor (call answer)

def incrementAuthorization (env : Environment) (key : Nat) (newTotalMinor : Int)
    (answer : Except Throwable PaymentResult) : Pay Unit := do
  let intent ← findIntent key
  throwIf (intent.state ≠ .authorized ∨ newTotalMinor ≤ intent.amountAuthorizedMinor) (.invalidArgument
    "Incremental authorization requires an authorized intent and a higher total amount.")
  method env intent
  applyOperation env key .incrementAuthorization newTotalMinor (call answer)

def capturable : List PaymentIntentState := [.authorized, .partiallyCaptured, .capturePending]

def capture (env : Environment) (key : Nat) (amountMinor : Int)
    (answer : Except Throwable PaymentResult) : Pay Unit := do
  let intent ← findIntent key
  throwIf (intent.state ∉ capturable)
    (.invalidArgument "Only an authorized payment intent can be captured.")
  throwIf (amountMinor ≤ 0 ∨ intent.amountAuthorizedMinor < intent.amountCapturedMinor + amountMinor)
    (.invalidArgument "Capture amount exceeds the remaining authorization.")
  saveIntent key fun i => { i with state := .capturePending }
  method env intent
  applyOperation env key .capture amountMinor (call answer)

def voidable : List PaymentIntentState := [.authorized, .authorizationPending]

def void (env : Environment) (key : Nat) (answer : Except Throwable PaymentResult) : Pay Unit := do
  let intent ← findIntent key
  throwIf (intent.state ∉ voidable) (.invalidArgument "Only an authorization can be voided.")
  saveIntent key fun i => { i with state := .cancelPending }
  method env intent
  applyOperation env key .void intent.amountAuthorizedMinor (call answer)

def saveRefund (key : Nat) (f : PaymentRefund → PaymentRefund) : Pay Unit :=
  write fun s => { s with refunds := s.refunds.update key f }

def refunded (amountMinor : Int) (i : PaymentIntent) : PaymentIntent :=
  { i with
    amountRefundedMinor := i.amountRefundedMinor + amountMinor
    state := if i.amountRefundedMinor + amountMinor = i.amountCapturedMinor then .refunded
      else .partiallyRefunded }

def refund (env : Environment) (key : Nat) (amountMinor : Int) (idempotencyKey reasonCode : String)
    (notes : Option String) (answer : Except Throwable PaymentResult) : Pay Unit := do
  let intent ← findIntent key
  throwIf (amountMinor ≤ 0 ∨ intent.amountCapturedMinor - intent.amountRefundedMinor < amountMinor)
    (.invalidArgument "Refund amount exceeds the refundable balance.")
  let existing ← read fun s => s.refunds.first? fun _ r => r.idempotencyKey = idempotencyKey
  match existing with
  | some _ => pure ()
  | none => do
    let refund ← read fun s => s.refunds.nextId
    let row : PaymentRefund :=
      { paymentIntentId := key, currency := intent.currency, amountMinor, idempotencyKey, reasonCode
        reasonNotes := notes }
    write fun s => { s with refunds := s.refunds.create row }
    method env intent
    let result := call answer
    transaction do
      if result.succeeded = true then do
        saveIntent key (refunded amountMinor)
        saveRefund refund fun r => { r with
          state := "completed", providerReference := result.providerReference, completedAt := some env.now }
      else
        saveRefund refund fun r => { r with
          state := if result.outcome = "outcome_unknown" then "outcome_unknown" else "failed"
          failedAt := some env.now }

def retrieve (env : Environment) (key : Nat) (answer : Except Throwable PaymentResult) : Pay Unit := do
  let intent ← findIntent key
  method env intent
  applyOperation env key .retrieve 0 (call answer)

end PaymentIntentService

namespace PaymentWebhookService

def amountOf (event : VerifiedWebhook) : Option Int :=
  match event.normalizedPayload.get "amount_minor" with
  | .int n => some n
  | _ => none

def statusOf (event : VerifiedWebhook) : String :=
  ((event.normalizedPayload.get "status").string?).getD ""

/-- What a notification makes of the intent. -/
def applyMonotonicStatus (now : Instant) (event : VerifiedWebhook) (i : PaymentIntent) : PaymentIntent :=
  let status := statusOf event
  let amount := amountOf event
  if i.state ∈ [.refunded, .canceled] then i
  else if status ∈ ["authorized", "requires_capture"] then
    if 0 < i.amountCapturedMinor then i
    else { i with
      state := .authorized
      amountAuthorizedMinor := max i.amountAuthorizedMinor (amount.getD i.amountRequestedMinor)
      authorizedAt := some (i.authorizedAt.getD now) }
  else if status ∈ ["captured", "succeeded"] then
    let captured := max i.amountCapturedMinor (amount.getD i.amountRequestedMinor)
    { i with
      amountAuthorizedMinor := max i.amountAuthorizedMinor captured
      amountCapturedMinor := captured
      state := if max i.amountAuthorizedMinor captured ≤ captured then .captured else .partiallyCaptured
      capturedAt := some (i.capturedAt.getD now) }
  else if status = "partially_refunded" then { i with state := .partiallyRefunded }
  else if status = "refunded" then
    { i with
      state := .refunded
      amountRefundedMinor := max i.amountRefundedMinor (amount.getD i.amountCapturedMinor) }
  else if status = "requires_action" then
    if i.state ∈ [.created, .authorizationPending] then { i with state := .requiresAction } else i
  else if status = "canceled" then
    if 0 < i.amountCapturedMinor then i
    else { i with state := .canceled, canceledAt := some now }
  else i

def saveReceipt (id : String × String) (f : PaymentWebhookReceipt → PaymentWebhookReceipt) : Pay Unit :=
  write fun s => { s with receipts := s.receipts.update id f }

def handle (env : Environment) (configuration : String) (verified : Except Throwable VerifiedWebhook) :
    Pay Unit := do
  let event ← lift verified
  let id := (configuration, event.eventId)
  let existing ← read fun s => s.receipts.get? id
  match existing with
  | some _ => pure ()
  | none => transaction do
    let receipt : PaymentWebhookReceipt :=
      { eventType := event.eventType, providerResourceReference := event.resourceReference }
    write fun s => { s with receipts := s.receipts.put id receipt }
    match event.resourceReference with
    | none => saveReceipt id fun r => { r with
        outcome := "ignored", ignoredReason := some "resource_reference_missing", processedAt := some env.now }
    | some reference => do
      let found ← read fun s => s.intents.first? fun _ i =>
        i.1.providerConfigId = configuration && i.1.providerIntentReference = some reference
      match found with
      | none => saveReceipt id fun r => { r with
          outcome := "review_required", ignoredReason := some "payment_intent_not_found"
          processedAt := some env.now }
      | some (key, before) => do
        saveIntent key (applyMonotonicStatus env.now event)
        saveReceipt id fun r => { r with
          outcome := if (applyMonotonicStatus env.now event before.1).state = before.1.state then
            "processed_no_change" else "processed"
          processedAt := some env.now }

end PaymentWebhookService

/-! ### Runs -/

inductive Step where
  | create (configuration billableType billableId : String) (amountMinor : Int)
      (currency idempotencyKey : String) (paymentMethodId : Option String)
  | authorize (intent : Nat) (answer : Except Throwable PaymentResult)
  | incrementAuthorization (intent : Nat) (newTotalMinor : Int) (answer : Except Throwable PaymentResult)
  | capture (intent : Nat) (amountMinor : Int) (answer : Except Throwable PaymentResult)
  | void (intent : Nat) (answer : Except Throwable PaymentResult)
  | refund (intent : Nat) (amountMinor : Int) (idempotencyKey reasonCode : String)
      (notes : Option String) (answer : Except Throwable PaymentResult)
  | retrieve (intent : Nat) (answer : Except Throwable PaymentResult)
  | webhook (configuration : String) (verified : Except Throwable VerifiedWebhook)

namespace Step

def perform (env : Environment) : Step → Pay Unit
  | create configuration billableType billableId amountMinor currency idempotencyKey paymentMethodId =>
    PaymentIntentService.create env configuration billableType billableId amountMinor currency
      idempotencyKey paymentMethodId
  | authorize intent answer => PaymentIntentService.authorize env intent answer
  | incrementAuthorization intent newTotalMinor answer =>
    PaymentIntentService.incrementAuthorization env intent newTotalMinor answer
  | capture intent amountMinor answer => PaymentIntentService.capture env intent amountMinor answer
  | void intent answer => PaymentIntentService.void env intent answer
  | refund intent amountMinor idempotencyKey reasonCode notes answer =>
    PaymentIntentService.refund env intent amountMinor idempotencyKey reasonCode notes answer
  | retrieve intent answer => PaymentIntentService.retrieve env intent answer
  | webhook configuration verified => PaymentWebhookService.handle env configuration verified

def next (call : Environment × Step) (s : Store) : Store := after (call.2.perform call.1) s

end Step
end VtsaCsms.Payments
