import VtsaCsms.Billing.WalletConservation

/-!
# QR top-ups

`Qr/QrTopups.php` with `QrAvailability.php` and `TopupLimits::current`. A call of `create` goes
on after its order is committed, so it is kept between its database statements and may stop at
any of them. Simulated payment, logs and audit are left out; what a signed message says and
what the gateway answers are read from outside.
-/
namespace VtsaCsms.Payments
open Foundation Foundation.Action Billing

structure WalletException where
  errorCode : String
  message : String
  status : Nat := 409
  deriving DecidableEq

inductive TopupFailure where
  | wallet (e : WalletException)
  | unexpectedValue (message : String)
  | thrown (e : Throwable)

inductive TopupStatus where
  | creating | pending | unknown | reviewRequired | paid
  deriving DecidableEq, Repr

structure QrTopup where
  subjectId : String
  book : String
  chargingAccountId : Option String
  currency : String := "PHP"
  amountMinor : Int
  idempotencyKey : String
  status : TopupStatus := .creating
  merchantId : Option String
  invoiceId : Option String := none
  transactionId : Option String := none
  confirmationHash : Option String := none
  qrContent : Option String := none
  expiresAt : Option Instant := none
  paidAt : Option Instant := none

/-- `array<string,string>`. -/
abbrev Fields := List (String × String)

/-- `$fields[$name] ?? ''`. -/
def field (fields : Fields) (name : String) : String := (fields.lookup name).getD ""

structure WalletConfig where
  mode : String
  environment : String
  simulatedPayments : Bool
  realPayments : Bool
  approved : Bool
  tenantId : Option String
  merchantId : Option String
  signingKey : Option String
  serverIp : Option String
  notifyUrl : Option String

structure TopupSettings where
  minimumMinor : Int
  maximumMinor : Int
  presets : List (Int × Bool)
  allowCustomAmount : Bool

/-- What a call reads from outside: `kycAllowed` and `fundingAllowed` are the checks on the
subject and on a charging account, `verify` is `AubQrProtocol::verify` under the configured key,
`manilaTime` a date of fourteen digits that is one. -/
structure TopupEnvironment where
  now : Instant
  tenantId : String
  config : WalletConfig
  settings : TopupSettings
  kycAllowed : String → Except Throwable Unit
  fundingAllowed : String → String → Except Throwable Unit
  verify : String → Except WalletException Fields
  sha256 : String → String
  manilaTime : String → Option Instant

/-! ### Availability and limits -/

namespace QrAvailability

def mode (env : TopupEnvironment) : String :=
  let config := env.config
  if config.mode = "simulated" ∧ config.environment ∈ ["local", "testing", "staging", "demo"] ∧
      config.simulatedPayments = true then "simulated"
  else if config.mode = "live" ∧ config.realPayments = true ∧ config.approved = true ∧
      config.tenantId = some env.tenantId then
    if ∃ value ∈ [config.merchantId, config.signingKey, config.serverIp, config.notifyUrl],
        value = none ∨ value = some "" then "disabled"
    else if (config.notifyUrl.getD "").startsWith "https://" then "live"
    else "disabled"
  else "disabled"

def requireCollection (env : TopupEnvironment) : Except TopupFailure String :=
  if mode env = "disabled" then
    .error (.wallet ⟨"TOPUPS_DISABLED", "Top-ups are not available yet.", 503⟩)
  else .ok (mode env)

end QrAvailability

/-- `TopupLimits::current()['preset_amounts_minor']`. -/
def presetAmounts (settings : TopupSettings) : List Int :=
  (settings.presets.filter fun preset => preset.2 && decide (settings.minimumMinor ≤ preset.1) &&
    decide (preset.1 ≤ settings.maximumMinor)).map Prod.fst

/-! ### Texts -/

/-- `Str::isUlid`. -/
def isUlid (s : String) : Bool :=
  s.toList.length = 26 && s.toList.all (· ∈ "0123456789ABCDEFGHJKMNPQRSTVWXYZabcdefghjkmnpqrstvwxyz".toList) &&
    s.toList.head?.all (· ≤ '7')

/-- `/^[0-9]{low,high}$/D`. -/
def digitsBetween (low high : Nat) (s : String) : Bool :=
  decide (low ≤ s.toList.length ∧ s.toList.length ≤ high) && s.toList.all Char.isDigit

/-- `/^[a-zA-Z0-9_-]{1,64}$/D`. -/
def isTransactionId (s : String) : Bool :=
  decide (1 ≤ s.toList.length ∧ s.toList.length ≤ 64) &&
    s.toList.all fun c => c.isAlphanum || c = '_' || c = '-'

/-! ### Rows -/

/-- Where a call of `create` stands between two statements. -/
inductive CreateStage where
  | checked (subject book : String) (amount : Int) (key : String) (accountId : Option String)
  | ordered (topup book : String)
  | failing (topup : String)

structure Topups where
  rows : Table String QrTopup
  wallet : Wallet
  calls : Table Nat CreateStage

abbrev TopupAction (α : Type) := Action Topups TopupFailure α

def onWallet (m : Action Wallet Throwable Unit) : TopupAction Unit := fun s =>
  match m s.wallet with
  | (.ok a, w) => (.ok a, { s with wallet := w })
  | (.error e, w) => (.error (.thrown e), { s with wallet := w })

def saveTopup (id : String) (f : QrTopup → QrTopup) : TopupAction Unit :=
  write fun s => { s with rows := s.rows.update id f }

def endCall (call : Nat) : TopupAction Unit :=
  write fun s => { s with calls := s.calls.removeWhere fun k _ => k = call }

def enterStage (call : Nat) (stage : CreateStage) : TopupAction Unit :=
  write fun s => { s with calls := s.calls.put call stage }

def outside {α : Type} (x : Except Throwable α) : TopupAction α :=
  lift (x.mapError TopupFailure.thrown)

namespace QrTopups

def conflict : TopupFailure :=
  .wallet { errorCode := "IDEMPOTENCY_CONFLICT", message := "This request reference belongs to a different amount." }

def sameOrder (subject book key : String) (row : QrTopup) : Bool :=
  row.subjectId = subject && row.book = book && row.idempotencyKey = key

def requireFunding (env : TopupEnvironment) (subject : String) : Option String → TopupAction Unit
  | none => pure ()
  | some account => outside (env.fundingAllowed subject account)

/-- `create` up to its transaction. -/
def create (env : TopupEnvironment) (subject : String) (amount : Int) (key : String)
    (accountId : Option String) : TopupAction Unit := do
  let book ← lift (QrAvailability.requireCollection env)
  outside (env.kycAllowed subject)
  requireFunding env subject accountId
  let existing ← read fun s => s.rows.first? fun _ row => sameOrder subject book key row
  match existing with
  | some (_, row) => throwIf (row.amountMinor ≠ amount ∨ row.chargingAccountId ≠ accountId) conflict
  | none => do
    throwIf (amount < env.settings.minimumMinor ∨ env.settings.maximumMinor < amount)
      (.wallet ⟨"INVALID_TOPUP_AMOUNT", "Choose an amount within the displayed limits.", 422⟩)
    throwIf (env.settings.allowCustomAmount = false ∧ amount ∉ presetAmounts env.settings)
      (.wallet ⟨"INVALID_TOPUP_AMOUNT",
        "Choose one of the available top-up amounts. Refresh Wallet to see the latest options.", 422⟩)
    write fun s => { s with calls := s.calls.create (.checked subject book amount key accountId) }

/-- The order is persisted before the network call; a retry finds it. -/
def order (env : TopupEnvironment) (newId subject book : String) (amount : Int) (key : String)
    (accountId : Option String) : TopupAction (Option String) :=
  transaction do
    let found ← read fun s => s.rows.first? fun _ row => sameOrder subject book key row
    match found with
    | some (_, row) => do
      throwIf (row.amountMinor ≠ amount ∨ row.chargingAccountId ≠ accountId) conflict
      pure none
    | none => do
      let taken ← read fun s => s.rows.get? newId
      throwIf (taken.isSome = true) (.thrown (.uniqueConstraint "qr_topups_pkey"))
      throwIf (amount ≤ 0) (.thrown ⟨.query, "qr_topups_amount_minor_check"⟩)
      let row : QrTopup :=
        { subjectId := subject, book, chargingAccountId := accountId, amountMinor := amount
          idempotencyKey := key, merchantId := if book = "live" then env.config.merchantId else none }
      write fun s => { s with rows := s.rows.put newId row }
      pure (some newId)

/-- What the gateway's answer makes of the order, unless a callback has won the race. -/
def answered (env : TopupEnvironment) (id : String) (answer : Except TopupFailure Fields) :
    TopupAction Unit := do
  let result ← lift answer
  transaction do
    let found ← read fun s => s.rows.get? id
    let row ← orThrow found (.thrown (.modelNotFound "QrTopup"))
    if row.status = .paid then pure ()
    else if some (field result "mch_id") ≠ row.merchantId ∨ field result "status" ≠ "0" ∨
        field result "result_code" ≠ "0" then
      saveTopup id fun r => { r with status := .reviewRequired }
    else do
      let qr := field result "code_url"
      let invoice := field result "invoiceId"
      let expiration := field result "expiration_date"
      doIf (invoice ≠ "" ∧ invoice.utf8ByteSize ≤ 32)
        (saveTopup id fun r => { r with invoiceId := some invoice })
      if qr = "" ∨ 512 < qr.utf8ByteSize ∨ 32 < invoice.utf8ByteSize ∨
          digitsBetween 14 14 expiration = false then
        saveTopup id fun r => { r with status := .reviewRequired }
      else do
        let expiry ← orThrow (env.manilaTime expiration) (.unexpectedValue "Invalid expiry.")
        saveTopup id fun r => { r with
          status := .pending, qrContent := some qr
          invoiceId := if invoice = "" then none else some invoice, expiresAt := some expiry }

/-- The next statement of a call of `create`; a call that throws or returns is over. -/
def proceed (env : TopupEnvironment) (call : Nat) (newId : String) (answer : Except TopupFailure Fields) :
    TopupAction Unit := do
  let stage ← read fun s => s.calls.get? call
  match stage with
  | none => pure ()
  | some (.checked subject book amount key accountId) => do
    endCall call
    let created ← order env newId subject book amount key accountId
    match created with
    | none => pure ()
    | some id => enterStage call (.ordered id book)
  | some (.ordered id book) =>
    if book = "simulated" then do
      endCall call
      saveTopup id fun r => { r with
        status := .pending, expiresAt := some (Instant.addSeconds env.now 600) }
    else do
      -- an exception leads to the handler, which is a statement of its own
      enterStage call (.failing id)
      answered env id answer
      endCall call
  | some (.failing id) => do
    endCall call
    write fun s => { s with
      rows := s.rows.updateWhere (fun k r => k = id && r.status = .creating)
        (fun r => { r with status := .unknown }) }

def mismatch : TopupFailure :=
  .wallet ⟨"PAYMENT_MISMATCH", "Payment confirmation could not be matched.", 400⟩

def confirm (env : TopupEnvironment) (id book : String) (amount : Int)
    (transaction' merchant evidenceHash : String) : TopupAction Unit :=
  transaction do
    let found ← read fun s => (s.rows.get? id).filter fun row => row.book = book
    let row ← orThrow found (.thrown (.modelNotFound "QrTopup"))
    throwIf (row.amountMinor ≠ amount ∨ row.merchantId.getD "" ≠ merchant) mismatch
    if row.status = .paid then
      throwIf (row.transactionId ≠ some transaction')
        (.wallet { errorCode := "PAYMENT_CONFLICT", message := "Payment requires review." })
    else do
      onWallet (PrepaidWallet.credit row.subjectId book id amount row.chargingAccountId)
      let clash ← read fun s => s.rows.exists? fun k r =>
        k ≠ id && r.book = book && r.transactionId = some transaction'
      throwIf (clash = true) (.thrown (.uniqueConstraint "qr_topup_transaction_uq"))
      saveTopup id fun r => { r with
        status := .paid, transactionId := some transaction', confirmationHash := some evidenceHash
        paidAt := some env.now, qrContent := none }

/-- The message says that a payment in pesos went through. -/
def PaymentFact (fields : Fields) : Prop :=
  field fields "status" = "0" ∧ field fields "result_code" = "0" ∧ field fields "pay_result" = "0" ∧
    field fields "trade_type" = "pay.instapay.native.v2" ∧ field fields "fee_type" = "PHP" ∧
    digitsBetween 1 12 (field fields "total_fee") = true ∧ isUlid (field fields "out_trade_no") = true ∧
    isTransactionId (field fields "transaction_id") = true
  deriving Decidable

def notify (env : TopupEnvironment) (raw : String) : TopupAction Unit := do
  let fields ← lift ((env.verify raw).mapError TopupFailure.wallet)
  throwIf (¬ PaymentFact fields)
    (.wallet ⟨"INVALID_PAYMENT_FACT", "Payment confirmation could not be matched.", 400⟩)
  confirm env (field fields "out_trade_no") "live" (intOfDigits (field fields "total_fee"))
    (field fields "transaction_id") (field fields "mch_id") (env.sha256 raw)

/-- `loaded` is the row as the caller read it, however long ago. -/
def reconcile (id : String) (loaded : QrTopup) (answer : Except TopupFailure Fields) : TopupAction Unit :=
  if loaded.book ≠ "live" ∨ loaded.status = .paid ∨ loaded.invoiceId ∈ [none, some "", some "0"] then
    pure ()
  else
    match answer with
    | .error _ => pure ()
    | .ok _ => write fun s => { s with
        rows := s.rows.updateWhere (fun k r => k = id && r.status ≠ .paid)
          (fun r => { r with status := .reviewRequired }) }

end QrTopups

/-! ### Runs -/

/-- One statement or transaction of one of the calls, or a wallet operation of the charging
side, which does not credit: only confirmed payments do. -/
inductive TopupStep where
  | create (subject : String) (amount : Int) (key : String) (accountId : Option String)
  | proceed (call : Nat) (newId : String) (answer : Except TopupFailure Fields)
  | notify (raw : String)
  | reconcile (topup : String) (loaded : QrTopup) (answer : Except TopupFailure Fields)
  | charge (call : WalletCall) (spends : ∀ subject book reference amount accountId,
      call ≠ .credit subject book reference amount accountId)

namespace TopupStep

def perform (env : TopupEnvironment) : TopupStep → TopupAction Unit
  | create subject amount key accountId => QrTopups.create env subject amount key accountId
  | proceed call newId answer => QrTopups.proceed env call newId answer
  | notify raw => QrTopups.notify env raw
  | reconcile topup loaded answer => QrTopups.reconcile topup loaded answer
  | charge call _ => onWallet call.perform

def next (step : TopupEnvironment × TopupStep) (s : Topups) : Topups := after (step.2.perform step.1) s

end TopupStep

def Topups.opening (limits : Table Nat SpendingLimit) (ledger : Ledger) : Topups :=
  ⟨Table.empty, Wallet.opening limits ledger, Table.empty⟩

end VtsaCsms.Payments
