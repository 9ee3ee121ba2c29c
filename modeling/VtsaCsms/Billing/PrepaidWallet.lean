import VtsaCsms.Billing.DoubleEntryLedger

/-!
# Prepaid wallet

`Billing/Application/PrepaidWallet.php`: accounts, holds and entries of one tenant, and
the ledger the live book posts to. Every operation is one database transaction. Check
constraints of the tables are left out, so what holds here holds by the code alone;
unique indexes and the range of a bigint column are kept. Audit rows are left out.
-/
namespace VtsaCsms.Billing
open Foundation Foundation.Action

structure PrepaidAccount where
  subjectId : Option String
  chargingAccountId : Option String
  book : String
  currency : String
  balanceMinor : Int
  reservedMinor : Int
  deriving DecidableEq, Repr

inductive EntryKind where
  | topup | reserved | spent | released
  deriving DecidableEq, Repr

structure PrepaidEntry where
  accountId : Nat
  referenceId : String
  kind : EntryKind
  amountMinor : Int
  deriving DecidableEq, Repr

inductive ReservationStatus where
  | reserved | settled
  deriving DecidableEq, Repr

structure PrepaidReservation where
  accountId : Nat
  referenceId : String
  amountMinor : Int
  spentMinor : Option Int
  status : ReservationStatus
  deriving DecidableEq, Repr

inductive LimitTarget where
  | driver | vehicle
  deriving DecidableEq, Repr

def LimitTarget.tryFrom : String → Option LimitTarget
  | "driver" => some .driver
  | "vehicle" => some .vehicle
  | _ => none

structure SpendingLimit where
  chargingAccountId : String
  targetType : LimitTarget
  targetId : String
  amountMinor : Int
  deriving DecidableEq, Repr

structure Wallet where
  accounts : Table Nat PrepaidAccount
  reservations : Table Nat PrepaidReservation
  entries : Table Nat PrepaidEntry
  limits : Table Nat SpendingLimit
  ledger : Ledger

namespace PrepaidWallet

/-- Whether the row is the account `firstOrCreate` asks for. -/
def owns (subject book : String) (accountId : Option String) (a : PrepaidAccount) : Bool :=
  a.subjectId = (if accountId = none then some subject else none) &&
    a.chargingAccountId = accountId && a.book = book && a.currency = "PHP"

def account (subject book : String) (accountId : Option String) : Action Wallet Throwable Nat := do
  throwIf (book ≠ "simulated" ∧ book ≠ "live") (.invalidArgument "Invalid wallet book.")
  let found ← read fun w => w.accounts.first? fun _ a => owns subject book accountId a
  match found with
  | some (key, _) => pure key
  | none =>
    let row : PrepaidAccount :=
      { subjectId := if accountId = none then some subject else none
        chargingAccountId := accountId, book, currency := "PHP"
        balanceMinor := 0, reservedMinor := 0 }
    let key ← read fun w => w.accounts.nextId
    write fun w => { w with accounts := w.accounts.create row }
    pure key

/-- `whereKey(...)->lockForUpdate()->firstOrFail()`. -/
def lockForUpdate (key : Nat) : Action Wallet Throwable PrepaidAccount := do
  let found ← read fun w => w.accounts.get? key
  orThrow found (.modelNotFound "PrepaidAccount")

def onLedger {α : Type} (m : Action Ledger Throwable α) : Action Wallet Throwable α :=
  focus Wallet.ledger (fun w l => { w with ledger := l }) m

def liability (key : Nat) (account : PrepaidAccount) : Action Wallet Throwable (Nat × LedgerAccount) :=
  onLedger (DoubleEntryLedger.account ("PREPAID-" ++ keyText key) "Customer prepaid balance"
    "liability" "PHP" (some (if account.chargingAccountId = none then "subject" else "organization"))
    (account.chargingAccountId.or account.subjectId))

def saveAccount (key : Nat) (f : PrepaidAccount → PrepaidAccount) : Action Wallet Throwable Unit :=
  write fun w => { w with accounts := w.accounts.update key f }

/-- `$account->increment('balance_minor', $amount)`. -/
def incrementBalance (key : Nat) (account : PrepaidAccount) (amount : Int) :
    Action Wallet Throwable Unit := do
  throwIf (phpIntMax < account.balanceMinor + amount) .bigintOutOfRange
  saveAccount key fun a => { a with balanceMinor := a.balanceMinor + amount }

/-- `$account->increment('reserved_minor', $amount)`. -/
def incrementReserved (key : Nat) (account : PrepaidAccount) (amount : Int) :
    Action Wallet Throwable Unit := do
  throwIf (phpIntMax < account.reservedMinor + amount) .bigintOutOfRange
  saveAccount key fun a => { a with reservedMinor := a.reservedMinor + amount }

/-- Whether an entry row is the one of this account, reference and kind. -/
def isEntry (key : Nat) (reference : String) (kind : EntryKind) (e : PrepaidEntry) : Bool :=
  e.accountId = key && e.referenceId = reference && e.kind = kind

def entry (key : Nat) (reference : String) (kind : EntryKind) (amount : Int) :
    Action Wallet Throwable Unit := do
  let duplicate ← read fun w => w.entries.exists? fun _ e => isEntry key reference kind e
  throwIf (duplicate = true) (.uniqueConstraint "prepaid_entry_reference_uq")
  write fun w => { w with entries := w.entries.create ⟨key, reference, kind, amount⟩ }

/-- Only live funds enter the ledger: clearing against the account's liability. -/
def postCredit (book reference : String) (amount : Int) (key : Nat) (account : PrepaidAccount) :
    Action Wallet Throwable Unit :=
  if book = "live" then do
    let clearing ← onLedger (DoubleEntryLedger.account ("PREPAID-CLEARING-" ++ book)
      "Prepaid provider clearing" "asset" "PHP")
    let liable ← liability key account
    let _ ← onLedger (DoubleEntryLedger.post "qr_topup" reference "prepaid_credit" "PHP"
      ("prepaid-credit-" ++ reference)
      [{ account := clearing, debitMinor := amount }, { account := liable, creditMinor := amount }])
  else pure ()

def credit (subject book reference : String) (amount : Int) (accountId : Option String) :
    Action Wallet Throwable Unit := do
  throwIf (amount ≤ 0) (.invalidArgument "Credit must be positive.")
  transaction do
    let key ← account subject book accountId
    let account ← lockForUpdate key
    let existing ← read fun w => w.entries.first? fun _ e => isEntry key reference .topup e
    match existing with
    | some (_, e) => throwIf (e.amountMinor ≠ amount) (.logic "Conflicting wallet credit.")
    | none =>
      postCredit book reference amount key account
      incrementBalance key account amount
      entry key reference .topup amount

/-- `summary`: an account's figures, or those of an account yet to be made. -/
structure Summary where
  id : Option Nat
  balanceMinor : Int
  reservedMinor : Int
  availableMinor : Int
  deriving DecidableEq, Repr

def summary (w : Wallet) (subject book : String) (accountId : Option String) : Summary :=
  let found := w.accounts.first? fun _ a =>
    a.subjectId = (if accountId = none then some subject else none) && a.chargingAccountId = accountId &&
      a.book = book
  match found with
  | some (key, a) => ⟨some key, a.balanceMinor, a.reservedMinor, a.balanceMinor - a.reservedMinor⟩
  | none => ⟨none, 0, 0, 0⟩

/-- The smallest limit set on the driver or the vehicle of a charging account. -/
def sessionCap (w : Wallet) (account : Option String) (driver : String) (vehicle : Option String)
    (maximum : Int) : Int :=
  match account with
  | none => maximum
  | some charging =>
    let limits := w.limits.rowsWhere fun _ l => l.chargingAccountId = charging &&
      ((l.targetType = .driver && l.targetId = driver) ||
        (l.targetType = .vehicle && some l.targetId = vehicle))
    limits.foldl (fun cap l => min cap l.2.amountMinor) maximum

def reserve (subject book reference : String) (amount : Int) (accountId vehicleId : Option String) :
    Action Wallet Throwable Unit := do
  throwIf (amount ≤ 0) (.invalidArgument "Reservation must be positive.")
  transaction do
    let key ← account subject book accountId
    let account ← lockForUpdate key
    let existing ← read fun w => w.reservations.first? fun _ r => r.referenceId = reference
    match existing with
    | some (_, r) =>
      throwIf (r.accountId ≠ key ∨ r.amountMinor ≠ amount) (.logic "Conflicting reservation.")
    | none =>
      let cap ← read fun w => sessionCap w accountId subject vehicleId amount
      throwIf (cap < amount)
        (.validation "The account spending limit changed. Review a fresh quote.")
      throwIf (account.balanceMinor - account.reservedMinor < amount)
        (.validation "Insufficient available balance.")
      let hold : PrepaidReservation := ⟨key, reference, amount, none, .reserved⟩
      write fun w => { w with reservations := w.reservations.create hold }
      incrementReserved key account amount
      entry key reference .reserved amount

def postSpend (book reference : String) (spent : Int) (key : Nat) (account : PrepaidAccount) :
    Action Wallet Throwable Unit :=
  if 0 < spent ∧ book = "live" then do
    let receivable ← onLedger (DoubleEntryLedger.account "1100-AR" "Accounts receivable" "asset" "PHP")
    let liable ← liability key account
    let _ ← onLedger (DoubleEntryLedger.post "prepaid_reservation" reference "prepaid_spend" "PHP"
      ("prepaid-spend-" ++ reference)
      [{ account := liable, debitMinor := spent }, { account := receivable, creditMinor := spent }])
  else pure ()

def settle (subject book reference : String) (spent : Int) (accountId : Option String) :
    Action Wallet Throwable Unit :=
  transaction do
    let key ← account subject book accountId
    let account ← lockForUpdate key
    let found ← read fun w => w.reservations.first? fun _ r =>
      r.accountId = key && r.referenceId = reference
    let hold ← orThrow found (.modelNotFound "PrepaidReservation")
    throwIf (spent < 0 ∨ hold.2.amountMinor < spent) (.invalidArgument "Spend exceeds reserved funds.")
    if hold.2.status = .settled then
      throwIf (hold.2.spentMinor ≠ some spent) (.logic "Conflicting settlement.")
    else do
      postSpend book reference spent key account
      saveAccount key fun a => { a with
        balanceMinor := account.balanceMinor - spent
        reservedMinor := account.reservedMinor - hold.2.amountMinor }
      write fun w => { w with reservations := w.reservations.update hold.1 fun r =>
        { r with status := .settled, spentMinor := some spent } }
      entry key reference .spent spent
      if spent < hold.2.amountMinor then
        entry key reference .released (hold.2.amountMinor - spent)
      else pure ()

/-- `updateOrInsert` on charging account and target, or the removal of that row. -/
def saveLimit (account : String) (target : LimitTarget) (targetId : String) (amount : Option Int)
    (limits : Table Nat SpendingLimit) : Table Nat SpendingLimit :=
  let isRow := fun (_ : Nat) (l : SpendingLimit) =>
    decide (l.chargingAccountId = account ∧ l.targetType = target ∧ l.targetId = targetId)
  match amount with
  | none => limits.removeWhere isRow
  | some minor =>
    if limits.exists? isRow then limits.updateWhere isRow fun l => { l with amountMinor := minor }
    else limits.create ⟨account, target, targetId, minor⟩

def setLimit (actor accountId type targetId : String) (amount : Option Int) :
    Action Wallet Throwable Unit := do
  let target ← orThrow (LimitTarget.tryFrom type) (.invalidArgument "Invalid spending limit.")
  throwIf (∃ minor ∈ amount, minor < 0) (.invalidArgument "Invalid spending limit.")
  transaction do
    let key ← account actor "live" (some accountId)
    let _ ← lockForUpdate key
    write fun w => { w with limits := saveLimit accountId target targetId amount w.limits }

end PrepaidWallet

end VtsaCsms.Billing
