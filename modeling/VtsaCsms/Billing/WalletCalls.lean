import VtsaCsms.Billing.PrepaidWallet

/-!
# Wallet calls

What one returning call of the wallet did to its rows, in the order the code writes
them, and the runs of calls. Every later fact about the wallet goes through these.
-/
namespace VtsaCsms.Billing
open Foundation Foundation.Action

namespace PrepaidWallet

/-- The key of the account a caller already has. -/
def callerAccount (w : Wallet) (subject book : String) (accountId : Option String) : Option Nat :=
  (w.accounts.first? fun _ a => owns subject book accountId a).map Prod.fst

/-- The caller's account is open under `key`: it was there, or an empty one was created. -/
structure Opened (subject book : String) (accountId : Option String) (w w' : Wallet)
    (key : Nat) (row : PrepaidAccount) : Prop where
  stored : w'.accounts.get? key = some row
  owned : owns subject book accountId row = true
  rows : (w' = w ∧ callerAccount w subject book accountId = some key) ∨
    (callerAccount w subject book accountId = none ∧ key = w.accounts.nextId ∧
      row.balanceMinor = 0 ∧ row.reservedMinor = 0 ∧
      w' = { w with accounts := w.accounts.create row })

variable {subject book reference : String} {accountId : Option String} {w w' : Wallet} {key : Nat}
  {row : PrepaidAccount} {amount : Int} {u : Unit}

theorem account_returns (success : Returns (account subject book accountId) w key w') :
    ∃ row, Opened subject book accountId w w' key row := by
  unfold account at success
  simp only [returns_bind, returns_throwIf, returns_read] at success
  obtain ⟨_, _, ⟨-, rfl⟩, found, _, ⟨lookup, rfl⟩, success⟩ := success
  cases found with
  | some existing =>
    obtain ⟨k, row⟩ := existing
    simp only [returns_pure] at success
    obtain ⟨rfl, rfl⟩ := success
    have hit := Table.first?_some lookup.symm
    refine ⟨row, hit.1, hit.2, Or.inl ⟨rfl, ?_⟩⟩
    unfold callerAccount
    rw [← lookup]
    rfl
  | none =>
    simp only [returns_bind, returns_read, returns_write, returns_pure] at success
    obtain ⟨_, _, ⟨rfl, rfl⟩, _, _, rfl, rfl, rfl⟩ := success
    refine ⟨_, Table.get?_create_self _ _, ?_, Or.inr ⟨?_, rfl, rfl, rfl, rfl⟩⟩
    · simp [owns]
    · unfold callerAccount
      rw [← lookup]
      rfl

theorem lockForUpdate_returns
    (success : Returns (lockForUpdate key) w row w') : w.accounts.get? key = some row ∧ w' = w := by
  unfold lockForUpdate at success
  simp only [returns_bind, returns_read, returns_orThrow] at success
  obtain ⟨_, _, ⟨rfl, rfl⟩, stored, rfl⟩ := success
  exact ⟨stored, rfl⟩

theorem entry_returns {kind : EntryKind} (success : Returns (entry key reference kind amount) w u w') :
    (∀ k e, w.entries.get? k = some e → isEntry key reference kind e = false) ∧
      w' = { w with entries := w.entries.create ⟨key, reference, kind, amount⟩ } := by
  unfold entry at success
  simp only [returns_bind, returns_read, returns_throwIf, returns_write] at success
  obtain ⟨duplicate, _, ⟨rfl, rfl⟩, _, _, ⟨absent, rfl⟩, rfl⟩ := success
  refine ⟨?_, rfl⟩
  intro k e stored
  by_contra present
  apply absent
  rw [Table.exists?_iff]
  exact ⟨k, e, stored, by simpa using present⟩

theorem incrementBalance_returns (success : Returns (incrementBalance key row amount) w u w') :
    w' = { w with accounts :=
      w.accounts.update key fun a => { a with balanceMinor := a.balanceMinor + amount } } := by
  unfold incrementBalance saveAccount at success
  simp only [returns_bind, returns_throwIf, returns_write] at success
  obtain ⟨_, _, ⟨-, rfl⟩, rfl⟩ := success
  rfl

theorem incrementReserved_returns (success : Returns (incrementReserved key row amount) w u w') :
    w' = { w with accounts :=
      w.accounts.update key fun a => { a with reservedMinor := a.reservedMinor + amount } } := by
  unfold incrementReserved saveAccount at success
  simp only [returns_bind, returns_throwIf, returns_write] at success
  obtain ⟨_, _, ⟨-, rfl⟩, rfl⟩ := success
  rfl

theorem postCredit_frame (success : Returns (postCredit book reference amount key row) w u w') :
    w' = { w with ledger := w'.ledger } := by
  unfold postCredit liability onLedger at success
  split at success
  · simp only [returns_bind, returns_focus, returns_pure] at success
    obtain ⟨_, _, ⟨_, -, rfl⟩, _, _, ⟨_, -, rfl⟩, _, _, ⟨_, -, rfl⟩, -, rfl⟩ := success
    rfl
  · simp only [returns_pure] at success
    rw [success.2]

theorem postSpend_frame {spent : Int} (success : Returns (postSpend book reference spent key row) w u w') :
    w' = { w with ledger := w'.ledger } := by
  unfold postSpend liability onLedger at success
  split at success
  · simp only [returns_bind, returns_focus, returns_pure] at success
    obtain ⟨_, _, ⟨_, -, rfl⟩, _, _, ⟨_, -, rfl⟩, _, _, ⟨_, -, rfl⟩, -, rfl⟩ := success
    rfl
  · simp only [returns_pure] at success
    rw [success.2]

/-! ### The three money calls -/

/-- A credit under a reference new to the account. -/
structure Credited (book reference : String) (amount : Int) (key : Nat) (row : PrepaidAccount)
    (w w' : Wallet) : Prop where
  fresh : ∀ k e, w.entries.get? k = some e → isEntry key reference .topup e = false
  posted : Returns (postCredit book reference amount key row) w () { w with ledger := w'.ledger }
  rows : w' = { w with
    ledger := w'.ledger
    accounts := w.accounts.update key fun a => { a with balanceMinor := a.balanceMinor + amount }
    entries := w.entries.create ⟨key, reference, .topup, amount⟩ }

/-- A repeated credit, which changes nothing but may have opened the account. -/
def CreditReplayed (reference : String) (amount : Int) (key : Nat) (w w' : Wallet) : Prop :=
  w' = w ∧ ∃ k e, w.entries.get? k = some e ∧ isEntry key reference .topup e = true ∧
    e.amountMinor = amount

theorem credit_returns (success : Returns (credit subject book reference amount accountId) w u w') :
    0 < amount ∧ ∃ key row opened, Opened subject book accountId w opened key row ∧
      (CreditReplayed reference amount key opened w' ∨
        Credited book reference amount key row opened w') := by
  unfold credit at success
  simp only [returns_bind, returns_throwIf, returns_transaction, returns_read] at success
  obtain ⟨_, _, ⟨positive, rfl⟩, key, opened, accountCall, row, _, lockCall, found, _,
    ⟨lookup, rfl⟩, success⟩ := success
  obtain ⟨row', isOpen⟩ := account_returns accountCall
  obtain ⟨stored, rfl⟩ := lockForUpdate_returns lockCall
  have same : row' = row := Option.some.inj (isOpen.stored.symm.trans stored)
  subst same
  refine ⟨by omega, key, row', _, isOpen, ?_⟩
  cases found with
  | some existing =>
    obtain ⟨k, e⟩ := existing
    simp only [returns_throwIf] at success
    have hit := Table.first?_some lookup.symm
    exact Or.inl ⟨success.2, k, e, hit.1, hit.2, Decidable.not_not.mp success.1⟩
  | none =>
    simp only [returns_bind] at success
    obtain ⟨_, posted, postCall, _, raised, incrementCall, entryCall⟩ := success
    have frame := postCredit_frame postCall
    have increment := incrementBalance_returns incrementCall
    have recorded := entry_returns entryCall
    refine Or.inr ⟨?_, ?_, ?_⟩
    · exact Table.first?_none lookup.symm
    · rw [recorded.2, increment]
      rw [frame] at postCall
      exact postCall
    · rw [recorded.2, increment, frame]

/-- A hold under a reference no account has used, within the available balance. -/
structure Held (reference : String) (amount : Int) (key : Nat) (row : PrepaidAccount)
    (w w' : Wallet) : Prop where
  fresh : ∀ k r, w.reservations.get? k = some r → r.referenceId ≠ reference
  available : amount ≤ row.balanceMinor - row.reservedMinor
  rows : w' = { w with
    accounts := w.accounts.update key fun a => { a with reservedMinor := a.reservedMinor + amount }
    reservations := w.reservations.create ⟨key, reference, amount, none, .reserved⟩
    entries := w.entries.create ⟨key, reference, .reserved, amount⟩ }

def HoldReplayed (reference : String) (amount : Int) (key : Nat) (w w' : Wallet) : Prop :=
  w' = w ∧ ∃ k r, w.reservations.get? k = some r ∧ r.referenceId = reference ∧
    r.accountId = key ∧ r.amountMinor = amount

theorem reserve_returns {vehicleId : Option String}
    (success : Returns (reserve subject book reference amount accountId vehicleId) w u w') :
    0 < amount ∧ ∃ key row opened, Opened subject book accountId w opened key row ∧
      (HoldReplayed reference amount key opened w' ∨ Held reference amount key row opened w') := by
  unfold reserve at success
  simp only [returns_bind, returns_throwIf, returns_transaction, returns_read] at success
  obtain ⟨_, _, ⟨positive, rfl⟩, key, opened, accountCall, row, _, lockCall, found, _,
    ⟨lookup, rfl⟩, success⟩ := success
  obtain ⟨row', isOpen⟩ := account_returns accountCall
  obtain ⟨stored, rfl⟩ := lockForUpdate_returns lockCall
  have same : row' = row := Option.some.inj (isOpen.stored.symm.trans stored)
  subst same
  refine ⟨by omega, key, row', _, isOpen, ?_⟩
  cases found with
  | some existing =>
    obtain ⟨k, r⟩ := existing
    simp only [returns_throwIf] at success
    have hit := Table.first?_some lookup.symm
    obtain ⟨agrees, rfl⟩ := success
    refine Or.inl ⟨rfl, k, r, hit.1, by simpa using hit.2, ?_, ?_⟩
    · exact Decidable.not_not.mp fun differs => agrees (Or.inl differs)
    · exact Decidable.not_not.mp fun differs => agrees (Or.inr differs)
  | none =>
    simp only [returns_bind, returns_throwIf, returns_read, returns_write] at success
    obtain ⟨_, _, ⟨-, rfl⟩, _, _, ⟨-, rfl⟩, _, _, ⟨available, rfl⟩, _, _, rfl, _, _,
      incrementCall, entryCall⟩ := success
    have increment := incrementReserved_returns incrementCall
    have recorded := entry_returns entryCall
    refine Or.inr ⟨?_, by omega, ?_⟩
    · intro k r stored same
      have missed := Table.first?_none lookup.symm k r stored
      simp [same] at missed
    · rw [recorded.2, increment]

/-- The entries of a settlement: the spend, and what is released of the hold. -/
def settlementEntries (key : Nat) (reference : String) (spent amount : Int)
    (entries : Table Nat PrepaidEntry) : Table Nat PrepaidEntry :=
  let recorded := entries.create ⟨key, reference, .spent, spent⟩
  if spent < amount then recorded.create ⟨key, reference, .released, amount - spent⟩ else recorded

/-- The one settlement of an open hold. -/
structure Settled (book reference : String) (spent : Int) (key : Nat) (row : PrepaidAccount)
    (holdKey : Nat) (hold : PrepaidReservation) (w w' : Wallet) : Prop where
  reserved : hold.status = .reserved
  fresh : ∀ k e, w.entries.get? k = some e → isEntry key reference .spent e = false
  posted : Returns (postSpend book reference spent key row) w () { w with ledger := w'.ledger }
  rows : w' = { w with
    ledger := w'.ledger
    accounts := w.accounts.update key fun a => { a with
      balanceMinor := row.balanceMinor - spent
      reservedMinor := row.reservedMinor - hold.amountMinor }
    reservations := w.reservations.update holdKey fun r =>
      { r with status := .settled, spentMinor := some spent }
    entries := settlementEntries key reference spent hold.amountMinor w.entries }

def SettlementReplayed (spent : Int) (hold : PrepaidReservation) (w w' : Wallet) : Prop :=
  w' = w ∧ hold.status = .settled ∧ hold.spentMinor = some spent

theorem settle_returns {spent : Int}
    (success : Returns (settle subject book reference spent accountId) w u w') :
    ∃ key row opened holdKey hold, Opened subject book accountId w opened key row ∧
      opened.reservations.get? holdKey = some hold ∧ hold.accountId = key ∧
      hold.referenceId = reference ∧ 0 ≤ spent ∧ spent ≤ hold.amountMinor ∧
      (SettlementReplayed spent hold opened w' ∨
        Settled book reference spent key row holdKey hold opened w') := by
  unfold settle at success
  simp only [returns_bind, returns_throwIf, returns_transaction, returns_read,
    returns_orThrow] at success
  obtain ⟨key, opened, accountCall, row, _, lockCall, found, _, ⟨lookup, rfl⟩, hold, _,
    ⟨hit, rfl⟩, _, _, ⟨bounded, rfl⟩, success⟩ := success
  obtain ⟨row', isOpen⟩ := account_returns accountCall
  obtain ⟨stored, rfl⟩ := lockForUpdate_returns lockCall
  have same : row' = row := Option.some.inj (isOpen.stored.symm.trans stored)
  subst same
  obtain ⟨holdKey, hold⟩ := hold
  have hit := Table.first?_some (lookup.symm.trans hit)
  have owner : hold.accountId = key ∧ hold.referenceId = reference := by simpa using hit.2
  simp only at success bounded
  refine ⟨key, row', _, holdKey, hold, isOpen, hit.1, owner.1, owner.2, by omega, by omega, ?_⟩
  split at success
  · rename_i isSettled
    simp only [returns_throwIf] at success
    exact Or.inl ⟨success.2, isSettled, Decidable.not_not.mp success.1⟩
  · rename_i notSettled
    simp only [returns_bind, returns_write, saveAccount] at success
    obtain ⟨_, posted, postCall, _, _, rfl, _, _, rfl, _, _, spentCall, success⟩ := success
    have frame := postSpend_frame postCall
    obtain ⟨fresh, recorded⟩ := entry_returns spentCall
    have isReserved : hold.status = .reserved := by
      cases status : hold.status with
      | reserved => rfl
      | settled => exact absurd status notSettled
    refine Or.inr ⟨isReserved, ?_, ?_, ?_⟩
    · rw [frame] at fresh
      exact fresh
    · split at success
      · rw [(entry_returns success).2, recorded]
        rw [frame] at postCall
        exact postCall
      · rw [returns_pure] at success
        rw [success.2, recorded]
        rw [frame] at postCall
        exact postCall
    · unfold settlementEntries
      split at success
      · rename_i partly
        rw [(entry_returns success).2, recorded, frame, if_pos partly]
      · rename_i whole
        rw [returns_pure] at success
        rw [success.2, recorded, frame, if_neg whole]

theorem setLimit_returns {actor accountId type targetId : String} {amount : Option Int}
    (success : Returns (setLimit actor accountId type targetId amount) w u w') :
    ∃ key row opened, Opened actor "live" (some accountId) w opened key row ∧
      w' = { opened with limits := w'.limits } := by
  unfold setLimit at success
  simp only [returns_bind, returns_throwIf, returns_transaction, returns_orThrow,
    returns_write] at success
  obtain ⟨_, _, ⟨-, rfl⟩, _, _, ⟨-, rfl⟩, key, opened, accountCall, _, _, lockCall, rfl⟩ := success
  obtain ⟨row, isOpen⟩ := account_returns accountCall
  obtain ⟨-, rfl⟩ := lockForUpdate_returns lockCall
  exact ⟨key, row, _, isOpen, rfl⟩

end PrepaidWallet

/-! ### Runs -/

inductive WalletCall where
  | credit (subject book reference : String) (amount : Int) (accountId : Option String)
  | reserve (subject book reference : String) (amount : Int) (accountId vehicleId : Option String)
  | settle (subject book reference : String) (spent : Int) (accountId : Option String)
  | setLimit (actor accountId type targetId : String) (amount : Option Int)

namespace WalletCall

def perform : WalletCall → Action Wallet Throwable Unit
  | credit subject book reference amount accountId =>
    PrepaidWallet.credit subject book reference amount accountId
  | reserve subject book reference amount accountId vehicleId =>
    PrepaidWallet.reserve subject book reference amount accountId vehicleId
  | settle subject book reference spent accountId =>
    PrepaidWallet.settle subject book reference spent accountId
  | setLimit actor accountId type targetId amount =>
    PrepaidWallet.setLimit actor accountId type targetId amount

/-- The calls one after another, a throwing call included: its exception reaches the caller,
who may go on calling. -/
def run : List WalletCall → Wallet → Wallet
  | [], w => w
  | call :: rest, w => run rest (after call.perform w)

end WalletCall
end VtsaCsms.Billing
