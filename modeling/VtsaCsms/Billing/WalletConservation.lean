import VtsaCsms.Billing.WalletCalls

/-!
# Wallet conservation

The counters of an account against its entries and holds. The invariant is a sum over
the whole entry log and hold table; each call changes one summand, and a new account has
no summand because every entry and hold names an existing account.
-/
namespace VtsaCsms.Billing
open Foundation Foundation.Action

def entriesTotal (entries : Table Nat PrepaidEntry) (account : Nat) (kind : EntryKind) : Int :=
  entries.sumOver fun _ e => if e.accountId = account ∧ e.kind = kind then e.amountMinor else 0

def openHolds (reservations : Table Nat PrepaidReservation) (account : Nat) : Int :=
  reservations.sumOver fun _ r =>
    if r.accountId = account ∧ r.status ≠ .settled then r.amountMinor else 0

namespace PrepaidReservation

/-- The log has exactly one spend of the hold, and it is `spent`. -/
def SpentOnce (hold : PrepaidReservation) (entries : Table Nat PrepaidEntry) (spent : Int) : Prop :=
  ∃ key, entries.get? key = some ⟨hold.accountId, hold.referenceId, .spent, spent⟩ ∧
    ∀ key' e, entries.get? key' = some e →
      PrepaidWallet.isEntry hold.accountId hold.referenceId .spent e = true → key' = key

def NeverSpent (hold : PrepaidReservation) (entries : Table Nat PrepaidEntry) : Prop :=
  ∀ key e, entries.get? key = some e →
    PrepaidWallet.isEntry hold.accountId hold.referenceId .spent e = false

/-- A hold against the log: open and never spent, or settled once within its amount. -/
def Agrees (hold : PrepaidReservation) (entries : Table Nat PrepaidEntry) : Prop :=
  match hold.status with
  | .reserved => hold.spentMinor = none ∧ hold.NeverSpent entries
  | .settled => ∃ spent, hold.spentMinor = some spent ∧ 0 ≤ spent ∧ spent ≤ hold.amountMinor ∧
      hold.SpentOnce entries spent

end PrepaidReservation

namespace Wallet

/-- Conservation: what the counters of every account say is what its rows say. -/
structure Conserved (w : Wallet) : Prop where
  bounded : ∀ key a, w.accounts.get? key = some a →
    0 ≤ a.reservedMinor ∧ a.reservedMinor ≤ a.balanceMinor
  balance : ∀ key a, w.accounts.get? key = some a →
    a.balanceMinor = entriesTotal w.entries key .topup - entriesTotal w.entries key .spent
  reserved : ∀ key a, w.accounts.get? key = some a →
    a.reservedMinor = openHolds w.reservations key
  holds : ∀ key r, w.reservations.get? key = some r → r.Agrees w.entries

/-- Conservation and what carries it from call to call. -/
structure Kept (w : Wallet) : Prop extends Conserved w where
  entryAccount : ∀ key e, w.entries.get? key = some e → ∃ a, w.accounts.get? e.accountId = some a
  holdAccount : ∀ key r, w.reservations.get? key = some r →
    ∃ a, w.accounts.get? r.accountId = some a
  positive : ∀ key r, w.reservations.get? key = some r → 0 < r.amountMinor
  oneReference : ∀ key key' r r', w.reservations.get? key = some r →
    w.reservations.get? key' = some r' → r.referenceId = r'.referenceId → key = key'
  spentHold : ∀ key e, w.entries.get? key = some e → e.kind = .spent →
    ∃ key' r, w.reservations.get? key' = some r ∧ r.accountId = e.accountId ∧
      r.referenceId = e.referenceId

end Wallet

open Wallet PrepaidWallet

/-! ### Sums and the log -/

@[simp] theorem entriesTotal_create (entries : Table Nat PrepaidEntry) (e : PrepaidEntry)
    (account : Nat) (kind : EntryKind) :
    entriesTotal (entries.create e) account kind = entriesTotal entries account kind +
      if e.accountId = account ∧ e.kind = kind then e.amountMinor else 0 := by
  unfold entriesTotal
  exact Table.sumOver_create _ _ _

@[simp] theorem openHolds_create (reservations : Table Nat PrepaidReservation)
    (r : PrepaidReservation) (account : Nat) :
    openHolds (reservations.create r) account = openHolds reservations account +
      if r.accountId = account ∧ r.status ≠ .settled then r.amountMinor else 0 := by
  unfold openHolds
  exact Table.sumOver_create _ _ _

variable {key : Nat} {hold : PrepaidReservation} {w w' : Wallet} {entries : Table Nat PrepaidEntry} {e : PrepaidEntry}
  {book reference : String} {row : PrepaidAccount} {amount spent : Int}

theorem openHolds_settle {reservations : Table Nat PrepaidReservation}
    (stored : reservations.get? key = some hold)
    (isOpen : hold.status = .reserved) (spent : Int) (account : Nat) :
    openHolds (reservations.update key fun r =>
        { r with status := .settled, spentMinor := some spent }) account =
      openHolds reservations account - if hold.accountId = account then hold.amountMinor else 0 := by
  unfold openHolds
  rw [Table.sumOver_update _ _ _ _ _ stored]
  simp [isOpen]

theorem entriesTotal_absent (kept : Kept w) {account : Nat}
    (absent : w.accounts.get? account = none) (kind : EntryKind) :
    entriesTotal w.entries account kind = 0 := by
  have zero : entriesTotal w.entries account kind = w.entries.sumOver fun _ _ => 0 := by
    unfold entriesTotal
    apply Table.sumOver_congr
    intro key e stored
    obtain ⟨a, owner⟩ := kept.entryAccount key e stored
    rw [if_neg]
    rintro ⟨rfl, -⟩
    rw [absent] at owner
    contradiction
  rw [zero]
  simp [Table.sumOver]

theorem openHolds_absent (kept : Kept w) {account : Nat}
    (absent : w.accounts.get? account = none) : openHolds w.reservations account = 0 := by
  have zero : openHolds w.reservations account = w.reservations.sumOver fun _ _ => 0 := by
    unfold openHolds
    apply Table.sumOver_congr
    intro key r stored
    obtain ⟨a, owner⟩ := kept.holdAccount key r stored
    rw [if_neg]
    rintro ⟨rfl, -⟩
    rw [absent] at owner
    contradiction
  rw [zero]
  simp [Table.sumOver]

/-- Whoever an entry is of is there after an account is changed, also if it is a new entry of that account. -/
theorem entryOwner (kept : Kept w) (stored : w.accounts.get? key = some row) (change : PrepaidAccount → PrepaidAccount)
    (owned : e.accountId = key ∨ ∃ k, w.entries.get? k = some e) :
    ∃ a, (w.accounts.update key change).get? e.accountId = some a := by
  obtain same | ⟨k, earlier⟩ := owned
  · rw [same]
    exact Table.get?_update_of_some _ _ stored
  · obtain ⟨a, owner⟩ := kept.entryAccount k e earlier
    exact Table.get?_update_of_some _ _ owner

theorem holdOwner (kept : Kept w) (stored : w.accounts.get? key = some row) (change : PrepaidAccount → PrepaidAccount)
    (owned : hold.accountId = key ∨ ∃ k, w.reservations.get? k = some hold) :
    ∃ a, (w.accounts.update key change).get? hold.accountId = some a := by
  obtain same | ⟨k, earlier⟩ := owned
  · rw [same]
    exact Table.get?_update_of_some _ _ stored
  · obtain ⟨a, owner⟩ := kept.holdAccount k hold earlier
    exact Table.get?_update_of_some _ _ owner

theorem isEntry_iff (account : Nat) (reference : String) (kind : EntryKind) (e : PrepaidEntry) :
    isEntry account reference kind e = true ↔
      e.accountId = account ∧ e.referenceId = reference ∧ e.kind = kind := by
  simp [isEntry, and_assoc]

theorem agrees_create (agrees : hold.Agrees entries)
    (unrelated : isEntry hold.accountId hold.referenceId .spent e = false) :
    hold.Agrees (entries.create e) := by
  unfold PrepaidReservation.Agrees at agrees ⊢
  cases status : hold.status with
  | reserved =>
    rw [status] at agrees
    refine ⟨agrees.1, ?_⟩
    intro key e' stored
    obtain ⟨-, rfl⟩ | earlier := Table.get?_create_cases stored
    · exact unrelated
    · exact agrees.2 key e' earlier
  | settled =>
    rw [status] at agrees
    obtain ⟨spent, amount, lower, upper, key, stored, only⟩ := agrees
    refine ⟨spent, amount, lower, upper, key, Table.get?_create_of_some _ _ stored, ?_⟩
    intro key' e' stored' isSpend
    obtain ⟨-, rfl⟩ | earlier := Table.get?_create_cases stored'
    · rw [unrelated] at isSpend
      contradiction
    · exact only key' e' earlier isSpend

theorem spentOnce_create (never : hold.NeverSpent entries) (spent : Int) :
    hold.SpentOnce (entries.create ⟨hold.accountId, hold.referenceId, .spent, spent⟩) spent := by
  refine ⟨entries.nextId, Table.get?_create_self _ _, ?_⟩
  intro key e stored isSpend
  obtain ⟨new, -⟩ | earlier := Table.get?_create_cases stored
  · exact new
  · rw [never key e earlier] at isSpend
    contradiction

/-! ### One step -/

theorem kept_opened {subject : String} {accountId : Option String} (kept : Kept w)
    (isOpen : Opened subject book accountId w w' key row) : Kept w' := by
  obtain ⟨rfl, -⟩ | ⟨-, fresh, noBalance, noReserved, rfl⟩ := isOpen.rows
  · exact kept
  have absent : w.accounts.get? key = none := by
    rw [fresh]
    exact w.accounts.get?_nextId
  refine { kept with bounded := ?_, balance := ?_, reserved := ?_, entryAccount := ?_, holdAccount := ?_ }
  · intro k a stored
    obtain ⟨-, rfl⟩ | earlier := Table.get?_create_cases stored
    · omega
    · exact kept.bounded k a earlier
  · intro k a stored
    obtain ⟨new, rfl⟩ | earlier := Table.get?_create_cases stored
    · rw [new, ← fresh, noBalance, entriesTotal_absent kept absent, entriesTotal_absent kept absent]
      rfl
    · exact kept.balance k a earlier
  · intro k a stored
    obtain ⟨new, rfl⟩ | earlier := Table.get?_create_cases stored
    · rw [new, ← fresh, noReserved, openHolds_absent kept absent]
    · exact kept.reserved k a earlier
  · intro k e stored
    obtain ⟨a, owner⟩ := kept.entryAccount k e stored
    exact ⟨a, Table.get?_create_of_some _ _ owner⟩
  · intro k r stored
    obtain ⟨a, owner⟩ := kept.holdAccount k r stored
    exact ⟨a, Table.get?_create_of_some _ _ owner⟩

theorem kept_credited (kept : Kept w) (positive : 0 < amount) (stored : w.accounts.get? key = some row)
    (credited : Credited book reference amount key row w w') : Kept w' := by
  rw [credited.rows]
  refine { kept with
    bounded := ?_, balance := ?_, reserved := ?_, holds := ?_, entryAccount := ?_,
    holdAccount := ?_, spentHold := ?_ }
  · intro k a found
    obtain ⟨rfl, q, old, rfl⟩ | ⟨-, old⟩ := Table.get?_update_cases found
    · have bound := kept.bounded k q old
      simp only
      omega
    · exact kept.bounded k a old
  · intro k a found
    rw [entriesTotal_create, entriesTotal_create]
    obtain ⟨rfl, q, old, rfl⟩ | ⟨other, old⟩ := Table.get?_update_cases found
    · have equation := kept.balance k q old
      simp
      omega
    · have equation := kept.balance k a old
      simp [Ne.symm other]
      omega
  · intro k a found
    obtain ⟨rfl, q, old, rfl⟩ | ⟨-, old⟩ := Table.get?_update_cases found
    · exact kept.reserved k q old
    · exact kept.reserved k a old
  · intro k r found
    apply agrees_create (kept.holds k r found)
    simp [isEntry]
  · intro k e found
    apply entryOwner kept stored
    obtain ⟨-, rfl⟩ | earlier := Table.get?_create_cases found
    · exact Or.inl rfl
    · exact Or.inr ⟨k, earlier⟩
  · intro k r found
    exact holdOwner kept stored _ (Or.inr ⟨k, found⟩)
  · intro k e found isSpend
    obtain ⟨-, rfl⟩ | earlier := Table.get?_create_cases found
    · contradiction
    · exact kept.spentHold k e earlier isSpend

theorem kept_held (kept : Kept w) (positive : 0 < amount) (stored : w.accounts.get? key = some row)
    (held : Held reference amount key row w w') : Kept w' := by
  have available := held.available
  rw [held.rows]
  refine
    { bounded := ?_, balance := ?_, reserved := ?_, holds := ?_, entryAccount := ?_,
      holdAccount := ?_, positive := ?_, oneReference := ?_, spentHold := ?_ }
  · intro k a found
    obtain ⟨rfl, q, old, rfl⟩ | ⟨-, old⟩ := Table.get?_update_cases found
    · have bound := kept.bounded k q old
      have same : q = row := Option.some.inj (old.symm.trans stored)
      subst same
      simp only
      omega
    · exact kept.bounded k a old
  · intro k a found
    rw [entriesTotal_create, entriesTotal_create]
    obtain ⟨rfl, q, old, rfl⟩ | ⟨-, old⟩ := Table.get?_update_cases found
    · have equation := kept.balance k q old
      simp
      omega
    · have equation := kept.balance k a old
      simp
      omega
  · intro k a found
    rw [openHolds_create]
    obtain ⟨rfl, q, old, rfl⟩ | ⟨other, old⟩ := Table.get?_update_cases found
    · have equation := kept.reserved k q old
      simp
      omega
    · have equation := kept.reserved k a old
      simp [Ne.symm other]
      omega
  · intro k r found
    apply agrees_create
    · obtain ⟨-, rfl⟩ | earlier := Table.get?_create_cases found
      · -- no spend names the new reference, since every spend is of a hold
        refine ⟨rfl, ?_⟩
        intro k' e logged
        by_contra isSpend
        rw [Bool.not_eq_false, isEntry_iff] at isSpend
        obtain ⟨_, r', hold, -, sameReference⟩ := kept.spentHold k' e logged isSpend.2.2
        exact held.fresh _ r' hold (sameReference.trans isSpend.2.1)
      · exact kept.holds k r earlier
    · simp [isEntry]
  · intro k e found
    apply entryOwner kept stored
    obtain ⟨-, rfl⟩ | earlier := Table.get?_create_cases found
    · exact Or.inl rfl
    · exact Or.inr ⟨k, earlier⟩
  · intro k r found
    apply holdOwner kept stored
    obtain ⟨-, rfl⟩ | earlier := Table.get?_create_cases found
    · exact Or.inl rfl
    · exact Or.inr ⟨k, earlier⟩
  · intro k r found
    obtain ⟨-, rfl⟩ | earlier := Table.get?_create_cases found
    · exact positive
    · exact kept.positive k r earlier
  · intro k k' r r' found found' same
    obtain ⟨new, rfl⟩ | earlier := Table.get?_create_cases found
    · obtain ⟨new', rfl⟩ | earlier' := Table.get?_create_cases found'
      · exact new.trans new'.symm
      · exact absurd same.symm (held.fresh k' r' earlier')
    · obtain ⟨new', rfl⟩ | earlier' := Table.get?_create_cases found'
      · exact absurd same (held.fresh k r earlier)
      · exact kept.oneReference k k' r r' earlier earlier' same
  · intro k e found isSpend
    obtain ⟨-, rfl⟩ | earlier := Table.get?_create_cases found
    · contradiction
    · obtain ⟨k', r, hold, owner⟩ := kept.spentHold k e earlier isSpend
      exact ⟨k', r, Table.get?_create_of_some _ _ hold, owner⟩

/-- The entries of a settlement add the spend to one account's spends and nothing to any
other sum of spends or credits. -/
theorem entriesTotal_settlement (key : Nat) (reference : String) (spent amount : Int)
    (entries : Table Nat PrepaidEntry) (account : Nat) (kind : EntryKind)
    (counted : kind ≠ .released) :
    entriesTotal (settlementEntries key reference spent amount entries) account kind =
      entriesTotal entries account kind +
        if key = account ∧ kind = .spent then spent else 0 := by
  unfold settlementEntries
  simp only
  split
  · rw [entriesTotal_create, entriesTotal_create]
    simp [Ne.symm counted, eq_comm]
  · rw [entriesTotal_create]
    simp [eq_comm]

theorem settlementEntries_cases {k : Nat}
    (stored : (settlementEntries key reference spent amount entries).get? k = some e) :
    e = ⟨key, reference, .spent, spent⟩ ∨ e = ⟨key, reference, .released, amount - spent⟩ ∨
      entries.get? k = some e := by
  unfold settlementEntries at stored
  simp only at stored
  split at stored
  · obtain ⟨-, new⟩ | stored := Table.get?_create_cases stored
    · exact Or.inr (Or.inl new)
    · obtain ⟨-, new⟩ | earlier := Table.get?_create_cases stored
      · exact Or.inl new
      · exact Or.inr (Or.inr earlier)
  · obtain ⟨-, new⟩ | earlier := Table.get?_create_cases stored
    · exact Or.inl new
    · exact Or.inr (Or.inr earlier)

theorem settlementEntries_of_some {k : Nat} (stored : entries.get? k = some e) :
    (settlementEntries key reference spent amount entries).get? k = some e := by
  have recorded := Table.get?_create_of_some entries ⟨key, reference, .spent, spent⟩ stored
  unfold settlementEntries
  simp only
  split
  · exact Table.get?_create_of_some _ _ recorded
  · exact recorded

theorem agrees_settlement (agrees : hold.Agrees entries) (spent amount : Int)
    (other : hold.referenceId ≠ reference) :
    hold.Agrees (settlementEntries key reference spent amount entries) := by
  have afterSpend : hold.Agrees (entries.create ⟨key, reference, .spent, spent⟩) := by
    apply agrees_create agrees
    simp [isEntry, Ne.symm other]
  unfold settlementEntries
  simp only
  split
  · apply agrees_create afterSpend
    simp [isEntry]
  · exact afterSpend

theorem agrees_settled (agrees : hold.Agrees entries) (isOpen : hold.status = .reserved)
    (lower : 0 ≤ spent) (upper : spent ≤ hold.amountMinor) :
    ({ hold with status := .settled, spentMinor := some spent } : PrepaidReservation).Agrees
      (settlementEntries hold.accountId hold.referenceId spent hold.amountMinor entries) := by
  unfold PrepaidReservation.Agrees at agrees
  rw [isOpen] at agrees
  have once := spentOnce_create agrees.2 spent
  have afterSpend :
      ({ hold with status := .settled, spentMinor := some spent } : PrepaidReservation).Agrees
        (entries.create ⟨hold.accountId, hold.referenceId, .spent, spent⟩) :=
    ⟨spent, rfl, lower, upper, once⟩
  unfold settlementEntries
  simp only
  split
  · apply agrees_create afterSpend
    simp [isEntry]
  · exact afterSpend

theorem kept_settled {holdKey : Nat} (kept : Kept w) (stored : w.accounts.get? key = some row)
    (holdStored : w.reservations.get? holdKey = some hold) (owner : hold.accountId = key)
    (named : hold.referenceId = reference) (lower : 0 ≤ spent) (upper : spent ≤ hold.amountMinor)
    (settled : Settled book reference spent key row holdKey hold w w') : Kept w' := by
  have equation := kept.reserved key row stored
  have shrunk := openHolds_settle holdStored settled.reserved spent
  rw [settled.rows]
  refine
    { bounded := ?_, balance := ?_, reserved := ?_, holds := ?_, entryAccount := ?_,
      holdAccount := ?_, positive := ?_, oneReference := ?_, spentHold := ?_ }
  · intro k a found
    obtain ⟨rfl, q, old, rfl⟩ | ⟨-, old⟩ := Table.get?_update_cases found
    · -- what stays reserved is the sum of the other open holds
      have rest : 0 ≤ openHolds (w.reservations.update holdKey fun r =>
          { r with status := .settled, spentMinor := some spent }) k := by
        unfold openHolds
        apply Table.sumOver_nonneg
        intro k' r other
        obtain ⟨-, q', -, rfl⟩ | ⟨-, old'⟩ := Table.get?_update_cases other
        · simp
        · have amount := kept.positive k' r old'
          split <;> omega
      rw [shrunk k, if_pos owner] at rest
      have bound := kept.bounded k row stored
      simp only
      omega
    · exact kept.bounded k a old
  · intro k a found
    rw [entriesTotal_settlement _ _ _ _ _ _ _ (by decide),
      entriesTotal_settlement _ _ _ _ _ _ _ (by decide)]
    obtain ⟨rfl, q, old, rfl⟩ | ⟨other, old⟩ := Table.get?_update_cases found
    · have balance := kept.balance k row stored
      simp
      omega
    · have balance := kept.balance k a old
      simp [Ne.symm other]
      omega
  · intro k a found
    rw [shrunk k, owner]
    obtain ⟨rfl, q, old, rfl⟩ | ⟨other, old⟩ := Table.get?_update_cases found
    · rw [if_pos rfl]
      simp only
      omega
    · rw [if_neg (Ne.symm other), Int.sub_zero]
      exact kept.reserved k a old
  · intro k r found
    obtain ⟨rfl, q, old, rfl⟩ | ⟨other, old⟩ := Table.get?_update_cases found
    · have same : q = hold := Option.some.inj (old.symm.trans holdStored)
      subst same owner named
      exact agrees_settled (kept.holds k q old) settled.reserved lower upper
    · apply agrees_settlement (kept.holds k r old)
      intro sameReference
      exact other (kept.oneReference k holdKey r hold old holdStored (sameReference.trans named.symm))
  · intro k e found
    apply entryOwner kept stored
    obtain rfl | rfl | earlier := settlementEntries_cases found
    · exact Or.inl rfl
    · exact Or.inl rfl
    · exact Or.inr ⟨k, earlier⟩
  · intro k r found
    obtain ⟨rfl, q, old, rfl⟩ | ⟨-, old⟩ := Table.get?_update_cases found
    · obtain ⟨a, account⟩ := kept.holdAccount k q old
      exact Table.get?_update_of_some _ _ account
    · exact holdOwner kept stored _ (Or.inr ⟨k, old⟩)
  · intro k r found
    obtain ⟨rfl, q, old, rfl⟩ | ⟨-, old⟩ := Table.get?_update_cases found
    · exact kept.positive k q old
    · exact kept.positive k r old
  · -- settling keeps every reference
    have before : ∀ k r, (w.reservations.update holdKey fun r =>
        { r with status := .settled, spentMinor := some spent }).get? k = some r →
        ∃ q, w.reservations.get? k = some q ∧ q.referenceId = r.referenceId := by
      intro k r found
      obtain ⟨rfl, q, old, rfl⟩ | ⟨-, old⟩ := Table.get?_update_cases found
      · exact ⟨q, old, rfl⟩
      · exact ⟨r, old, rfl⟩
    intro k k' r r' found found' same
    obtain ⟨q, old, name⟩ := before k r found
    obtain ⟨q', old', name'⟩ := before k' r' found'
    exact kept.oneReference k k' q q' old old' ((name.trans same).trans name'.symm)
  · intro k e found isSpend
    have source : ∃ k' r, w.reservations.get? k' = some r ∧ r.accountId = e.accountId ∧
        r.referenceId = e.referenceId := by
      obtain rfl | rfl | earlier := settlementEntries_cases found
      · exact ⟨holdKey, hold, holdStored, owner, named⟩
      · contradiction
      · exact kept.spentHold k e earlier isSpend
    obtain ⟨k', r, old, account, name⟩ := source
    by_cases same : k' = holdKey
    · subst same
      refine ⟨k', { r with status := .settled, spentMinor := some spent }, ?_, account, name⟩
      rw [Table.get?_update_self, old]
      rfl
    · refine ⟨k', r, ?_, account, name⟩
      rw [Table.get?_update_of_ne _ _ same]
      exact old

theorem kept_returns (call : WalletCall) (kept : Kept w)
    (success : Returns call.perform w () w') : Kept w' := by
  cases call with
  | credit =>
    obtain ⟨positive, key, row, opened, isOpen, replayed | credited⟩ := credit_returns success
    · rw [replayed.1]
      exact kept_opened kept isOpen
    · exact kept_credited (kept_opened kept isOpen) positive isOpen.stored credited
  | reserve =>
    obtain ⟨positive, key, row, opened, isOpen, replayed | held⟩ := reserve_returns success
    · rw [replayed.1]
      exact kept_opened kept isOpen
    · exact kept_held (kept_opened kept isOpen) positive isOpen.stored held
  | settle =>
    obtain ⟨key, row, opened, holdKey, hold, isOpen, stored, owner, named, lower, upper,
      replayed | settled⟩ := settle_returns success
    · rw [replayed.1]
      exact kept_opened kept isOpen
    · exact kept_settled (kept_opened kept isOpen) isOpen.stored stored owner named lower upper settled
  | setLimit =>
    obtain ⟨key, row, opened, isOpen, frame⟩ := setLimit_returns success
    rw [frame]
    exact { kept_opened kept isOpen with }

/-! ### Throws and settled holds -/

theorem perform_atomic (call : WalletCall) : Atomic call.perform := by
  cases call with
  | credit =>
    apply (atomic_throwIf _ _).bind
    · intro s a s' success
      rw [returns_throwIf] at success
      exact success.2
    · intro _
      exact atomic_transaction _
  | reserve =>
    apply (atomic_throwIf _ _).bind
    · intro s a s' success
      rw [returns_throwIf] at success
      exact success.2
    · intro _
      exact atomic_transaction _
  | settle => exact atomic_transaction _
  | setLimit =>
    apply (atomic_orThrow _ _).bind
    · intro s a s' success
      rw [returns_orThrow] at success
      exact success.2
    · intro target
      apply (atomic_throwIf _ _).bind
      · intro s a s' success
        rw [returns_throwIf] at success
        exact success.2
      · intro _
        exact atomic_transaction _

theorem after_perform (call : WalletCall) (w : Wallet) :
    Returns call.perform w () (after call.perform w) ∨ after call.perform w = w := by
  rcases run : call.perform w with ⟨out, w'⟩
  cases out with
  | ok =>
    left
    simp only [Returns, after, run]
  | error e =>
    right
    exact perform_atomic call w e (by rw [run])

theorem kept_perform (call : WalletCall) (kept : Kept w) :
    Kept (after call.perform w) := by
  obtain success | unchanged := after_perform call w
  · exact kept_returns call kept success
  · rw [unchanged]
    exact kept

theorem kept_run (calls : List WalletCall) (kept : Kept w) :
    Kept (WalletCall.run calls w) := by
  induction calls generalizing w with
  | nil => exact kept
  | cons call _ ih => exact ih (kept_perform call kept)

theorem opened_reservations {subject : String} {accountId : Option String}
    (isOpen : Opened subject book accountId w w' key row) :
    w'.reservations = w.reservations := by
  obtain ⟨rfl, -⟩ | ⟨-, -, -, -, rfl⟩ := isOpen.rows
  · rfl
  · rfl

theorem settled_hold_stays (call : WalletCall) {r : PrepaidReservation}
    (stored : w.reservations.get? key = some r) (settled : r.status = .settled)
    (success : Returns call.perform w () w') : w'.reservations.get? key = some r := by
  cases call with
  | credit =>
    obtain ⟨-, k, row, opened, isOpen, replayed | credited⟩ := credit_returns success
    · rw [replayed.1, opened_reservations isOpen]
      exact stored
    · rw [credited.rows, opened_reservations isOpen]
      exact stored
  | reserve =>
    obtain ⟨-, k, row, opened, isOpen, replayed | held⟩ := reserve_returns success
    · rw [replayed.1, opened_reservations isOpen]
      exact stored
    · rw [held.rows, opened_reservations isOpen]
      exact Table.get?_create_of_some _ _ stored
  | settle =>
    obtain ⟨k, row, opened, holdKey, hold, isOpen, holdStored, -, -, -, -, replayed | settles⟩ :=
      settle_returns success
    · rw [replayed.1, opened_reservations isOpen]
      exact stored
    · rw [opened_reservations isOpen] at holdStored
      have different : key ≠ holdKey := by
        intro same
        subst same
        rw [Option.some.inj (stored.symm.trans holdStored), settles.reserved] at settled
        contradiction
      rw [settles.rows, opened_reservations isOpen]
      exact (Table.get?_update_of_ne _ _ different).trans stored
  | setLimit =>
    obtain ⟨k, row, opened, isOpen, frame⟩ := setLimit_returns success
    rw [frame, opened_reservations isOpen]
    exact stored

theorem settled_hold_final (calls : List WalletCall) {r : PrepaidReservation}
    (stored : w.reservations.get? key = some r) (settled : r.status = .settled) :
    (WalletCall.run calls w).reservations.get? key = some r := by
  induction calls generalizing w with
  | nil => exact stored
  | cons call _ ih =>
    apply ih
    obtain success | unchanged := after_perform call w
    · exact settled_hold_stays call stored settled success
    · rw [unchanged]
      exact stored

/-! ### Conservation -/

namespace Wallet

/-- A wallet before its first call, over any limits and any ledger. -/
def opening (limits : Table Nat SpendingLimit) (ledger : Ledger) : Wallet :=
  ⟨Table.empty, Table.empty, Table.empty, limits, ledger⟩

theorem kept_opening (limits : Table Nat SpendingLimit) (ledger : Ledger) :
    Kept (opening limits ledger) := by
  unfold opening
  exact
    { bounded := fun _ _ stored => by cases stored
      balance := fun _ _ stored => by cases stored
      reserved := fun _ _ stored => by cases stored
      holds := fun _ _ stored => by cases stored
      entryAccount := fun _ _ stored => by cases stored
      holdAccount := fun _ _ stored => by cases stored
      positive := fun _ _ stored => by cases stored
      oneReference := fun _ _ _ _ stored => by cases stored
      spentHold := fun _ _ stored => by cases stored }

end Wallet

/-- After any calls the counters, the entries and the holds agree; a call that throws changes
no row; a settled hold keeps its settlement under all later calls. -/
theorem wallet_conservation (limits : Table Nat SpendingLimit) (ledger : Ledger)
    (calls : List WalletCall) :
    let w := WalletCall.run calls (Wallet.opening limits ledger)
    w.Conserved ∧
    (∀ (call : WalletCall) e, (call.perform w).1 = .error e → after call.perform w = w) ∧
    (∀ later key r, w.reservations.get? key = some r → r.status = .settled →
      (WalletCall.run later w).reservations.get? key = some r) := by
  intro w
  refine ⟨(kept_run calls (kept_opening limits ledger)).toConserved, ?_, ?_⟩
  · intro call e thrown
    exact perform_atomic call w e thrown
  · intro later key r stored settled
    exact settled_hold_final later stored settled

example :
    let w := WalletCall.run
      [.credit "s" "simulated" "top" 90 none, .reserve "s" "simulated" "a" 60 none none,
        .reserve "s" "simulated" "b" 40 none none, .settle "s" "simulated" "a" 25 none]
      (Wallet.opening Table.empty ⟨Table.empty, Table.empty, Table.empty⟩)
    w.accounts.get? 0 = some ⟨some "s", none, "simulated", "PHP", 65, 0⟩ := by
  decide

end VtsaCsms.Billing
