import VtsaCsms.Billing.WalletConservation

/-!
# Wallet and ledger

The wallet refuses a repeated reference per account, the ledger per idempotency key, and
the key of a credit names the reference alone. The two agree as long as no credit shares
its reference with another live account; holds cannot share one, so spends need nothing.
-/
namespace VtsaCsms.Billing
open Foundation Foundation.Action DoubleEntryLedger

/-- What is posted to a wallet account's liability account. -/
def liabilityNet (l : Ledger) (key : Nat) : Int :=
  netCredits l.accounts l.entries ("PREPAID-" ++ keyText key)

namespace Wallet

/-- Every live balance is what its liability account says. -/
def LedgerAgrees (w : Wallet) : Prop :=
  ∀ key a, w.accounts.get? key = some a → a.book = "live" → a.balanceMinor = liabilityNet w.ledger key

/-- Agreement and what carries it: which calls have used which idempotency keys. -/
structure Mirrored (w : Wallet) : Prop extends Kept w where
  agrees : w.LedgerAgrees
  posted : Posted w.ledger
  noNet : ∀ key, w.accounts.get? key = none → liabilityNet w.ledger key = 0
  creditKeys : ∀ k t reference, w.ledger.transactions.get? k = some t →
    t.idempotencyKey = "prepaid-credit-" ++ reference →
    ∃ key e a, w.entries.get? key = some e ∧ e.kind = .topup ∧ e.referenceId = reference ∧
      w.accounts.get? e.accountId = some a ∧ a.book = "live"
  spendKeys : ∀ k t reference, w.ledger.transactions.get? k = some t →
    t.idempotencyKey = "prepaid-spend-" ++ reference →
    ∃ key r, w.reservations.get? key = some r ∧ r.referenceId = reference ∧ r.status = .settled

end Wallet

open Wallet PrepaidWallet

/-! ### Names -/

theorem liabilityCode_injective {key key' : Nat}
    (same : "PREPAID-" ++ keyText key = "PREPAID-" ++ keyText key') : key = key' := by
  rw [String.append_right_inj] at same
  exact keyText_injective same

theorem liabilityCode_ne_clearing (key : Nat) :
    "PREPAID-CLEARING-" ++ "live" ≠ "PREPAID-" ++ keyText key := by
  intro same
  have split : "PREPAID-" ++ "CLEARING-live" = "PREPAID-" ++ keyText key := same
  rw [String.append_right_inj] at split
  have digit : 'C'.isDigit = true := by
    apply keyText_isDigit (n := key)
    rw [← split]
    decide
  contradiction

theorem liabilityCode_ne_receivable (key : Nat) : "1100-AR" ≠ "PREPAID-" ++ keyText key := by
  intro same
  have heads := congrArg (fun s => s.toList.head?) same
  rw [String.toList_append] at heads
  have letters : "PREPAID-".toList = ['P', 'R', 'E', 'P', 'A', 'I', 'D', '-'] := by decide
  have digits : "1100-AR".toList.head? = some '1' := by decide
  rw [letters, digits, List.cons_append, List.head?_cons] at heads
  exact absurd (Option.some.inj heads) (by decide)

theorem creditKey_ne_spendKey (reference reference' : String) :
    "prepaid-credit-" ++ reference ≠ "prepaid-spend-" ++ reference' := by
  intro same
  have split : "prepaid-" ++ ("credit-" ++ reference) = "prepaid-" ++ ("spend-" ++ reference') := by
    rw [← String.append_assoc, ← String.append_assoc]
    exact same
  rw [String.append_right_inj] at split
  have heads := congrArg (fun s => s.toList.head?) split
  simp only [String.toList_append] at heads
  have credit : "credit-".toList = ['c', 'r', 'e', 'd', 'i', 't', '-'] := by decide
  have spend : "spend-".toList = ['s', 'p', 'e', 'n', 'd', '-'] := by decide
  rw [credit, spend] at heads
  simp only [List.cons_append, List.head?_cons] at heads
  exact absurd (Option.some.inj heads) (by decide)

theorem owns_book {subject book : String} {accountId : Option String} {a : PrepaidAccount}
    (owned : owns subject book accountId a = true) : a.book = book := by
  unfold owns at owned
  simp only [Bool.and_eq_true, decide_eq_true_eq] at owned
  exact owned.1.2

/-! ### Postings -/

/-- What a balanced pair of postings to a wallet account's liability account left: the key
was used before and nothing is posted, or the net of that one account moves by `delta`. -/
structure PairPosted (l l' : Ledger) (idempotencyKey : String) (key : Nat) (delta : Int) : Prop where
  posted : Posted l'
  outcome :
    ((∃ k t, l.transactions.get? k = some t ∧ t.idempotencyKey = idempotencyKey) ∧
      l'.transactions = l.transactions ∧ ∀ k, liabilityNet l' k = liabilityNet l k) ∨
    ((∃ t : LedgerTransaction, t.idempotencyKey = idempotencyKey ∧
      l'.transactions = l.transactions.create t) ∧
      ∀ k, liabilityNet l' k = liabilityNet l k + if k = key then delta else 0)

theorem pairPosted_of_calls {l l₁ l₂ l' : Ledger} {other : String} {key : Nat} {delta : Int}
    {contra liable : Nat × LedgerAccount} {postings : List LedgerPosting}
    {referenceType referenceId eventType currency idempotencyKey : String}
    {result : Nat × LedgerTransaction} (before : Posted l)
    (contraOpen : AccountOpened other l l₁ contra)
    (liableOpen : AccountOpened ("PREPAID-" ++ keyText key) l₁ l₂ liable)
    (members : ∀ p ∈ postings, p.account = contra ∨ p.account = liable)
    (net : ∀ k, postedNet ("PREPAID-" ++ keyText k) postings = if k = key then delta else 0)
    (posting : Returns (post referenceType referenceId eventType currency idempotencyKey postings)
      l₂ result l') :
    PairPosted l l' idempotencyKey key delta := by
  have posted₁ := posted_opened before contraOpen
  have posted₂ := posted_opened posted₁ liableOpen
  have transactions : l₂.transactions = l.transactions :=
    liableOpen.transactions.trans contraOpen.transactions
  have same : ∀ k, liabilityNet l₂ k = liabilityNet l k := by
    intro k
    exact (netCredits_opened posted₁ liableOpen _).trans (netCredits_opened before contraOpen _)
  have stored : ∀ p ∈ postings, l₂.accounts.get? p.account.1 = some p.account.2 := by
    intro p member
    obtain isContra | isLiable := members p member
    · rw [isContra]
      exact liableOpen.kept _ _ contraOpen.stored
    · rw [isLiable]
      exact liableOpen.stored
  obtain ⟨rfl, k, t, used, named⟩ | ⟨t, -, -, -, named, -, -, -, -, -, rfl⟩ := post_returns posting
  · refine ⟨posted₂, Or.inl ⟨⟨k, t, ?_, named⟩, transactions, same⟩⟩
    rw [← transactions]
    exact used
  · refine ⟨?_, Or.inr ⟨⟨t, named, ?_⟩, ?_⟩⟩
    · exact posted_createEntries _ _ stored posted₂
    · simp only [transactions]
    · intro k
      rw [← same k]
      unfold liabilityNet
      rw [netCredits_createEntries _ _ _ _ _ stored, net k]

theorem postCredit_live {reference : String} {amount : Int} {key : Nat} {row : PrepaidAccount}
    {w w' : Wallet} {u : Unit} (before : Posted w.ledger)
    (success : Returns (postCredit "live" reference amount key row) w u w') :
    PairPosted w.ledger w'.ledger ("prepaid-credit-" ++ reference) key amount := by
  unfold postCredit liability onLedger at success
  rw [if_pos rfl] at success
  simp only [returns_bind, returns_focus, returns_pure] at success
  obtain ⟨clearing, _, ⟨l₁, clearingCall, rfl⟩, liable, _, ⟨l₂, liableCall, rfl⟩, result, _,
    ⟨l', posting, rfl⟩, -, rfl⟩ := success
  have clearingOpen := account_returns clearingCall
  have liableOpen := account_returns liableCall
  refine pairPosted_of_calls before clearingOpen liableOpen ?_ ?_ posting
  · intro p member
    simp only [List.mem_cons, List.not_mem_nil, or_false] at member
    obtain rfl | rfl := member
    · exact Or.inl rfl
    · exact Or.inr rfl
  · intro k
    have notClearing : clearing.2.code ≠ "PREPAID-" ++ keyText k := by
      rw [clearingOpen.code]
      exact liabilityCode_ne_clearing k
    simp only [postedNet, if_neg notClearing, liableOpen.code]
    split
    · rename_i same
      rw [if_pos (liabilityCode_injective same).symm]
      omega
    · rename_i different
      rw [if_neg (fun same => different (by rw [same]))]
      omega

theorem postSpend_live {reference : String} {spent : Int} {key : Nat} {row : PrepaidAccount}
    {w w' : Wallet} {u : Unit} (before : Posted w.ledger) (positive : 0 < spent)
    (success : Returns (postSpend "live" reference spent key row) w u w') :
    PairPosted w.ledger w'.ledger ("prepaid-spend-" ++ reference) key (-spent) := by
  unfold postSpend liability onLedger at success
  rw [if_pos ⟨positive, rfl⟩] at success
  simp only [returns_bind, returns_focus, returns_pure] at success
  obtain ⟨receivable, _, ⟨l₁, receivableCall, rfl⟩, liable, _, ⟨l₂, liableCall, rfl⟩, result, _,
    ⟨l', posting, rfl⟩, -, rfl⟩ := success
  have receivableOpen := account_returns receivableCall
  have liableOpen := account_returns liableCall
  refine pairPosted_of_calls before receivableOpen liableOpen ?_ ?_ posting
  · intro p member
    simp only [List.mem_cons, List.not_mem_nil, or_false] at member
    obtain rfl | rfl := member
    · exact Or.inr rfl
    · exact Or.inl rfl
  · intro k
    have notReceivable : receivable.2.code ≠ "PREPAID-" ++ keyText k := by
      rw [receivableOpen.code]
      exact liabilityCode_ne_receivable k
    simp only [postedNet, if_neg notReceivable, liableOpen.code]
    split
    · rename_i same
      rw [if_pos (liabilityCode_injective same).symm]
      omega
    · rename_i different
      rw [if_neg (fun same => different (by rw [same]))]
      omega

/-! ### One step -/

/-- A live account other than the caller's was credited under the reference. -/
def creditedElsewhere (w : Wallet) (subject reference : String) (accountId : Option String) : Bool :=
  w.entries.exists? fun _ e =>
    e.kind = .topup && e.referenceId = reference &&
      ((w.accounts.get? e.accountId).map PrepaidAccount.book = some "live") &&
      callerAccount w subject "live" accountId ≠ some e.accountId

/-- The call is no live credit under a reference another live account was credited under. -/
def ownReference (w : Wallet) : WalletCall → Bool
  | .credit subject book reference amount accountId =>
    !(book = "live" && 0 < amount && creditedElsewhere w subject reference accountId)
  | _ => true

def ownReferences : Wallet → List WalletCall → Bool
  | _, [] => true
  | w, call :: rest => ownReference w call && ownReferences (after call.perform w) rest

theorem mirrored_opened {subject book : String} {accountId : Option String} {w w' : Wallet}
    {key : Nat} {row : PrepaidAccount} (mirrored : Mirrored w)
    (isOpen : Opened subject book accountId w w' key row) : Mirrored w' := by
  have kept := kept_opened mirrored.toKept isOpen
  obtain ⟨rfl, -⟩ | ⟨-, fresh, noBalance, -, rfl⟩ := isOpen.rows
  · exact mirrored
  refine { kept with
    agrees := ?_, posted := mirrored.posted, noNet := ?_, creditKeys := ?_,
    spendKeys := mirrored.spendKeys }
  · intro k a stored live
    obtain ⟨new, rfl⟩ | earlier := Table.get?_create_cases stored
    · rw [noBalance, new]
      exact (mirrored.noNet _ w.accounts.get?_nextId).symm
    · exact mirrored.agrees k a earlier live
  · intro k absent
    rw [Table.get?_create] at absent
    split at absent
    · contradiction
    · exact mirrored.noNet k absent
  · intro k t reference stored named
    obtain ⟨entryKey, e, a, logged, isTopup, referenced, owner, live⟩ :=
      mirrored.creditKeys k t reference stored named
    exact ⟨entryKey, e, a, logged, isTopup, referenced, Table.get?_create_of_some _ _ owner, live⟩

theorem update_book {accounts : Table Nat PrepaidAccount} (key : Nat) {k : Nat}
    (f : PrepaidAccount → PrepaidAccount) (keeps : ∀ a, (f a).book = a.book) {a : PrepaidAccount}
    (stored : accounts.get? k = some a) :
    ∃ a', (accounts.update key f).get? k = some a' ∧ a'.book = a.book := by
  rw [Table.get?_update]
  split
  · rename_i same
    subst same
    exact ⟨f a, by rw [stored]; rfl, keeps a⟩
  · exact ⟨a, stored, rfl⟩

theorem update_absent {accounts : Table Nat PrepaidAccount} {key k : Nat}
    {f : PrepaidAccount → PrepaidAccount} (absent : (accounts.update key f).get? k = none) :
    accounts.get? k = none := by
  rw [Table.get?_update] at absent
  split at absent
  · rename_i same
    subst same
    exact Option.map_eq_none_iff.mp absent
  · exact absent

/-- What one call left of the ledger: the net of one account moved by `delta`, and any new
transaction is under the call's own key. -/
structure LedgerMoved (l l' : Ledger) (idempotencyKey : String) (key : Nat) (delta : Int) : Prop where
  posted : Posted l'
  net : ∀ k, liabilityNet l' k = liabilityNet l k + if k = key then delta else 0
  transactions : ∀ k t, l'.transactions.get? k = some t →
    l.transactions.get? k = some t ∨ (delta ≠ 0 ∧ t.idempotencyKey = idempotencyKey)

theorem ledgerMoved_rest {l : Ledger} (posted : Posted l) (idempotencyKey : String) (key : Nat) :
    LedgerMoved l l idempotencyKey key 0 := by
  refine ⟨posted, ?_, fun _ _ stored => Or.inl stored⟩
  intro k
  split <;> omega

theorem ledgerMoved_posted {l l' : Ledger} {idempotencyKey : String} {key : Nat} {delta : Int}
    (pair : PairPosted l l' idempotencyKey key delta) (moves : delta ≠ 0)
    (unused : ∀ k t, l.transactions.get? k = some t → t.idempotencyKey ≠ idempotencyKey) :
    LedgerMoved l l' idempotencyKey key delta := by
  obtain ⟨⟨k, t, used, named⟩, -⟩ | ⟨⟨t, named, created⟩, net⟩ := pair.outcome
  · exact absurd named (unused k t used)
  · refine ⟨pair.posted, net, ?_⟩
    intro k t' stored
    rw [created] at stored
    obtain ⟨-, rfl⟩ | earlier := Table.get?_create_cases stored
    · exact Or.inr ⟨moves, named⟩
    · exact Or.inl earlier

section Moved
variable {w w' : Wallet} {key : Nat} {row : PrepaidAccount} {book idempotencyKey : String} {delta : Int}
  {f : PrepaidAccount → PrepaidAccount}

theorem Wallet.Mirrored.agrees_moved (mirrored : Mirrored w) (stored : w.accounts.get? key = some row)
    (ofBook : row.book = book)
    (moved : LedgerMoved w.ledger w'.ledger idempotencyKey key (if book = "live" then delta else 0))
    (accounts : w'.accounts = w.accounts.update key f) (sameBook : ∀ a, (f a).book = a.book)
    (balance : (f row).balanceMinor = row.balanceMinor + delta) : w'.LedgerAgrees := by
  intro k a found live
  rw [accounts] at found
  rw [moved.net k]
  obtain ⟨rfl, q, old, rfl⟩ | ⟨other, old⟩ := Table.get?_update_cases found
  · have same : q = row := Option.some.inj (old.symm.trans stored)
    subst same
    rw [sameBook] at live
    have before := mirrored.agrees k q old live
    rw [if_pos rfl, if_pos (ofBook.symm.trans live)]
    omega
  · have before := mirrored.agrees k a old live
    rw [if_neg other]
    omega

theorem Wallet.Mirrored.noNet_moved (mirrored : Mirrored w) (stored : w.accounts.get? key = some row)
    (moved : LedgerMoved w.ledger w'.ledger idempotencyKey key delta)
    (accounts : w'.accounts = w.accounts.update key f) (k : Nat) (absent : w'.accounts.get? k = none) :
    liabilityNet w'.ledger k = 0 := by
  rw [accounts] at absent
  have absent := update_absent absent
  have before := mirrored.noNet k absent
  have other : k ≠ key := by
    intro same
    rw [same, stored] at absent
    contradiction
  rw [moved.net k, if_neg other]
  omega

end Moved

variable {reference : String} {amount : Int}

/-- A live credit posts under a key of its own when no other live account has its reference. -/
theorem credited_ledger {book : String} {key : Nat} {row : PrepaidAccount}
    {w w' : Wallet} (mirrored : Mirrored w) (positive : 0 < amount)
    (own : book = "live" → ∀ k e a, w.entries.get? k = some e → e.kind = .topup →
      e.referenceId = reference → w.accounts.get? e.accountId = some a → a.book = "live" →
      e.accountId = key) (credited : Credited book reference amount key row w w') :
    LedgerMoved w.ledger w'.ledger ("prepaid-credit-" ++ reference) key
      (if book = "live" then amount else 0) := by
  have posting := credited.posted
  split
  · rename_i live
    subst live
    apply ledgerMoved_posted (postCredit_live mirrored.posted posting) (by omega)
    intro k t stored named
    obtain ⟨entryKey, e, a, logged, isTopup, referenced, owner, live⟩ :=
      mirrored.creditKeys k t reference stored named
    have account := own rfl entryKey e a logged isTopup referenced owner live
    have replayed := credited.fresh entryKey e logged
    rw [(isEntry_iff ..).mpr ⟨account, referenced, isTopup⟩] at replayed
    contradiction
  · rename_i simulated
    unfold postCredit at posting
    rw [if_neg simulated, returns_pure] at posting
    have unchanged : w'.ledger = w.ledger := by
      have whole := congrArg Wallet.ledger posting.2
      exact whole
    rw [unchanged]
    exact ledgerMoved_rest mirrored.posted _ _

theorem mirrored_credited {book : String} {key : Nat} {row : PrepaidAccount}
    {w w' : Wallet} (mirrored : Mirrored w) (positive : 0 < amount)
    (stored : w.accounts.get? key = some row) (ofBook : row.book = book)
    (own : book = "live" → ∀ k e a, w.entries.get? k = some e → e.kind = .topup →
      e.referenceId = reference → w.accounts.get? e.accountId = some a → a.book = "live" →
      e.accountId = key) (credited : Credited book reference amount key row w w') : Mirrored w' := by
  have kept := kept_credited mirrored.toKept positive stored credited
  have moved := credited_ledger mirrored positive own credited
  have rows := credited.rows
  have accounts : w'.accounts = w.accounts.update key fun a =>
      { a with balanceMinor := a.balanceMinor + amount } := by rw [rows]
  have entries : w'.entries = w.entries.create ⟨key, reference, .topup, amount⟩ := by rw [rows]
  have reservations : w'.reservations = w.reservations := by rw [rows]
  refine { kept with
    agrees := ?_, posted := moved.posted, noNet := ?_, creditKeys := ?_, spendKeys := ?_ }
  · exact mirrored.agrees_moved stored ofBook moved accounts (fun _ => rfl) rfl
  · exact mirrored.noNet_moved stored moved accounts
  · intro k t reference' found named
    obtain earlier | ⟨moves, new⟩ := moved.transactions k t found
    · obtain ⟨entryKey, e, a, logged, isTopup, referenced, owner, live⟩ :=
        mirrored.creditKeys k t reference' earlier named
      rw [accounts, entries]
      obtain ⟨a', owner', sameBook⟩ := update_book key
        (fun a => { a with balanceMinor := a.balanceMinor + amount }) (fun _ => rfl) owner
      exact ⟨entryKey, e, a', Table.get?_create_of_some _ _ logged, isTopup, referenced, owner',
        sameBook.trans live⟩
    · have sameReference : reference = reference' := by
        have same := new.symm.trans named
        rw [String.append_right_inj] at same
        exact same
      have live : book = "live" := by
        by_contra simulated
        rw [if_neg simulated] at moves
        contradiction
      rw [accounts, entries]
      obtain ⟨a', owner, sameBook⟩ := update_book key
        (fun a => { a with balanceMinor := a.balanceMinor + amount }) (fun _ => rfl) stored
      exact ⟨_, _, a', Table.get?_create_self _ _, rfl, sameReference, owner,
        sameBook.trans (ofBook.trans live)⟩
  · intro k t reference' found named
    rw [reservations]
    obtain earlier | ⟨-, new⟩ := moved.transactions k t found
    · exact mirrored.spendKeys k t reference' earlier named
    · exact absurd (new.symm.trans named) (creditKey_ne_spendKey _ _)

theorem mirrored_held {key : Nat} {row : PrepaidAccount}
    {w w' : Wallet} (mirrored : Mirrored w) (positive : 0 < amount) (stored : w.accounts.get? key = some row)
    (held : Held reference amount key row w w') : Mirrored w' := by
  have kept := kept_held mirrored.toKept positive stored held
  rw [held.rows] at kept ⊢
  refine { kept with
    agrees := ?_, posted := mirrored.posted, noNet := ?_, creditKeys := ?_, spendKeys := ?_ }
  · intro k a found live
    obtain ⟨rfl, q, old, rfl⟩ | ⟨-, old⟩ := Table.get?_update_cases found
    · exact mirrored.agrees k q old live
    · exact mirrored.agrees k a old live
  · intro k absent
    exact mirrored.noNet k (update_absent absent)
  · intro k t reference' found named
    obtain ⟨entryKey, e, a, logged, isTopup, referenced, owner, live⟩ :=
      mirrored.creditKeys k t reference' found named
    obtain ⟨a', owner', sameBook⟩ := update_book key
      (fun a => { a with reservedMinor := a.reservedMinor + amount }) (fun _ => rfl) owner
    exact ⟨entryKey, e, a', Table.get?_create_of_some _ _ logged, isTopup, referenced, owner',
      sameBook.trans live⟩
  · intro k t reference' found named
    obtain ⟨holdKey, r, hold, referenced, settled⟩ := mirrored.spendKeys k t reference' found named
    exact ⟨holdKey, r, Table.get?_create_of_some _ _ hold, referenced, settled⟩

theorem settled_ledger {book : String} {spent : Int} {key holdKey : Nat}
    {row : PrepaidAccount} {hold : PrepaidReservation} {w w' : Wallet} (mirrored : Mirrored w)
    (holdStored : w.reservations.get? holdKey = some hold) (named : hold.referenceId = reference)
    (lower : 0 ≤ spent) (settled : Settled book reference spent key row holdKey hold w w') :
    LedgerMoved w.ledger w'.ledger ("prepaid-spend-" ++ reference) key
      (if book = "live" then -spent else 0) := by
  have posting := settled.posted
  have unposted : ¬ (0 < spent ∧ book = "live") → w'.ledger = w.ledger := by
    intro nothing
    unfold postSpend at posting
    rw [if_neg nothing, returns_pure] at posting
    have whole := congrArg Wallet.ledger posting.2
    exact whole
  split
  · rename_i live
    subst live
    obtain rfl | positive := Int.le_iff_eq_or_lt.mp lower
    · rw [unposted (by simp)]
      exact ledgerMoved_rest mirrored.posted _ _
    · apply ledgerMoved_posted (postSpend_live mirrored.posted positive posting) (by omega)
      intro k t stored earlier
      obtain ⟨otherKey, r, other, referenced, isSettled⟩ :=
        mirrored.spendKeys k t reference stored earlier
      have sameKey := mirrored.oneReference otherKey holdKey r hold other holdStored
        (referenced.trans named.symm)
      rw [sameKey, holdStored] at other
      rw [← Option.some.inj other, settled.reserved] at isSettled
      contradiction
  · rename_i simulated
    rw [unposted (fun both => simulated both.2)]
    exact ledgerMoved_rest mirrored.posted _ _

theorem mirrored_settled {book : String} {spent : Int} {key holdKey : Nat}
    {row : PrepaidAccount} {hold : PrepaidReservation} {w w' : Wallet} (mirrored : Mirrored w)
    (stored : w.accounts.get? key = some row) (ofBook : row.book = book)
    (holdStored : w.reservations.get? holdKey = some hold) (owner : hold.accountId = key)
    (named : hold.referenceId = reference) (lower : 0 ≤ spent) (upper : spent ≤ hold.amountMinor)
    (settled : Settled book reference spent key row holdKey hold w w') : Mirrored w' := by
  have kept := kept_settled mirrored.toKept stored holdStored owner named lower upper settled
  have moved := settled_ledger mirrored holdStored named lower settled
  have rows := settled.rows
  have accounts : w'.accounts = w.accounts.update key fun a =>
      { a with
        balanceMinor := row.balanceMinor - spent
        reservedMinor := row.reservedMinor - hold.amountMinor } := by rw [rows]
  have entries : w'.entries = settlementEntries key reference spent hold.amountMinor w.entries := by
    rw [rows]
  have reservations : w'.reservations = w.reservations.update holdKey fun r =>
      { r with status := .settled, spentMinor := some spent } := by rw [rows]
  refine { kept with
    agrees := ?_, posted := moved.posted, noNet := ?_, creditKeys := ?_, spendKeys := ?_ }
  · exact mirrored.agrees_moved stored ofBook moved accounts (fun _ => rfl) Int.sub_eq_add_neg
  · exact mirrored.noNet_moved stored moved accounts
  · intro k t reference' found keyed
    obtain earlier | ⟨-, new⟩ := moved.transactions k t found
    · obtain ⟨entryKey, e, a, logged, isTopup, referenced, account, live⟩ :=
        mirrored.creditKeys k t reference' earlier keyed
      rw [accounts, entries]
      obtain ⟨a', account', sameBook⟩ := update_book key
        (fun a => { a with
          balanceMinor := row.balanceMinor - spent
          reservedMinor := row.reservedMinor - hold.amountMinor }) (fun _ => rfl) account
      exact ⟨entryKey, e, a', settlementEntries_of_some logged, isTopup, referenced, account',
        sameBook.trans live⟩
    · exact absurd (keyed.symm.trans new) (creditKey_ne_spendKey _ _)
  · intro k t reference' found keyed
    rw [reservations]
    obtain earlier | ⟨-, new⟩ := moved.transactions k t found
    · obtain ⟨otherKey, r, other, referenced, isSettled⟩ :=
        mirrored.spendKeys k t reference' earlier keyed
      have different : otherKey ≠ holdKey := by
        intro same
        rw [same, holdStored] at other
        rw [← Option.some.inj other, settled.reserved] at isSettled
        contradiction
      refine ⟨otherKey, r, ?_, referenced, isSettled⟩
      rw [Table.get?_update_of_ne _ _ different]
      exact other
    · have sameReference : reference = reference' := by
        have same := new.symm.trans keyed
        rw [String.append_right_inj] at same
        exact same
      refine ⟨holdKey, { hold with status := .settled, spentMinor := some spent }, ?_,
        named.trans sameReference, rfl⟩
      rw [Table.get?_update_self, holdStored, Option.map_some]

theorem own_of_ownReference {subject : String} {accountId : Option String}
    {w opened : Wallet} {key : Nat} {row : PrepaidAccount} (mirrored : Mirrored w) (positive : 0 < amount)
    (own : ownReference w (.credit subject "live" reference amount accountId) = true)
    (isOpen : Opened subject "live" accountId w opened key row) :
    ∀ k e a, opened.entries.get? k = some e → e.kind = .topup → e.referenceId = reference →
      opened.accounts.get? e.accountId = some a → a.book = "live" → e.accountId = key := by
  intro k e a logged isTopup referenced owner live
  have notElsewhere : creditedElsewhere w subject reference accountId = false := by
    simpa [ownReference, positive] using own
  have caller : ∀ a, w.entries.get? k = some e → w.accounts.get? e.accountId = some a →
      a.book = "live" → callerAccount w subject "live" accountId = some e.accountId := by
    intro a logged owner live
    by_contra other
    have elsewhere : creditedElsewhere w subject reference accountId = true := by
      unfold creditedElsewhere
      rw [Table.exists?_iff]
      exact ⟨k, e, logged, by simp [isTopup, referenced, owner, live, other]⟩
    rw [notElsewhere] at elsewhere
    contradiction
  obtain ⟨rfl, found⟩ | ⟨none_found, fresh, -, -, rfl⟩ := isOpen.rows
  · have same := found.symm.trans (caller a logged owner live)
    exact (Option.some.inj same).symm
  · obtain ⟨a', owner'⟩ := mirrored.entryAccount k e logged
    have unchanged := Table.get?_create_of_some _ row owner'
    rw [Option.some.inj (unchanged.symm.trans owner)] at owner'
    rw [caller a logged owner' live] at none_found
    contradiction

theorem mirrored_perform (call : WalletCall) {w : Wallet} (mirrored : Mirrored w)
    (own : ownReference w call = true) : Mirrored (after call.perform w) := by
  obtain success | unchanged := after_perform call w
  swap
  · rw [unchanged]
    exact mirrored
  generalize after call.perform w = w' at success
  cases call with
  | credit =>
    obtain ⟨positive, key, row, opened, isOpen, replayed | credited⟩ := credit_returns success
    · rw [replayed.1]
      exact mirrored_opened mirrored isOpen
    · apply mirrored_credited (mirrored_opened mirrored isOpen) positive isOpen.stored
        (owns_book isOpen.owned) _ credited
      intro live
      subst live
      exact own_of_ownReference mirrored positive own isOpen
  | reserve =>
    obtain ⟨positive, key, row, opened, isOpen, replayed | held⟩ := reserve_returns success
    · rw [replayed.1]
      exact mirrored_opened mirrored isOpen
    · exact mirrored_held (mirrored_opened mirrored isOpen) positive isOpen.stored held
  | settle =>
    obtain ⟨key, row, opened, holdKey, hold, isOpen, stored, owner, named, lower, upper,
      replayed | settled⟩ := settle_returns success
    · rw [replayed.1]
      exact mirrored_opened mirrored isOpen
    · exact mirrored_settled (mirrored_opened mirrored isOpen) isOpen.stored
        (owns_book isOpen.owned) stored owner named lower upper settled
  | setLimit =>
    obtain ⟨key, row, opened, isOpen, frame⟩ := setLimit_returns success
    rw [frame]
    exact { mirrored_opened mirrored isOpen with }

/-! ### Runs -/

theorem mirrored_opening (limits : Table Nat SpendingLimit) :
    Mirrored (Wallet.opening limits Ledger.opening) :=
  { kept_opening limits Ledger.opening with
    agrees := fun _ _ stored => by cases stored
    posted := fun _ _ stored => by cases stored
    noNet := fun _ _ => rfl
    creditKeys := fun _ _ _ stored => by cases stored
    spendKeys := fun _ _ _ stored => by cases stored }

theorem mirrored_run (calls : List WalletCall) {w : Wallet} (mirrored : Mirrored w)
    (own : ownReferences w calls = true) : Mirrored (WalletCall.run calls w) := by
  induction calls generalizing w with
  | nil => exact mirrored
  | cons call _ ih =>
    unfold ownReferences at own
    rw [Bool.and_eq_true] at own
    exact ih (mirrored_perform call mirrored own.1) own.2

theorem ownReferences_of_append {before later : List WalletCall} {w : Wallet}
    (own : ownReferences w (before ++ later) = true) : ownReferences w before = true := by
  induction before generalizing w with
  | nil => rfl
  | cons _ _ ih =>
    rw [List.cons_append] at own
    unfold ownReferences at own ⊢
    rw [Bool.and_eq_true] at own ⊢
    exact ⟨own.1, ih own.2⟩

/-- Two live accounts credited under one reference: the second credit is posted nowhere. -/
theorem shared_reference_unposted :
    ¬ (WalletCall.run [.credit "s1" "live" "R" 100 none, .credit "s2" "live" "R" 50 none]
      (Wallet.opening Table.empty Ledger.opening)).LedgerAgrees := by
  intro agrees
  have second := agrees 1 ⟨some "s2", none, "live", "PHP", 50, 0⟩ (by decide) rfl
  exact absurd second (by decide)

/-- While every live credit uses a reference of its own, each live balance is the net of its
liability account in every state of the run. -/
theorem wallet_mirrors_ledger (limits : Table Nat SpendingLimit) (calls : List WalletCall)
    (own : ownReferences (Wallet.opening limits Ledger.opening) calls = true) :
    ∀ before later, calls = before ++ later →
      (WalletCall.run before (Wallet.opening limits Ledger.opening)).LedgerAgrees := by
  intro before later split
  subst split
  have start := mirrored_opening limits
  exact (mirrored_run before start (ownReferences_of_append own)).agrees

theorem wallet_mirrors_ledger_two_accounts :
    (WalletCall.run
      [.credit "s1" "live" "R" 100 none, .reserve "s1" "live" "H" 60 none none,
        .credit "s2" "live" "Q" 50 none, .settle "s1" "live" "H" 25 none]
      (Wallet.opening Table.empty Ledger.opening)).LedgerAgrees :=
  wallet_mirrors_ledger Table.empty _ (by decide) _ [] (List.append_nil _).symm

end VtsaCsms.Billing
