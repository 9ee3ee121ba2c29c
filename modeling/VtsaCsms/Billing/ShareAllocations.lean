import VtsaCsms.Billing.RevenueShare
import VtsaCsms.Foundation.Runs

/-!
# Allocated revenue shares

What `RevenueShareService::allocate` leaves in the ledger over any run of invoices and
rules. The ledger refuses a repeated invoice and rule, and nothing refuses another rule.
-/
namespace VtsaCsms.Billing
open Foundation Foundation.Action DoubleEntryLedger

/-! ### Accounts opened on the way -/

/-- Accounts may have been opened, and nothing else has changed. -/
structure Ledger.Extends (l l' : Ledger) : Prop where
  transactions : l'.transactions = l.transactions
  entries : l'.entries = l.entries
  kept : ∀ key a, l.accounts.get? key = some a → l'.accounts.get? key = some a

theorem Ledger.Extends.refl (l : Ledger) : l.Extends l := ⟨rfl, rfl, fun _ _ stored => stored⟩

variable {l l' : Ledger}

theorem Ledger.Extends.trans {l₁ l₂ : Ledger} (first : l.Extends l₁) (second : l₁.Extends l₂) :
    l.Extends l₂ :=
  ⟨second.transactions.trans first.transactions, second.entries.trans first.entries,
    fun key a stored => second.kept key a (first.kept key a stored)⟩

theorem DoubleEntryLedger.AccountOpened.extends' {code : String} {opened : Nat × LedgerAccount}
    (isOpen : AccountOpened code l l' opened) : l.Extends l' :=
  ⟨isOpen.transactions, isOpen.entries, isOpen.kept⟩

/-- One side of what a transaction posts to the accounts of a code. -/
def postedTo (side : LedgerEntry → Int) (l : Ledger) (transaction : Nat) (code : String) : Int :=
  l.entries.sumOver fun _ e =>
    if e.transactionId = transaction ∧ (l.accounts.get? e.accountId).map LedgerAccount.code = some code then
      side e
    else 0

theorem postedTo_extends (ext : l.Extends l') (posted : Posted l) (side : LedgerEntry → Int)
    (transaction : Nat) (code : String) : postedTo side l' transaction code = postedTo side l transaction code := by
  unfold postedTo
  rw [ext.entries]
  refine Table.sumOver_congr _ fun key e stored => ?_
  obtain ⟨a, owner⟩ := posted key e stored
  rw [owner, ext.kept _ _ owner]

/-- Postings that credit an amount to accounts of one code. -/
structure Pays (l : Ledger) (currency : String) (code : Option String) (amount : Int)
    (postings : List LedgerPosting) : Prop where
  stored : ∀ p ∈ postings, l.accounts.get? p.account.1 = some p.account.2
  currencies : ∀ p ∈ postings, p.account.2.currency = strToUpper currency
  codes : ∀ p ∈ postings, some p.account.2.code = code
  oneSided : ∀ p ∈ postings, p.OneSided
  credits : creditTotal postings = amount
  debits : debitTotal postings = 0

theorem Pays.extends' {currency : String} {code : Option String} {amount : Int}
    {postings : List LedgerPosting}
    (pays : Pays l currency code amount postings) (ext : l.Extends l') : Pays l' currency code amount postings :=
  { pays with stored := fun p member => ext.kept _ _ (pays.stored p member) }

theorem pays_nothing (l : Ledger) (currency : String) (code : Option String) : Pays l currency code 0 [] :=
  ⟨by simp, by simp, by simp, by simp, rfl, rfl⟩

namespace RevenueShareService

theorem credited_pays {amount : Int} (code name type currency ownerType ownerId : String) (l : Ledger)
    (nonneg : 0 ≤ amount) : ∃ postings l', Returns (credited amount code name type currency ownerType ownerId)
      l postings l' ∧ l.Extends l' ∧ Pays l' currency (some code) amount postings := by
  unfold credited
  by_cases positive : 0 < amount
  · obtain ⟨opened, l', success, isOpen, folded⟩ :=
      account_opens code name type currency (some ownerType) (some ownerId) l
    refine ⟨[{ account := opened, creditMinor := amount }], l', ?_, isOpen.extends', ?_⟩
    · rw [if_pos positive, returns_bind]
      exact ⟨opened, l', success, rfl⟩
    · refine ⟨?_, ?_, ?_, ?_, ?_, rfl⟩
      · simpa using isOpen.stored
      · simpa using folded
      · simpa using isOpen.code
      · simpa [LedgerPosting.OneSided] using positive
      · simp [creditTotal]
  · have none' : amount = 0 := by omega
    subst none'
    exact ⟨[], l, by rw [if_neg positive]; rfl, .refl l, pays_nothing l currency _⟩

/-- The code the site host's part is credited to; without an organization there is none. -/
def siteHostAccount (rule : RevenueShareRule) : Option String :=
  rule.siteHostOrganizationId.map siteHostCode

theorem siteHostCredited_pays {amount : Int} (rule : RevenueShareRule) (currency : String) (l : Ledger)
    (nonneg : 0 ≤ amount) (owned : rule.siteHostOrganizationId = none → amount = 0) :
    ∃ postings l', Returns (siteHostCredited amount rule.siteHostOrganizationId currency) l postings l' ∧
      l.Extends l' ∧ Pays l' currency (siteHostAccount rule) amount postings := by
  unfold siteHostCredited siteHostAccount
  cases organization : rule.siteHostOrganizationId with
  | some => exact credited_pays _ _ _ _ _ _ _ nonneg
  | none =>
    have zero := owned organization
    subst zero
    refine ⟨[], l, ?_, .refl l, pays_nothing l currency _⟩
    simp only [returns_bind, returns_throwIf, returns_pure]
    exact ⟨(), l, ⟨by omega, rfl⟩, trivial, rfl⟩

/-! ### Codes and keys -/

theorem prefix_ne {before text : String} {rest : String}
    (differ : (before.toList.take 4) ≠ text.toList.take 4) (long : 4 ≤ before.toList.length) :
    before ++ rest ≠ text := by
  rintro rfl
  rw [String.toList_append, List.take_append_of_le_length long] at differ
  exact differ rfl

theorem code_separate (rule : RevenueShareRule) (organization : String) :
    operatorCode rule ≠ "4000-CHARGING-GROSS" ∧ operatorCode rule ≠ "4100-PLATFORM-FEE" ∧
      siteHostCode organization ≠ "4000-CHARGING-GROSS" ∧ siteHostCode organization ≠ "4100-PLATFORM-FEE" ∧
      siteHostCode organization ≠ operatorCode rule := by
  have operator : (operatorCode rule).toList.take 4 = ['2', '1', '0', '0'] := by
    rw [operatorCode, String.toList_append, List.take_append_of_le_length (by decide)]
    decide
  unfold siteHostCode
  refine ⟨prefix_ne (by decide) (by decide), prefix_ne (by decide) (by decide),
    prefix_ne (by decide) (by decide), prefix_ne (by decide) (by decide), ?_⟩
  refine prefix_ne ?_ (by decide)
  rw [operator]
  decide

theorem takeWhile_keyText (key : Nat) (rest : String) :
    (keyText key ++ "-" ++ rest).toList.takeWhile Char.isDigit = (keyText key).toList := by
  have dash : "-".toList = ['-'] := by decide
  rw [String.toList_append, String.toList_append, List.append_assoc, dash, List.singleton_append,
    List.takeWhile_append_of_pos fun c member => keyText_isDigit member, List.takeWhile_cons_of_neg (by decide),
    List.append_nil]

theorem idempotencyKey_injective {i r i' r' : Nat} (same : idempotencyKey i r = idempotencyKey i' r') :
    i = i' ∧ r = r' := by
  unfold idempotencyKey at same
  simp only [String.append_assoc] at same
  rw [String.append_right_inj] at same
  have invoices : keyText i = keyText i' := by
    have digits := congrArg (fun s => s.toList.takeWhile Char.isDigit) same
    simp only [← String.append_assoc, takeWhile_keyText] at digits
    exact String.toList_injective digits
  rw [invoices, String.append_right_inj, String.append_right_inj] at same
  exact ⟨keyText_injective invoices, keyText_injective same⟩

/-! ### One posting of a division -/

def carried (side : LedgerPosting → Int) (code : String) (postings : List LedgerPosting) : Int :=
  (postings.map fun p => if p.account.2.code = code then side p else 0).sum

theorem carried_append (side : LedgerPosting → Int) (code : String) (first second : List LedgerPosting) :
    carried side code (first ++ second) = carried side code first + carried side code second := by
  simp [carried]

theorem carried_of_codes {side : LedgerPosting → Int} {code : String} {postings : List LedgerPosting}
    (codes : ∀ p ∈ postings, some p.account.2.code = some code) :
    carried side code postings = (postings.map side).sum := by
  unfold carried
  refine congrArg List.sum (List.map_congr_left fun p member => ?_)
  rw [if_pos (Option.some.inj (codes p member))]

theorem carried_elsewhere {side : LedgerPosting → Int} {code : Option String} {other : String}
    {postings : List LedgerPosting} (codes : ∀ p ∈ postings, some p.account.2.code = code)
    (differ : code ≠ some other) :
    carried side other postings = 0 := by
  unfold carried
  have zero : (postings.map fun p => if p.account.2.code = other then side p else 0) = postings.map fun _ => 0 := by
    refine List.map_congr_left fun p member => ?_
    refine if_neg fun same => differ ?_
    rw [← codes p member, same]
  rw [zero]
  simp

/-- The postings of a division: the gross account is debited and each party is credited. -/
structure Divided (invoice : LoadedInvoice) (rule : RevenueShareRule) (l : Ledger)
    (postings : List LedgerPosting) : Prop where
  stored : ∀ p ∈ postings, l.accounts.get? p.account.1 = some p.account.2
  currencies : ∀ p ∈ postings, p.account.2.currency = strToUpper invoice.currency
  oneSided : ∀ p ∈ postings, p.OneSided
  several : 2 ≤ postings.length
  debits : debitTotal postings = invoice.totalMinor
  credits : creditTotal postings = invoice.totalMinor
  gross : carried LedgerPosting.debitMinor "4000-CHARGING-GROSS" postings = invoice.totalMinor
  platform : carried LedgerPosting.creditMinor "4100-PLATFORM-FEE" postings = (division invoice rule).platform
  operator : carried LedgerPosting.creditMinor (operatorCode rule) postings = (division invoice rule).operator
  siteHost : ((siteHostAccount rule).map fun code => carried LedgerPosting.creditMinor code postings).getD 0 =
    (division invoice rule).siteHost

variable {invoice : LoadedInvoice} {rule : RevenueShareRule}

theorem divided (invoiced : invoice.Accepted)
    (ruled : rule.Accepted) {l : Ledger} {gross : Nat × LedgerAccount}
    {platform operator siteHost : List LedgerPosting}
    (stored : l.accounts.get? gross.1 = some gross.2) (named : gross.2.code = "4000-CHARGING-GROSS")
    (folded : gross.2.currency = strToUpper invoice.currency)
    (first : Pays l invoice.currency (some "4100-PLATFORM-FEE") (division invoice rule).platform platform)
    (second : Pays l invoice.currency (some (operatorCode rule)) (division invoice rule).operator operator)
    (third : Pays l invoice.currency (siteHostAccount rule) (division invoice rule).siteHost siteHost)
    (hosted : siteHostAccount rule = none → (division invoice rule).siteHost = 0) :
    Divided invoice rule l
      ({ account := gross, debitMinor := invoice.totalMinor } :: (platform ++ operator ++ siteHost)) := by
  obtain ⟨-, -, -, total⟩ := division_nonneg invoiced ruled
  have positive := invoiced.positive
  have hostOthers : siteHostAccount rule ≠ some "4000-CHARGING-GROSS" ∧
      siteHostAccount rule ≠ some "4100-PLATFORM-FEE" ∧ siteHostAccount rule ≠ some (operatorCode rule) := by
    unfold siteHostAccount
    cases rule.siteHostOrganizationId with
    | none => simp
    | some id => simpa using (code_separate rule id).2.2
  obtain ⟨operatorGross, operatorPlatform, -⟩ := code_separate rule ""
  have credits : creditTotal (platform ++ operator ++ siteHost) = invoice.totalMinor := by
    have sums : creditTotal (platform ++ operator ++ siteHost) =
        creditTotal platform + creditTotal operator + creditTotal siteHost := by simp [creditTotal, add_assoc]
    rw [sums, first.credits, second.credits, third.credits, total]
  have debits : debitTotal (platform ++ operator ++ siteHost) = 0 := by
    have sums : debitTotal (platform ++ operator ++ siteHost) =
        debitTotal platform + debitTotal operator + debitTotal siteHost := by simp [debitTotal, add_assoc]
    rw [sums, first.debits, second.debits, third.debits]
    rfl
  -- the gross account is credited nothing, so a code's credits are those of the payments
  have paid : ∀ code, carried LedgerPosting.creditMinor code
      ({ account := gross, debitMinor := invoice.totalMinor } :: (platform ++ operator ++ siteHost)) =
      carried LedgerPosting.creditMinor code platform + carried LedgerPosting.creditMinor code operator +
        carried LedgerPosting.creditMinor code siteHost := by
    intro code
    rw [← carried_append, ← carried_append]
    simp [carried]
  have every : ∀ {P : LedgerPosting → Prop}, P { account := gross, debitMinor := invoice.totalMinor } →
      (∀ p ∈ platform, P p) → (∀ p ∈ operator, P p) → (∀ p ∈ siteHost, P p) →
      ∀ p ∈ ({ account := gross, debitMinor := invoice.totalMinor } :: (platform ++ operator ++ siteHost) :
        List LedgerPosting), P p := by
    intro P head p₁ p₂ p₃ p member
    simp only [List.mem_cons, List.mem_append] at member
    rcases member with rfl | (m | m) | m
    · exact head
    · exact p₁ p m
    · exact p₂ p m
    · exact p₃ p m
  refine ⟨every stored first.stored second.stored third.stored,
    every folded first.currencies second.currencies third.currencies,
    every (Or.inl ⟨positive, rfl⟩) first.oneSided second.oneSided third.oneSided, ?_, ?_, ?_, ?_, ?_, ?_, ?_⟩
  · -- a total above zero has a part above zero
    have some' : platform ++ operator ++ siteHost ≠ [] := by
      intro none'
      rw [none'] at credits
      simp only [creditTotal, List.map_nil, List.sum_nil] at credits
      omega
    have long := List.length_pos_of_ne_nil some'
    simp only [List.length_cons]
    omega
  · have sums : debitTotal ({ account := gross, debitMinor := invoice.totalMinor } ::
        (platform ++ operator ++ siteHost)) =
        invoice.totalMinor + debitTotal (platform ++ operator ++ siteHost) := rfl
    rw [sums, debits, add_zero]
  · have sums : creditTotal ({ account := gross, debitMinor := invoice.totalMinor } ::
        (platform ++ operator ++ siteHost)) = 0 + creditTotal (platform ++ operator ++ siteHost) := rfl
    rw [sums, credits, zero_add]
  · rw [← List.singleton_append, carried_append, carried_append, carried_append,
      carried_elsewhere first.codes (by decide), carried_elsewhere second.codes (by simpa using operatorGross),
      carried_elsewhere third.codes hostOthers.1]
    simp [carried, named]
  · rw [paid, carried_of_codes first.codes, carried_elsewhere second.codes (by simpa using operatorPlatform),
      carried_elsewhere third.codes hostOthers.2.1, ← first.credits]
    simp [creditTotal]
  · rw [paid, carried_of_codes second.codes,
      carried_elsewhere first.codes (by simpa using Ne.symm operatorPlatform),
      carried_elsewhere third.codes hostOthers.2.2, ← second.credits]
    simp [creditTotal]
  · cases account : siteHostAccount rule with
    | none => exact (hosted account).symm
    | some =>
      rw [account] at hostOthers third
      simp only [ne_eq, Option.some.injEq] at hostOthers
      simp only [Option.map_some, Option.getD_some]
      rw [paid, carried_of_codes third.codes, carried_elsewhere first.codes (by simpa using Ne.symm hostOthers.2.1),
        carried_elsewhere second.codes (by simpa using Ne.symm hostOthers.2.2), ← third.credits]
      simp [creditTotal]

/-! ### One call -/

/-- The division can be posted: there is an account for each part. -/
def Payable (invoice : LoadedInvoice) (rule : RevenueShareRule) : Prop :=
  Fits invoice rule ∧ (siteHostAccount rule = none → (division invoice rule).siteHost = 0)

def Posts (i : Nat) (invoice : LoadedInvoice) (r : Nat) (rule : RevenueShareRule) (l l' : Ledger) : Prop :=
  ∃ l₁ postings t, l.Extends l₁ ∧ Divided invoice rule l₁ postings ∧
    Entered "invoice" (keyText i) "revenue_share_allocated" invoice.currency (idempotencyKey i r) postings l₁ l' t

theorem allocate_pays (i : Nat) (r : Nat)
    (invoiced : invoice.Accepted) (ruled : rule.Accepted) (payable : Payable invoice rule) (l : Ledger) :
    ∃ l', Returns (allocate i invoice r rule) l () l' ∧
      (l.Extends l' ∧ (∃ key t, l.transactions.get? key = some t ∧ t.idempotencyKey = idempotencyKey i r) ∨
        Posts i invoice r rule l l') := by
  obtain ⟨fits, hosted⟩ := payable
  obtain ⟨platformNonneg, operatorNonneg, siteHostNonneg, -⟩ := division_nonneg invoiced ruled
  obtain ⟨gross, l₁, opensGross, grossOpen, folded⟩ :=
    account_opens "4000-CHARGING-GROSS" "Gross charging revenue" "revenue" invoice.currency none none l
  obtain ⟨platform, l₂, paysPlatform, ext₂, first⟩ := credited_pays "4100-PLATFORM-FEE" "Platform fee revenue"
    "revenue" invoice.currency "platform" rule.tenantId l₁ platformNonneg
  obtain ⟨operator, l₃, paysOperator, ext₃, second⟩ := credited_pays (operatorCode rule)
    "Operator revenue payable" "liability" invoice.currency "organization" rule.operatorOrganizationId l₂
    operatorNonneg
  obtain ⟨siteHost, l₄, paysSiteHost, ext₄, third⟩ :=
    siteHostCredited_pays rule invoice.currency l₃ siteHostNonneg fun none' =>
      hosted (by rw [siteHostAccount, none', Option.map_none])
  have ext := grossOpen.extends'.trans (ext₂.trans (ext₃.trans ext₄))
  have division' := divided invoiced ruled ((ext₂.trans (ext₃.trans ext₄)).kept _ _ grossOpen.stored) grossOpen.code
    folded (first.extends' (ext₃.trans ext₄)) (second.extends' ext₄) third hosted
  have posts : ∃ posted l', Returns (post "invoice" (keyText i) "revenue_share_allocated" invoice.currency
      (idempotencyKey i r) ({ account := gross, debitMinor := invoice.totalMinor } ::
        (platform ++ operator ++ siteHost))) l₄ posted l' := by
    by_cases used : ∃ key t, l₄.transactions.get? key = some t ∧ t.idempotencyKey = idempotencyKey i r
    · obtain ⟨key, t, stored, named⟩ := used
      cases found : l₄.transactions.first? fun _ t => t.idempotencyKey = idempotencyKey i r with
      | none =>
        have missed := Table.first?_none found key t stored
        simp [named] at missed
      | some earlier =>
        refine ⟨earlier, l₄, ?_⟩
        unfold post
        simp only [returns_bind, returns_read]
        exact ⟨_, l₄, ⟨found.symm, rfl⟩, rfl⟩
    · have tallied := tally_ok division'.currencies division'.oneSided (le_refl 0) (le_refl 0)
        (by rw [division'.debits, division'.credits, zero_add]; exact ⟨invoiced.stored, invoiced.stored⟩)
      rw [division'.debits, division'.credits] at tallied
      exact post_enters _ _ _ none (fun key t stored named => used ⟨key, t, stored, named⟩) division'.several
        tallied division'.oneSided
  obtain ⟨posted, l', success⟩ := posts
  refine ⟨l', ?_, ?_⟩
  · unfold allocate
    simp only [returns_bind, returns_lift]
    exact ⟨_, l, ⟨(shares_ok_iff invoiced ruled _).mpr ⟨fits, rfl⟩, rfl⟩, gross, l₁, opensGross, platform, l₂,
      paysPlatform, operator, l₃, paysOperator, siteHost, l₄, paysSiteHost, posted, l', success, rfl⟩
  · rcases post_returns success with ⟨rfl, key, t, stored, named⟩ | ⟨t, entered⟩
    · rw [ext.transactions] at stored
      exact Or.inl ⟨ext, key, t, stored, named⟩
    · exact Or.inr ⟨l₄, _, t, ext, division', entered⟩

theorem allocate_refused (i : Nat) (r : Nat)
    (invoiced : invoice.Accepted) (ruled : rule.Accepted) (refused : ¬ Payable invoice rule) (l : Ledger) :
    l.Extends (after (allocate i invoice r rule) l) := by
  unfold allocate
  cases division' : shares invoice rule with
  | error =>
    rw [after_lift_error rfl]
    exact .refl l
  | ok parts =>
    obtain ⟨fits, rfl⟩ := (shares_ok_iff invoiced ruled parts).mp division'
    obtain ⟨platformNonneg, operatorNonneg, siteHostNonneg, -⟩ := division_nonneg invoiced ruled
    obtain ⟨gross, l₁, opensGross, grossOpen, -⟩ :=
      account_opens "4000-CHARGING-GROSS" "Gross charging revenue" "revenue" invoice.currency none none l
    obtain ⟨platform, l₂, paysPlatform, ext₂, -⟩ := credited_pays "4100-PLATFORM-FEE" "Platform fee revenue"
      "revenue" invoice.currency "platform" rule.tenantId l₁ platformNonneg
    obtain ⟨operator, l₃, paysOperator, ext₃, -⟩ := credited_pays (operatorCode rule)
      "Operator revenue payable" "liability" invoice.currency "organization" rule.operatorOrganizationId l₂
      operatorNonneg
    have unhosted : siteHostAccount rule = none ∧ (division invoice rule).siteHost ≠ 0 := by
      by_contra hosted
      exact refused ⟨fits, fun none' => by_contra fun some' => hosted ⟨none', some'⟩⟩
    have organization : rule.siteHostOrganizationId = none := by
      simpa [siteHostAccount] using unhosted.1
    have positive : 0 < (division invoice rule).siteHost := by omega
    have throws : siteHostCredited (division invoice rule).siteHost rule.siteHostOrganizationId invoice.currency l₃ =
        (.error (.invalidArgument "A site-host allocation requires a site-host organization."), l₃) := by
      rw [organization]
      unfold siteHostCredited throwIf
      rw [if_pos positive]
      rfl
    rw [after_lift_ok rfl, after_bind_of_returns opensGross, after_bind_of_returns paysPlatform,
      after_bind_of_returns paysOperator, after_bind_of_throws (by rw [throws])]
    unfold after
    rw [throws]
    exact grossOpen.extends'.trans (ext₂.trans ext₃)

/-! ### What a transaction distributes -/

/-- What a transaction credits to the parties of a rule. -/
def partsOf (rule : RevenueShareRule) (l : Ledger) (transaction : Nat) : Shares where
  platform := postedTo LedgerEntry.creditMinor l transaction "4100-PLATFORM-FEE"
  operator := postedTo LedgerEntry.creditMinor l transaction (operatorCode rule)
  siteHost :=
    ((siteHostAccount rule).map fun code => postedTo LedgerEntry.creditMinor l transaction code).getD 0

def grossOf (l : Ledger) (transaction : Nat) : Int :=
  postedTo LedgerEntry.debitMinor l transaction "4000-CHARGING-GROSS"

/-- A revenue share transaction of an invoice. -/
def Distributes (i : Nat) (t : LedgerTransaction) : Prop :=
  t.referenceType = "invoice" ∧ t.referenceId = keyText i ∧ t.eventType = "revenue_share_allocated"
  deriving Decidable

/-- The gross revenue of an invoice that the ledger has distributed. -/
def distributed (i : Nat) (l : Ledger) : Int :=
  l.transactions.sumOver fun key t => if Distributes i t then grossOf l key else 0

/-- Every entry is one of a stored transaction's, on a stored account. -/
structure Rooted (l : Ledger) : Prop where
  posted : Posted l
  entered : ∀ key e, l.entries.get? key = some e → ∃ t, l.transactions.get? e.transactionId = some t

theorem Rooted.extends' {l l' : Ledger} (rooted : Rooted l) (ext : l.Extends l') : Rooted l' := by
  refine ⟨?_, ?_⟩
  · intro key e stored
    rw [ext.entries] at stored
    obtain ⟨a, owner⟩ := rooted.posted key e stored
    exact ⟨a, ext.kept _ _ owner⟩
  · intro key e stored
    rw [ext.entries] at stored
    rw [ext.transactions]
    exact rooted.entered key e stored

theorem partsOf_extends {l l' : Ledger} (ext : l.Extends l') (posted : Posted l) (rule : RevenueShareRule)
    (transaction : Nat) : partsOf rule l' transaction = partsOf rule l transaction := by
  unfold partsOf
  simp only [postedTo_extends ext posted]

section Entered
variable {referenceType referenceId eventType currency idempotencyKey : String} {postings : List LedgerPosting}
  {l l' : Ledger} {t : LedgerTransaction}
  (entered : Entered referenceType referenceId eventType currency idempotencyKey postings l l' t)
  (rooted : Rooted l) (stored : ∀ p ∈ postings, l.accounts.get? p.account.1 = some p.account.2)
include entered rooted stored

theorem rooted_entered : Rooted l' := by
  rw [entered.rows]
  refine ⟨posted_createEntries _ _ stored rooted.posted, ?_⟩
  intro key e found
  rcases get?_createEntries found with earlier | ⟨p, -, rfl⟩
  · obtain ⟨t', before⟩ := rooted.entered key e earlier
    exact ⟨t', Table.get?_create_of_some _ _ before⟩
  · exact ⟨t, Table.get?_create_self _ _⟩

theorem postedTo_entered (side : LedgerEntry → Int) (transaction : Nat) (code : String) :
    postedTo side l' transaction code =
      if transaction = l.transactions.nextId then
        carried (fun p => side ⟨transaction, p.account.1, p.debitMinor, p.creditMinor⟩) code postings
      else postedTo side l transaction code := by
  unfold postedTo
  rw [entered.rows, sumOver_createEntries (fun e =>
    if e.transactionId = transaction ∧ (l.accounts.get? e.accountId).map LedgerAccount.code = some code then
      side e else 0)]
  by_cases new : transaction = l.transactions.nextId
  · subst new
    have none' : (l.entries.sumOver fun _ e => if e.transactionId = l.transactions.nextId ∧
        (l.accounts.get? e.accountId).map LedgerAccount.code = some code then side e else 0) = 0 := by
      refine (Table.sumOver_congr _ fun k e found => if_neg ?_).trans (Table.sumOver_zero l.entries)
      rintro ⟨same, -⟩
      obtain ⟨t', before⟩ := rooted.entered k e found
      rw [same, Table.get?_nextId] at before
      contradiction
    rw [none', if_pos rfl, zero_add]
    unfold carried
    refine congrArg List.sum (List.map_congr_left fun p member => ?_)
    simp [stored p member]
  · have other : ¬ l.transactions.nextId = transaction := fun same => new same.symm
    simp [other, new]

end Entered

/-- A posted division is what its transaction distributes, and no other transaction changes. -/
structure NewTransaction (i : Nat) (invoice : LoadedInvoice) (r : Nat) (rule : RevenueShareRule) (l l' : Ledger)
    (t : LedgerTransaction) : Prop where
  transactions : l'.transactions = l.transactions.create t
  distributes : Distributes i t
  named : t.idempotencyKey = idempotencyKey i r
  unused : ∀ key earlier, l.transactions.get? key = some earlier → earlier.idempotencyKey ≠ idempotencyKey i r
  rooted : Rooted l'
  gross : grossOf l' l.transactions.nextId = invoice.totalMinor
  parts : partsOf rule l' l.transactions.nextId = division invoice rule
  others : ∀ key, key ≠ l.transactions.nextId → grossOf l' key = grossOf l key ∧
    ∀ rule', partsOf rule' l' key = partsOf rule' l key

theorem Posts.newTransaction {i : Nat} {invoice : LoadedInvoice} {r : Nat} {rule : RevenueShareRule}
    {l l' : Ledger} (posts : Posts i invoice r rule l l') (rooted : Rooted l) :
    ∃ t, NewTransaction i invoice r rule l l' t := by
  obtain ⟨l₁, postings, t, ext, parts, entered⟩ := posts
  have rooted₁ := rooted.extends' ext
  have moved := postedTo_entered entered rooted₁ parts.stored
  have next' : l₁.transactions.nextId = l.transactions.nextId := by rw [ext.transactions]
  have rows := entered.rows
  refine ⟨t, ?_, ⟨entered.referenceType, entered.referenceId, entered.eventType⟩, entered.named, ?_,
    rooted_entered entered rooted₁ parts.stored, ?_, ?_, ?_⟩
  · rw [rows, ← ext.transactions]
  · intro key earlier stored
    rw [← ext.transactions] at stored
    exact entered.unused key earlier stored
  · unfold grossOf
    rw [moved, if_pos next'.symm]
    exact parts.gross
  · unfold partsOf
    simp only [moved, if_pos next'.symm]
    exact Shares.ext parts.platform parts.operator parts.siteHost
  · intro key other
    rw [← next'] at other
    refine ⟨?_, fun rule' => ?_⟩
    · unfold grossOf
      rw [moved, if_neg other, postedTo_extends ext rooted.posted]
    · unfold partsOf
      simp only [moved, if_neg other, postedTo_extends ext rooted.posted]

/-! ### Runs -/

section Run
variable (invoices : Nat → LoadedInvoice) (rules : Nat → RevenueShareRule)

def next (call : Nat × Nat) (l : Ledger) : Ledger :=
  after (allocate call.1 (invoices call.1) call.2 (rules call.2)) l

/-- The invoice has been divided under the rule, exactly and fairly. -/
def Settled (call : Nat × Nat) (l : Ledger) : Prop :=
  ∃ key t, l.transactions.get? key = some t ∧ t.idempotencyKey = idempotencyKey call.1 call.2 ∧
    grossOf l key = (invoices call.1).totalMinor ∧
    FairShares (invoices call.1) (rules call.2) (partsOf (rules call.2) l key)

/-- The call succeeds and divides the invoice. -/
def Settles (call : Nat × Nat) (l : Ledger) : Prop :=
  ∃ l', Returns (allocate call.1 (invoices call.1) call.2 (rules call.2)) l () l' ∧
    Settled invoices rules call l'

/-- No invoice's gross revenue is distributed twice. -/
def AtMostOnce (l : Ledger) : Prop := ∀ i, distributed i l ≤ (invoices i).totalMinor

/-- The division fits, its remainder has an owner, and no other rule has divided the invoice. -/
def Divisible (call : Nat × Nat) (l : Ledger) : Prop :=
  Fits (invoices call.1) (rules call.2) ∧ RemainderOwned (invoices call.1) (rules call.2) ∧
    ∀ key t, l.transactions.get? key = some t → Distributes call.1 t →
      t.idempotencyKey = idempotencyKey call.1 call.2

/-- Every transaction distributes an invoice under a rule, at most once under each. -/
structure Kept (l : Ledger) : Prop where
  rooted : Rooted l
  allocated : ∀ key t, l.transactions.get? key = some t → ∃ i r, Distributes i t ∧
    t.idempotencyKey = idempotencyKey i r ∧ Fits (invoices i) (rules r) ∧
    grossOf l key = (invoices i).totalMinor ∧ partsOf (rules r) l key = division (invoices i) (rules r)
  unique : ∀ key key' t t', l.transactions.get? key = some t → l.transactions.get? key' = some t' →
    t.idempotencyKey = t'.idempotencyKey → key = key'

variable {invoices rules}
variable {l l' : Ledger}

theorem Kept.extends' (kept : Kept invoices rules l) (ext : l.Extends l') :
    Kept invoices rules l' := by
  refine ⟨kept.rooted.extends' ext, ?_, ?_⟩
  · intro key t stored
    rw [ext.transactions] at stored
    obtain ⟨i, r, distributes, named, fits, gross, parts⟩ := kept.allocated key t stored
    refine ⟨i, r, distributes, named, fits, ?_, ?_⟩
    · rw [← gross]
      exact postedTo_extends ext kept.rooted.posted _ _ _
    · rw [← parts]
      exact partsOf_extends ext kept.rooted.posted _ _
  · rw [ext.transactions]
    exact kept.unique

theorem Kept.entered {i r : Nat} {t : LedgerTransaction} (kept : Kept invoices rules l)
    (fits : Fits (invoices i) (rules r)) (new : NewTransaction i (invoices i) r (rules r) l l' t) :
    Kept invoices rules l' := by
  refine ⟨new.rooted, ?_, ?_⟩
  · intro key t' stored
    rw [new.transactions, Table.get?_create] at stored
    split at stored
    · rename_i same
      cases stored
      subst same
      exact ⟨i, r, new.distributes, new.named, fits, new.gross, new.parts⟩
    · rename_i other
      obtain ⟨j, s, distributes, named, fits', gross, parts⟩ := kept.allocated key t' stored
      obtain ⟨sameGross, sameParts⟩ := new.others key other
      exact ⟨j, s, distributes, named, fits', sameGross.trans gross, (sameParts _).trans parts⟩
  · intro key key' t₁ t₂ stored stored' same
    rw [new.transactions, Table.get?_create] at stored stored'
    split at stored <;> split at stored'
    · rename_i here there
      rw [here, there]
    · cases stored
      rw [new.named] at same
      exact absurd same.symm (new.unused key' t₂ stored')
    · cases stored'
      rw [new.named] at same
      exact absurd same (new.unused key t₁ stored)
    · exact kept.unique key key' t₁ t₂ stored stored' same

theorem distributed_entered {i r : Nat} {t : LedgerTransaction}
    (new : NewTransaction i (invoices i) r (rules r) l l' t) (j : Nat) :
    distributed j l' = distributed j l + if j = i then (invoices i).totalMinor else 0 := by
  unfold distributed
  rw [new.transactions, Table.sumOver_create, new.gross]
  have others : (l.transactions.sumOver fun key t => if Distributes j t then grossOf l' key else 0) =
      l.transactions.sumOver fun key t => if Distributes j t then grossOf l key else 0 := by
    refine Table.sumOver_congr _ fun key t' stored => ?_
    rw [(new.others key (Nat.ne_of_lt (Table.lt_nextId stored))).1]
  have own : Distributes j t ↔ j = i := by
    constructor
    · intro distributes
      exact keyText_injective (distributes.2.1.symm.trans new.distributes.2.1)
    · rintro rfl
      exact new.distributes
  rw [others]
  simp only [own]

theorem distributed_extends (ext : l.Extends l') (rooted : Rooted l) (j : Nat) :
    distributed j l' = distributed j l := by
  unfold distributed grossOf
  rw [ext.transactions]
  simp only [postedTo_extends ext rooted.posted]

theorem payable_of_owned {invoice : LoadedInvoice} {rule : RevenueShareRule} (invoiced : invoice.Accepted)
    (ruled : rule.Accepted) (fits : Fits invoice rule) (owned : RemainderOwned invoice rule) :
    Payable invoice rule := by
  refine ⟨fits, fun none' => ?_⟩
  have fair := (division_fair_iff invoiced ruled).mpr owned
  refine fair.noSiteHost (by_contra fun some' => ruled.hosted some' ?_)
  simpa [siteHostAccount] using none'

section Accepted
variable (invoiced : ∀ i, (invoices i).Accepted) (ruled : ∀ r, (rules r).Accepted)
include invoiced ruled

theorem kept_next (call : Nat × Nat) (l : Ledger) (kept : Kept invoices rules l) :
    Kept invoices rules (next invoices rules call l) := by
  by_cases payable : Payable (invoices call.1) (rules call.2)
  · obtain ⟨l', success, done | posts⟩ :=
      allocate_pays call.1 call.2 (invoiced call.1) (ruled call.2) payable l
    · unfold next after
      rw [success]
      exact kept.extends' done.1
    · obtain ⟨t, new⟩ := posts.newTransaction kept.rooted
      unfold next after
      rw [success]
      exact kept.entered payable.1 new
  · exact kept.extends' (allocate_refused call.1 call.2 (invoiced call.1) (ruled call.2) payable l)

theorem next_keeps (call : Nat × Nat) {l : Ledger} (kept : Kept invoices rules l) {key : Nat}
    {t : LedgerTransaction} (stored : l.transactions.get? key = some t) :
    (next invoices rules call l).transactions.get? key = some t := by
  by_cases payable : Payable (invoices call.1) (rules call.2)
  · obtain ⟨l', success, done | posts⟩ :=
      allocate_pays call.1 call.2 (invoiced call.1) (ruled call.2) payable l
    · unfold next after
      rw [success, done.1.transactions]
      exact stored
    · obtain ⟨t', new⟩ := posts.newTransaction kept.rooted
      unfold next after
      rw [success, new.transactions]
      exact Table.get?_create_of_some _ _ stored
  · have ext := allocate_refused call.1 call.2 (invoiced call.1) (ruled call.2) payable l
    unfold next
    rw [ext.transactions]
    exact stored

omit ruled in
theorem distributed_twice {l : Ledger} (kept : Kept invoices rules l) {i key key' : Nat}
    {t t' : LedgerTransaction} (stored : l.transactions.get? key = some t)
    (stored' : l.transactions.get? key' = some t') (distributes : Distributes i t)
    (distributes' : Distributes i t') (differ : t.idempotencyKey ≠ t'.idempotencyKey) :
    (invoices i).totalMinor < distributed i l := by
  have gross : ∀ k t₀, l.transactions.get? k = some t₀ → Distributes i t₀ →
      grossOf l k = (invoices i).totalMinor := by
    intro k t₀ found distributes₀
    obtain ⟨j, s, own, -, -, total, -⟩ := kept.allocated k t₀ found
    rw [total, keyText_injective (own.2.1.symm.trans distributes₀.2.1)]
  have apart : key ≠ key' := by
    rintro rfl
    rw [stored] at stored'
    cases stored'
    exact differ rfl
  have pair := Table.sumOver_pair (f := fun k t => if Distributes i t then grossOf l k else 0)
    l.transactions apart stored stored' fun k t₀ found => by
      split
      · rename_i distributes₀
        rw [gross k t₀ found distributes₀]
        exact le_of_lt (invoiced i).positive
      · exact le_refl 0
  simp only [if_pos distributes, if_pos distributes', gross key t stored distributes,
    gross key' t' stored' distributes'] at pair
  have positive := (invoiced i).positive
  unfold distributed
  omega

theorem settles_iff (call : Nat × Nat) (l : Ledger) (kept : Kept invoices rules l)
    (once : AtMostOnce invoices l) :
    (Settles invoices rules call l ∧ AtMostOnce invoices (next invoices rules call l)) ↔
      Divisible invoices rules call l := by
  obtain ⟨i, r⟩ := call
  constructor
  · rintro ⟨⟨l', success, key, t, stored, named, gross, fair⟩, once'⟩
    have kept' := kept_next invoiced ruled (i, r) l kept
    have ends : next invoices rules (i, r) l = l' := by
      unfold next after
      rw [success]
    rw [ends] at kept' once'
    obtain ⟨j, s, distributes, own, fits, -, parts⟩ := kept'.allocated key t stored
    obtain ⟨rfl, rfl⟩ := idempotencyKey_injective (named.symm.trans own)
    rw [parts] at fair
    refine ⟨fits, (division_fair_iff (invoiced i) (ruled r)).mp fair, ?_⟩
    intro other t₀ stored₀ distributes₀
    by_contra differ
    have stored' := next_keeps invoiced ruled (i, r) kept stored₀
    rw [ends] at stored'
    have twice := distributed_twice invoiced kept' stored' stored distributes₀ distributes
      (fun same => differ (same.trans named))
    exact absurd (once' i) (not_le.mpr twice)
  · rintro ⟨fits, owned, single⟩
    have payable := payable_of_owned (invoiced i) (ruled r) fits owned
    obtain ⟨l', success, outcome⟩ := allocate_pays i r (invoiced i) (ruled r) payable l
    have ends : next invoices rules (i, r) l = l' := by
      unfold next after
      rw [success]
    have kept' := kept_next invoiced ruled (i, r) l kept
    rw [ends] at kept' ⊢
    -- the transaction under the call's key is its division
    have settled : ∀ key t, l'.transactions.get? key = some t → t.idempotencyKey = idempotencyKey i r →
        Settled invoices rules (i, r) l' := by
      intro key t stored named
      obtain ⟨j, s, -, own, -, gross, parts⟩ := kept'.allocated key t stored
      obtain ⟨rfl, rfl⟩ := idempotencyKey_injective (named.symm.trans own)
      refine ⟨key, t, stored, named, gross, ?_⟩
      rw [parts]
      exact (division_fair_iff (invoiced i) (ruled r)).mpr owned
    rcases outcome with ⟨ext, key, t, stored, named⟩ | posts
    · refine ⟨⟨l', success, settled key t ?_ named⟩, fun j => ?_⟩
      · rw [ext.transactions]
        exact stored
      · rw [distributed_extends ext kept.rooted]
        exact once j
    · obtain ⟨t, new⟩ := posts.newTransaction kept.rooted
      refine ⟨⟨l', success, settled l.transactions.nextId t ?_ new.named⟩, fun j => ?_⟩
      · rw [new.transactions]
        exact Table.get?_create_self _ _
      · rw [distributed_entered new]
        split
        · rename_i same
          subst same
          -- an unused key and no other rule leave nothing distributed so far
          have none' : distributed j l = 0 := by
            refine (Table.sumOver_congr _ fun key t₀ stored => if_neg ?_).trans (Table.sumOver_zero _)
            exact fun distributes => new.unused key t₀ stored (single key t₀ stored distributes)
          omega
        · have before := once j
          omega

/-- In a run every call settles its invoice and none is ever distributed twice exactly when
every call finds its invoice divisible. -/
theorem revenue_share_iff (calls : List (Nat × Nat)) :
    (Runs.Met (next invoices rules) (Settles invoices rules) calls Ledger.opening ∧
      Runs.Throughout (next invoices rules) (AtMostOnce invoices) calls Ledger.opening) ↔
      Runs.Met (next invoices rules) (Divisible invoices rules) calls Ledger.opening := by
  have start : Kept invoices rules Ledger.opening :=
    ⟨⟨fun _ _ stored => (by cases stored), fun _ _ stored => (by cases stored)⟩,
      fun _ _ stored => (by cases stored), fun _ _ _ _ stored => (by cases stored)⟩
  refine Runs.met_throughout_iff_met (kept_next invoiced ruled) (settles_iff invoiced ruled) calls
    Ledger.opening start fun i => ?_
  exact le_of_lt (invoiced i).positive

end Accepted
end Run

def feeInvoice : LoadedInvoice where
  billingProfileId := "bp1"
  status := "issued"
  currency := "PHP"
  totalMinor := 10000
  lines := [some ⟨1, "PHP", 10000, some 1000⟩]

def threeWay : RevenueShareRule := ⟨"t1", "org1", some "org2", 1000, 7000, 2000⟩

theorem fee_invoice_shared :
    Runs.Met (next (fun _ => feeInvoice) fun _ => threeWay) (Settles (fun _ => feeInvoice) fun _ => threeWay)
        [(1, 1), (1, 1)] Ledger.opening ∧
      Runs.Throughout (next (fun _ => feeInvoice) fun _ => threeWay) (AtMostOnce fun _ => feeInvoice)
        [(1, 1), (1, 1)] Ledger.opening := by
  refine (revenue_share_iff (fun _ => ⟨by decide, by decide, by decide⟩)
    (fun _ => ⟨by decide, by decide, by decide, by decide, by decide⟩) _).mpr ?_
  have same : ∀ l : Ledger, (l.transactions.entries.all fun e => e.2.idempotencyKey = idempotencyKey 1 1) = true →
      Divisible (fun _ => feeInvoice) (fun _ => threeWay) (1, 1) l := by
    intro l all
    refine ⟨by decide, by decide, fun key t stored _ => ?_⟩
    have named := List.all_eq_true.mp all (key, t) ((Table.mem_entries _ _ _).mpr stored)
    simpa using named
  exact ⟨same _ (by decide +kernel), same _ (by decide +kernel), trivial⟩

/-- 1.01 in two halves leaves a site host without a share and without an organization one cent. -/
def oddInvoice : LoadedInvoice := { feeInvoice with totalMinor := 101, lines := [some ⟨1, "PHP", 101, none⟩] }

def halves : RevenueShareRule := ⟨"t1", "org1", none, 5000, 5000, 0⟩

theorem revenue_share_fails : ¬ ∀ (invoices : Nat → LoadedInvoice) (rules : Nat → RevenueShareRule),
    (∀ i, (invoices i).Accepted) → (∀ r, (rules r).Accepted) → ∀ calls : List (Nat × Nat),
      Runs.Met (next invoices rules) (Settles invoices rules) calls Ledger.opening ∧
        Runs.Throughout (next invoices rules) (AtMostOnce invoices) calls Ledger.opening := by
  intro always
  obtain ⟨⟨⟨l', success, -⟩, -⟩, -⟩ := always (fun _ => oddInvoice) (fun _ => halves)
    (fun _ => ⟨by decide, by decide, by decide⟩) (fun _ => ⟨by decide, by decide, by decide, by decide, by decide⟩)
    [(1, 1)]
  have throws : (allocate 1 oddInvoice 1 halves Ledger.opening).1.toBool = false := by decide +kernel
  unfold Returns at success
  rw [success] at throws
  contradiction

end RevenueShareService
end VtsaCsms.Billing
