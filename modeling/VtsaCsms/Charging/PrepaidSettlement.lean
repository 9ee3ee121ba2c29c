import VtsaCsms.Charging.Completion

/-!
# Prepaid sessions and their holds

Each prepaid session has one hold of its budget, open until the session is settled and
settled with what its record charges, or with nothing where it never started.
-/
namespace VtsaCsms.Charging
open Foundation Foundation.Action Billing

/-- The customer's session has not ended or is not settled. -/
def Active (c : Core) (owner : CustomerChargingSession) : Prop :=
  owner.settledAt = none ∨
    ∃ q, c.sessions.get? owner.sessionId = some q ∧ q.state.isTerminal = false

/-- What a hold was settled for. -/
inductive SettledFor (c : Core) (owner : CustomerChargingSession) (spent : Int) : Prop
  | captured {q key cdr} (session : c.sessions.get? owner.sessionId = some q)
      (state : q.state = .completed) (outcome : q.finalizationOutcome = some "complete")
      (record : LatestFinalized c.cdrs owner.sessionId key cdr) (charged : cdr.totalMinor = some spent)
      (budget : spent ≤ owner.budgetMinor)
  | released {q} (nothing : spent = 0) (session : c.sessions.get? owner.sessionId = some q)
      (terminal : q.state.isTerminal = true) (unstarted : q.startedAt = none)

/-- The hold of a customer: open for the budget, or settled with its cause. -/
structure HoldOf (c : Core) (owner : CustomerChargingSession) (r : PrepaidReservation) : Prop where
  reference : r.referenceId = keyText owner.sessionId
  amount : r.amountMinor = owner.budgetMinor
  state : (owner.settledAt = none ∧ r.status = .reserved) ∨ (owner.settledAt ≠ none ∧
    r.status = .settled ∧ ∃ spent, r.spentMinor = some spent ∧ 0 ≤ spent ∧ SettledFor c owner spent)

structure Paid (c : Core) : Prop where
  known : ∀ k o, c.customers.get? k = some o → ∃ q, c.sessions.get? o.sessionId = some q
  single : ∀ k k' o o', c.customers.get? k = some o → c.customers.get? k' = some o' →
    o.subjectId = o'.subjectId → Active c o → Active c o' → k = k'
  held : ∀ k o, c.customers.get? k = some o →
    ∃ h r, c.wallet.reservations.get? h = some r ∧ HoldOf c o r
  owned : ∀ h r, c.wallet.reservations.get? h = some r →
    ∃ k o, c.customers.get? k = some o ∧ r.referenceId = keyText o.sessionId
  one : ∀ h h' r r', c.wallet.reservations.get? h = some r → c.wallet.reservations.get? h' = some r' →
    r.referenceId = r'.referenceId → h = h'

theorem paid_empty : Paid Store.empty.core where
  known := fun _ _ stored => by cases stored
  single := fun _ _ _ _ stored => by cases stored
  held := fun _ _ stored => by cases stored
  owned := fun _ _ stored => by cases stored
  one := fun _ _ _ _ stored => by cases stored

/-! ### What a move leaves of a payment -/

section Kept
variable {p : Permits} {c c' : Core} (move : Move p c c')
include move

theorem terminal_kept {key : Nat} {q : ChargingSession} (stored : c.sessions.get? key = some q)
    (terminal : q.state.isTerminal = true) :
    ∃ q', c'.sessions.get? key = some q' ∧ q'.standing = q.standing := by
  obtain ⟨q', stored', step⟩ := move.row_step.1 key q stored
  exact ⟨q', stored', step.terminal terminal⟩

theorem SettledFor.kept {owner : CustomerChargingSession} {spent : Int}
    (settled : SettledFor c owner spent) : SettledFor c' owner spent := by
  cases settled with
  | captured session state outcome record charged budget =>
    obtain ⟨q', stored', standing⟩ := terminal_kept move session (by rw [state]; rfl)
    refine .captured stored' ?_ ?_ (move.latest_final session state record) charged budget
    · exact (congrArg SessionStanding.state standing).trans state
    · exact (congrArg SessionStanding.finalizationOutcome standing).trans outcome
  | released nothing session terminal unstarted =>
    obtain ⟨q', stored', standing⟩ := terminal_kept move session terminal
    have state : q'.state = _ := congrArg SessionStanding.state standing
    refine .released nothing stored' (by rw [state]; exact terminal) ?_
    exact (congrArg (fun st => st.evidence.startedAt) standing).trans unstarted

theorem active_before {owner : CustomerChargingSession}
    (known : ∃ q, c.sessions.get? owner.sessionId = some q) (active : Active c' owner) :
    Active c owner := by
  rcases active with unsettled | ⟨q', stored', unended⟩
  · exact Or.inl unsettled
  · obtain ⟨q, stored⟩ := known
    refine Or.inr ⟨q, stored, ?_⟩
    by_contra ended
    obtain ⟨q₁, stored₁, standing⟩ := terminal_kept move stored (by simpa using ended)
    rw [stored'] at stored₁
    cases stored₁
    have state : q'.state = q.state := congrArg SessionStanding.state standing
    rw [state] at unended
    exact ended unended

end Kept

/-- What a move leaves of a customer that pays nothing. -/
structure SameCustomer (o o' : CustomerChargingSession) : Prop where
  subject : o'.subjectId = o.subjectId
  session : o'.sessionId = o.sessionId
  budget : o'.budgetMinor = o.budgetMinor
  settledAt : o'.settledAt = o.settledAt

theorem SameCustomer.refl (o : CustomerChargingSession) : SameCustomer o o := ⟨rfl, rfl, rfl, rfl⟩

variable {o o' owner : CustomerChargingSession} {spent : Int} {wallet : Wallet}

theorem SettledFor.of_same {c : Core}
    (session : o'.sessionId = o.sessionId) (budget : o'.budgetMinor = o.budgetMinor)
    (settled : SettledFor c o spent) : SettledFor c o' spent := by
  cases settled with
  | captured stored state outcome record charged within =>
    rw [← session] at stored record
    exact .captured stored state outcome record charged (by rw [budget]; exact within)
  | released nothing stored terminal unstarted =>
    rw [← session] at stored
    exact .released nothing stored terminal unstarted

theorem SettledFor.frame {c c' : Core}
    (sessions : c'.sessions = c.sessions) (cdrs : c'.cdrs = c.cdrs) (settled : SettledFor c owner spent) :
    SettledFor c' owner spent := by
  cases settled with
  | captured session state outcome record charged budget =>
    rw [← sessions] at session
    rw [← cdrs] at record
    exact .captured session state outcome record charged budget
  | released nothing session terminal unstarted =>
    rw [← sessions] at session
    exact .released nothing session terminal unstarted

theorem HoldOf.of_same {c c' : Core} {r : PrepaidReservation}
    (same : SameCustomer o o') (kept : ∀ spent, SettledFor c o spent → SettledFor c' o spent)
    (hold : HoldOf c o r) : HoldOf c' o' r := by
  refine ⟨?_, ?_, ?_⟩
  · rw [same.session]
    exact hold.reference
  · rw [same.budget]
    exact hold.amount
  · rw [same.settledAt]
    refine hold.state.imp_right ?_
    rintro ⟨settled, status, spent, recorded, positive, cause⟩
    exact ⟨settled, status, spent, recorded, positive, (kept spent cause).of_same same.session same.budget⟩

/-- A move that pays nothing: the customers are the same but for how the payment stands, and
the holds are the same. -/
theorem paid_unpaid {p : Permits} {c c' : Core} (move : Move p c c') (paid : Paid c)
    (before : ∀ k o', c'.customers.get? k = some o' → ∃ o, c.customers.get? k = some o ∧ SameCustomer o o')
    (after : ∀ k o, c.customers.get? k = some o → ∃ o', c'.customers.get? k = some o' ∧ SameCustomer o o')
    (holds : c'.wallet.reservations = c.wallet.reservations) : Paid c' := by
  have active : ∀ k o o', c.customers.get? k = some o → SameCustomer o o' → Active c' o' → Active c o := by
    intro k o o' stored same active
    refine active_before move (paid.known k o stored) ?_
    unfold Active at active ⊢
    rw [← same.settledAt, ← same.session]
    exact active
  refine ⟨?_, ?_, ?_, ?_, ?_⟩
  · intro k o' stored'
    obtain ⟨o, stored, same⟩ := before k o' stored'
    obtain ⟨q, session⟩ := paid.known k o stored
    obtain ⟨q', session', -⟩ := move.row_step.1 _ q session
    exact ⟨q', by rw [same.session]; exact session'⟩
  · intro k₁ k₂ o₁ o₂ stored₁ stored₂ subject active₁ active₂
    obtain ⟨b₁, before₁, same₁⟩ := before k₁ o₁ stored₁
    obtain ⟨b₂, before₂, same₂⟩ := before k₂ o₂ stored₂
    refine paid.single k₁ k₂ b₁ b₂ before₁ before₂ ?_ (active k₁ b₁ o₁ before₁ same₁ active₁)
      (active k₂ b₂ o₂ before₂ same₂ active₂)
    rw [← same₁.subject, ← same₂.subject]
    exact subject
  · intro k o' stored'
    obtain ⟨o, stored, same⟩ := before k o' stored'
    obtain ⟨h, r, kept, hold⟩ := paid.held k o stored
    exact ⟨h, r, by rw [holds]; exact kept, hold.of_same same fun _ settled => settled.kept move⟩
  · intro h r stored
    rw [holds] at stored
    obtain ⟨k, o, kept, reference⟩ := paid.owned h r stored
    obtain ⟨o', kept', same⟩ := after k o kept
    exact ⟨k, o', kept', by rw [same.session]; exact reference⟩
  · rw [holds]
    exact paid.one

/-! ### Reserving and settling -/

theorem customer_unique {t : Indexed Nat CustomerChargingSession CustomerChargingSession.clash}
    {k k' : Nat} (stored : t.get? k = some o)
    (stored' : t.get? k' = some o') (session : o.sessionId = o'.sessionId) : k = k' := by
  refine t.unique k k' o o' stored stored' ?_
  simp [CustomerChargingSession.clash, session]

theorem reserve_holds {c : Core} {vehicleId : Option String} (paid : Paid c)
    (single : ∀ k other, c.customers.get? k = some other → other.sessionId ≠ owner.sessionId)
    (held : Returns (PrepaidWallet.reserve owner.subjectId "live" (keyText owner.sessionId)
      owner.budgetMinor owner.payerAccountId vehicleId) c.wallet () wallet) :
    ∃ accountId, wallet.reservations = c.wallet.reservations.create
      ⟨accountId, keyText owner.sessionId, owner.budgetMinor, none, .reserved⟩ := by
  obtain ⟨-, key, row, opened, isOpen, replayed | fresh⟩ := PrepaidWallet.reserve_returns held
  · obtain ⟨-, h, r, stored, reference, -⟩ := replayed
    rw [opened_reservations isOpen] at stored
    obtain ⟨k, o, customer, own⟩ := paid.owned h r stored
    exact absurd (keyText_injective (own.symm.trans reference)) (single k o customer)
  · have same := opened_reservations isOpen
    refine ⟨key, ?_⟩
    rw [fresh.rows, ← same]

theorem settle_holds {c : Core} {key : Nat} (paid : Paid c) (stored : c.customers.get? key = some owner)
    (unsettled : owner.settledAt = none)
    (settles : Returns (PrepaidWallet.settle owner.subjectId "live" (keyText owner.sessionId) spent
      owner.payerAccountId) c.wallet () wallet) :
    ∃ h r, c.wallet.reservations.get? h = some r ∧ HoldOf c owner r ∧ 0 ≤ spent ∧
      wallet.reservations = c.wallet.reservations.update h fun r =>
        { r with status := .settled, spentMinor := some spent } := by
  obtain ⟨account, row, opened, h, r, isOpen, found, -, reference, positive, -, outcome⟩ :=
    PrepaidWallet.settle_returns settles
  have same := opened_reservations isOpen
  rw [same] at found
  obtain ⟨h', r', kept, hold⟩ := paid.held key owner stored
  have own : h = h' := paid.one h h' r r' found kept (reference.trans hold.reference.symm)
  subst own
  rw [kept] at found
  cases found
  have reserved : r.status = .reserved := by
    rcases hold.state with ⟨-, reserved⟩ | ⟨settled, -⟩
    · exact reserved
    · exact absurd unsettled settled
  refine ⟨h, r, kept, hold, positive, ?_⟩
  rcases outcome with ⟨-, settled, -⟩ | settled
  · rw [reserved] at settled
    contradiction
  · rw [settled.rows, ← same]

theorem paid_reserved {c : Core} {customers : Indexed Nat CustomerChargingSession CustomerChargingSession.clash}
    {key accountId : Nat} (paid : Paid c)
    (fresh : c.customers.get? key = none) (placed : Indexed.Placed c.customers customers key owner)
    (unsettled : owner.settledAt = none)
    (single : ∀ k other, c.customers.get? k = some other → other.sessionId ≠ owner.sessionId)
    (idle : ∀ k other q, c.customers.get? k = some other → other.subjectId = owner.subjectId →
      c.sessions.get? other.sessionId = some q → other.settledAt ≠ none ∧ q.state.isTerminal = true)
    (known : ∃ q, c.sessions.get? owner.sessionId = some q)
    (reserves : wallet.reservations = c.wallet.reservations.create
      ⟨accountId, keyText owner.sessionId, owner.budgetMinor, none, .reserved⟩) :
    Paid { c with customers := customers, wallet := wallet } := by
  have frame : ∀ o spent, SettledFor c o spent →
      SettledFor { c with customers := customers, wallet := wallet } o spent := by
    intro o spent settled
    refine SettledFor.frame ?_ ?_ settled
    · rfl
    · rfl
  have inactive : ∀ k other, c.customers.get? k = some other → other.subjectId = owner.subjectId →
      ¬ Active c other := by
    intro k other stored subject active
    obtain ⟨q, session⟩ := paid.known k other stored
    obtain ⟨settled, terminal⟩ := idle k other q stored subject session
    rcases active with unsettled | ⟨q', session', unended⟩
    · exact settled unsettled
    · rw [session] at session'
      cases session'
      rw [terminal] at unended
      contradiction
  refine ⟨?_, ?_, ?_, ?_, ?_⟩
  · intro k o stored
    rcases placed.cases stored with ⟨-, rfl⟩ | ⟨-, stored⟩
    · exact known
    · exact paid.known k o stored
  · intro k₁ k₂ o₁ o₂ stored₁ stored₂ subject active₁ active₂
    rcases placed.cases stored₁ with ⟨rfl, rfl⟩ | ⟨-, before₁⟩
    · rcases placed.cases stored₂ with ⟨rfl, -⟩ | ⟨-, before₂⟩
      · rfl
      · exact absurd active₂ (inactive k₂ o₂ before₂ subject.symm)
    · rcases placed.cases stored₂ with ⟨-, rfl⟩ | ⟨-, before₂⟩
      · exact absurd active₁ (inactive k₁ o₁ before₁ subject)
      · exact paid.single k₁ k₂ o₁ o₂ before₁ before₂ subject active₁ active₂
  · intro k o stored
    rcases placed.cases stored with ⟨-, rfl⟩ | ⟨-, stored⟩
    · refine ⟨c.wallet.reservations.nextId, ⟨accountId, keyText o.sessionId, o.budgetMinor, none, .reserved⟩,
        ?_, rfl, rfl, Or.inl ⟨unsettled, rfl⟩⟩
      show wallet.reservations.get? _ = _
      rw [reserves]
      exact Table.get?_create_self _ _
    · obtain ⟨h, r, kept, hold⟩ := paid.held k o stored
      refine ⟨h, r, ?_, hold.of_same (.refl o) (frame o)⟩
      show wallet.reservations.get? _ = _
      rw [reserves]
      exact Table.get?_create_of_some _ _ kept
  · intro h r stored
    change wallet.reservations.get? h = some r at stored
    rw [reserves] at stored
    rcases Table.get?_create_cases stored with ⟨-, rfl⟩ | stored
    · exact ⟨key, owner, placed.get, rfl⟩
    · obtain ⟨k, o, customer, reference⟩ := paid.owned h r stored
      refine ⟨k, o, ?_, reference⟩
      show customers.get? k = some o
      rw [placed.other, customer]
      rintro rfl
      rw [fresh] at customer
      contradiction
  · -- the new reference is no other hold's
    have other : ∀ h r, c.wallet.reservations.get? h = some r →
        r.referenceId ≠ keyText owner.sessionId := by
      intro h r stored same
      obtain ⟨k, o, customer, reference⟩ := paid.owned h r stored
      exact single k o customer (keyText_injective (reference.symm.trans same))
    intro h₁ h₂ r₁ r₂ stored₁ stored₂ reference
    change wallet.reservations.get? h₁ = some r₁ at stored₁
    change wallet.reservations.get? h₂ = some r₂ at stored₂
    rw [reserves] at stored₁ stored₂
    rcases Table.get?_create_cases stored₁ with ⟨rfl, rfl⟩ | before₁
    · rcases Table.get?_create_cases stored₂ with ⟨rfl, -⟩ | before₂
      · rfl
      · exact absurd reference.symm (other h₂ r₂ before₂)
    · rcases Table.get?_create_cases stored₂ with ⟨-, rfl⟩ | before₂
      · exact absurd reference (other h₁ r₁ before₁)
      · exact paid.one h₁ h₂ r₁ r₂ before₁ before₂ reference

theorem paid_settled {c : Core} {customers : Indexed Nat CustomerChargingSession CustomerChargingSession.clash}
    {key h : Nat} {owner' : CustomerChargingSession} {hold : PrepaidReservation}
    (paid : Paid c) (row : CustomerRewritten c customers key owner owner')
    (unsettled : owner.settledAt = none) (closed : owner'.settledAt ≠ none)
    (kept : c.wallet.reservations.get? h = some hold) (own : HoldOf c owner hold) (positive : 0 ≤ spent)
    (cause : SettledFor c owner spent)
    (settles : wallet.reservations = c.wallet.reservations.update h fun r =>
      { r with status := .settled, spentMinor := some spent }) :
    Paid { c with customers := customers, wallet := wallet } := by
  have frame : ∀ o spent, SettledFor c o spent →
      SettledFor { c with customers := customers, wallet := wallet } o spent := by
    intro o spent settled
    refine SettledFor.frame ?_ ?_ settled
    · rfl
    · rfl
  -- each customer afterwards is one from before, with the same subject, session and budget
  have before : ∀ k o, customers.get? k = some o → ∃ b, c.customers.get? k = some b ∧
      o.subjectId = b.subjectId ∧ o.sessionId = b.sessionId ∧ (Active c o → Active c b) := by
    intro k o stored
    rcases row.placed.cases stored with ⟨rfl, rfl⟩ | ⟨-, stored⟩
    · exact ⟨owner, row.stored, row.subject, row.session, fun _ => Or.inl unsettled⟩
    · exact ⟨o, stored, rfl, rfl, id⟩
  have reference : ∀ k r, wallet.reservations.get? k = some r →
      ∃ b, c.wallet.reservations.get? k = some b ∧ r.referenceId = b.referenceId := by
    intro k r stored
    rw [settles] at stored
    rcases Table.get?_update_cases stored with ⟨rfl, b, old, rfl⟩ | ⟨-, old⟩
    · exact ⟨b, old, rfl⟩
    · exact ⟨r, old, rfl⟩
  refine ⟨?_, ?_, ?_, ?_, ?_⟩
  · intro k o stored
    obtain ⟨b, old, -, session, -⟩ := before k o stored
    obtain ⟨q, known⟩ := paid.known k b old
    exact ⟨q, by rw [session]; exact known⟩
  · intro k₁ k₂ o₁ o₂ stored₁ stored₂ subject active₁ active₂
    obtain ⟨b₁, old₁, subject₁, -, back₁⟩ := before k₁ o₁ stored₁
    obtain ⟨b₂, old₂, subject₂, -, back₂⟩ := before k₂ o₂ stored₂
    exact paid.single k₁ k₂ b₁ b₂ old₁ old₂ (subject₁.symm.trans (subject.trans subject₂))
      (back₁ active₁) (back₂ active₂)
  · intro k o stored
    change customers.get? k = some o at stored
    rcases row.placed.cases stored with ⟨rfl, rfl⟩ | ⟨different, stored⟩
    · refine ⟨h, { hold with status := .settled, spentMinor := some spent }, ?_, ?_, ?_, Or.inr ?_⟩
      · show wallet.reservations.get? h = _
        rw [settles, Table.get?_update_self, kept]
        rfl
      · rw [row.session]
        exact own.reference
      · rw [row.budget]
        exact own.amount
      · exact ⟨closed, rfl, spent, rfl, positive, (frame owner spent cause).of_same row.session row.budget⟩
    · obtain ⟨h', r, found, other⟩ := paid.held k o stored
      refine ⟨h', r, ?_, other.of_same (.refl o) (frame o)⟩
      show wallet.reservations.get? h' = _
      rw [settles, Table.get?_update_of_ne, found]
      rintro rfl
      rw [kept] at found
      cases found
      have session := keyText_injective (own.reference.symm.trans other.reference)
      exact different (customer_unique stored row.stored session.symm)
  · intro k r stored
    obtain ⟨b, old, same⟩ := reference k r stored
    obtain ⟨key', o, customer, owns⟩ := paid.owned k b old
    by_cases own : key' = key
    · subst own
      rw [row.stored] at customer
      cases customer
      exact ⟨key', owner', row.placed.get, by rw [same, row.session]; exact owns⟩
    · exact ⟨key', o, by rw [← customer]; exact row.placed.other own, by rw [same]; exact owns⟩
  · intro h₁ h₂ r₁ r₂ stored₁ stored₂ equal
    obtain ⟨b₁, old₁, same₁⟩ := reference h₁ r₁ stored₁
    obtain ⟨b₂, old₂, same₂⟩ := reference h₂ r₂ stored₂
    exact paid.one h₁ h₂ b₁ b₂ old₁ old₂ (same₁.symm.trans (equal.trans same₂))

theorem SettlementCause.settledFor {c : Core} {q : ChargingSession}
    (session : c.sessions.get? owner.sessionId = some q)
    (cause : SettlementCause c owner q spent) : SettledFor c owner spent := by
  cases cause with
  | captured state outcome record budget =>
    obtain ⟨key, cdr, latest, charged⟩ := record
    exact .captured session state outcome latest charged budget
  | released nothing ended unstarted =>
    refine .released nothing session ?_ unstarted
    revert ended
    cases q.state <;> simp [ChargingSessionState.isTerminal]

theorem paid_move {p : Permits} {c c' : Core} (move : Move p c c') (holds : Sound c ∧ Paid c) :
    Sound c' ∧ Paid c' := by
  obtain ⟨sound, paid⟩ := holds
  refine ⟨sound_move move sound, ?_⟩
  have unpaid : c'.customers = c.customers → c'.wallet.reservations = c.wallet.reservations → Paid c' := by
    intro customers reservations
    refine paid_unpaid move paid ?_ ?_ reservations
    · intro k o stored
      rw [customers] at stored
      exact ⟨o, stored, .refl o⟩
    · intro k o stored
      rw [customers]
      exact ⟨o, stored, .refl o⟩
  cases move with
  | prepaid fresh placed unsettled single idle known held =>
    obtain ⟨accountId, reserves⟩ := reserve_holds paid single held
    obtain ⟨k, cmd, command, session⟩ := known
    refine paid_reserved paid fresh placed unsettled single idle ?_ reserves
    rw [← session]
    exact sound.commanded k cmd command
  | settled row unsettled closed session settles cause =>
    obtain ⟨h, r, kept, own, positive, update⟩ := settle_holds paid row.stored unsettled settles
    exact paid_settled paid row unsettled closed kept own positive (cause.settledFor session) update
  | @alerted customers key owner owner' row same =>
    have kept : SameCustomer owner owner' := ⟨row.subject, row.session, row.budget, same⟩
    refine paid_unpaid (p := p) (.alerted row same) paid ?_ ?_ rfl
    · intro k o stored
      rcases row.placed.cases stored with ⟨rfl, rfl⟩ | ⟨-, stored⟩
      · exact ⟨owner, row.stored, kept⟩
      · exact ⟨o, stored, .refl o⟩
    · intro k o stored
      by_cases own : k = key
      · subst own
        rw [row.stored] at stored
        cases stored
        exact ⟨owner', row.placed.get, kept⟩
      · exact ⟨o, by rw [← stored]; exact row.placed.other own, .refl o⟩
  | funded reservations => exact unpaid rfl reservations
  | stopExpired _ expiry =>
    cases expiry
    exact unpaid rfl rfl
  | stopRejected _ rejection =>
    cases rejection
    exact unpaid rfl rfl
  | _ => exact unpaid rfl rfl

/-! ### Runs -/

structure PrepaidLifecycle (s : Store) : Prop where
  /-- One session of a subject at a time is unsettled or has not ended. -/
  single : ∀ k k' o o', s.customers.get? k = some o → s.customers.get? k' = some o' →
    o.subjectId = o'.subjectId → Active s.core o → Active s.core o' → k = k'
  /-- Each has one hold, of its budget, which is open until the session is settled. -/
  held : ∀ k o, s.customers.get? k = some o → ∃ h r, s.wallet.reservations.get? h = some r ∧
    r.referenceId = keyText o.sessionId ∧ r.amountMinor = o.budgetMinor ∧
    (o.settledAt = none ↔ r.status = .reserved) ∧ (o.settledAt ≠ none ↔ r.status = .settled) ∧
    ∀ h' r', s.wallet.reservations.get? h' = some r' → r'.referenceId = keyText o.sessionId → h' = h
  /-- A settled hold is that of a session that was captured, or that got no record and no start. -/
  settled : ∀ h r, s.wallet.reservations.get? h = some r → r.status = .settled →
    ∃ k o q spent, s.customers.get? k = some o ∧ r.referenceId = keyText o.sessionId ∧
      s.sessions.get? o.sessionId = some q ∧ r.spentMinor = some spent ∧ 0 ≤ spent ∧
      (0 < spent → q.state = .completed ∧ q.finalizationOutcome = some "complete" ∧
        ∃ cdrKey cdr, ChargeDetailRecordGenerator.latestFinalized s o.sessionId = some (cdrKey, cdr) ∧
          cdr.totalMinor = some spent ∧ spent ≤ o.budgetMinor) ∧
      (spent = 0 → ChargeDetailRecordGenerator.latestFinalized s o.sessionId = none →
        q.startedAt = none)

theorem HoldOf.statuses {c : Core} {r : PrepaidReservation} (hold : HoldOf c o r) :
    (o.settledAt = none ↔ r.status = .reserved) ∧ (o.settledAt ≠ none ↔ r.status = .settled) := by
  rcases hold.state with ⟨unsettled, reserved⟩ | ⟨closed, settled, -⟩
  · simp [unsettled, reserved]
  · simp [closed, settled]

theorem Paid.lifecycle {s : Store} (paid : Paid s.core) : PrepaidLifecycle s := by
  refine ⟨paid.single, ?_, ?_⟩
  · intro k o stored
    obtain ⟨h, r, found, hold⟩ := paid.held k o stored
    refine ⟨h, r, found, hold.reference, hold.amount, hold.statuses.1, hold.statuses.2, ?_⟩
    intro h' r' found' reference
    exact paid.one h' h r' r found' found (reference.trans hold.reference.symm)
  · intro h r found status
    obtain ⟨k, o, stored, reference⟩ := paid.owned h r found
    obtain ⟨h', r', found', hold⟩ := paid.held k o stored
    have own : h' = h := paid.one h' h r' r found' found (hold.reference.trans reference.symm)
    subst own
    have same : some r = some r' := found.symm.trans found'
    cases same
    rcases hold.state with ⟨-, reserved⟩ | ⟨-, -, spent, recorded, positive, cause⟩
    · rw [reserved] at status
      contradiction
    · cases cause with
      | @captured q key cdr session state outcome record charged budget =>
        have latest : ChargeDetailRecordGenerator.latestFinalized s o.sessionId = some (key, cdr) :=
          (ChargeDetailRecordGenerator.latestFinalized_iff _ _ _ _).mpr
            ⟨record.stored, record.session, record.finalized, record.highest⟩
        refine ⟨k, o, q, spent, stored, reference, session, recorded, positive, ?_, ?_⟩
        · exact fun _ => ⟨state, outcome, key, cdr, latest, charged, budget⟩
        · intro _ none
          rw [latest] at none
          contradiction
      | @released q nothing session terminal unstarted =>
        refine ⟨k, o, q, spent, stored, reference, session, recorded, positive, ?_, fun _ _ => unstarted⟩
        intro spends
        omega

/-- Every interleaving of starts, cancellations, reconciliations, charger events, command
outcomes and the system's other steps keeps prepaid sessions and their holds in order. -/
theorem Step.prepaid_lifecycle (steps : List (Environment × Step)) :
    PrepaidLifecycle (Step.run steps Store.empty) := by
  have both : Sound (Step.run steps Store.empty).core ∧ Paid (Step.run steps Store.empty).core :=
    Step.run_keeps ⟨sound_empty, paid_empty⟩ paid_move steps
  exact both.2.lifecycle

end VtsaCsms.Charging
