import VtsaCsms.Charging.Completion
import VtsaCsms.Charging.Progress

/-!
# Resolving a review

`ManualSessionReviewService::resolve` commits the adjustments and the closed review first and
generates the record afterwards. What is consumed in between is measured into the same
columns, and a generation that throws takes nothing of the first transaction back.
-/
namespace VtsaCsms.Charging
open Foundation Foundation.Action Tariffs

/-! ### Records in the books -/

/-- Every record is finalized or waits for a review. -/
def Filed (c : Core) : Prop :=
  ∀ k cdr, c.cdrs.get? k = some cdr → cdr.state = .finalized ∨ cdr.state = .reviewRequired

theorem filed_empty : Filed Store.empty.core := fun _ _ stored => by cases stored

theorem filed_move {p : Permits} {c c' : Core} (move : Move p c c') (filed : Filed c) : Filed c' := by
  cases move with
  | ended _ _ _ record closing =>
    intro k cdr stored
    rcases record.placed.cases stored with ⟨-, rfl⟩ | ⟨-, stored⟩
    · cases closing with
      | review _ review => exact Or.inr review
      | completed _ finalized => exact Or.inl finalized
    · exact filed k cdr stored
  | stopExpired _ expiry =>
    cases expiry
    exact filed
  | stopRejected _ rejection =>
    cases rejection
    exact filed
  | _ => exact filed

/-- A session that is closing stays so. -/
def Closes (key : Nat) (c : Core) : Prop := ∃ q, c.sessions.get? key = some q ∧ q.state.isClosing = true

theorem closes_move {p : Permits} {c c' : Core} {key : Nat} (move : Move p c c') (closes : Closes key c) :
    Closes key c' := by
  obtain ⟨q, stored, closing⟩ := closes
  obtain ⟨q', stored', step⟩ := move.row_step.1 key q stored
  exact ⟨q', stored', step.closing closing⟩

namespace OcppEventConsumer

theorem consumeAll_keeps {P : Core → Prop} (keeps : ∀ {p : Permits} {c c' : Core}, Move p c c' → P c → P c')
    (events : List (Environment × Mixed)) (s : Store) (holds : P s.core) : P (consumeAll events s).core := by
  induction events generalizing s with
  | nil => exact holds
  | cons first _ ih =>
    refine ih _ ?_
    exact (consume_moves (p := ⟨True, False, False⟩) first.1 first.2 s fun _ => trivial).keep keeps holds

theorem consumeAll_reviews (events : List (Environment × Mixed)) (s : Store) :
    (consumeAll events s).reviews = s.reviews := by
  induction events generalizing s with
  | nil => rfl
  | cons first rest ih =>
    obtain ⟨s₁, inbound, ⟨_, _, _, _, _, _, rfl⟩, left⟩ := consume_handled first.1 first.2 s
    have tail := ih (after (consume first.1 first.2) s)
    rw [left] at tail
    show (consumeAll rest (after (consume first.1 first.2) s)).reviews = s.reviews
    rw [left, tail]

end OcppEventConsumer

/-! ### The generated record -/

namespace ChargeDetailRecordGenerator

/-- What a generation that returns has read, and the record it leaves as the latest. -/
structure Generated (env : Environment) (s s' : Store) (key : Nat) (outcome : String) (q : ChargingSession)
    (flow : EnergyFlowDuration.Flow) (rating : RatingResult) : Prop where
  stored : s.sessions.get? key = some q
  measured : EnergyFlowDuration.measure env s key q = .ok flow
  rated : TariffEngine.rate env.clock q.tariffSnapshot (ratingInput q flow) = .ok rating
  free : q.state = .reviewRequired → ¬ Occupied s key q
  record : ∃ cdrKey cdr, latestFinalized s' key = some (cdrKey, cdr) ∧ cdr.energyWh = q.energyWh ∧
    cdr.durationSeconds = q.durationSeconds ∧
    cdr.snapshot = some (snapshotOf q flow rating (anomaliesOf q flow) outcome)

variable {s s' : Store}

theorem transition_unoccupied {key : Nat} {current next : ChargingSessionState} {u : Unit}
    {q : ChargingSession} (success : Returns (ChargingSessionStateMachine.transition key current next) s u s')
    (stored : s.sessions.get? key = some q) (changes : current ≠ next)
    (busy : next.occupiesConnector = true) : ¬ Occupied s key q := by
  unfold ChargingSessionStateMachine.transition at success
  simp only [returns_ite, returns_pure, returns_bind, returns_throwIf] at success
  rcases success with ⟨same, -⟩ | ⟨-, _, _, ⟨-, rfl⟩, saves⟩
  · exact absurd same changes
  · unfold saveSession onSessions at saves
    rw [returns_focus] at saves
    obtain ⟨t, saved, -⟩ := saves
    have tolerated := Indexed.update_tolerated saved q stored
    rintro ⟨k, row, different, elsewhere, connector, occupies⟩
    rw [Bool.eq_false_iff, Ne, Indexed.clashes_iff] at tolerated
    refine tolerated ⟨k, row, elsewhere, different, Or.inl ?_⟩
    simp [ChargingSession.clash, busy, occupies, connector]

theorem finalize_record {env : Environment} {key cdrKey : Nat} {locked : ChargingSession}
    {flow : EnergyFlowDuration.Flow} {anomalies : List SessionAnomaly} {outcome : String}
    {state : ChargeDetailRecordState} {c : ChargeDetailRecord} {u : Unit}
    (success : Returns (finalize env key cdrKey locked state flow anomalies outcome) s u s')
    (session : s.sessions.get? key = some locked) (record : s.cdrs.get? cdrKey = some c)
    (inState : c.state = state) :
    ∃ rating, TariffEngine.rate env.clock locked.tariffSnapshot (ratingInput locked flow) = .ok rating ∧
      (locked.state = .reviewRequired → ¬ Occupied s key locked) ∧
      s'.cdrs.get? cdrKey = some { fillCdr env locked (snapshotOf locked flow rating anomalies outcome)
        (outcome ≠ "unbillable") c with state := .finalized } := by
  unfold finalize at success
  simp only [returns_bind, returns_lift] at success
  obtain ⟨rating, _, ⟨rated, rfl⟩, _, _, fills, _, _, closes, _, _, totals', success⟩ := success
  obtain ⟨cdrs₁, rfl, written⟩ := saveCdr_returns fills
  have filled := written.placed record
  obtain ⟨-, cdrs, rfl, closed⟩ :=
    ChargeDetailRecordStateMachine.transition_returns closes filled.get inState
  obtain ⟨t₁, rfl, summed⟩ := saveSession_returns totals'
  have totals := summed.placed session
  rw [returns_ite] at success
  rcases success with ⟨review, success⟩ | ⟨other, completes⟩
  · rw [returns_bind] at success
    obtain ⟨_, _, reopens, completes⟩ := success
    have unoccupied := transition_unoccupied reopens totals.get (by rw [review]; decide) rfl
    obtain ⟨-, t₂, _, rfl, reopened⟩ :=
      ChargingSessionStateMachine.transition_returns reopens totals.get rfl
    obtain ⟨-, t, version, rfl, completed⟩ :=
      ChargingSessionStateMachine.transition_returns completes reopened.get rfl
    refine ⟨rating, rated, fun _ occupied => unoccupied ?_, closed.get⟩
    obtain ⟨k, row, different, elsewhere, rest⟩ := occupied
    exact ⟨k, row, different, (totals.other different).trans elsewhere, rest⟩
  · obtain ⟨-, t, version, rfl, completed⟩ :=
      ChargingSessionStateMachine.transition_returns completes totals.get rfl
    exact ⟨rating, rated, fun review => absurd review other, closed.get⟩

theorem generate_record {env : Environment} {key : Nat} {outcome : String} {u : Unit}
    (success : Returns (generate env key true outcome) s u s') :
    ∃ q flow rating, Generated env s s' key outcome q flow rating := by
  unfold generate at success
  simp only [returns_transaction, returns_bind, returns_read, returns_lift, lockSession_returns]
    at success
  obtain ⟨q, s, ⟨stored, rfl⟩, ⟨cdrKey, c⟩, _, opens, success⟩ := success
  obtain ⟨cdrs, rfl, opened, session, old, higher⟩ := openCdr_returns opens
  simp only [returns_ite] at success
  obtain ⟨_, _, begins, _, _, ⟨rfl, rfl⟩, flow, _, ⟨measured, rfl⟩, success⟩ := success
  obtain ⟨-, cdrs₂, rfl, restarted⟩ :=
    ChargeDetailRecordStateMachine.transition_returns begins opened.get rfl
  rcases success with ⟨⟨-, unapproved⟩, -⟩ | ⟨-, success⟩
  · cases unapproved
  · obtain ⟨rating, rated, free, filled⟩ := finalize_record success stored restarted.get rfl
    obtain ⟨t, cdrs₃, q₂, c₂, rfl, -, written, -, -, -⟩ := finalize_returns success stored restarted.get rfl
    rw [written.get] at filled
    have upToHere := (opened.trans restarted).trans written
    refine ⟨q, flow, rating, stored, measured, rated, free, cdrKey, c₂, ?_, ?_⟩
    · rw [latestFinalized_iff]
      cases filled
      refine ⟨written.get, session, rfl, ?_⟩
      intro k row found same finalized
      rcases upToHere.cases found with ⟨-, rfl⟩ | ⟨different, before⟩
      · exact le_refl _
      · exact (higher k row before same different).le
    · cases filled
      exact ⟨rfl, rfl, rfl⟩

end ChargeDetailRecordGenerator

/-! ### The two transactions -/

namespace ManualSessionReviewService

/-- `resolve` up to the end of its first transaction. -/
def closeReview (env : Environment) (key : Nat) (decision notes : String) (adjustments : Adjustments) :
    Charge Unit := do
  throwIf (decision ∉ ["complete", "estimated", "unbillable"])
    (.domain "Unsupported manual review decision.")
  throwIf (adjustments.values.any (fun v => v < 0) = true)
    (.domain "Manual review adjustments must be non-negative supported measurements.")
  transaction do
    let locked ← lockSession key
    throwIf (locked.state ≠ .reviewRequired) (.domain "The session is not awaiting manual review.")
    let review ← reviewKey env key
    saveSession key adjustments.applyTo
    write fun s => { s with reviews := s.reviews.update review fun r =>
      { r with resolved := true, notes := some notes, resolvedAt := some env.now.toSecond
               decision := some decision } }

/-- The call with the events that are consumed between its transactions; its clock moves on. -/
def resolveAmid (env later : Environment) (between : List (Environment × Mixed)) (key : Nat)
    (decision notes : String) (adjustments : Adjustments) : Charge Unit := do
  closeReview env key decision notes adjustments
  write (OcppEventConsumer.consumeAll between)
  ChargeDetailRecordGenerator.generate later key true decision

theorem resolveAmid_nil (env : Environment) (key : Nat) (decision notes : String) (adjustments : Adjustments) :
    resolveAmid env env [] key decision notes adjustments = resolve env key decision notes adjustments := by
  funext s
  unfold resolveAmid resolve closeReview throwIf
  simp only [bind]
  by_cases unsupported : decision ∉ ["complete", "estimated", "unbillable"]
  · rw [if_pos unsupported]
    rfl
  · rw [if_neg unsupported]
    by_cases negative : adjustments.values.any (fun v => v < 0) = true
    · rw [if_pos negative]
      rfl
    · rw [if_neg negative]
      rfl

theorem closeReview_atomic (env : Environment) (key : Nat) (decision notes : String)
    (adjustments : Adjustments) : Atomic (closeReview env key decision notes adjustments) := by
  have silent : ∀ (c : Prop) [Decidable c] (e : Throwable) (s s' : Store) (u : Unit),
      Returns (throwIf c e : Charge Unit) s u s' → s' = s :=
    fun c _ e s s' u success => ((returns_throwIf c e s s' u).mp success).2
  refine (atomic_throwIf _ _).bind (fun s u s' => silent _ _ s s' u) fun _ => ?_
  exact (atomic_throwIf _ _).bind (fun s u s' => silent _ _ s s' u) fun _ => atomic_transaction _

theorem reviewKey_open {env : Environment} {key reviewed : Nat} {s s' : Store}
    (success : Returns (reviewKey env key) s reviewed s') :
    ∃ reviews review, s' = { s with reviews := reviews } ∧ reviews.get? reviewed = some review ∧
      review.sessionId = key ∧ ∀ old, s.reviews.get? reviewed = some old → old.resolved = false := by
  unfold reviewKey at success
  simp only [returns_bind, returns_read] at success
  obtain ⟨found, s, ⟨known, rfl⟩, success⟩ := success
  cases found with
  | some row =>
    obtain ⟨open', review⟩ := row
    rw [returns_pure] at success
    obtain ⟨rfl, rfl⟩ := success
    obtain ⟨member, -⟩ := latestBy_some known.symm
    obtain ⟨stored, selected⟩ := (Table.mem_rowsWhere _ _ _ _).mp member
    simp only [Bool.and_eq_true, decide_eq_true_eq, Bool.not_eq_true'] at selected
    refine ⟨s'.reviews, review, rfl, stored, selected.1, ?_⟩
    intro old before
    rw [stored] at before
    rw [← Option.some.inj before]
    exact selected.2
  | none =>
    simp only [returns_bind, returns_read, returns_write, returns_pure] at success
    obtain ⟨_, _, ⟨rfl, rfl⟩, _, _, rfl, rfl, rfl⟩ := success
    refine ⟨_, _, rfl, Table.get?_create_self _ _, rfl, ?_⟩
    intro old before
    rw [Table.get?_nextId] at before
    cases before

theorem closeReview_returns {env : Environment} {key : Nat} {decision notes : String}
    {adjustments : Adjustments} {s s' : Store} {u : Unit}
    (success : Returns (closeReview env key decision notes adjustments) s u s') :
    ∃ q t reviews, s.sessions.get? key = some q ∧ q.state = .reviewRequired ∧
      s' = { s with sessions := t, reviews := reviews } ∧
      Indexed.Placed s.sessions t key (adjustments.applyTo q) ∧
      ∃ k review, reviews.get? k = some review ∧ review.sessionId = key ∧ review.resolved = true ∧
        s.reviews.get? k ≠ some review := by
  unfold closeReview at success
  simp only [returns_transaction, returns_bind, returns_throwIf, returns_write, lockSession_returns] at success
  obtain ⟨_, _, ⟨-, rfl⟩, _, _, ⟨-, rfl⟩, q, _, ⟨stored, rfl⟩, _, _, ⟨waiting, rfl⟩, reviewed, _, found, _, _,
    saves, rfl⟩ := success
  obtain ⟨reviews, review, rfl, known, own, unresolved⟩ := reviewKey_open found
  obtain ⟨t, rfl, updated⟩ := saveSession_returns saves
  have adjusted := updated.placed stored
  let closed : ChargingSessionReview :=
    { review with resolved := true, notes := some notes, resolvedAt := some env.now.toSecond
                  decision := some decision }
  refine ⟨q, t, _, stored, by simpa using waiting, rfl, adjusted, reviewed, closed, ?_, own, rfl, ?_⟩
  · exact (Table.get?_update_self _ _ _).trans (by rw [known]; rfl)
  · intro before
    cases unresolved _ before

/-! ### What the reviewer decided -/

/-- The four measurements a reviewer may adjust. -/
structure Measured (q q' : ChargingSession) : Prop where
  energyWh : q'.energyWh = q.energyWh
  durationSeconds : q'.durationSeconds = q.durationSeconds
  parkingSeconds : q'.parkingSeconds = q.parkingSeconds
  idleSeconds : q'.idleSeconds = q.idleSeconds

/-- The record states the measurements of the row, in its columns and in its snapshot. -/
def States (cdr : ChargeDetailRecord) (q : ChargingSession) : Prop :=
  cdr.energyWh = q.energyWh ∧ cdr.durationSeconds = q.durationSeconds ∧
    ∃ snapshot, cdr.snapshot = some snapshot ∧ snapshot.energyWh = q.energyWh ∧
      snapshot.durationSeconds = q.durationSeconds ∧ snapshot.parkingSeconds = q.parkingSeconds ∧
      snapshot.idleSeconds = q.idleSeconds

/-- A call that returns leaves a finalized record of the adjusted measurements as the latest; one
that throws has closed no review and left the measurements as they were. -/
def BillsDecision (call : Charge Unit) (key : Nat) (adjustments : Adjustments) (s : Store) : Prop :=
  (∀ q s', s.sessions.get? key = some q → Returns call s () s' →
    ∃ cdrKey cdr, ChargeDetailRecordGenerator.latestFinalized s' key = some (cdrKey, cdr) ∧
      States cdr (adjustments.applyTo q)) ∧
  (∀ q exception, s.sessions.get? key = some q → (call s).1 = .error exception →
    (∀ k review, (after call s).reviews.get? k = some review → review.sessionId = key →
      review.resolved = true → s.reviews.get? k = some review) ∧
    ∃ q', (after call s).sessions.get? key = some q' ∧ Measured q q')

/-- The rows on which the generation begins: the session still carries what was decided, its
evidence can be measured and rated, and its connector is free where completing it takes it up. -/
def Undisturbed (later : Environment) (key : Nat) (decided : ChargingSession) (s : Store) : Prop :=
  ∃ row flow rating, s.sessions.get? key = some row ∧ Measured decided row ∧
    EnergyFlowDuration.measure later s key row = .ok flow ∧
    TariffEngine.rate later.clock row.tariffSnapshot (ChargeDetailRecordGenerator.ratingInput row flow) =
      .ok rating ∧
    (row.state = .reviewRequired → ¬ Occupied s key row)

section Amid
variable {env later : Environment} {between : List (Environment × Mixed)} {key : Nat} {decision notes : String}
  {adjustments : Adjustments} {s s₁ : Store}

variable (later between) in
theorem resolveAmid_refused {exception : Throwable}
    (thrown : closeReview env key decision notes adjustments s = (.error exception, s₁)) :
    resolveAmid env later between key decision notes adjustments s = (.error exception, s) := by
  have back := closeReview_atomic env key decision notes adjustments s exception (by rw [thrown])
  rw [thrown] at back
  subst back
  simp only [resolveAmid, bind, thrown]

variable (later between) in
theorem resolveAmid_closed (closes : Returns (closeReview env key decision notes adjustments) s () s₁) :
    resolveAmid env later between key decision notes adjustments s =
      ChargeDetailRecordGenerator.generate later key true decision (OcppEventConsumer.consumeAll between s₁) := by
  have run : closeReview env key decision notes adjustments s = (.ok (), s₁) := closes
  simp only [resolveAmid, bind, run, write]

theorem billsDecision_refused {exception : Throwable}
    (thrown : closeReview env key decision notes adjustments s = (.error exception, s₁)) :
    BillsDecision (resolveAmid env later between key decision notes adjustments) key adjustments s := by
  have whole := resolveAmid_refused later between thrown
  refine ⟨fun q s' _ success => ?_, fun q _ stored _ => ?_⟩
  · unfold Returns at success
    rw [whole] at success
    cases success
  · rw [after, whole]
    exact ⟨fun _ _ found _ _ => found, q, stored, ⟨rfl, rfl, rfl, rfl⟩⟩

/-- The events in between leave the session to be closed, its records undisputed and all reviews as they are. -/
theorem closed_consumed (filed : Filed s.core) (closes : Returns (closeReview env key decision notes adjustments) s () s₁)
    (between : List (Environment × Mixed)) :
    Filed (OcppEventConsumer.consumeAll between s₁).core ∧ Closes key (OcppEventConsumer.consumeAll between s₁).core ∧
      ∃ k review, (OcppEventConsumer.consumeAll between s₁).reviews.get? k = some review ∧ review.sessionId = key ∧
        review.resolved = true ∧ s.reviews.get? k ≠ some review := by
  obtain ⟨q, t, reviews, -, waiting, rfl, adjusted, k, review, resolved, own, ended, new⟩ := closeReview_returns closes
  have closing : (adjustments.applyTo q).state.isClosing = true := by
    show q.state.isClosing = true
    rw [waiting]
    rfl
  refine ⟨OcppEventConsumer.consumeAll_keeps (fun move => filed_move move) between _ filed,
    OcppEventConsumer.consumeAll_keeps (fun move => closes_move move) between _ ⟨_, adjusted.get, closing⟩,
    k, review, ?_, own, ended, new⟩
  rw [OcppEventConsumer.consumeAll_reviews]
  exact resolved

theorem undisturbed_of_bills {q : ChargingSession} (filed : Filed s.core) (stored : s.sessions.get? key = some q)
    (closes : Returns (closeReview env key decision notes adjustments) s () s₁)
    (bills : BillsDecision (resolveAmid env later between key decision notes adjustments) key adjustments s) :
    Undisturbed later key (adjustments.applyTo q) (OcppEventConsumer.consumeAll between s₁) := by
  obtain ⟨-, -, k, review, resolved, own, ended, new⟩ := closed_consumed filed closes between
  have whole := resolveAmid_closed later between closes
  generalize OcppEventConsumer.consumeAll between s₁ = s₂ at resolved whole ⊢
  rcases generated : ChargeDetailRecordGenerator.generate later key true decision s₂ with ⟨out, s'⟩
  cases out with
  | error exception =>
    -- the review is closed all the same
    have left : after (resolveAmid env later between key decision notes adjustments) s = s₂ := by
      rw [after, whole]
      exact transaction_throws (by rw [ChargeDetailRecordGenerator.generate] at generated; rw [generated])
    have kept := (bills.2 q exception stored (by rw [whole, generated])).1 k review
    rw [left] at kept
    exact absurd (kept resolved own ended) new
  | ok =>
    have success : Returns (ChargeDetailRecordGenerator.generate later key true decision) s₂ () s' := generated
    obtain ⟨q₂, flow, rating, record⟩ := ChargeDetailRecordGenerator.generate_record success
    obtain ⟨cdrKey, cdr, latest, -, -, written⟩ := record.record
    obtain ⟨cdrKey', cdr', latest', -, -, snapshot, written', energy, duration, parking, idle⟩ :=
      bills.1 q s' stored (by rw [Returns, whole, generated])
    rw [latest] at latest'
    cases latest'
    rw [written] at written'
    cases written'
    exact ⟨q₂, flow, rating, record.stored, ⟨energy, duration, parking, idle⟩, record.measured,
      record.rated, record.free⟩

theorem bills_of_undisturbed {q : ChargingSession} (filed : Filed s.core) (stored : s.sessions.get? key = some q)
    (closes : Returns (closeReview env key decision notes adjustments) s () s₁)
    (undisturbed : Undisturbed later key (adjustments.applyTo q) (OcppEventConsumer.consumeAll between s₁)) :
    BillsDecision (resolveAmid env later between key decision notes adjustments) key adjustments s := by
  obtain ⟨filed', ⟨row, present, closing⟩, -⟩ := closed_consumed filed closes between
  have whole := resolveAmid_closed later between closes
  obtain ⟨row', flow, rating, found, measures, measured, rated, free⟩ := undisturbed
  generalize OcppEventConsumer.consumeAll between s₁ = s₂ at filed' present whole found measured free
  change s₂.sessions.get? key = some row at present
  rw [present] at found
  cases found
  have ends : row.state.canTransitionTo .completed = true := by
    generalize row.state = state at closing
    cases state <;> first | contradiction | rfl
  have unfailed : ∀ k c, s₂.cdrs.get? k = some c → c.state ≠ .failed := by
    intro k c known failed
    rcases filed' k c known with finalized | review
    · rw [failed] at finalized
      cases finalized
    · rw [failed] at review
      cases review
  obtain ⟨s', generated⟩ := ChargeDetailRecordGenerator.generate_succeeds decision present ends
    unfailed measured rated free
  refine ⟨fun q' s'' stored' success => ?_, fun q' exception _ thrown => ?_⟩
  · rw [stored] at stored'
    cases stored'
    rw [Returns, whole] at success
    obtain ⟨q₂, flow₂, rating₂, record⟩ := ChargeDetailRecordGenerator.generate_record success
    have known := record.stored
    rw [present] at known
    cases known
    obtain ⟨cdrKey, cdr, latest, energy, duration, written⟩ := record.record
    exact ⟨cdrKey, cdr, latest, energy.trans measures.energyWh, duration.trans measures.durationSeconds, _,
      written, measures.energyWh, measures.durationSeconds, measures.parkingSeconds, measures.idleSeconds⟩
  · have returned : ChargeDetailRecordGenerator.generate later key true decision s₂ = (.ok (), s') := generated
    rw [whole, returned] at thrown
    cases thrown

end Amid

/-- A call over rows that runs reach bills what the reviewer decided exactly when the
generation begins undisturbed; events in between are free. -/
theorem resolution_bills_iff (steps : List (Environment × Step)) (env later : Environment)
    (between : List (Environment × Mixed)) (key : Nat) (decision notes : String) (adjustments : Adjustments) :
    BillsDecision (resolveAmid env later between key decision notes adjustments) key adjustments
        (Step.run steps Store.empty) ↔
      ∀ q s₁, (Step.run steps Store.empty).sessions.get? key = some q →
        Returns (closeReview env key decision notes adjustments) (Step.run steps Store.empty) () s₁ →
        Undisturbed later key (adjustments.applyTo q) (OcppEventConsumer.consumeAll between s₁) := by
  have filed : Filed (Step.run steps Store.empty).core := Step.run_keeps filed_empty filed_move steps
  generalize Step.run steps Store.empty = s at filed
  rcases run : closeReview env key decision notes adjustments s with ⟨out, s₁⟩
  cases out with
  | error exception =>
    refine iff_of_true (billsDecision_refused run) fun q s₂ _ success => ?_
    unfold Returns at success
    rw [run] at success
    cases success
  | ok =>
    have closes : Returns (closeReview env key decision notes adjustments) s () s₁ := run
    obtain ⟨q, -, -, stored, -⟩ := closeReview_returns closes
    constructor
    · intro bills q' s₁' stored' closes'
      obtain ⟨-, rfl⟩ := closes.unique closes'
      exact undisturbed_of_bills filed stored' closes bills
    · intro undisturbed
      exact bills_of_undisturbed filed stored closes (undisturbed q s₁ stored closes)

end ManualSessionReviewService

namespace Deployment

/-- The transaction ends without a meter reading, so the session is sent to review. -/
def reviewed : List (Environment × Step) :=
  charging ++ [(environment "2.0.1" 1 3, .event (transactionEvent "E2" "Ended" "10:03:00" []))]

def lateReading : Environment × Mixed :=
  (environment "2.0.1" 1 4, received "E3" "meter_values" "10:04:00" "ocpp2.0.1"
    [("evse_id", .int 1), ("connector_id", .int 1), ("protocol_transaction_id", .string "TX-1"),
      register "10:04:00" 2100])

end Deployment

namespace ManualSessionReviewService

set_option maxRecDepth 20000 in
/-- The reviewer decides on 500 Wh and the record states 2000. -/
theorem late_reading_is_billed :
    ¬ BillsDecision (resolveAmid (Deployment.environment "2.0.1" 1 4) (Deployment.environment "2.0.1" 1 4)
      [Deployment.lateReading] 0 "complete" "seen on site" { energyWh := some 500 }) 0 { energyWh := some 500 }
      (Step.run Deployment.reviewed Store.empty) := by
  intro bills
  have facts : ((Step.run Deployment.reviewed Store.empty).sessions.get? 0).any
        (fun q => q.state = .reviewRequired) = true ∧
      (resolveAmid (Deployment.environment "2.0.1" 1 4) (Deployment.environment "2.0.1" 1 4)
          [Deployment.lateReading] 0 "complete" "seen on site" { energyWh := some 500 }
          (Step.run Deployment.reviewed Store.empty)).1.toBool = true ∧
      (ChargeDetailRecordGenerator.latestFinalized
          (resolveAmid (Deployment.environment "2.0.1" 1 4) (Deployment.environment "2.0.1" 1 4)
            [Deployment.lateReading] 0 "complete" "seen on site" { energyWh := some 500 }
            (Step.run Deployment.reviewed Store.empty)).2 0).any (fun row => row.2.energyWh = 2000) = true := by
    decide +kernel
  generalize Step.run Deployment.reviewed Store.empty = s at facts bills
  obtain ⟨stored, passed, written⟩ := facts
  obtain ⟨q, stored, -⟩ := (Option.any_eq_true _ _).mp stored
  rcases returned : resolveAmid (Deployment.environment "2.0.1" 1 4) (Deployment.environment "2.0.1" 1 4)
      [Deployment.lateReading] 0 "complete" "seen on site" { energyWh := some 500 } s with ⟨_ | u, s'⟩
  · rw [returned] at passed
    cases passed
  · rw [returned] at written
    obtain ⟨⟨cdrKey, cdr⟩, latest, energy⟩ := (Option.any_eq_true _ _).mp written
    obtain ⟨cdrKey', cdr', latest', decided, -⟩ := bills.1 q s' stored returned
    rw [latest] at latest'
    cases latest'
    simp only [decide_eq_true_eq] at energy
    rw [energy] at decided
    exact absurd decided (by simp [Adjustments.applyTo])

end ManualSessionReviewService
end VtsaCsms.Charging
