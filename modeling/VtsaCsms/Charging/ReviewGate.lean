import VtsaCsms.Charging.ConnectorPromises
import VtsaCsms.Charging.ReviewResolution

/-!
# The gate of a manual review

A session that waits for a review is completed by the review's resolution. A stop event that is
sent again generates its record once more, without the review, and completes it where the
evidence no longer blocks.
-/
namespace VtsaCsms.Charging
open Foundation Foundation.Action

/-! ### Completed sessions and finalized records -/

/-- A session is completed if and only if it has a finalized record. -/
structure Billed (c : Core) : Prop where
  final : ∀ k cdr, c.cdrs.get? k = some cdr → cdr.state = .finalized →
    ∃ q, c.sessions.get? cdr.sessionId = some q ∧ q.state = .completed
  billed : ∀ key q, c.sessions.get? key = some q → q.state = .completed →
    ∃ k cdr, c.cdrs.get? k = some cdr ∧ cdr.sessionId = key ∧ cdr.state = .finalized

theorem billed_empty : Billed Store.empty.core where
  final := fun _ _ stored => by cases stored
  billed := fun _ _ stored => by cases stored

theorem Move.finalized_record {p : Permits} {c c' : Core} (move : Move p c c') {k : Nat}
    {cdr : ChargeDetailRecord} (stored : c'.cdrs.get? k = some cdr) (finalized : cdr.state = .finalized) :
    c.cdrs.get? k = some cdr ∨ ∃ q, c'.sessions.get? cdr.sessionId = some q ∧ q.state = .completed := by
  cases move with
  | @ended t cdrs key q q' cdrKey cdr₀ row before evidence record closing =>
    rcases record.placed.cases stored with ⟨-, rfl⟩ | ⟨-, stored⟩
    · cases closing with
      | review _ review =>
        rw [review] at finalized
        contradiction
      | completed state => exact Or.inr ⟨q', by rw [record.session]; exact row.placed.get, state⟩
    · exact Or.inl stored
  | stopExpired _ expiry =>
    cases expiry
    exact Or.inl stored
  | stopRejected _ rejection =>
    cases rejection
    exact Or.inl stored
  | _ => exact Or.inl stored

theorem billed_move {p : Permits} {c c' : Core} (move : Move p c c') (billed : Billed c) : Billed c' := by
  constructor
  · intro k cdr stored finalized
    rcases move.finalized_record stored finalized with before | completed
    · obtain ⟨q, held, state⟩ := billed.final k cdr before finalized
      obtain ⟨q', held', step⟩ := move.row_step.1 _ q held
      refine ⟨q', held', ?_⟩
      have standing := step.terminal (by rw [state]; rfl)
      exact (congrArg SessionStanding.state standing).trans state
    · exact completed
  · intro key q' stored completed
    rcases move.completed_row stored completed with ⟨q, before, standing, -⟩ | ⟨k, cdr, latest, -⟩
    · have state : q.state = .completed := (congrArg SessionStanding.state standing).symm.trans completed
      obtain ⟨k, cdr, held, session, finalized⟩ := billed.billed key q before state
      exact ⟨k, cdr, (move.records_final before state k cdr session).mpr held, session, finalized⟩
    · exact ⟨k, cdr, latest.stored, latest.session, latest.finalized⟩

namespace OcppEventConsumer

theorem consume_records (env : Environment) (event : Mixed) (s : Store) {k : Nat} {cdr : ChargeDetailRecord}
    (stored : (after (consume env event) s).cdrs.get? k = some cdr) (finalized : cdr.state = .finalized) :
    s.cdrs.get? k = some cdr ∨ Completes env s event cdr.sessionId := by
  rcases consume_cases env event s with ⟨_, _, same⟩ | ⟨e, data, action, s₁, s₂, _, a, taken, run, same⟩
  · rw [same] at stored
    exact Or.inl stored
  · rw [same] at stored
    have records : s₁.cdrs = s.cdrs := by
      obtain ⟨_, _, rfl⟩ := taken.rows
      rfl
    rw [← records]
    cases kind : a.evidence with
    | stop =>
      rw [kind] at run
      by_cases cleared : ∃ key, Clears env a.connector e data a.sourceAt s₁ key
      · obtain ⟨key, cleared⟩ := cleared
        have completes : Completes env s event key := ⟨e, data, action, s₁, a, taken, kind, cleared⟩
        obtain ⟨T, key', q, m, version, t, statuses, reservations, readings, cdrs, q', cdrKey, c, identified,
          held, -, rfl, -, record, session, -, -, -⟩ := stop_returns run
        obtain ⟨T', q₀, _, _, identified', held', -⟩ := cleared
        rw [identified] at identified'
        cases identified'
        rw [held] at held'
        cases held'
        rcases record.cases stored with ⟨-, rfl⟩ | ⟨-, before⟩
        · exact Or.inr (by rw [session]; exact completes)
        · exact Or.inl before
      · obtain ⟨T, key, q, t, statuses, reservations, readings, cdrs, q', cdrKey, c, -, -, rfl, -, -, -, -,
          record, -, review⟩ := stop_blocked run fun key clear => cleared ⟨key, clear⟩
        rcases record.cases stored with ⟨-, rfl⟩ | ⟨-, before⟩
        · rw [review] at finalized
          contradiction
        · exact Or.inl before
    | start =>
      rw [kind] at run
      obtain ⟨_, _, _, _, _, _, _, _, -, -, -, rfl, -⟩ := start_returns run
      exact Or.inl stored
    | updated =>
      rw [kind] at run
      obtain ⟨_, _, _, _, _, _, -, -, rfl, -⟩ := updated_returns run
      exact Or.inl stored
    | meterValues =>
      rw [kind] at run
      obtain ⟨_, _, _, _, _, _, -, -, rfl, -⟩ := meterValues_returns run
      exact Or.inl stored
    | status =>
      rw [kind] at run
      obtain ⟨_, rfl⟩ := status_returns run
      exact Or.inl stored

end OcppEventConsumer

/-! ### The gate -/

/-- The session waits for this review. -/
structure UnderReview (s : Store) (key review : Nat) : Prop where
  session : ∃ q, s.sessions.get? key = some q ∧ q.state = .reviewRequired
  open' : ∃ r, s.reviews.get? review = some r ∧ r.sessionId = key ∧ r.resolved = false

/-- The session is completed, or has a finalized record. -/
def Finished (s : Store) (key : Nat) : Prop :=
  (∃ q, s.sessions.get? key = some q ∧ q.state = .completed) ∨
    ∃ k c, s.cdrs.get? k = some c ∧ c.sessionId = key ∧ c.state = .finalized

theorem Finished.record {s : Store} {key : Nat} (finished : Finished s key) (billed : Billed s.core) :
    ∃ k c, s.cdrs.get? k = some c ∧ c.sessionId = key ∧ c.state = .finalized := by
  rcases finished with ⟨q, stored, completed⟩ | record
  · exact billed.billed key q stored completed
  · exact record

theorem UnderReview.unfinished {s : Store} {key review k : Nat} {c : ChargeDetailRecord}
    (under : UnderReview s key review) (billed : Billed s.core) (stored : s.cdrs.get? k = some c)
    (session : c.sessionId = key) : c.state ≠ .finalized := by
  intro finalized
  obtain ⟨q, held, completed⟩ := billed.final k c stored finalized
  obtain ⟨q', held', state⟩ := under.session
  rw [session] at held
  have same : some q = some q' := held.symm.trans held'
  cases same
  rw [state] at completed
  contradiction

namespace ManualSessionReviewService

theorem resolve_records (env : Environment) (key : Nat) (decision notes : String) (adjustments : Adjustments)
    (s : Store) {k : Nat} {cdr : ChargeDetailRecord}
    (stored : (after (resolve env key decision notes adjustments) s).cdrs.get? k = some cdr)
    (unwritten : s.cdrs.get? k ≠ some cdr) :
    cdr.sessionId = key ∧ ∃ s₁, Returns (closeReview env key decision notes adjustments) s () s₁ ∧
      (after (resolve env key decision notes adjustments) s).reviews = s₁.reviews := by
  rw [← resolveAmid_nil] at stored ⊢
  unfold resolveAmid at stored ⊢
  rcases run : closeReview env key decision notes adjustments s with ⟨out, s₁⟩
  cases out with
  | error e =>
    have back := closeReview_atomic env key decision notes adjustments s e (congrArg Prod.fst run)
    rw [after_bind_of_throws (congrArg Prod.fst run), after, back] at stored
    exact absurd stored unwritten
  | ok =>
    have closed : Returns (closeReview env key decision notes adjustments) s () s₁ := run
    obtain ⟨q, t, reviews, -, -, rows, -⟩ := closeReview_returns closed
    rw [after_bind_of_returns closed, after_write] at stored ⊢
    have same : OcppEventConsumer.consumeAll [] s₁ = s₁ := rfl
    rw [same] at stored ⊢
    rcases transaction_cases _ s₁ with ⟨_, s₂, generated, left⟩ | ⟨e, -, left⟩
    · have generates : Returns (ChargeDetailRecordGenerator.generate env key true decision) s₁ () s₂ := left
      rw [after, generates] at stored ⊢
      obtain ⟨_, _, cdrs, _, cdrKey, c, -, rfl, -, record, session, -⟩ :=
        ChargeDetailRecordGenerator.generate_returns generates
      rcases record.cases stored with ⟨-, rfl⟩ | ⟨-, before⟩
      · exact ⟨session, s₁, closed, rfl⟩
      · rw [rows] at before
        exact absurd before unwritten
    · have thrown : ChargeDetailRecordGenerator.generate env key true decision s₁ = (.error e, s₁) := left
      rw [after, thrown, rows] at stored
      exact absurd stored unwritten

theorem closeReview_accepts {env : Environment} {key : Nat} {decision notes : String}
    {adjustments : Adjustments} {s s' : Store} {u : Unit}
    (success : Returns (closeReview env key decision notes adjustments) s u s') :
    decision ∈ ["complete", "estimated", "unbillable"] ∧
      adjustments.values.any (fun v => v < 0) = false := by
  unfold closeReview at success
  simp only [returns_bind, returns_throwIf] at success
  obtain ⟨_, _, ⟨supported, -⟩, _, _, ⟨nonnegative, -⟩, -⟩ := success
  exact ⟨not_not.mp supported, Bool.eq_false_iff.mpr nonnegative⟩

theorem closeReview_only {env : Environment} {key review : Nat} {decision notes : String}
    {adjustments : Adjustments} {s s' : Store} {u : Unit}
    (success : Returns (closeReview env key decision notes adjustments) s u s')
    (under : UnderReview s key review) (only : ∀ other, UnderReview s key other → other = review) :
    ∃ r, s'.reviews.get? review = some r ∧ r.sessionId = key ∧ r.resolved = true := by
  obtain ⟨r, stored, session, unresolved⟩ := under.open'
  have latest : ∃ last, latestOpen s key = some (review, last) := by
    have member : (review, r) ∈ s.reviews.rowsWhere fun _ r => r.sessionId = key && !r.resolved := by
      rw [Table.mem_rowsWhere]
      exact ⟨stored, by simp [session, unresolved]⟩
    obtain ⟨⟨k, last⟩, found⟩ := latestBy_isSome (fun row => row.2.openedAt) member
    obtain ⟨member', -⟩ := latestBy_some found
    obtain ⟨stored', selected⟩ := (Table.mem_rowsWhere _ _ _ _).mp member'
    simp only [Bool.and_eq_true, decide_eq_true_eq, Bool.not_eq_true'] at selected
    have same : k = review := only k ⟨under.session, last, stored', selected⟩
    subst same
    exact ⟨last, found⟩
  obtain ⟨last, latest⟩ := latest
  unfold closeReview reviewKey at success
  simp only [returns_transaction, returns_bind, returns_throwIf, returns_write, returns_read, lockSession_returns]
    at success
  obtain ⟨_, _, ⟨-, rfl⟩, _, _, ⟨-, rfl⟩, q, _, ⟨-, rfl⟩, _, _, ⟨-, rfl⟩, reviewed, _, ⟨_, s, ⟨rfl, rfl⟩, found⟩,
    _, _, saves, rfl⟩ := success
  rw [latest] at found
  simp only [returns_pure] at found
  obtain ⟨rfl, rfl⟩ := found
  obtain ⟨t, rfl, -⟩ := saveSession_returns saves
  let closed : ChargingSessionReview :=
    { r with resolved := true, notes := some notes, resolvedAt := some env.now.toSecond
             decision := some decision }
  refine ⟨closed, ?_, session, rfl⟩
  exact (Table.get?_update_self _ _ _).trans (by rw [stored]; rfl)

end ManualSessionReviewService

namespace Step

/-- Whatever finishes a session under review is its resolution, and closes the review. -/
def GateKept (env : Environment) (s : Store) (step : Step) : Prop :=
  ∀ key review, UnderReview s key review → Finished (step.next env s) key →
    (∃ decision notes adjustments, step = .resolveReview key decision notes adjustments) ∧
      ∃ r, (step.next env s).reviews.get? review = some r ∧ r.sessionId = key ∧ r.resolved = true

/-- A stop event that completes a session under review, or a resolution that may close one of
several open reviews only. -/
def Ungates (env : Environment) (s : Store) : Step → Prop
  | event e => ∃ key review, UnderReview s key review ∧ OcppEventConsumer.Completes env s e key
  | resolveReview key decision _ adjustments =>
      (decision ∈ ["complete", "estimated", "unbillable"] ∧
        adjustments.values.any (fun v => v < 0) = false) ∧
      ∃ review other, review ≠ other ∧ UnderReview s key review ∧ UnderReview s key other
  | _ => False

/-- What the gate rests on. -/
structure Gated (s : Store) : Prop where
  billed : Billed s.core
  within : Within Scope.reservations s

theorem gated_next {s : Store} (gated : Gated s) (env : Environment) (step : Step) :
    Gated (step.next env s) where
  billed := (moves env step s).keep (P := Billed) billed_move gated.billed
  within := next_within env step gated.within (fun _ _ => trivial) (fun _ _ => trivial) fun _ _ => trivial

theorem next_records {s : Store} (gated : Gated s) (env : Environment) {step : Step}
    (silent : step.writesRecords = false) : (step.next env s).cdrs = s.cdrs := by
  let x : Scope := { Scope.reservations with records := fun t => t = s.cdrs }
  have entry : Within x s := ⟨gated.within.reserved, gated.within.admitted, rfl⟩
  refine (next_within env step entry (fun _ _ => trivial) (fun _ _ => trivial) ?_).records
  intro writes
  rw [silent] at writes
  contradiction

theorem gate_kept {s : Store} (gated : Gated s) (env : Environment) (step : Step)
    (kept : ¬ step.Ungates env s) : step.GateKept env s := by
  intro key review under finished
  have billed := (gated_next gated env step).billed
  obtain ⟨k, c, stored, session, finalized⟩ := finished.record billed
  have unwritten : s.cdrs.get? k ≠ some c :=
    fun before => under.unfinished gated.billed before session finalized
  cases writes : step.writesRecords with
  | false =>
    rw [next_records gated env writes] at stored
    exact absurd stored unwritten
  | true =>
    cases step with
    | event e =>
      have left : next env (.event e) s = after (OcppEventConsumer.consume env e) s := after_discard _ s
      rw [left] at stored
      rcases OcppEventConsumer.consume_records env e s stored finalized with before | completes
      · exact absurd before unwritten
      · rw [session] at completes
        exact absurd ⟨key, review, under, completes⟩ kept
    | resolveReview key' decision notes adjustments =>
      obtain ⟨same, s₁, closed, reviews⟩ :=
        ManualSessionReviewService.resolve_records env key' decision notes adjustments s stored unwritten
      have about : key' = key := same.symm.trans session
      subst about
      refine ⟨⟨decision, notes, adjustments, rfl⟩, ?_⟩
      obtain ⟨r, resolved⟩ := ManualSessionReviewService.closeReview_only closed under fun other open' => by
        by_contra different
        exact kept ⟨ManualSessionReviewService.closeReview_accepts closed, other, review, different, open',
          under⟩
      exact ⟨r, (congrArg (fun t => t.get? review) reviews).trans resolved.1, resolved.2⟩
    | _ => contradiction

/-- In every run whose steps neither complete a session under review by an event nor resolve one
of several reviews, every step keeps the gate. -/
theorem review_gate_kept (steps : List (Environment × Step))
    (kept : Along (fun env s step => ¬ step.Ungates env s) steps Store.empty) :
    Along (fun env s step => step.GateKept env s) steps Store.empty := by
  have general : ∀ s, Gated s → Along (fun env s step => ¬ step.Ungates env s) steps s →
      Along (fun env s step => step.GateKept env s) steps s := by
    clear kept
    induction steps with
    | nil => exact fun _ _ _ => trivial
    | cons first rest ih =>
      intro s gated kept
      exact ⟨gate_kept gated first.1 first.2 kept.1, ih _ (gated_next gated first.1 first.2) kept.2⟩
  exact general _ ⟨billed_empty, within_empty _ trivial⟩ kept

end Step

/-! ### Runs of the deployment -/

namespace Deployment
open Tariffs

def flowEnvironment (now : Nat) : Environment :=
  { environment "2.0.1" 1 now with
    tariffVersions := [{ tariff with
      timeBasis := .energyFlow
      components := tariff.components.map fun c => { c with dimension := .time } }] }

def sample (at' measurand unit : String) (value : Int) : Mixed :=
  .array [("timestamp", .string ("2026-03-01T" ++ at' ++ "Z")), ("measurand", .string measurand),
    ("unit", .string unit), ("value", .int value)]

/-- A transaction of a minute that ends without a power reading, and its review. -/
def underReview : List (Environment × Step) :=
  [(flowEnvironment 0, .event (statusReport "E0" "10:00:00" "available")),
    (flowEnvironment 1, .remoteStart "C1" "start-1" none none),
    (flowEnvironment 2, .event (transactionEvent "E1" "Started" "10:02:00"
      [("authorization_status", .string "Accepted"), register "10:02:00" 100])),
    (flowEnvironment 3, .event (transactionEvent "E2" "Ended" "10:03:00" [register "10:03:00" 2000])),
    (flowEnvironment 4, .openReview 0 "missing_energy_flow_evidence" none)]

/-- The end of the transaction is reported once more, with the power readings. -/
def stoppedAgain : Mixed :=
  transactionEvent "E3" "Ended" "10:03:00" [("samples", .array
    [("0", sample "10:02:00" "Power.Active.Import" "W" 7000),
      ("1", sample "10:03:00" "Power.Active.Import" "W" 7000),
      ("2", sample "10:03:00" "Energy.Active.Import.Register" "Wh" 2000)])]

def resolvedRun : List (Environment × Step) :=
  underReview ++ [(flowEnvironment 5, .resolveReview 0 "complete" "seen on site" {})]

end Deployment

namespace Step

def fewReviews (_ : Environment) (s : Store) : Step → Bool
  | event _ => s.reviews.entries.length = 0
  | resolveReview _ _ _ _ => s.reviews.entries.length ≤ 1
  | _ => true

theorem fewReviews_gate (env : Environment) (s : Store) (step : Step) (few : fewReviews env s step = true) :
    ¬ step.Ungates env s := by
  have listed : ∀ {key review}, UnderReview s key review → ∃ r, (review, r) ∈ s.reviews.entries := by
    intro key review under
    obtain ⟨r, stored, -⟩ := under.open'
    exact ⟨r, (Table.mem_entries _ _ _).mpr stored⟩
  cases step with
  | event =>
    rintro ⟨key, review, under, -⟩
    obtain ⟨r, member⟩ := listed under
    simp only [fewReviews, decide_eq_true_eq, List.length_eq_zero_iff] at few
    rw [few] at member
    contradiction
  | resolveReview =>
    rintro ⟨-, review, other, different, under, under'⟩
    obtain ⟨r, member⟩ := listed under
    obtain ⟨r', member'⟩ := listed under'
    simp only [fewReviews, decide_eq_true_eq] at few
    rcases rows : s.reviews.entries with _ | ⟨first, _ | ⟨second, rest⟩⟩
    · rw [rows] at member
      contradiction
    · rw [rows, List.mem_singleton] at member member'
      exact different (congrArg Prod.fst (member.trans member'.symm))
    · rw [rows] at few
      simp at few
  | _ => exact id

set_option maxRecDepth 20000 in
theorem review_gate_kept_resolved :
    Along (fun env s step => step.GateKept env s) Deployment.resolvedRun Store.empty :=
  review_gate_kept _ (along_of_check fewReviews_gate _ _ (by decide +kernel))

set_option maxRecDepth 20000 in
/-- The second stop completes the session, and its review stays open. -/
theorem stop_completes_under_review :
    ¬ (Step.event Deployment.stoppedAgain).GateKept (Deployment.flowEnvironment 5)
      (run Deployment.underReview Store.empty) := by
  have facts : ((run Deployment.underReview Store.empty).sessions.get? 0).any
        (fun q => q.state = .reviewRequired) = true ∧
      ((run Deployment.underReview Store.empty).reviews.get? 0).any
        (fun r => r.sessionId = 0 && !r.resolved) = true ∧
      ((next (Deployment.flowEnvironment 5) (.event Deployment.stoppedAgain)
        (run Deployment.underReview Store.empty)).sessions.get? 0).any
          (fun q => q.state = .completed) = true := by decide +kernel
  intro kept
  generalize run Deployment.underReview Store.empty = s at facts kept
  obtain ⟨waiting, opened, completed⟩ := facts
  obtain ⟨q, stored, state⟩ := (Option.any_eq_true _ _).mp waiting
  obtain ⟨r, held, open'⟩ := (Option.any_eq_true _ _).mp opened
  obtain ⟨q', stored', state'⟩ := (Option.any_eq_true _ _).mp completed
  simp only [Bool.and_eq_true, decide_eq_true_eq, Bool.not_eq_true'] at open'
  obtain ⟨⟨_, _, _, resolution⟩, -⟩ := kept 0 0 ⟨⟨q, stored, by simpa using state⟩, r, held, open'.1, open'.2⟩
    (Or.inl ⟨q', stored', by simpa using state'⟩)
  contradiction

end Step
end VtsaCsms.Charging
