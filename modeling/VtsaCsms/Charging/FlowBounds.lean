import VtsaCsms.Charging.EnergyFlow

/-!
# Bounds of energy-flow time

`EnergyFlowDuration::measure` counts parts of the time between its readings only: never more than the
session lasted, nothing of an interval that a pause touches, and no more when more pauses are known.
-/
namespace VtsaCsms.Charging
open Foundation Assets
namespace EnergyFlowDuration

/-! ### Rows that come in between -/

/-- The second list is the first one with more elements in any places, all with the property. -/
inductive Interspersed {α : Type} (P : α → Prop) : List α → List α → Prop where
  | nil : Interspersed P [] []
  | keep (x : α) {l l' : List α} : Interspersed P l l' → Interspersed P (x :: l) (x :: l')
  | more {x : α} {l l' : List α} : P x → Interspersed P l l' → Interspersed P l (x :: l')

namespace Interspersed
variable {α β : Type} {P : α → Prop} {l l' : List α}

theorem refl (l : List α) : Interspersed P l l := by
  induction l with
  | nil => exact .nil
  | cons x _ ih => exact .keep x ih

theorem mem (mixed : Interspersed P l l') {x : α} (member : x ∈ l) : x ∈ l' := by
  induction mixed with
  | nil => exact member
  | keep y _ ih =>
    rcases List.mem_cons.mp member with rfl | later
    · exact List.mem_cons_self
    · exact List.mem_cons_of_mem _ (ih later)
  | more _ _ ih => exact List.mem_cons_of_mem _ (ih member)

theorem append {rest : List α} (all : ∀ x ∈ rest, P x) (l : List α) : Interspersed P l (l ++ rest) := by
  induction l with
  | nil =>
    induction rest with
    | nil => exact .nil
    | cons _ _ ih =>
      obtain ⟨first, later⟩ := List.forall_mem_cons.mp all
      exact .more first (ih later)
  | cons x _ ih => exact .keep x ih

theorem filter (mixed : Interspersed P l l') (p : α → Bool) : Interspersed P (l.filter p) (l'.filter p) := by
  induction mixed with
  | nil => exact .nil
  | keep x _ ih =>
    rw [List.filter_cons, List.filter_cons]
    split
    · exact .keep x ih
    · exact ih
  | more holds _ ih =>
    rw [List.filter_cons]
    split
    · exact .more holds ih
    · exact ih

theorem getLast? (mixed : Interspersed P l l') : l'.getLast? = l.getLast? ∨ ∃ x, l'.getLast? = some x ∧ P x := by
  induction mixed with
  | nil => exact Or.inl rfl
  | @keep x l l' mixed ih =>
    cases mixed with
    | nil => exact Or.inl rfl
    | keep => simpa [List.getLast?_cons_cons] using ih
    | @more y _ l' holds mixed =>
      rw [List.getLast?_cons_cons]
      cases l with
      | cons => rwa [List.getLast?_cons_cons]
      | nil =>
        rcases ih with none | last
        · simp at none
        · exact Or.inr last
  | @more x l l' holds mixed ih =>
    cases l' with
    | nil => exact Or.inr ⟨x, rfl, holds⟩
    | cons => rwa [List.getLast?_cons_cons]

theorem insert {f : α → Instant} (mixed : Interspersed P l l') (sorted : l'.Pairwise fun a b => f a ≤ f b) (x : α) :
    Interspersed P (l.orderedInsert (fun a b => f a ≤ f b) x) (l'.orderedInsert (fun a b => f a ≤ f b) x) := by
  induction mixed with
  | nil => exact .refl _
  | keep y mixed ih =>
    rw [List.orderedInsert, List.orderedInsert]
    split
    · exact .keep x (.keep y mixed)
    · exact .keep y (ih (List.Pairwise.of_cons sorted))
  | @more y l l' holds mixed ih =>
    rw [List.orderedInsert]
    split
    · -- the element comes first in both lists
      rename_i first
      cases l with
      | nil => exact .keep x (.more holds mixed)
      | cons z =>
        have later := List.rel_of_pairwise_cons sorted (mixed.mem List.mem_cons_self)
        rw [List.orderedInsert, if_pos (le_trans first later)]
        exact .keep x (.more holds mixed)
    · exact .more holds (ih (List.Pairwise.of_cons sorted))

theorem insertMore {r : α → α → Prop} [DecidableRel r] (mixed : Interspersed P l l') {x : α} (holds : P x) :
    Interspersed P l (l'.orderedInsert r x) := by
  induction mixed with
  | nil => exact .more holds .nil
  | keep y mixed ih =>
    rw [List.orderedInsert]
    split
    · exact .more holds (.keep y mixed)
    · exact .keep y ih
  | more holds' mixed ih =>
    rw [List.orderedInsert]
    split
    · exact .more holds (.more holds' mixed)
    · exact .more holds' ih

theorem order {f : α → Instant} (mixed : Interspersed P l l') : Interspersed P (orderedBy f l) (orderedBy f l') := by
  have sorted (l : List α) : (l.insertionSort fun a b => f a ≤ f b).Pairwise fun a b => f a ≤ f b :=
    List.pairwise_insertionSort (fun a b : α => f a ≤ f b) l
  unfold orderedBy
  induction mixed with
  | nil => exact .nil
  | keep x _ ih => exact ih.insert (sorted _) x
  | more holds _ ih => exact ih.insertMore holds

theorem map {Q : β → Prop} {f : α → β} (mixed : Interspersed P l l') (image : ∀ x, P x → Q (f x)) :
    Interspersed Q (l.map f) (l'.map f) := by
  induction mixed with
  | nil => exact .nil
  | keep x _ ih => exact .keep (f x) ih
  | more holds _ ih => exact .more (image _ holds) ih

theorem mapM {ε : Type} {Q : β → Prop} {f : α → Except ε β} {read read' : List β} (mixed : Interspersed P l l')
    (image : ∀ x y, P x → f x = .ok y → Q y) (all : l.mapM f = .ok read) (all' : l'.mapM f = .ok read') :
    Interspersed Q read read' := by
  induction mixed generalizing read read' with
  | nil =>
    cases all
    cases all'
    exact .nil
  | keep x _ ih =>
    obtain ⟨y, ys, first, rest, rfl⟩ := mapM_ok_cons.mp all
    obtain ⟨y', ys', first', rest', rfl⟩ := mapM_ok_cons.mp all'
    cases first.symm.trans first'
    exact .keep y (ih rest rest')
  | more holds _ ih =>
    obtain ⟨y, ys, first, rest, rfl⟩ := mapM_ok_cons.mp all'
    exact .more (image _ _ holds first) (ih all rest)

end Interspersed

/-! ### The time between the readings -/

variable {env : Environment} {store store' : Store} {session : ChargingSession} {startedAt : Instant} {key : Nat}
  {reports reports' : List StatusReport} {gap : Int} {groups : List (Instant × Option Int)} {flow : Flow}

theorem diffInSeconds_add {a b c : Instant} (first : a ≤ b) (later : b ≤ c) :
    Instant.diffInSeconds a b + Instant.diffInSeconds b c ≤ Instant.diffInSeconds a c := by
  unfold Instant.diffInSeconds
  rw [Int.tdiv_eq_ediv_of_nonneg (Int.sub_nonneg_of_le first), Int.tdiv_eq_ediv_of_nonneg (Int.sub_nonneg_of_le later),
    Int.tdiv_eq_ediv_of_nonneg (Int.sub_nonneg_of_le (le_trans first later))]
  have parts : ∀ m n : Int, m / 1000000 + n / 1000000 ≤ (m + n) / 1000000 := fun _ _ => by omega
  have whole := parts (b - a) (c - b)
  rwa [sub_add_sub_cancel'] at whole

theorem flowBetween_le {a b : Instant × Option Int} (later : a.1 ≤ b.1) :
    flowBetween reports gap a b ≤ Instant.diffInSeconds a.1 b.1 := by
  unfold flowBetween
  split
  · exact le_refl _
  · exact diffInSeconds_nonneg later

theorem flowSeconds_le {stop : Instant} {first : Instant × Option Int}
    (sorted : (first :: groups).Pairwise fun a b => a.1 ≤ b.1) (before : ∀ g ∈ first :: groups, g.1 ≤ stop) :
    flowSeconds reports gap (first :: groups) ≤ Instant.diffInSeconds first.1 stop := by
  induction groups generalizing first with
  | nil => exact diffInSeconds_nonneg (before first List.mem_cons_self)
  | cons second groups ih =>
    obtain ⟨head, rest⟩ := List.pairwise_cons.mp sorted
    have next := head second List.mem_cons_self
    obtain ⟨-, before⟩ := List.forall_mem_cons.mp before
    rw [flowSeconds_cons_cons]
    exact (Int.add_le_add (flowBetween_le next) (ih rest before)).trans
      (diffInSeconds_add next (before second List.mem_cons_self))

theorem flowSeconds_nonneg (reports : List StatusReport) (gap : Int) (groups : List (Instant × Option Int)) :
    0 ≤ flowSeconds reports gap groups := by
  refine List.sum_nonneg fun n member => ?_
  obtain ⟨p, -, rfl⟩ := List.mem_map.mp member
  exact flowBetween_nonneg reports gap p.1 p.2

theorem flowSeconds_window : flowSeconds reports gap (powerGroups env store key session startedAt) ≤
    max 0 (Instant.diffInSeconds startedAt (flowEnd env session)) := by
  have sorted : (powerGroups env store key session startedAt).Pairwise fun a b => a.1 ≤ b.1 := powerGroups_sorted
  have window : ∀ g ∈ powerGroups env store key session startedAt, startedAt ≤ g.1 ∧ g.1 ≤ flowEnd env session :=
    fun g member => powerGroups_window member
  cases split : powerGroups env store key session startedAt with
  | nil => exact le_max_left _ _
  | cons first groups =>
    rw [split] at sorted window
    obtain ⟨started, ended⟩ := window first List.mem_cons_self
    have parts : flowSeconds reports gap (first :: groups) ≤ Instant.diffInSeconds first.1 (flowEnd env session) :=
      flowSeconds_le sorted fun g member => (window g member).2
    have earlier := diffInSeconds_add started ended
    have nonneg := diffInSeconds_nonneg started
    exact parts.trans (le_trans (by omega) (le_max_right _ _))

/-! ### More pauses -/

theorem pausedAt_of_more (mixed : Interspersed (fun r : StatusReport => r.charging = false) reports reports')
    {instant : Instant} (paused : pausedAt reports instant = true) : pausedAt reports' instant = true := by
  unfold pausedAt at paused ⊢
  rcases (mixed.filter fun r => r.occurredAt ≤ instant).getLast? with same | ⟨r, last, pauses⟩
  · rwa [same]
  · rw [last]
    simp [pauses]

theorem uninterrupted_of_more (mixed : Interspersed (fun r : StatusReport => r.charging = false) reports reports')
    {a b : Instant} (free : uninterrupted reports' a b = true) : uninterrupted reports a b = true := by
  simp only [uninterrupted, Bool.and_eq_true, Bool.not_eq_true', List.all_eq_true] at free ⊢
  obtain ⟨⟨first, second⟩, between⟩ := free
  refine ⟨⟨?_, ?_⟩, fun r member => between r (mixed.mem member)⟩
  · exact Bool.eq_false_iff.mpr fun paused => by simp [pausedAt_of_more mixed paused] at first
  · exact Bool.eq_false_iff.mpr fun paused => by simp [pausedAt_of_more mixed paused] at second

theorem flowSeconds_of_more (mixed : Interspersed (fun r : StatusReport => r.charging = false) reports reports') :
    flowSeconds reports' gap groups ≤ flowSeconds reports gap groups := by
  refine List.sum_le_sum fun p _ => ?_
  by_cases flows : Powered gap p.1 p.2 ∧ uninterrupted reports' p.1.1 p.2.1 = true
  · rw [flowBetween, flowBetween, if_pos flows, if_pos ⟨flows.1, uninterrupted_of_more mixed flows.2⟩]
  · rw [flowBetween, if_neg flows]
    exact flowBetween_nonneg reports gap p.1 p.2

/-- An event that says nothing, or that the connector does not charge. -/
def SaysNotCharging (env : Environment) (e : InboundOcppEvent) : Prop :=
  ∀ r, reportOf env e = .ok r → r.charging = false

theorem statusReports_more {added : List (String × InboundOcppEvent)} (adds : Added added store store')
    (pauses : ∀ row ∈ added, SaysNotCharging env row.2) (read : statusReports env store session startedAt = .ok reports)
    (read' : statusReports env store' session startedAt = .ok reports') :
    Interspersed (fun r : StatusReport => r.charging = false) reports reports' := by
  rw [statusReports_eq] at read read'
  refine Interspersed.mapM (P := SaysNotCharging env) ?_ (fun e r silent there => silent r there) read read'
  unfold reportRows Table.rowsWhere
  rw [adds.entries]
  refine Interspersed.order (Interspersed.map (P := fun row : String × InboundOcppEvent => SaysNotCharging env row.2)
    (Interspersed.filter (Interspersed.append pauses _) _) fun _ holds => holds)

/-! ### Complete evidence -/

/-- Complete evidence reaches from the start over every reading to the end without a step that is too long. -/
theorem walk_near {stoppedAt : Option Instant} {a : Instant} {power : Int}
    (complete : (walk reports gap groups a power flow).2.complete = true)
    (last : ∀ stop ∈ stoppedAt, Instant.diffInSeconds (walk reports gap groups a power flow).1 stop ≤ gap) :
    flow.complete = true ∧ ∀ p ∈ consecutive (a :: (groups.map Prod.fst ++ stoppedAt.toList)),
      Instant.diffInSeconds p.1 p.2 ≤ gap := by
  induction groups generalizing a power flow with
  | nil =>
    refine ⟨complete, ?_⟩
    cases stoppedAt with
    | none => exact fun _ none => by cases none
    | some stop =>
      intro p member
      cases List.mem_singleton.mp member
      exact last stop rfl
  | cons b groups ih =>
    obtain ⟨b, value⟩ := b
    rw [walk] at complete last
    obtain ⟨kept, near⟩ := ih complete last
    split at kept
    · cases kept
    · rename_i admitted
      simp only [not_or, not_lt] at admitted
      refine ⟨by split at kept <;> exact kept, ?_⟩
      rw [List.map_cons, List.cons_append, consecutive_cons_cons]
      exact List.forall_mem_cons.mpr ⟨admitted.2, near⟩

/-! ### Conservative time -/

/-- The pause at the start of an interval or within it, or a reading that comes too late. -/
def Excluded (reports : List StatusReport) (gap : Int) (a b : Instant) : Prop :=
  pausedAt reports a = true ∨ (∃ r ∈ reports, r.charging = false ∧ a ≤ r.occurredAt ∧ r.occurredAt ≤ b) ∨
    gap < Instant.diffInSeconds a b

/-- What is known of a measurement, given the reports of its window. -/
structure Conservative (env : Environment) (store : Store) (key : Nat) (session : ChargingSession) (startedAt : Instant)
    (reports : List StatusReport) (flow : Flow) : Prop where
  nonneg : 0 ≤ flow.seconds
  elapsed : flow.seconds ≤ max 0 (Instant.diffInSeconds startedAt (flowEnd env session))
  parts : ∃ part : Instant × Option Int → Instant × Option Int → Int,
    flow.seconds = ((consecutive (powerGroups env store key session startedAt)).map fun p => part p.1 p.2).sum ∧
    ∀ p ∈ consecutive (powerGroups env store key session startedAt),
      (part p.1 p.2 = 0 ∨ part p.1 p.2 = Instant.diffInSeconds p.1.1 p.2.1) ∧
      (Excluded reports session.tariffSnapshot.energyFlowMaxGapSeconds p.1.1 p.2.1 → part p.1 p.2 = 0)
  antitone : ∀ added store' flow', Added added store store' → (∀ row ∈ added, SaysNotCharging env row.2) →
    measure env store' key session = .ok flow' → flow'.seconds ≤ flow.seconds
  near : flow.complete = true → ∀ p ∈ consecutive
      (startedAt :: ((powerGroups env store key session startedAt).map Prod.fst ++ session.stoppedAt.toList)),
    Instant.diffInSeconds p.1 p.2 ≤ session.tariffSnapshot.energyFlowMaxGapSeconds

theorem flowBetween_excluded {p : (Instant × Option Int) × (Instant × Option Int)}
    (excluded : Excluded reports gap p.1.1 p.2.1) : flowBetween reports gap p.1 p.2 = 0 := by
  refine if_neg ?_
  rintro ⟨⟨within, -⟩, free⟩
  rcases excluded with paused | ⟨r, there, pauses, after, before⟩ | far
  · simp [uninterrupted, paused] at free
  · simp [interrupted_of_pause there pauses after before] at free
  · exact absurd within (not_le.mpr far)

/-- A session that has not started has no time, and the time of one that has is conservative. -/
theorem measure_conservative (measured : measure env store key session = .ok flow) :
    (session.startedAt = none → flow = ⟨0, false⟩) ∧ ∀ startedAt, session.startedAt = some startedAt →
      ∃ reports, statusReports env store session startedAt = .ok reports ∧
        Conservative env store key session startedAt reports flow := by
  constructor
  · intro unstarted
    unfold measure at measured
    rw [unstarted] at measured
    exact (Except.ok.inj measured).symm
  · intro startedAt started
    rw [measure_eq env store key started] at measured
    cases read : statusReports env store session startedAt with
    | error => simp [read, Except.map] at measured
    | ok reports =>
      rw [read] at measured
      cases measured
      refine ⟨reports, rfl, { nonneg := flowSeconds_nonneg _ _ _, elapsed := flowSeconds_window, parts := ?_,
                              antitone := ?_, near := ?_ }⟩
      · refine ⟨flowBetween reports session.tariffSnapshot.energyFlowMaxGapSeconds, rfl,
          fun p _ => ⟨?_, flowBetween_excluded⟩⟩
        unfold flowBetween
        split
        · exact Or.inr rfl
        · exact Or.inl rfl
      · intro added store' flow' adds pauses measured'
        rw [measure_eq env store' key started, powerGroups_added adds] at measured'
        cases read' : statusReports env store' session startedAt with
        | error => simp [read', Except.map] at measured'
        | ok reports' =>
          rw [read'] at measured'
          cases measured'
          exact flowSeconds_of_more (statusReports_more adds pauses read read')
      · intro complete
        simp only [evidenceComplete, Bool.and_eq_true, Bool.not_eq_true'] at complete
        refine (walk_near complete.1 fun stop stopped => ?_).2
        rw [Option.mem_def.mp stopped] at complete
        simpa using complete.2

set_option maxRecDepth 20000 in
theorem measure_conservative_charged : ∃ session startedAt flow reports,
    (flowing (Deployment.environment "2.0.1" 1)).sessions.get? 0 = some session ∧ session.startedAt = some startedAt ∧
    flow.seconds = 60 ∧ Conservative (Deployment.environment "2.0.1" 1 3) (flowing (Deployment.environment "2.0.1" 1)) 0
      session startedAt reports flow := by
  have facts : flowOf (Deployment.environment "2.0.1" 1 3) (flowing (Deployment.environment "2.0.1" 1)) =
        some ⟨60, true⟩ ∧
      ((flowing (Deployment.environment "2.0.1" 1)).sessions.get? 0).all (fun session => session.startedAt.isSome) =
        true := by
    decide +kernel
  generalize flowing (Deployment.environment "2.0.1" 1) = store at facts ⊢
  obtain ⟨session, stored, measured⟩ := flowOf_some facts.1
  have there := facts.2
  rw [stored] at there
  obtain ⟨startedAt, started⟩ := Option.isSome_iff_exists.mp there
  obtain ⟨reports, -, conservative⟩ := (measure_conservative measured).2 startedAt started
  exact ⟨session, startedAt, _, reports, stored, started, rfl, conservative⟩

def rewound : Store :=
  Step.run [(Deployment.environment "2.0.1" 1 3, .event (Deployment.transactionEvent "E1" "Started" "10:02:00"
      [("authorization_status", .string "Accepted"), powerSample "10:02:00"])),
    (Deployment.environment "2.0.1" 1 4, .event (Deployment.transactionEvent "E2" "Ended" "10:01:00" []))] Store.empty

/-- The minute of charging, a minute after the connector was reported as occupied. -/
def occupiedBefore : Store :=
  Step.run ((Deployment.environment "2.0.1" 1 1, .event (Deployment.statusReport "E0" "10:01:00" "Occupied")) ::
    chargedMinute (Deployment.environment "2.0.1" 1)) Store.empty

set_option maxRecDepth 20000 in
/-- No time is not less than a negative one, and what was reported before the start is not looked at. -/
theorem rewound_exceeds : (∃ session flow, rewound.sessions.get? 0 = some session ∧
      measure (Deployment.environment "2.0.1" 1 4) rewound 0 session = .ok flow ∧
      session.startedAt.any (fun startedAt => session.stoppedAt.any fun stoppedAt =>
        Instant.diffInSeconds startedAt stoppedAt < flow.seconds) = true) ∧
    ∃ session flow, occupiedBefore.sessions.get? 0 = some session ∧
      measure (Deployment.environment "2.0.1" 1 3) occupiedBefore 0 session = .ok flow ∧ flow.seconds = 60 ∧
      session.startedAt.any (fun startedAt => occupiedBefore.inbound.entries.any fun row =>
        row.2.aggregateId = session.chargingStationId &&
        row.2.eventType = "gateway.ocpp.status_notification.received.v1" && row.2.outcome = .processed &&
        ((row.2.payload.get "data").get "status").string? = some "Occupied" &&
        row.2.occurredAt < startedAt) = true := by
  have facts : flowOf (Deployment.environment "2.0.1" 1 4) rewound = some ⟨0, false⟩ ∧
      (rewound.sessions.get? 0).all (fun session => session.startedAt.any fun startedAt =>
        session.stoppedAt.any fun stoppedAt => Instant.diffInSeconds startedAt stoppedAt < 0) = true := by
    decide +kernel
  have facts' : flowOf (Deployment.environment "2.0.1" 1 3) occupiedBefore = some ⟨60, true⟩ ∧
      (occupiedBefore.sessions.get? 0).all (fun session => session.startedAt.any fun startedAt =>
        occupiedBefore.inbound.entries.any fun row => row.2.aggregateId = session.chargingStationId &&
          row.2.eventType = "gateway.ocpp.status_notification.received.v1" && row.2.outcome = .processed &&
          ((row.2.payload.get "data").get "status").string? = some "Occupied" && row.2.occurredAt < startedAt) = true := by
    decide +kernel
  generalize rewound = store at facts ⊢
  generalize occupiedBefore = store' at facts' ⊢
  obtain ⟨session, stored, measured⟩ := flowOf_some facts.1
  obtain ⟨session', stored', measured'⟩ := flowOf_some facts'.1
  have back := facts.2
  have before := facts'.2
  rw [stored] at back
  rw [stored'] at before
  exact ⟨⟨session, _, stored, measured, back⟩, session', _, stored', measured', rfl, before⟩

end EnergyFlowDuration
end VtsaCsms.Charging
