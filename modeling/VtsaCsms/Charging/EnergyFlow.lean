import Mathlib.Data.Fintype.EquivFin
import VtsaCsms.Foundation.Amounts
import VtsaCsms.Charging.System

/-!
# Energy-flow time

`EnergyFlowDuration::measure` adds up the time between consecutive power readings, where nothing
that was reported of the connector interrupts it. Which reports those are is a matter of their
connector number alone.
-/
namespace VtsaCsms.Charging
open Foundation Assets
namespace EnergyFlowDuration

/-! ### What `measure` adds up -/

/-- The elements of a list next to each other. -/
def consecutive {α : Type} (l : List α) : List (α × α) := l.zip l.tail

@[simp] theorem consecutive_cons_cons {α : Type} (a b : α) (l : List α) :
    consecutive (a :: b :: l) = (a, b) :: consecutive (b :: l) := rfl

/-- Two reading times between which energy flows, as far as the readings tell. -/
def Powered (gap : Int) (a b : Instant × Option Int) : Prop :=
  Instant.diffInSeconds a.1 b.1 ≤ gap ∧ 0 < Instant.diffInSeconds a.1 b.1 ∧ 0 < a.2.getD 0 ∧ 0 < b.2.getD 0

instance (gap : Int) (a b : Instant × Option Int) : Decidable (Powered gap a b) :=
  inferInstanceAs (Decidable (_ ∧ _))

/-- No report says that the connector pauses at one of the instants or between them. -/
def uninterrupted (reports : List StatusReport) (a b : Instant) : Bool :=
  !pausedAt reports a && !pausedAt reports b &&
    reports.all fun r => r.charging || !decide (a ≤ r.occurredAt) || !decide (r.occurredAt ≤ b)

/-- The seconds that count between two reading times. -/
def flowBetween (reports : List StatusReport) (gap : Int) (a b : Instant × Option Int) : Int :=
  if Powered gap a b ∧ uninterrupted reports a.1 b.1 = true then Instant.diffInSeconds a.1 b.1 else 0

def flowSeconds (reports : List StatusReport) (gap : Int) (groups : List (Instant × Option Int)) : Int :=
  ((consecutive groups).map fun p => flowBetween reports gap p.1 p.2).sum

variable {reports : List StatusReport} {gap : Int} {groups : List (Instant × Option Int)}

theorem flowSeconds_cons_cons (a b : Instant × Option Int) (groups : List (Instant × Option Int)) :
    flowSeconds reports gap (a :: b :: groups) = flowBetween reports gap a b + flowSeconds reports gap (b :: groups) := by
  simp [flowSeconds]

theorem flowBetween_nonneg (reports : List StatusReport) (gap : Int) (a b : Instant × Option Int) :
    0 ≤ flowBetween reports gap a b := by
  unfold flowBetween
  split
  · rename_i flows
    exact le_of_lt flows.1.2.1
  · exact le_refl 0

theorem walk_condition (reports : List StatusReport) (a b : Instant) (p q : Int) :
    (!pausedAt reports b && !pausedAt reports a && decide (0 < Instant.diffInSeconds a b) && decide (0 < p) &&
        decide (0 < q) &&
        !(reports.any fun r => !r.charging && decide (a ≤ r.occurredAt) && decide (r.occurredAt ≤ b))) = true ↔
      (0 < Instant.diffInSeconds a b ∧ 0 < p ∧ 0 < q) ∧ uninterrupted reports a b = true := by
  have pauses : (!(reports.any fun r => !r.charging && decide (a ≤ r.occurredAt) && decide (r.occurredAt ≤ b))) =
      reports.all fun r => r.charging || !decide (a ≤ r.occurredAt) || !decide (r.occurredAt ≤ b) := by
    simp [List.not_any_eq_all_not]
  rw [pauses, uninterrupted]
  simp only [Bool.and_eq_true, Bool.not_eq_true', decide_eq_true_eq]
  tauto

theorem walk_seconds (reports : List StatusReport) (gap : Int) (groups : List (Instant × Option Int)) (a : Instant)
    (value : Option Int) (flow : Flow) :
    (walk reports gap groups a (value.getD 0) flow).2.seconds =
      flow.seconds + flowSeconds reports gap ((a, value) :: groups) := by
  induction groups generalizing a value flow with
  | nil => simp [walk, flowSeconds, consecutive]
  | cons b groups ih =>
    obtain ⟨b, value'⟩ := b
    have counted := walk_condition reports a b (value.getD 0) (value'.getD 0)
    rw [walk, ih, flowSeconds_cons_cons, ← Int.add_assoc]
    congr 1
    unfold flowBetween Powered
    split
    · rename_i excluded
      rw [if_neg]
      · simp
      · rintro ⟨⟨within, -, -, power⟩, -⟩
        rcases excluded with none | far
        · simp [none] at power
        · exact absurd within (not_le.mpr far)
    · rename_i admitted
      simp only [not_or, not_lt] at admitted
      simp only [counted]
      by_cases flows : (0 < Instant.diffInSeconds a b ∧ 0 < value.getD 0 ∧ 0 < value'.getD 0) ∧
          uninterrupted reports a b = true
      · rw [if_pos flows, if_pos ⟨⟨admitted.2, flows.1⟩, flows.2⟩]
      · rw [if_neg flows, if_neg fun powered => flows ⟨powered.1.2, powered.2⟩, Int.add_zero]

theorem walk_readings (gap : Int) (reports reports' : List StatusReport) (groups : List (Instant × Option Int))
    (a : Instant) (power : Int) {flow flow' : Flow} (same : flow.complete = flow'.complete) :
    (walk reports gap groups a power flow).1 = (walk reports' gap groups a power flow').1 ∧
      (walk reports gap groups a power flow).2.complete = (walk reports' gap groups a power flow').2.complete := by
  induction groups generalizing a power flow flow' with
  | nil => exact ⟨rfl, same⟩
  | cons b _ ih =>
    obtain ⟨b, value⟩ := b
    rw [walk, walk]
    refine ih b (value.getD 0) ?_
    split
    · rfl
    · split <;> split <;> exact same

/-- The connector number that the reports of a session are selected by. -/
def countedNumber (env : Environment) (session : ChargingSession) : Option Int :=
  session.tariffSnapshot.connectorNumber.or
    ((ConnectorSnapshotQuery.byId env.register session.connectorId).map ConnectorSnapshot.connectorNumber)

/-- The last instant that belongs to a session. -/
def flowEnd (env : Environment) (session : ChargingSession) : Instant := session.stoppedAt.getD env.now.toSecond

/-- The aggregate power readings of a session. -/
def powerRows (env : Environment) (store : Store) (key : Nat) (session : ChargingSession) (startedAt : Instant) :
    List (Nat × MeterReading) :=
  store.readings.rowsWhere fun _ r =>
    r.sessionId = key && r.measurand = "Power.Active.Import" && r.unit = "W" && r.phase = none &&
      startedAt ≤ r.sampledAt && r.sampledAt ≤ flowEnd env session

/-- The power at each reading time, in order; none where the readings disagree. -/
def powerGroups (env : Environment) (store : Store) (key : Nat) (session : ChargingSession) (startedAt : Instant) :
    List (Instant × Option Int) :=
  groupByInstant (orderedBy MeterReading.sampledAt ((powerRows env store key session startedAt).map Prod.snd))

/-- Whether the readings are complete evidence; reports have no part in it. -/
def evidenceComplete (session : ChargingSession) (startedAt : Instant) (groups : List (Instant × Option Int)) : Bool :=
  let gap := session.tariffSnapshot.energyFlowMaxGapSeconds
  let walked := walk [] gap groups startedAt 0 ⟨0, 2 ≤ groups.length⟩
  walked.2.complete && !session.stoppedAt.any fun stoppedAt => gap < Instant.diffInSeconds walked.1 stoppedAt

/-- `measure` is one sum over the readings and the reports, and one judgement of the readings. -/
theorem measure_eq (env : Environment) (store : Store) (key : Nat) {session : ChargingSession} {startedAt : Instant}
    (started : session.startedAt = some startedAt) :
    measure env store key session = (statusReports env store session startedAt).map fun reports =>
      ⟨flowSeconds reports session.tariffSnapshot.energyFlowMaxGapSeconds
          (powerGroups env store key session startedAt),
        evidenceComplete session startedAt (powerGroups env store key session startedAt)⟩ := by
  have start (reports : List StatusReport) (gap : Int) (groups : List (Instant × Option Int)) :
      flowSeconds reports gap ((startedAt, none) :: groups) = flowSeconds reports gap groups := by
    cases groups with
    | nil => rfl
    | cons => simp [flowSeconds_cons_cons, flowBetween, Powered]
  unfold measure
  simp only [started]
  cases statusReports env store session startedAt with
  | error => rfl
  | ok reports =>
    have groups : groupByInstant (orderedBy MeterReading.sampledAt ((store.readings.rowsWhere fun _ r =>
        r.sessionId = key && r.measurand = "Power.Active.Import" && r.unit = "W" && r.phase = none &&
          startedAt ≤ r.sampledAt && r.sampledAt ≤ session.stoppedAt.getD env.now.toSecond).map Prod.snd)) =
        powerGroups env store key session startedAt := rfl
    simp only [bind, Except.bind, Except.map, groups]
    generalize powerGroups env store key session startedAt = groups
    have seconds := walk_seconds reports session.tariffSnapshot.energyFlowMaxGapSeconds groups startedAt none
      ⟨0, 2 ≤ groups.length⟩
    have readings := walk_readings session.tariffSnapshot.energyFlowMaxGapSeconds reports [] groups startedAt 0
      (rfl : (⟨0, 2 ≤ groups.length⟩ : Flow).complete = _)
    rw [start, Int.zero_add] at seconds
    change (walk reports session.tariffSnapshot.energyFlowMaxGapSeconds groups startedAt 0 _).2.seconds = _ at seconds
    simp only [evidenceComplete, ← seconds, ← readings.1, ← readings.2]
    generalize walk reports _ groups startedAt 0 _ = out
    obtain ⟨lastAt, flow⟩ := out
    cases session.stoppedAt with
    | none => simp [pure, Except.pure]
    | some stoppedAt =>
      by_cases far : session.tariffSnapshot.energyFlowMaxGapSeconds < Instant.diffInSeconds lastAt stoppedAt
      · simp [pure, Except.pure, far]
      · simp [pure, Except.pure, far]

/-! ### The reports -/

/-- The processed status events of a session's window with its connector number, in order. -/
def reportRows (env : Environment) (store : Store) (session : ChargingSession) (startedAt : Instant) :
    List InboundOcppEvent :=
  orderedBy InboundOcppEvent.occurredAt ((store.inbound.rowsWhere fun _ e =>
    e.aggregateId = session.chargingStationId &&
      e.eventType = "gateway.ocpp.status_notification.received.v1" && e.outcome = .processed &&
      startedAt ≤ e.occurredAt && e.occurredAt ≤ flowEnd env session && (e.payload.get "data").isArray &&
      sameNumber ((e.payload.get "data").get "connector_id") (countedNumber env session)).map Prod.snd)

def reportOf (env : Environment) (e : InboundOcppEvent) : Except Throwable StatusReport := do
  let status ← (((e.payload.get "data").get "status").orElse (.string "")).toText env.floatText
  pure ⟨e.occurredAt, strToLower status = "charging"⟩

variable {env : Environment} {store store' : Store} {session : ChargingSession} {startedAt : Instant}

theorem statusReports_eq :
    statusReports env store session startedAt = (reportRows env store session startedAt).mapM (reportOf env) := rfl

theorem reportOf_occurredAt (e : InboundOcppEvent) (r : StatusReport) (read : reportOf env e = .ok r) :
    r.occurredAt = e.occurredAt := by
  obtain ⟨_, -, same⟩ := bind_ok_iff.mp read
  cases same
  rfl

theorem statusReports_sorted (read : statusReports env store session startedAt = .ok reports) :
    reports.Pairwise fun a b => a.occurredAt ≤ b.occurredAt := by
  have sorted : (reportRows env store session startedAt).Pairwise fun a b => a.occurredAt ≤ b.occurredAt :=
    List.pairwise_insertionSort (fun a b : InboundOcppEvent => a.occurredAt ≤ b.occurredAt) _
  rw [statusReports_eq] at read
  have times := map_mapM_ok (g := StatusReport.occurredAt) (h := InboundOcppEvent.occurredAt) reportOf_occurredAt read
  rw [← List.pairwise_map (f := StatusReport.occurredAt) (R := (· ≤ ·)), times]
  exact List.pairwise_map.mpr sorted

/-- Where a report says that the connector charges, and none after it that it pauses, it does not pause. -/
theorem pausedAt_false {reports : List StatusReport} {r : StatusReport} {instant : Instant}
    (sorted : reports.Pairwise fun a b => a.occurredAt ≤ b.occurredAt) (member : r ∈ reports)
    (before : r.occurredAt ≤ instant)
    (charges : ∀ r' ∈ reports, r.occurredAt ≤ r'.occurredAt → r'.occurredAt ≤ instant → r'.charging = true) :
    pausedAt reports instant = false := by
  have seen : r ∈ reports.filter fun r => r.occurredAt ≤ instant := List.mem_filter.mpr ⟨member, by simpa using before⟩
  have sorted := sorted.filter fun r => decide (r.occurredAt ≤ instant)
  unfold pausedAt
  rcases List.eq_nil_or_concat' (reports.filter fun r => r.occurredAt ≤ instant) with none | ⟨earlier, last, split⟩
  · rw [none] at seen
    cases seen
  · have there : last ∈ reports.filter fun r => r.occurredAt ≤ instant := by simp [split]
    obtain ⟨stored, due⟩ := List.mem_filter.mp there
    have after : r.occurredAt ≤ last.occurredAt := by
      rw [split] at sorted seen
      rcases List.mem_append.mp seen with earlier | same
      · exact (List.pairwise_append.mp sorted).2.2 r earlier last (List.mem_singleton_self _)
      · exact le_of_eq (congrArg StatusReport.occurredAt (List.mem_singleton.mp same))
    rw [split]
    simp [charges last stored after (by simpa using due)]

variable {e : InboundOcppEvent}

theorem mem_reportRows :
    e ∈ reportRows env store session startedAt ↔ ∃ key, (key, e) ∈ store.inbound.entries ∧
      e.aggregateId = session.chargingStationId ∧
      e.eventType = "gateway.ocpp.status_notification.received.v1" ∧ e.outcome = .processed ∧
      startedAt ≤ e.occurredAt ∧ e.occurredAt ≤ flowEnd env session ∧ (e.payload.get "data").isArray = true ∧
      sameNumber ((e.payload.get "data").get "connector_id") (countedNumber env session) = true := by
  unfold reportRows orderedBy
  rw [List.mem_insertionSort, List.mem_map]
  simp [Table.rowsWhere, and_assoc]

/-! ### Reports of other connectors -/

/-- A status event names its connector by two numbers, in both protocols. -/
structure ReportedAs (e : InboundOcppEvent) (evseNumber connectorNumber : Int) (status : String) : Prop where
  evse : (e.payload.get "data").get "evse_id" = .int evseNumber
  connector : (e.payload.get "data").get "connector_id" = .int connectorNumber
  status : (e.payload.get "data").get "status" = .string status

/-- A processed status event of another connector of the session's station. -/
structure OtherReport (env : Environment) (session : ChargingSession) (e : InboundOcppEvent) : Prop where
  station : e.aggregateId = session.chargingStationId
  kind : e.eventType = "gateway.ocpp.status_notification.received.v1"
  processed : e.outcome = .processed
  reported : ∃ evseNumber connectorNumber status other,
    ReportedAs e evseNumber connectorNumber status ∧
    ConnectorSnapshotQuery.forGatewayEvent env.register session.chargingStationId (some evseNumber)
      (some connectorNumber) = some other ∧
    other.connectorId ≠ session.connectorId

/-- The same rows with some more inbound events. -/
structure Added (added : List (String × InboundOcppEvent)) (store store' : Store) : Prop where
  entries : store'.inbound.entries = store.inbound.entries ++ added
  others : store' = { store with inbound := store'.inbound }

theorem Added.readings {added : List (String × InboundOcppEvent)} (adds : Added added store store') :
    store'.readings = store.readings := by
  rw [adds.others]

theorem Added.refl (store : Store) : Added [] store store := ⟨by simp, rfl⟩

theorem added_put {key : String} (fresh : store.inbound.get? key = none) (e : InboundOcppEvent) :
    Added [(key, e)] store { store with inbound := store.inbound.put key e } := by
  refine ⟨?_, rfl⟩
  rw [Table.put, dif_pos fresh]
  rfl

theorem exists_added (events : List InboundOcppEvent) (store : Store) :
    ∃ added store', Added added store store' ∧ added.map Prod.snd = events := by
  induction events generalizing store with
  | nil => exact ⟨[], store, .refl store, rfl⟩
  | cons e _ ih =>
    obtain ⟨key, fresh⟩ := Infinite.exists_notMem_finset (store.inbound.entries.map Prod.fst).toFinset
    have unused : store.inbound.get? key = none := by
      cases there : store.inbound.get? key with
      | none => rfl
      | some =>
        have stored := (Table.mem_entries _ _ _).mpr there
        exact absurd (List.mem_toFinset.mpr (List.mem_map_of_mem (f := Prod.fst) stored)) fresh
    obtain ⟨added, store', adds, same⟩ := ih { store with inbound := store.inbound.insert key e unused }
    refine ⟨(key, e) :: added, store', ⟨?_, ?_⟩, by rw [List.map_cons, same]⟩
    · rw [adds.entries]
      simp [Table.insert]
    · rw [adds.others]

/-- Another connector of the station reports under the number that the session's reports are selected by. -/
def SharesNumber (env : Environment) (session : ChargingSession) : Prop :=
  ∃ evseNumber number other,
    ConnectorSnapshotQuery.forGatewayEvent env.register session.chargingStationId (some evseNumber) (some number) =
      some other ∧
    other.connectorId ≠ session.connectorId ∧ countedNumber env session = some number

/-- Wherever energy flowed according to the readings, a pause was reported at one of their times or between them. -/
def PausedThroughout (env : Environment) (store : Store) (key : Nat) (session : ChargingSession) : Prop :=
  ∀ startedAt reports, session.startedAt = some startedAt →
    statusReports env store session startedAt = .ok reports →
    ∀ p ∈ consecutive (powerGroups env store key session startedAt),
      Powered session.tariffSnapshot.energyFlowMaxGapSeconds p.1 p.2 →
      ∃ r ∈ reports, r.charging = false ∧ p.1.1 ≤ r.occurredAt ∧ r.occurredAt ≤ p.2.1

theorem forGatewayEvent_mem {register : Register} {stationId : String} {evseNumber connectorNumber : Int}
    {snapshot : ConnectorSnapshot}
    (mapped : ConnectorSnapshotQuery.forGatewayEvent register stationId (some evseNumber) (some connectorNumber) =
      some snapshot) :
    ∃ c ∈ ConnectorSnapshotQuery.baseQuery register, c.id = snapshot.connectorId ∧
      c.connectorNumber = connectorNumber := by
  unfold ConnectorSnapshotQuery.forGatewayEvent at mapped
  rcases found : ConnectorSnapshotQuery.gatewayCandidates register stationId (some evseNumber) (some connectorNumber)
    with _ | ⟨c, _ | ⟨c', rest⟩⟩
  · simp [found, ConnectorSnapshotQuery.single] at mapped
  · have same : ConnectorSnapshotQuery.snapshot c = snapshot := by
      simpa [found, ConnectorSnapshotQuery.single] using mapped
    have candidate : c ∈ ConnectorSnapshotQuery.gatewayCandidates register stationId (some evseNumber)
        (some connectorNumber) := found ▸ List.mem_cons_self
    obtain ⟨active, numbers⟩ := List.mem_filter.mp candidate
    refine ⟨c, active, same ▸ rfl, ?_⟩
    simp only [Bool.and_eq_true, Bool.or_eq_true, decide_eq_true_eq, reduceCtorEq, false_or, Option.some.injEq] at numbers
    exact numbers.2.symm
  · simp [found, ConnectorSnapshotQuery.single] at mapped

theorem not_sharesNumber (distinct : ∀ c ∈ ConnectorSnapshotQuery.baseQuery env.register,
    c.id = session.connectorId ∨ countedNumber env session ≠ some c.connectorNumber) : ¬ SharesNumber env session := by
  rintro ⟨evseNumber, number, other, mapped, different, counted⟩
  obtain ⟨c, active, same, numbered⟩ := forGatewayEvent_mem mapped
  rcases distinct c active with own | unlike
  · exact different (same ▸ own)
  · exact unlike (numbered ▸ counted)

theorem OtherReport.read (other : OtherReport env session e) : ∃ r, reportOf env e = .ok r := by
  obtain ⟨_, _, status, _, reported, -⟩ := other.reported
  exact ⟨⟨e.occurredAt, strToLower status = "charging"⟩, by rw [reportOf, reported.status]; rfl⟩

theorem OtherReport.shares (other : OtherReport env session e)
    (counted : sameNumber ((e.payload.get "data").get "connector_id") (countedNumber env session) = true) :
    SharesNumber env session := by
  obtain ⟨evseNumber, number, status, snapshot, reported, mapped, different⟩ := other.reported
  rw [reported.connector] at counted
  exact ⟨evseNumber, number, snapshot, mapped, different, of_decide_eq_true counted⟩

section Adding
variable {added : List (String × InboundOcppEvent)} (adds : Added added store store')
  (others : ∀ row ∈ added, OtherReport env session row.2)
include adds

theorem mem_reportRows_added {e : InboundOcppEvent} (stored : e ∈ reportRows env store' session startedAt) :
    e ∈ reportRows env store session startedAt ∨ (∃ key, (key, e) ∈ added) ∧
      sameNumber ((e.payload.get "data").get "connector_id") (countedNumber env session) = true := by
  obtain ⟨key, there, rest⟩ := mem_reportRows.mp stored
  rw [adds.entries, List.mem_append] at there
  rcases there with old | new
  · exact Or.inl (mem_reportRows.mpr ⟨key, old, rest⟩)
  · exact Or.inr ⟨⟨key, new⟩, rest.2.2.2.2.2.2⟩

theorem reportRows_kept {e : InboundOcppEvent} (stored : e ∈ reportRows env store session startedAt) :
    e ∈ reportRows env store' session startedAt := by
  obtain ⟨key, there, rest⟩ := mem_reportRows.mp stored
  exact mem_reportRows.mpr ⟨key, by rw [adds.entries]; exact List.mem_append_left _ there, rest⟩

theorem powerGroups_added (key : Nat) :
    powerGroups env store' key session startedAt = powerGroups env store key session startedAt := by
  unfold powerGroups powerRows
  rw [adds.readings]

include others

/-- With the added events there are the reports as before, and those of added events that have the number. -/
theorem statusReports_added (read : statusReports env store session startedAt = .ok reports) :
    ∃ reports', statusReports env store' session startedAt = .ok reports' ∧ (∀ r ∈ reports, r ∈ reports') ∧
      ∀ r ∈ reports', r ∈ reports ∨ ∃ row ∈ added, reportOf env row.2 = .ok r := by
  rw [statusReports_eq] at read
  obtain ⟨reports', read'⟩ := mapM_ok_of_forall (f := reportOf env) (l := reportRows env store' session startedAt)
    (fun e stored => by
      rcases mem_reportRows_added adds stored with old | ⟨⟨key, new⟩, -⟩
      · obtain ⟨r, -, same⟩ := forall_of_mapM_ok read e old
        exact ⟨r, same⟩
      · exact (others _ new).read)
  refine ⟨reports', read', fun r member => ?_, fun r member => ?_⟩
  · obtain ⟨e, stored, same⟩ := (mem_mapM_ok read r).mp member
    exact (mem_mapM_ok read' r).mpr ⟨e, reportRows_kept adds stored, same⟩
  · obtain ⟨e, stored, same⟩ := (mem_mapM_ok read' r).mp member
    rcases mem_reportRows_added adds stored with old | ⟨⟨key, new⟩, -⟩
    · exact Or.inl ((mem_mapM_ok read r).mpr ⟨e, old, same⟩)
    · exact Or.inr ⟨_, new, same⟩

theorem reportRows_unshared (unshared : ¬ SharesNumber env session) :
    reportRows env store' session startedAt = reportRows env store session startedAt := by
  unfold reportRows Table.rowsWhere
  rw [adds.entries, List.filter_append]
  have none : added.filter (fun row => decide (row.2.aggregateId = session.chargingStationId) &&
      decide (row.2.eventType = "gateway.ocpp.status_notification.received.v1") &&
      decide (row.2.outcome = .processed) && decide (startedAt ≤ row.2.occurredAt) &&
      decide (row.2.occurredAt ≤ flowEnd env session) && (row.2.payload.get "data").isArray &&
      sameNumber ((row.2.payload.get "data").get "connector_id") (countedNumber env session)) = [] := by
    refine List.filter_eq_nil_iff.mpr fun row member => ?_
    intro counted
    simp only [Bool.and_eq_true] at counted
    exact unshared ((others row member).shares counted.2)
  rw [none, List.append_nil]

end Adding

theorem flowSeconds_zero (interrupted : ∀ p ∈ consecutive groups, Powered gap p.1 p.2 →
    uninterrupted reports p.1.1 p.2.1 = false) : flowSeconds reports gap groups = 0 := by
  unfold flowSeconds
  have zero : ∀ n ∈ (consecutive groups).map fun p => flowBetween reports gap p.1 p.2, n = 0 := by
    intro n member
    obtain ⟨p, there, rfl⟩ := List.mem_map.mp member
    exact if_neg fun flows => by simp [interrupted p there flows.1] at flows
  exact List.sum_eq_zero zero

theorem flowBetween_le_flowSeconds {p : (Instant × Option Int) × (Instant × Option Int)}
    (member : p ∈ consecutive groups) : flowBetween reports gap p.1 p.2 ≤ flowSeconds reports gap groups := by
  refine List.single_le_sum ?_ _ (List.mem_map_of_mem member)
  intro n there
  obtain ⟨q, -, rfl⟩ := List.mem_map.mp there
  exact flowBetween_nonneg reports gap q.1 q.2

variable {a b : Instant} {rows : List MeterReading} {key : Nat}

theorem interrupted_of_pause {r : StatusReport} (member : r ∈ reports) (pauses : r.charging = false)
    (from' : a ≤ r.occurredAt) (until' : r.occurredAt ≤ b) : uninterrupted reports a b = false := by
  have within : (reports.all fun r => r.charging || !decide (a ≤ r.occurredAt) || !decide (r.occurredAt ≤ b)) = false := by
    rw [List.all_eq_false]
    exact ⟨r, member, by simp [pauses, from', until']⟩
  simp [uninterrupted, within]

theorem uninterrupted_of_charging {r : StatusReport}
    (sorted : reports.Pairwise fun a b => a.occurredAt ≤ b.occurredAt) (member : r ∈ reports)
    (forward : r.occurredAt ≤ b)
    (charges : ∀ r' ∈ reports, r.occurredAt ≤ r'.occurredAt → r'.occurredAt ≤ b → r'.charging = true) :
    uninterrupted reports r.occurredAt b = true := by
  have start := pausedAt_false sorted member (le_refl _) fun r' there after before =>
    charges r' there after (before.trans forward)
  have stop := pausedAt_false sorted member forward charges
  have within : (reports.all fun r' => r'.charging || !decide (r.occurredAt ≤ r'.occurredAt) ||
      !decide (r'.occurredAt ≤ b)) = true := by
    refine List.all_eq_true.mpr fun r' there => ?_
    by_cases after : r.occurredAt ≤ r'.occurredAt
    · by_cases before : r'.occurredAt ≤ b
      · simp [charges r' there after before]
      · simp [before]
    · simp [after]
  simp [uninterrupted, start, stop, within]

theorem lt_of_elapsed (elapsed : 0 < Instant.diffInSeconds a b) : a < b := by
  by_contra back
  have behind : (0 : Int) ≤ a - b := Int.sub_nonneg_of_le (not_lt.mp back)
  have reversed := Int.tdiv_nonneg behind (by decide : (0 : Int) ≤ 1000000)
  unfold Instant.diffInSeconds at elapsed
  rw [← Int.neg_sub, Int.neg_tdiv] at elapsed
  exact absurd elapsed (not_lt.mpr (Int.neg_nonpos_of_nonneg reversed))

theorem charging_charges : (strToLower "Charging" = "charging") = True := eq_true (by decide)

theorem faulted_pauses : (strToLower "Faulted" = "charging") = False := eq_false (by decide)

theorem mem_consecutive {α : Type} {l : List α} {p : α × α} (member : p ∈ consecutive l) : p.1 ∈ l ∧ p.2 ∈ l :=
  ⟨(List.of_mem_zip member).1, List.mem_of_mem_tail (List.of_mem_zip member).2⟩

theorem mem_groupByInstant {g : Instant × Option Int} (member : g ∈ groupByInstant rows) :
    ∃ r ∈ rows, r.sampledAt = g.1 := by
  induction rows generalizing g with
  | nil => cases member
  | cons r rows ih =>
    rw [groupByInstant] at member
    have later : ∀ g, g ∈ groupByInstant rows → ∃ r' ∈ r :: rows, r'.sampledAt = g.1 := fun g there =>
      let ⟨r', stored, same⟩ := ih there
      ⟨r', List.mem_cons_of_mem _ stored, same⟩
    split at member
    · rw [List.mem_singleton.mp member]
      exact ⟨r, List.mem_cons_self, rfl⟩
    · rename_i instant value rest grouped
      split at member
      · rename_i same
        rcases List.mem_cons.mp member with rfl | there
        · exact ⟨r, List.mem_cons_self, same⟩
        · exact later g (grouped ▸ List.mem_cons_of_mem _ there)
      · rcases List.mem_cons.mp member with rfl | there
        · exact ⟨r, List.mem_cons_self, rfl⟩
        · exact later g (grouped ▸ there)

theorem powerGroups_window {g : Instant × Option Int}
    (member : g ∈ powerGroups env store key session startedAt) :
    startedAt ≤ g.1 ∧ g.1 ≤ flowEnd env session := by
  obtain ⟨r, there, same⟩ := mem_groupByInstant member
  rw [orderedBy, List.mem_insertionSort] at there
  obtain ⟨row, stored, rfl⟩ := List.mem_map.mp there
  have window := (List.mem_filter.mp stored).2
  simp only [Bool.and_eq_true, decide_eq_true_eq] at window
  exact same ▸ ⟨window.1.2, window.2⟩

def statusEvent (session : ChargingSession) (evseNumber number : Int) (status : String) (instant : Instant) :
    InboundOcppEvent where
  eventType := "gateway.ocpp.status_notification.received.v1"
  aggregateId := session.chargingStationId
  payload := .array [("data", .array [("evse_id", .int evseNumber), ("connector_id", .int number),
    ("status", .string status)])]
  occurredAt := instant
  receivedAt := instant
  outcome := .processed

/-- No event of another connector changes what `measure` returns. -/
def Isolated (env : Environment) (store : Store) (key : Nat) (session : ChargingSession) (flow : Flow) : Prop :=
  ∀ added store', Added added store store' → (∀ row ∈ added, OtherReport env session row.2) →
    measure env store' key session = .ok flow

theorem Isolated.marked {flow : Flow} (isolated : Isolated env store key session flow)
    (started : session.startedAt = some startedAt) (read : statusReports env store session startedAt = .ok reports)
    (shares : SharesNumber env session) (marks : List (String × Instant)) :
    ∃ reports', flow.seconds = flowSeconds reports' session.tariffSnapshot.energyFlowMaxGapSeconds
        (powerGroups env store key session startedAt) ∧
      reports'.Pairwise (fun a b => a.occurredAt ≤ b.occurredAt) ∧
      (∀ mark ∈ marks, startedAt ≤ mark.2 → mark.2 ≤ flowEnd env session →
        ⟨mark.2, strToLower mark.1 = "charging"⟩ ∈ reports') ∧
      ∀ r ∈ reports', r ∈ reports ∨ ∃ mark ∈ marks, r = ⟨mark.2, strToLower mark.1 = "charging"⟩ := by
  obtain ⟨evseNumber, number, other, mapped, different, counted⟩ := shares
  obtain ⟨added, store', adds, events⟩ :=
    exists_added (marks.map fun mark => statusEvent session evseNumber number mark.1 mark.2) store
  have marked : ∀ row ∈ added, ∃ mark ∈ marks, row.2 = statusEvent session evseNumber number mark.1 mark.2 := by
    intro row member
    have there := events ▸ List.mem_map_of_mem (f := Prod.snd) member
    obtain ⟨mark, chosen, same⟩ := List.mem_map.mp there
    exact ⟨mark, chosen, same.symm⟩
  have others : ∀ row ∈ added, OtherReport env session row.2 := by
    intro row member
    obtain ⟨mark, -, same⟩ := marked row member
    rw [same]
    exact ⟨rfl, rfl, rfl, evseNumber, number, mark.1, other, ⟨rfl, rfl, rfl⟩, mapped, different⟩
  obtain ⟨reports', read', -, new⟩ := statusReports_added adds others read
  have whole := isolated added store' adds others
  rw [measure_eq env store' key started, read', powerGroups_added adds] at whole
  refine ⟨reports', ?_, statusReports_sorted read', fun mark chosen from' until' => ?_, fun r member => ?_⟩
  · rw [← Except.ok.inj whole]
  · rw [statusReports_eq] at read'
    have member : statusEvent session evseNumber number mark.1 mark.2 ∈ added.map Prod.snd :=
      events ▸ List.mem_map_of_mem (f := fun mark : String × Instant => statusEvent session evseNumber number mark.1 mark.2)
        chosen
    obtain ⟨row, there, same⟩ := List.mem_map.mp member
    refine (mem_mapM_ok read' _).mpr ⟨statusEvent session evseNumber number mark.1 mark.2, ?_, rfl⟩
    refine mem_reportRows.mpr ⟨row.1, ?_, rfl, rfl, rfl, from', until', rfl, ?_⟩
    · rw [adds.entries, ← same]
      exact List.mem_append_right _ there
    · exact decide_eq_true counted
  · rcases new r member with old | ⟨row, there, same⟩
    · exact Or.inl old
    · obtain ⟨mark, chosen, event⟩ := marked row there
      rw [event] at same
      exact Or.inr ⟨mark, chosen, (Except.ok.inj same).symm⟩

/-- What `measure` returns is isolated from the other connectors exactly if none of them has the number that the
session's reports are selected by, or nothing they could report makes a difference. -/
theorem isolated_iff {key : Nat} {flow : Flow} (measured : measure env store key session = .ok flow) :
    Isolated env store key session flow ↔ ¬ SharesNumber env session ∨ PausedThroughout env store key session := by
  constructor
  · intro isolated
    by_contra neither
    rw [not_or, not_not] at neither
    obtain ⟨shares, unpaused⟩ := neither
    simp only [PausedThroughout, not_forall, not_exists, not_and] at unpaused
    obtain ⟨startedAt, reports, started, read, p, member, powered, quiet⟩ := unpaused
    have seconds : flow.seconds = flowSeconds reports session.tariffSnapshot.energyFlowMaxGapSeconds
        (powerGroups env store key session startedAt) := by
      rw [measure_eq env store key started, read] at measured
      rw [← Except.ok.inj measured]
    by_cases none : flow.seconds = 0
    · -- with a report that the connector charges, energy flows between the two readings
      obtain ⟨reports', same, sorted, marks, known⟩ := isolated.marked started read shares [("Charging", p.1.1)]
      have window := powerGroups_window (mem_consecutive member).1
      have mark := marks _ (List.mem_singleton_self _) window.1 window.2
      have forward := le_of_lt (lt_of_elapsed powered.2.1)
      have flows : uninterrupted reports' p.1.1 p.2.1 = true := by
        refine uninterrupted_of_charging sorted mark forward fun r there after before => ?_
        rcases known r there with old | ⟨_, chosen, rfl⟩
        · by_contra pauses
          exact quiet r old (Bool.eq_false_iff.mpr pauses) after before
        · rw [List.mem_singleton.mp chosen]
          simp only [charging_charges, decide_true]
      have part : flowBetween reports' session.tariffSnapshot.energyFlowMaxGapSeconds p.1 p.2 ≤
          flowSeconds reports' session.tariffSnapshot.energyFlowMaxGapSeconds
            (powerGroups env store key session startedAt) := flowBetween_le_flowSeconds member
      rw [← same, none, flowBetween, if_pos ⟨powered, flows⟩] at part
      exact absurd powered.2.1 (not_lt.mpr part)
    · -- with a pause at every reading, none flows
      obtain ⟨reports', same, -, marks, -⟩ := isolated.marked started read shares
        ((powerGroups env store key session startedAt).map fun g => ("Faulted", g.1))
      refine none (same.trans (flowSeconds_zero fun q there elapsed => ?_))
      have reading := (mem_consecutive there).1
      have window := powerGroups_window reading
      have mark := marks _ (List.mem_map_of_mem (f := fun g : Instant × Option Int => ("Faulted", g.1)) reading)
        window.1 window.2
      simp only [faulted_pauses, decide_false] at mark
      exact interrupted_of_pause mark rfl (le_refl _) (le_of_lt (lt_of_elapsed elapsed.2.1))
  · intro either added store' adds others
    cases started : session.startedAt with
    | none =>
      simp only [measure, started] at measured ⊢
      exact measured
    | some startedAt =>
      rw [measure_eq env store key started] at measured
      rw [measure_eq env store' key started, powerGroups_added adds, ← measured]
      rcases either with unshared | paused
      · rw [statusReports_eq, statusReports_eq, reportRows_unshared adds others unshared]
      · cases read : statusReports env store session startedAt with
        | error =>
          rw [read] at measured
          cases measured
        | ok reports =>
          obtain ⟨reports', read', kept, -⟩ := statusReports_added adds others read
          have still := paused startedAt reports started read
          rw [read', Except.map, Except.map]
          congr 2
          rw [flowSeconds_zero, flowSeconds_zero]
          · intro p member powered
            obtain ⟨r, there, pauses, after, before⟩ := still p member powered
            exact interrupted_of_pause there pauses after before
          · intro p member powered
            obtain ⟨r, there, pauses, after, before⟩ := still p member powered
            exact interrupted_of_pause (kept r there) pauses after before

/-! A driver charges for a minute, at a station whose connector numbers restart in each EVSE. -/

def powerSample (at' : String) : String × Mixed :=
  ("samples", .array [("0", .array [("timestamp", .string ("2026-03-01T" ++ at' ++ "Z")),
    ("measurand", .string "Power.Active.Import"), ("unit", .string "W"), ("value", .int 7000)])])

def twin (now : Nat) : Environment :=
  { Deployment.environment "2.0.1" 1 now with
    register := ⟨[Deployment.station "2.0.1"],
      [Deployment.connector "2.0.1" 1, { Deployment.connector "2.0.1" 2 with connectorNumber := 1 }]⟩ }

def chargedMinute (env : Nat → Environment) : List (Environment × Step) :=
  [(env 2, .event (Deployment.transactionEvent "E1" "Started" "10:02:00"
      [("authorization_status", .string "Accepted"), powerSample "10:02:00"])),
    (env 3, .event (Deployment.received "E3" "meter_values" "10:03:00" "ocpp2.0.1" [("evse_id", .int 1),
      ("connector_id", .int 1), ("protocol_transaction_id", .string "TX-1"), powerSample "10:03:00"]))]

def flowing (env : Nat → Environment) : Store := Step.run (chargedMinute env) Store.empty

def flowOf (env : Environment) (store : Store) : Option Flow :=
  (store.sessions.get? 0).bind fun session => (measure env store 0 session).toOption

theorem flowOf_some {flow : Flow} (there : flowOf env store = some flow) :
    ∃ session, store.sessions.get? 0 = some session ∧ measure env store 0 session = .ok flow := by
  obtain ⟨session, stored, measured⟩ := Option.bind_eq_some_iff.mp there
  refine ⟨session, stored, ?_⟩
  cases out : measure env store 0 session with
  | error => simp [out, Except.toOption] at measured
  | ok =>
    rw [out] at measured
    exact congrArg Except.ok (Option.some.inj measured)

set_option maxRecDepth 20000 in
/-- With numbers of their own, the connectors are isolated. -/
theorem isolated_numbered : ∃ session flow, (flowing (Deployment.environment "2.0.1" 2)).sessions.get? 0 = some session ∧
    flow.seconds = 60 ∧
    Isolated (Deployment.environment "2.0.1" 2 3) (flowing (Deployment.environment "2.0.1" 2)) 0 session flow := by
  have facts : flowOf (Deployment.environment "2.0.1" 2 3) (flowing (Deployment.environment "2.0.1" 2)) =
        some ⟨60, true⟩ ∧
      ((flowing (Deployment.environment "2.0.1" 2)).sessions.get? 0).all (fun session =>
        (ConnectorSnapshotQuery.baseQuery (Deployment.environment "2.0.1" 2 3).register).all fun c =>
          c.id = session.connectorId ||
            countedNumber (Deployment.environment "2.0.1" 2 3) session ≠ some c.connectorNumber) = true := by
    decide +kernel
  generalize flowing (Deployment.environment "2.0.1" 2) = store at facts ⊢
  obtain ⟨session, stored, measured⟩ := flowOf_some facts.1
  have numbers := facts.2
  rw [stored] at numbers
  refine ⟨session, _, stored, rfl, (isolated_iff measured).mpr (Or.inl (not_sharesNumber fun c member => ?_))⟩
  simpa using List.all_eq_true.mp numbers c member

set_option maxRecDepth 20000 in
/-- A fault of the other EVSE takes the minute away. -/
theorem twin_not_isolated : ∃ session flow, (flowing twin).sessions.get? 0 = some session ∧
    measure (twin 3) (flowing twin) 0 session = .ok flow ∧ flow.seconds = 60 ∧
    ¬ Isolated (twin 3) (flowing twin) 0 session flow := by
  have facts : flowOf (twin 3) (flowing twin) = some ⟨60, true⟩ ∧
      ((flowing twin).sessions.get? 0).all (fun session => session.connectorId = "C1" &&
        session.chargingStationId = (Deployment.station "2.0.1").id &&
        flowOf (twin 3) { flowing twin with
          inbound := (flowing twin).inbound.put "E4" (statusEvent session 2 1 "Faulted" (Deployment.minute 2)) } =
            some ⟨0, true⟩) = true ∧ (flowing twin).inbound.get? "E4" = none := by
    decide +kernel
  have other : (ConnectorSnapshotQuery.forGatewayEvent (twin 3).register (Deployment.station "2.0.1").id (some 2)
      (some 1)).any (fun other => other.connectorId = "C2") = true := by decide +kernel
  generalize flowing twin = store at facts ⊢
  obtain ⟨there, checked, fresh⟩ := facts
  obtain ⟨session, stored, measured⟩ := flowOf_some there
  obtain ⟨second, mapped, named⟩ := (Option.any_eq_true _ _).mp other
  rw [stored] at checked
  simp only [Option.all_some, Bool.and_eq_true, decide_eq_true_eq] at checked named
  obtain ⟨⟨own, station⟩, faulted⟩ := checked
  obtain ⟨session', stored', measured'⟩ := flowOf_some faulted
  refine ⟨session, _, stored, measured, rfl, fun isolated => ?_⟩
  have same : session' = session := Option.some.inj (stored'.symm.trans stored)
  have kept := isolated _ _ (added_put fresh (statusEvent session 2 1 "Faulted" (Deployment.minute 2)))
    (List.forall_mem_singleton.mpr ⟨rfl, rfl, rfl, 2, 1, "Faulted", second, ⟨rfl, rfl, rfl⟩, station ▸ mapped,
      (by rw [named, own]; decide)⟩)
  rw [same] at measured'
  cases measured'.symm.trans kept

/-! ### The observed flow -/

/-- The seconds from the first reading to the last, between consecutive ones. -/
def elapsedSeconds (groups : List (Instant × Option Int)) : Int :=
  ((consecutive groups).map fun p => Instant.diffInSeconds p.1.1 p.2.1).sum

/-- How an active charge is reported in each protocol. -/
def activeStatus (protocol : String) : String := if protocol = "ocpp1.6" then "charging" else "occupied"

/-- Positive power in every reading, none too far from the one before, and an active charge in every report of the
session's connector. -/
structure Observed (env : Environment) (store : Store) (key : Nat) (session : ChargingSession)
    (startedAt : Instant) : Prop where
  positive : ∀ row ∈ powerRows env store key session startedAt, 0 < row.2.value
  spaced : ∀ p ∈ consecutive (powerGroups env store key session startedAt),
    Instant.diffInSeconds p.1.1 p.2.1 ≤ session.tariffSnapshot.energyFlowMaxGapSeconds
  active : ∀ id e evseNumber connectorNumber status snapshot, (id, e) ∈ store.inbound.entries →
    e.aggregateId = session.chargingStationId → e.eventType = "gateway.ocpp.status_notification.received.v1" →
    e.outcome = .processed → startedAt ≤ e.occurredAt → e.occurredAt ≤ flowEnd env session →
    ReportedAs e evseNumber connectorNumber status →
    ConnectorSnapshotQuery.forGatewayEvent env.register session.chargingStationId (some evseNumber)
      (some connectorNumber) = some snapshot →
    snapshot.connectorId = session.connectorId → strToLower status = activeStatus session.protocol

theorem sum_map_eq_iff {α : Type} {l : List α} {f g : α → Int} (le : ∀ x ∈ l, f x ≤ g x) :
    (l.map f).sum = (l.map g).sum ↔ ∀ x ∈ l, f x = g x := by
  induction l with
  | nil => simp
  | cons _ _ ih =>
    obtain ⟨first, rest⟩ := List.forall_mem_cons.mp le
    have sums := List.sum_le_sum rest
    rw [List.map_cons, List.map_cons, List.sum_cons, List.sum_cons, List.forall_mem_cons, ← ih rest]
    constructor
    · intro same
      constructor <;> omega
    · rintro ⟨head, tail⟩
      rw [head, tail]

theorem pairwise_consecutive {α : Type} {R : α → α → Prop} {l : List α} (sorted : l.Pairwise R) :
    ∀ p ∈ consecutive l, R p.1 p.2 := by
  induction l with
  | nil => exact fun _ none => by cases none
  | cons _ l ih =>
    cases l with
    | nil => exact fun _ none => by cases none
    | cons =>
      rw [consecutive_cons_cons, List.forall_mem_cons]
      exact ⟨List.rel_of_pairwise_cons sorted List.mem_cons_self, ih (List.Pairwise.of_cons sorted)⟩

theorem groupByInstant_sorted (sorted : rows.Pairwise fun a b => a.sampledAt ≤ b.sampledAt) :
    (groupByInstant rows).Pairwise fun a b => a.1 ≤ b.1 := by
  induction rows with
  | nil => exact List.Pairwise.nil
  | cons r rows ih =>
    obtain ⟨first, rest⟩ := List.pairwise_cons.mp sorted
    have grouped := ih rest
    rw [groupByInstant]
    split
    · exact List.pairwise_singleton _ _
    · rename_i instant value later same
      rw [same] at grouped
      obtain ⟨least, tail⟩ := List.pairwise_cons.mp grouped
      split
      · exact List.pairwise_cons.mpr ⟨least, tail⟩
      · refine List.pairwise_cons.mpr ⟨fun g there => ?_, grouped⟩
        obtain ⟨r', stored, at'⟩ := mem_groupByInstant (same ▸ there)
        exact at' ▸ first r' stored

theorem powerGroups_sorted : (powerGroups env store key session startedAt).Pairwise fun a b => a.1 ≤ b.1 :=
  groupByInstant_sorted (List.pairwise_insertionSort (fun a b : MeterReading => a.sampledAt ≤ b.sampledAt) _)

theorem groupByInstant_value {instant : Instant} {power : Int}
    (member : (instant, some power) ∈ groupByInstant rows) : ∃ r ∈ rows, r.value = power := by
  induction rows generalizing instant with
  | nil => cases member
  | cons r rows ih =>
    rw [groupByInstant] at member
    have later : ∀ t, (t, some power) ∈ groupByInstant rows → ∃ r' ∈ r :: rows, r'.value = power := fun t there =>
      let ⟨r', stored, same⟩ := ih there
      ⟨r', List.mem_cons_of_mem _ stored, same⟩
    split at member
    · cases List.mem_singleton.mp member
      exact ⟨r, List.mem_cons_self, rfl⟩
    · rename_i t value rest grouped
      split at member
      · rcases List.mem_cons.mp member with same | there
        · obtain ⟨-, same⟩ := Prod.mk.inj same
          split at same
          · rename_i agree
            rw [agree] at same
            exact ⟨r, List.mem_cons_self, (Option.some.inj same).symm⟩
          · cases same
        · exact later instant (grouped ▸ List.mem_cons_of_mem _ there)
      · rcases List.mem_cons.mp member with same | there
        · cases same
          exact ⟨r, List.mem_cons_self, rfl⟩
        · exact later instant (grouped ▸ there)

theorem diffInSeconds_nonneg (le : a ≤ b) : 0 ≤ Instant.diffInSeconds a b :=
  Int.tdiv_nonneg (Int.sub_nonneg_of_le le) (by decide)

/-- A session with positive power in every reading, none of them too late, has its whole time counted exactly if,
wherever time passes between two readings, those of each time agree and no report with the connector's number
interrupts. -/
theorem observed_iff {key : Nat} {flow : Flow} (started : session.startedAt = some startedAt)
    (read : statusReports env store session startedAt = .ok reports)
    (measured : measure env store key session = .ok flow) (observed : Observed env store key session startedAt) :
    flow.seconds = elapsedSeconds (powerGroups env store key session startedAt) ↔
      ∀ p ∈ consecutive (powerGroups env store key session startedAt), 0 < Instant.diffInSeconds p.1.1 p.2.1 →
        p.1.2.isSome = true ∧ p.2.2.isSome = true ∧ uninterrupted reports p.1.1 p.2.1 = true := by
  have power : ∀ g ∈ powerGroups env store key session startedAt, 0 < g.2.getD 0 ↔ g.2.isSome = true := by
    rintro ⟨instant, value⟩ member
    cases value with
    | none => simp
    | some =>
      obtain ⟨r, there, same⟩ := groupByInstant_value member
      rw [orderedBy, List.mem_insertionSort] at there
      obtain ⟨row, stored, rfl⟩ := List.mem_map.mp there
      simpa [← same] using observed.positive row stored
  have elapsed : ∀ p ∈ consecutive (powerGroups env store key session startedAt),
      0 ≤ Instant.diffInSeconds p.1.1 p.2.1 := fun p member =>
    diffInSeconds_nonneg (pairwise_consecutive powerGroups_sorted p member)
  rw [measure_eq env store key started, read] at measured
  rw [← Except.ok.inj measured]
  change flowSeconds _ _ _ = _ ↔ _
  unfold flowSeconds elapsedSeconds
  rw [sum_map_eq_iff]
  · refine forall₂_congr fun p member => ?_
    have first := power _ (mem_consecutive member).1
    have second := power _ (mem_consecutive member).2
    have within := observed.spaced p member
    by_cases moves : 0 < Instant.diffInSeconds p.1.1 p.2.1
    · unfold flowBetween Powered
      simp only [first, second]
      split
      · rename_i flows
        exact iff_of_true rfl fun _ => ⟨flows.1.2.2.1, flows.1.2.2.2, flows.2⟩
      · rename_i stays
        refine iff_of_false (ne_of_lt moves) fun flows => stays ?_
        obtain ⟨agree, agree', free⟩ := flows moves
        exact ⟨⟨within, moves, agree, agree'⟩, free⟩
    · have still := le_antisymm (not_lt.mp moves) (elapsed p member)
      refine iff_of_true ?_ fun moved => absurd moved moves
      rw [flowBetween, still, ite_self]
  · intro p member
    unfold flowBetween
    split
    · exact le_refl _
    · exact elapsed p member

def reportsOnly (store : Store) (status : String) : Bool :=
  store.inbound.entries.all fun row => row.2.eventType ≠ "gateway.ocpp.status_notification.received.v1" ||
    ((row.2.payload.get "data").get "status").string? = some status

theorem observed_of_check {status : String}
    (readings : ((powerRows env store key session startedAt).all fun row => 0 < row.2.value) = true)
    (spaced : ((consecutive (powerGroups env store key session startedAt)).all fun p =>
      Instant.diffInSeconds p.1.1 p.2.1 ≤ session.tariffSnapshot.energyFlowMaxGapSeconds) = true)
    (only : reportsOnly store status = true) (active : strToLower status = activeStatus session.protocol) :
    Observed env store key session startedAt where
  positive row member := of_decide_eq_true (List.all_eq_true.mp readings row member)
  spaced p member := of_decide_eq_true (List.all_eq_true.mp spaced p member)
  active id e evseNumber connectorNumber status' snapshot stored _ kind _ _ _ reported _ _ := by
    have same := List.all_eq_true.mp only _ stored
    simp only [kind, reported.status, Mixed.string?, ne_eq, not_true_eq_false, decide_false, Bool.false_or,
      decide_eq_true_eq, Option.some.injEq] at same
    rw [same]
    exact active

/-- A minute between the readings of the first session, every report of which has this text. -/
def minuteObserved (env : Environment) (store : Store) (status : String) (session : ChargingSession)
    (startedAt : Instant) : Bool :=
  ((powerRows env store 0 session startedAt).all fun row => 0 < row.2.value) &&
    ((consecutive (powerGroups env store 0 session startedAt)).all fun p =>
      Instant.diffInSeconds p.1.1 p.2.1 ≤ session.tariffSnapshot.energyFlowMaxGapSeconds) &&
    reportsOnly store status && strToLower status = activeStatus session.protocol &&
    elapsedSeconds (powerGroups env store 0 session startedAt) = 60

theorem observed_of_minute {status : String} (seen : minuteObserved env store status session startedAt = true) :
    Observed env store 0 session startedAt ∧ elapsedSeconds (powerGroups env store 0 session startedAt) = 60 := by
  simp only [minuteObserved, Bool.and_eq_true, decide_eq_true_eq] at seen
  obtain ⟨⟨⟨⟨positive, spaced⟩, only⟩, active⟩, minute⟩ := seen
  exact ⟨observed_of_check positive spaced only active, minute⟩

/-- The minute of charging, after the connector was reported as occupied. -/
def occupiedMinute : Store :=
  Step.run ((Deployment.environment "2.0.1" 1 2, .event (Deployment.statusReport "E0" "10:02:00" "Occupied")) ::
    chargedMinute (Deployment.environment "2.0.1" 1)) Store.empty

set_option maxRecDepth 20000 in
theorem occupied_uncounted : ∃ session startedAt flow, occupiedMinute.sessions.get? 0 = some session ∧
    session.startedAt = some startedAt ∧ measure (Deployment.environment "2.0.1" 1 3) occupiedMinute 0 session = .ok flow ∧
    Observed (Deployment.environment "2.0.1" 1 3) occupiedMinute 0 session startedAt ∧ flow.seconds = 0 ∧
    elapsedSeconds (powerGroups (Deployment.environment "2.0.1" 1 3) occupiedMinute 0 session startedAt) = 60 := by
  have facts : flowOf (Deployment.environment "2.0.1" 1 3) occupiedMinute = some ⟨0, true⟩ ∧
      (occupiedMinute.sessions.get? 0).all (fun session => session.startedAt.any fun startedAt =>
        minuteObserved (Deployment.environment "2.0.1" 1 3) occupiedMinute "Occupied" session startedAt) = true := by
    decide +kernel
  generalize occupiedMinute = store at facts ⊢
  obtain ⟨session, stored, measured⟩ := flowOf_some facts.1
  have seen := facts.2
  rw [stored] at seen
  obtain ⟨startedAt, started, observed⟩ := (Option.any_eq_true _ _).mp seen
  obtain ⟨observed, minute⟩ := observed_of_minute observed
  exact ⟨session, startedAt, _, stored, started, measured, observed, rfl, minute⟩

set_option maxRecDepth 20000 in
theorem charged_counted : ∃ session startedAt flow,
    (flowing (Deployment.environment "2.0.1" 1)).sessions.get? 0 = some session ∧
    session.startedAt = some startedAt ∧ measure (Deployment.environment "2.0.1" 1 3)
      (flowing (Deployment.environment "2.0.1" 1)) 0 session = .ok flow ∧
    flow.seconds = elapsedSeconds (powerGroups (Deployment.environment "2.0.1" 1 3)
      (flowing (Deployment.environment "2.0.1" 1)) 0 session startedAt) := by
  have facts : flowOf (Deployment.environment "2.0.1" 1 3) (flowing (Deployment.environment "2.0.1" 1)) =
        some ⟨60, true⟩ ∧
      ((flowing (Deployment.environment "2.0.1" 1)).sessions.get? 0).all (fun session =>
        session.startedAt.any fun startedAt =>
          minuteObserved (Deployment.environment "2.0.1" 1 3) (flowing (Deployment.environment "2.0.1" 1)) "Occupied"
            session startedAt &&
          (statusReports (Deployment.environment "2.0.1" 1 3) (flowing (Deployment.environment "2.0.1" 1)) session
            startedAt).toOption.any fun reports =>
              (consecutive (powerGroups (Deployment.environment "2.0.1" 1 3)
                (flowing (Deployment.environment "2.0.1" 1)) 0 session startedAt)).all fun p =>
                  p.1.2.isSome && p.2.2.isSome && uninterrupted reports p.1.1 p.2.1) = true := by
    decide +kernel
  generalize flowing (Deployment.environment "2.0.1" 1) = store at facts ⊢
  obtain ⟨session, stored, measured⟩ := flowOf_some facts.1
  have seen := facts.2
  rw [stored] at seen
  obtain ⟨startedAt, started, both⟩ := (Option.any_eq_true _ _).mp seen
  obtain ⟨observed, free⟩ := Bool.and_eq_true_iff.mp both
  cases read : statusReports (Deployment.environment "2.0.1" 1 3) store session startedAt with
  | error => simp [read, Except.toOption] at free
  | ok =>
    rw [read] at free
    refine ⟨session, startedAt, _, stored, started, measured,
      (observed_iff started read measured (observed_of_minute observed).1).mpr fun p member _ => ?_⟩
    simpa [and_assoc] using List.all_eq_true.mp free p member

end EnergyFlowDuration
end VtsaCsms.Charging
