import Mathlib.Data.List.Induction
import Mathlib.Data.String.Basic
import Mathlib.Order.Bounds.Basic
import VtsaCsms.Charging.System

/-!
# Station presence

The row `StationConnectionProjector::observe` keeps of a station, against what the
connections say whose events it has seen. Events come in any order, and those of an old
connection after those of its successor.
-/
namespace VtsaCsms.Charging
open Foundation Foundation.Action Assets

/-- An observed event with its request, its decoded data, and the values `observe` reads. -/
structure Sighting where
  env : Environment
  e : Envelope
  data : Mixed
  action : String
  connectionId : String
  at' : Instant

namespace Sighting
open StationConnectionProjector
variable {g : Sighting} {seen : List Sighting} {row : StationConnection}

/-- The event is the station's own and its fields are what the gateway writes. -/
structure Valid (stationId : String) (g : Sighting) : Prop where
  station : g.e.aggregateId = stationId
  enrolled : ∃ identity protocol,
    ((g.data.get "charge_point_identity").orElse (.string "")).toText g.env.floatText = .ok identity ∧
      ((g.data.get "protocol").orElse (.string "")).toText g.env.floatText = .ok protocol ∧
      GatewayStationQuery.validateAndLock g.env.register g.e.aggregateId identity protocol = .ok ()
  connection : (g.data.get "connection_id").string?.filter g.env.isUlid = some g.connectionId
  time : parseAt g.env g.e.occurredAt = .ok g.at'

/-- What the row becomes. -/
def see (row : Option StationConnection) (g : Sighting) : Option StationConnection :=
  (project row g.connectionId g.action g.at').2.or row

theorem Valid.observed {stationId : String} (valid : g.Valid stationId) (s : Store) :
    ∃ s', Returns (observe g.env g.e g.data g.action) s
        (project (s.connections.get? stationId) g.connectionId g.action g.at').1 s' ∧
      s'.connections.get? stationId = see (s.connections.get? stationId) g := by
  obtain ⟨identity, protocol, identified, spoken, locked⟩ := valid.enrolled
  have belongs := valid.station
  subst belongs
  simp only [observe, returns_bind, returns_lift, returns_orThrow, returns_read, see]
  cases stored : (project (s.connections.get? g.e.aggregateId) g.connectionId g.action g.at').2 with
  | none =>
    refine ⟨s, ⟨identity, s, ⟨identified, rfl⟩, protocol, s, ⟨spoken, rfl⟩, (), s, ⟨locked, rfl⟩,
      g.connectionId, s, ⟨valid.connection, rfl⟩, g.at', s, ⟨valid.time, rfl⟩, _, s, ⟨rfl, rfl⟩, ?_⟩, rfl⟩
    simp [stored]
  | some r =>
    refine ⟨{ s with connections := s.connections.put g.e.aggregateId r },
      ⟨identity, s, ⟨identified, rfl⟩, protocol, s, ⟨spoken, rfl⟩, (), s, ⟨locked, rfl⟩,
      g.connectionId, s, ⟨valid.connection, rfl⟩, g.at', s, ⟨valid.time, rfl⟩, _, s, ⟨rfl, rfl⟩, ?_⟩, ?_⟩
    · simp [stored]
    · simp [Table.get?_put]

/-! ### One row for each station -/

/-- Within a connection `charger_connected` comes first and `charger_disconnected` last. -/
structure Chronological (seen : List Sighting) : Prop where
  first : ∀ o ∈ seen, ∀ g ∈ seen, o.action = "charger_connected" → o.connectionId = g.connectionId →
    o.at' ≤ g.at'
  last : ∀ c ∈ seen, ∀ g ∈ seen, c.action = "charger_disconnected" →
    c.connectionId = g.connectionId → g.at' ≤ c.at'

/-- The times at which a connection was seen. -/
def times (seen : List Sighting) (connectionId : String) : Set Instant :=
  {t | ∃ g ∈ seen, g.connectionId = connectionId ∧ g.at' = t}

/-- The row is that of the latest connection seen. Until its `charger_connected` is seen, the
connection counts as connected from some event of its own. -/
structure Shows (seen : List Sighting) (row : StationConnection) : Prop where
  latest : IsGreatest {id | ∃ g ∈ seen, g.connectionId = id} row.connectionId
  lastEvent : IsGreatest (times seen row.connectionId) row.lastEventAt
  connected : row.connected = true ↔
    ∀ g ∈ seen, g.connectionId = row.connectionId → g.action ≠ "charger_disconnected"
  since : row.connectedAt ∈ times seen row.connectionId
  opened : row.connected = true → ∀ g ∈ seen, g.connectionId = row.connectionId →
    g.action = "charger_connected" → row.connectedAt ≤ g.at'

theorem Chronological.before (chronological : Chronological (seen ++ [g])) : Chronological seen where
  first o ho g' hg := chronological.first o (List.mem_append_left _ ho) g' (List.mem_append_left _ hg)
  last c hc g' hg := chronological.last c (List.mem_append_left _ hc) g' (List.mem_append_left _ hg)

theorem mem_times {connectionId : String} (member : g ∈ seen) (own : g.connectionId = connectionId) :
    g.at' ∈ times seen connectionId :=
  ⟨g, member, own, rfl⟩

theorem times_append {connectionId : String} (g : Sighting) {t : Instant} (before : t ∈ times seen connectionId) :
    t ∈ times (seen ++ [g]) connectionId := by
  obtain ⟨o, member, own, rfl⟩ := before
  exact mem_times (List.mem_append_left _ member) own

theorem Shows.fresh (later : ∀ o ∈ seen, o.connectionId < g.connectionId) :
    Shows (seen ++ [g]) ⟨g.connectionId, g.action ≠ "charger_disconnected", g.at', g.at', g.at'⟩ := by
  have only : ∀ o ∈ seen ++ [g], o.connectionId = g.connectionId → o = g := by
    intro o member own
    rcases List.mem_append.mp member with old | new
    · exact absurd own (ne_of_lt (later o old))
    · exact List.mem_singleton.mp new
  have member : g ∈ seen ++ [g] := List.mem_append_right _ (List.mem_singleton_self g)
  constructor
  · refine ⟨⟨g, member, rfl⟩, ?_⟩
    rintro id ⟨o, old, rfl⟩
    rcases List.mem_append.mp old with old | new
    · exact le_of_lt (later o old)
    · rw [List.mem_singleton.mp new]
  · refine ⟨mem_times member rfl, ?_⟩
    rintro t ⟨o, old, own, rfl⟩
    rw [only o old own]
  · simp only [decide_eq_true_eq]
    constructor
    · intro open' o old own
      rw [only o old own]
      exact open'
    · exact fun all => all g member rfl
  · exact mem_times member rfl
  · intro _ o old own _
    rw [only o old own]

theorem Shows.ignore (shows' : Shows seen row) (older : g.connectionId ≤ row.connectionId)
    (early : g.connectionId = row.connectionId → g.at' ≤ row.lastEventAt)
    (silent : g.connectionId = row.connectionId → row.connected = true →
      g.action ≠ "charger_disconnected")
    (opening : g.connectionId = row.connectionId → row.connected = true →
      g.action = "charger_connected" → row.connectedAt ≤ g.at') :
    Shows (seen ++ [g]) row := by
  constructor
  · obtain ⟨⟨o, member, own⟩, above⟩ := shows'.latest
    refine ⟨⟨o, List.mem_append_left _ member, own⟩, ?_⟩
    rintro id ⟨o, member, rfl⟩
    rcases List.mem_append.mp member with old | new
    · exact above ⟨o, old, rfl⟩
    · rw [List.mem_singleton.mp new]
      exact older
  · refine ⟨times_append g shows'.lastEvent.1, ?_⟩
    rintro t ⟨o, member, own, rfl⟩
    rcases List.mem_append.mp member with old | new
    · exact shows'.lastEvent.2 (mem_times old own)
    · rw [List.mem_singleton.mp new] at own ⊢
      exact early own
  · constructor
    · intro connected o member own
      rcases List.mem_append.mp member with old | new
      · exact shows'.connected.mp connected o old own
      · rw [List.mem_singleton.mp new] at own ⊢
        exact silent own connected
    · intro all
      exact shows'.connected.mpr fun o member => all o (List.mem_append_left _ member)
  · exact times_append g shows'.since
  · intro connected o member own opens
    rcases List.mem_append.mp member with old | new
    · exact shows'.opened connected o old own opens
    · rw [List.mem_singleton.mp new] at own opens ⊢
      exact opening own connected opens

theorem Shows.begin (shows' : Shows seen row) (same : g.connectionId = row.connectionId)
    (early : g.at' ≤ row.lastEventAt) (opens : g.action = "charger_connected")
    (earlier : g.at' ≤ row.connectedAt) : Shows (seen ++ [g]) { row with connectedAt := g.at' } := by
  have staying : g.action ≠ "charger_disconnected" := by
    rw [opens]
    decide
  have member : g ∈ seen ++ [g] := List.mem_append_right _ (List.mem_singleton_self g)
  constructor
  · obtain ⟨⟨o, old, own⟩, above⟩ := shows'.latest
    refine ⟨⟨o, List.mem_append_left _ old, own⟩, ?_⟩
    rintro id ⟨o, member, rfl⟩
    rcases List.mem_append.mp member with old | new
    · exact above ⟨o, old, rfl⟩
    · rw [List.mem_singleton.mp new, same]
  · refine ⟨times_append g shows'.lastEvent.1, ?_⟩
    rintro t ⟨o, member, own, rfl⟩
    rcases List.mem_append.mp member with old | new
    · exact shows'.lastEvent.2 (mem_times old own)
    · rw [List.mem_singleton.mp new]
      exact early
  · constructor
    · intro connected o member own
      rcases List.mem_append.mp member with old | new
      · exact shows'.connected.mp connected o old own
      · rw [List.mem_singleton.mp new]
        exact staying
    · intro all
      exact shows'.connected.mpr fun o old => all o (List.mem_append_left _ old)
  · exact mem_times member same
  · intro connected o member own begins
    rcases List.mem_append.mp member with old | new
    · exact le_trans earlier (shows'.opened connected o old own begins)
    · rw [List.mem_singleton.mp new]

theorem Shows.advance (shows' : Shows seen row) (same : g.connectionId = row.connectionId)
    (late : row.lastEventAt ≤ g.at')
    (possible : row.connected = true ∨ g.action = "charger_disconnected") (seenAt : Instant) :
    Shows (seen ++ [g]) ⟨g.connectionId, g.action ≠ "charger_disconnected", row.connectedAt, g.at', seenAt⟩ := by
  have member : g ∈ seen ++ [g] := List.mem_append_right _ (List.mem_singleton_self g)
  constructor
  · refine ⟨⟨g, member, rfl⟩, ?_⟩
    rintro id ⟨o, old, rfl⟩
    rcases List.mem_append.mp old with old | new
    · show o.connectionId ≤ g.connectionId
      rw [same]
      exact shows'.latest.2 ⟨o, old, rfl⟩
    · rw [List.mem_singleton.mp new]
  · refine ⟨mem_times member rfl, ?_⟩
    rintro t ⟨o, old, own, rfl⟩
    rcases List.mem_append.mp old with old | new
    · exact le_trans (shows'.lastEvent.2 (mem_times old (own.trans same))) late
    · rw [List.mem_singleton.mp new]
  · simp only [decide_eq_true_eq]
    constructor
    · intro staying o old own
      rcases List.mem_append.mp old with old | new
      · have connected := possible.resolve_right staying
        exact shows'.connected.mp connected o old (own.trans same)
      · rw [List.mem_singleton.mp new]
        exact staying
    · exact fun all => all g member rfl
  · show row.connectedAt ∈ times (seen ++ [g]) g.connectionId
    rw [same]
    exact times_append g shows'.since
  · intro staying o old own opens
    rcases List.mem_append.mp old with old | new
    · have connected := possible.resolve_right (by simpa using staying)
      exact shows'.opened connected o old (own.trans same) opens
    · rw [List.mem_singleton.mp new]
      exact le_trans (shows'.lastEvent.2 shows'.since) late

theorem Shows.step (shows' : Shows seen row) (chronological : Chronological (seen ++ [g])) :
    ∃ row', see (some row) g = some row' ∧ Shows (seen ++ [g]) row' := by
  have member : g ∈ seen ++ [g] := List.mem_append_right _ (List.mem_singleton_self g)
  -- an event before one of its own connection does not end it
  have staying : g.connectionId = row.connectionId → g.at' < row.lastEventAt →
      g.action ≠ "charger_disconnected" := by
    intro same early ends
    obtain ⟨o, old, own, lastly⟩ := shows'.lastEvent.1
    have late := chronological.last g member o (List.mem_append_left _ old) ends (same.trans own.symm)
    rw [lastly] at late
    exact absurd early (not_lt.mpr late)
  unfold see project
  rcases lt_trichotomy g.connectionId row.connectionId with older | same | newer
  · refine ⟨row, by simp [older], shows'.ignore (le_of_lt older) ?_ ?_ ?_⟩ <;>
      exact fun same => absurd same (ne_of_lt older)
  · simp only [same, lt_irrefl, ite_false, ite_true]
    by_cases early : g.at' < row.lastEventAt
    · simp only [early, ite_true]
      by_cases begins : row.connected = true ∧ g.action = "charger_connected" ∧ g.at' < row.connectedAt
      · refine ⟨{ row with connectedAt := g.at' }, by simp [begins], ?_⟩
        exact shows'.begin same (le_of_lt early) begins.2.1 (le_of_lt begins.2.2)
      · refine ⟨row, ?_, shows'.ignore (le_of_eq same) (fun _ => le_of_lt early)
          (fun _ _ => staying same early) ?_⟩
        · have nothing : (row.connected && decide (g.action = "charger_connected") &&
              decide (g.at' < row.connectedAt)) = false := by
            by_contra holds
            simp only [Bool.not_eq_false, Bool.and_eq_true, decide_eq_true_eq] at holds
            exact begins ⟨holds.1.1, holds.1.2, holds.2⟩
          simp only [nothing]
          rfl
        · intro _ connected opens
          by_contra sooner
          exact begins ⟨connected, opens, not_le.mp sooner⟩
    · have late : row.lastEventAt ≤ g.at' := not_lt.mp early
      simp only [early, ite_false]
      by_cases awaited : row.connected = false ∧ g.action ≠ "charger_disconnected"
      · -- the disconnection seen is at least as late
        have ended : ¬ ∀ o ∈ seen, o.connectionId = row.connectionId → o.action ≠ "charger_disconnected" := by
          intro all
          have connected := shows'.connected.mpr all
          rw [awaited.1] at connected
          contradiction
        push Not at ended
        obtain ⟨c, old, own, ends⟩ := ended
        have after' := chronological.last c (List.mem_append_left _ old) g member ends (own.trans same.symm)
        have upper : c.at' ≤ row.lastEventAt := shows'.lastEvent.2 (mem_times old own)
        refine ⟨row, by simp [awaited], shows'.ignore (le_of_eq same) (fun _ => le_trans after' upper) ?_ ?_⟩
        · exact fun _ _ => awaited.2
        · intro _ connected
          rw [awaited.1] at connected
          contradiction
      · have possible : row.connected = true ∨ g.action = "charger_disconnected" := by
          by_contra neither
          push Not at neither
          exact awaited ⟨by simpa using neither.1, neither.2⟩
        refine ⟨_, ?_, shows'.advance same late possible
          (if g.action = "charger_disconnected" then row.lastSeenAt else g.at')⟩
        have going : (!row.connected && decide (g.action ≠ "charger_disconnected")) = false := by
          rcases possible with connected | ends
          · simp [connected]
          · simp [ends]
        simp only [going, same]
        rfl
  · refine ⟨_, by simp [not_lt.mpr (le_of_lt newer), ne_of_gt newer], Shows.fresh ?_⟩
    intro o old
    exact lt_of_le_of_lt (shows'.latest.2 ⟨o, old, rfl⟩) newer

/-! ### Any order -/

/-- The events one after the other, each in a request of its own. -/
def observeAll (order : List Sighting) (s : Store) : Store :=
  order.foldl (fun s g => after (observe g.env g.e g.data g.action) s) s

theorem observeAll_row {stationId : String} (order : List Sighting)
    (valid : ∀ g ∈ order, g.Valid stationId) (s : Store) :
    (observeAll order s).connections.get? stationId = order.foldl see (s.connections.get? stationId) := by
  induction order generalizing s with
  | nil => rfl
  | cons g _ ih =>
    obtain ⟨s', returned, row⟩ := (valid g (List.mem_cons_self ..)).observed s
    have left : after (observe g.env g.e g.data g.action) s = s' := congrArg Prod.snd returned
    have tail := ih (fun o member => valid o (List.mem_cons_of_mem _ member)) s'
    unfold observeAll at tail ⊢
    rw [List.foldl_cons, List.foldl_cons, left, tail, row]

theorem shows_all (order : List Sighting) (chronological : Chronological order) (some' : order ≠ []) :
    ∃ row, order.foldl see none = some row ∧ Shows order row := by
  induction order using List.reverseRecOn with
  | nil => exact absurd rfl some'
  | append_singleton seen _ ih =>
    rw [List.foldl_append]
    by_cases first : seen = []
    · subst first
      exact ⟨_, rfl, Shows.fresh (by simp)⟩
    · obtain ⟨row, folded, shows'⟩ := ih chronological.before first
      rw [folded]
      exact shows'.step chronological

theorem Chronological.perm {order events : List Sighting} (permuted : order.Perm events)
    (chronological : Chronological events) : Chronological order where
  first o ho g hg := chronological.first o (permuted.mem_iff.mp ho) g (permuted.mem_iff.mp hg)
  last c hc g hg := chronological.last c (permuted.mem_iff.mp hc) g (permuted.mem_iff.mp hg)

theorem times_perm {order events : List Sighting} (permuted : order.Perm events) (connectionId : String) :
    times order connectionId = times events connectionId := by
  ext t
  constructor
  · rintro ⟨g, member, rest⟩
    exact ⟨g, permuted.mem_iff.mp member, rest⟩
  · rintro ⟨g, member, rest⟩
    exact ⟨g, permuted.mem_iff.mpr member, rest⟩

/-- The row does not depend on the order in which a station's events are delivered: it holds
the greatest connection, which is connected unless its disconnection was seen, the last time
it was seen and, while it is connected, the first. -/
theorem presence_of_any_order (stationId : String) (events order : List Sighting)
    (permuted : order.Perm events) (valid : ∀ g ∈ events, g.Valid stationId)
    (chronological : Chronological events)
    (opened : ∀ g ∈ events, ∃ o ∈ events, o.connectionId = g.connectionId ∧ o.action = "charger_connected")
    (s : Store) (unseen : s.connections.get? stationId = none) :
    ((observeAll order s).connections.get? stationId = none ↔ events = []) ∧
      ∀ row, (observeAll order s).connections.get? stationId = some row →
        IsGreatest {id | ∃ g ∈ events, g.connectionId = id} row.connectionId ∧
        (row.connected = true ↔
          ∀ g ∈ events, g.connectionId = row.connectionId → g.action ≠ "charger_disconnected") ∧
        IsGreatest (times events row.connectionId) row.lastEventAt ∧
        (row.connected = true → IsLeast (times events row.connectionId) row.connectedAt) := by
  have folded := observeAll_row order (fun g member => valid g (permuted.mem_iff.mp member)) s
  rw [unseen] at folded
  rw [folded]
  by_cases none' : events = []
  · subst none'
    rw [permuted.eq_nil]
    exact ⟨⟨fun _ => rfl, fun _ => rfl⟩, fun row found => by cases found⟩
  · have some' : order ≠ [] := by
      rintro rfl
      exact none' permuted.nil_eq.symm
    obtain ⟨row, left, shows'⟩ := shows_all order (chronological.perm permuted) some'
    rw [left]
    refine ⟨⟨fun absent => (by cases absent), fun empty => absurd empty none'⟩, ?_⟩
    intro row' found
    cases found
    have latest := shows'.latest
    have lastEvent := shows'.lastEvent
    have since := shows'.since
    rw [times_perm permuted] at lastEvent since
    simp only [permuted.mem_iff] at latest
    refine ⟨latest, ?_, lastEvent, fun connected => ⟨since, ?_⟩⟩
    · rw [shows'.connected]
      simp only [permuted.mem_iff]
    · rintro t ⟨g, member, own, rfl⟩
      obtain ⟨o, first, same, opens⟩ := opened g member
      have earliest := chronological.first o first g member opens same
      exact le_trans (shows'.opened connected o (permuted.mem_iff.mpr first) (same.trans own) opens) earliest

end Sighting

namespace Deployment

/-- An event of the station's connection that ends in `connection`. -/
def sighting (connection action at' : String) (minutes : Nat) : Sighting where
  env := environment "2.0.1" 1 6
  e := ⟨"01JN7F000000000000000000E1", "01JN7F000000000000000000S1", action,
    "2026-03-01T" ++ at' ++ "Z", .null, .null⟩
  data := .array [("charge_point_identity", .string "CP-1"), ("protocol", .string "ocpp2.0.1"),
    ("connection_id", .string ("01JN7F000000000000000000" ++ connection))]
  action
  connectionId := "01JN7F000000000000000000" ++ connection
  at' := minute minutes

/-- A connection that is replaced while it is still open, and its successor. -/
def replaced : List Sighting :=
  [sighting "W1" "charger_connected" "10:00:00" 0, sighting "W2" "charger_connected" "10:01:00" 1,
    sighting "W1" "charger_disconnected" "10:02:00" 2, sighting "W2" "heartbeat" "10:03:00" 3]

end Deployment

namespace Sighting

/-- The replaced connection, delivered backwards. -/
theorem presence_of_replaced :
    ((observeAll Deployment.replaced.reverse Store.empty).connections.get?
        "01JN7F000000000000000000S1" = none ↔ Deployment.replaced = []) ∧
      ∀ row, (observeAll Deployment.replaced.reverse Store.empty).connections.get?
          "01JN7F000000000000000000S1" = some row →
        IsGreatest {id | ∃ g ∈ Deployment.replaced, g.connectionId = id} row.connectionId ∧
        (row.connected = true ↔ ∀ g ∈ Deployment.replaced, g.connectionId = row.connectionId →
          g.action ≠ "charger_disconnected") ∧
        IsGreatest (times Deployment.replaced row.connectionId) row.lastEventAt ∧
        (row.connected = true →
          IsLeast (times Deployment.replaced row.connectionId) row.connectedAt) := by
  refine presence_of_any_order _ _ _ (List.reverse_perm _) ?_ ⟨by decide +kernel, by decide +kernel⟩
    (by decide +kernel) _ rfl
  intro g member
  simp only [Deployment.replaced, List.mem_cons, List.not_mem_nil, or_false] at member
  rcases member with rfl | rfl | rfl | rfl <;>
    exact ⟨rfl, ⟨"CP-1", "ocpp2.0.1", rfl, rfl, rfl⟩, by decide +kernel, rfl⟩

end Sighting
end VtsaCsms.Charging
