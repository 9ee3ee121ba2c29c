import Mathlib.Data.Prod.Lex
import Mathlib.Algebra.Order.Ring.Rat
import VtsaCsms.Foundation.Php
import VtsaCsms.Foundation.Ranking

/-!
# The search for public stations

`PublicStationSearch.php`. The database selects by place and text, on PostgreSQL by distance and bounds as well, and
gives no more than so many candidates; the connectors, the amenities and the hours of a station are looked at after
that. So the answer is the first of all stations that satisfy the filters exactly if of those that are no candidates
none has fewer than the limit before it. A station is taken as its row with the rows that belong to it, in the order
in which the database has them.
-/
namespace VtsaCsms.Locations
open Foundation

inductive LifecycleStatus where
  | draft | active | maintenance | retired
  deriving DecidableEq

/-- What is said of a connector, of a station, and in the filter. -/
inductive Availability where
  | available | occupied | reserved | unavailable | faulted | offline | unknown | busy | stale
  deriving DecidableEq

/-- `charging_connector_statuses`. -/
structure ConnectorSignal where
  connectionId : Option String
  status : Availability
  observedAt : Instant
  staleAfterSeconds : Int

/-- An active connector with its standard, its current and its signal. -/
structure Connector where
  standard : String
  currentType : String
  maximumPowerW : Int
  signal : Option ConnectorSignal

structure StationConnection where
  connectionId : String
  connected : Bool
  lastSeenAt : Instant

/-- `site_operating_hours`, the times as seconds of the day. -/
structure OperatingHour where
  dayOfWeek : Nat
  opensAt : Option Nat
  closesAt : Option Nat
  isClosed : Bool

/-- A row of `charging_stations`, joined with its site, the operator and the city. -/
structure Station (ι : Type) where
  id : ι
  name : String
  tenantId : String
  lifecycleStatus : LifecycleStatus
  isPublic : Bool
  siteName : String
  siteTenantId : String
  siteLifecycleStatus : LifecycleStatus
  siteIsPublic : Bool
  publishedAt : Option Instant
  latitude : Option ℚ
  longitude : Option ℚ
  timezone : String
  siteType : String
  operatorId : String
  operatorTenantId : String
  cityName : Option String
  connectors : List Connector
  connection : Option StationConnection
  hours : List OperatingHour
  amenities : List String

/-- Bounds as the request accepts them. -/
structure Bounds where
  west : ℚ
  south : ℚ
  east : ℚ
  north : ℚ
  ordered : west < east ∧ south < north

structure Filters where
  operatorId : Option String := none
  siteType : Option String := none
  query : Option String := none
  city : Option String := none
  point : Option (ℚ × ℚ) := none
  radiusM : Option Nat := none
  bounds : Option Bounds := none
  connector : Option String := none
  connectors : Option (List String) := none
  minPowerW : Option Int := none
  current : Option String := none
  availability : Option Availability := none
  amenity : Option String := none
  openNow : Option Bool := none
  limit : Nat

/-- The time, and what the database and the calendar compute: `like` or `ilike`, the distance of two points, and the
day of the week with the second of the day in a time zone. -/
structure Surroundings where
  now : Instant
  connectionStaleAfterSeconds : Int
  like : String → String → Bool
  distance : ℚ × ℚ → ℚ × ℚ → ℚ
  localClock : String → Instant → Nat × Nat

inductive Driver where
  | pgsql | other

section Search
variable {ι : Type} (around : Surroundings) (filters : Filters)

/-! ### In the database -/

/-- The joins and conditions of the query that both paths share. -/
def selects (s : Station ι) : Bool :=
  s.siteTenantId = s.tenantId && s.operatorTenantId = s.siteTenantId &&
    s.siteLifecycleStatus = .active && s.siteIsPublic && s.publishedAt.any (· ≤ around.now) &&
    s.lifecycleStatus = .active && s.isPublic && s.latitude.isSome && s.longitude.isSome &&
    filters.operatorId.all (s.operatorId = ·) && filters.siteType.all (s.siteType = ·) &&
    (filters.query.all fun q => around.like s.siteName ("%" ++ q ++ "%") || around.like s.name ("%" ++ q ++ "%")) &&
    filters.city.all fun c => s.cityName.any (around.like · ("%" ++ c ++ "%"))

def Station.coordinates (s : Station ι) : ℚ × ℚ := (s.latitude.getD 0, s.longitude.getD 0)

def Bounds.contains (b : Bounds) (at' : ℚ × ℚ) : Bool :=
  b.west ≤ at'.2 && at'.2 ≤ b.east && b.south ≤ at'.1 && at'.1 ≤ b.north

def distanceM (s : Station ι) : Option ℚ := filters.point.map (around.distance · s.coordinates)

/-- `ST_DWithin` and `ST_Intersects`. -/
def intersects (s : Station ι) : Bool :=
  (distanceM around filters s).all (· ≤ (filters.radiusM.getD 10000 : ℚ)) && filters.bounds.all (·.contains s.coordinates)

/-- The filter of `portable`. -/
def isNear (s : Station ι) : Bool :=
  !(filters.radiusM.any fun radius => (radius : ℚ) < (distanceM around filters s).getD 0) &&
    filters.bounds.all (·.contains s.coordinates)

def candidateLimit : Nat := min (max (filters.limit * 5) 250) 1000

variable [LinearOrder ι]

/-- `ORDER BY distance_m, station.id`, or the identifier alone. -/
def databaseLe (a b : Station ι) : Bool :=
  match filters.point with
  | none => decide (a.id ≤ b.id)
  | some point =>
    decide (toLex (around.distance point a.coordinates, a.id) ≤ toLex (around.distance point b.coordinates, b.id))

def phpFloatMax : ℚ := (2 ^ 53 - 1) * 2 ^ 971

def sortKey (s : Station ι) : ℚ ×ₗ ι := toLex ((distanceM around filters s).getD phpFloatMax, s.id)

def postgis (stations : List (Station ι)) : List (Station ι) :=
  ((stations.filter fun s => selects around filters s && intersects around filters s).insertionSort fun a b =>
    databaseLe around filters a b = true).take (candidateLimit filters)

def portable (stations : List (Station ι)) : List (Station ι) :=
  (((stations.filter (selects around filters)).take 2000).filter (isNear around filters)).insertionSort fun a b =>
    sortKey around filters a ≤ sortKey around filters b

def candidates (driver : Driver) (stations : List (Station ι)) : List (Station ι) :=
  match driver with
  | .pgsql => postgis around filters stations
  | .other => portable around filters stations

/-! ### After the database -/

def ConnectorSignal.fresh (signal : ConnectorSignal) : Bool :=
  around.now < signal.observedAt.addSeconds signal.staleAfterSeconds

def StationConnection.online (c : StationConnection) : Bool :=
  c.connected && around.now < c.lastSeenAt.addSeconds around.connectionStaleAfterSeconds

/-- `StationConnectionQuery::availability` of a station that has a connection. -/
def StationConnection.availability (c : StationConnection) (signal : ConnectorSignal) : Availability :=
  if c.online around = false then .offline
  else if signal.connectionId ≠ some c.connectionId then .unknown
  else signal.status

def summarizeAvailability (statuses : List Availability) (stale : Bool) : Availability :=
  if .available ∈ statuses then .available
  else if .occupied ∈ statuses ∨ .reserved ∈ statuses then .busy
  else if .faulted ∈ statuses then .faulted
  else if .offline ∈ statuses ∨ .unavailable ∈ statuses then .offline
  else if stale then .stale
  else .unknown

def connectorAvailability (connection : Option StationConnection) (connector : Connector) : Availability :=
  let availability := match connector.signal with
    | none => .unknown
    | some signal =>
      match connection with
      | some c => c.availability around signal
      | none => if signal.fresh around then signal.status else .stale
  if connection.any fun c => c.online around = false then .offline else availability

/-- The availability that `withConnectorSignals` gives the station. -/
def stationAvailability (s : Station ι) : Availability :=
  match s.connection with
  | none =>
    let fresh := (s.connectors.filterMap Connector.signal).filter (ConnectorSignal.fresh around)
    summarizeAvailability (fresh.map ConnectorSignal.status) (!s.connectors.isEmpty && fresh.isEmpty)
  | some c =>
    if c.online around = false then .offline
    else
      let live (connector : Connector) : Availability := match connector.signal with
        | none => .unknown
        | some signal => c.availability around signal
      summarizeAvailability (s.connectors.map live) false

/-- `open_now` of `withOperatingHours`. -/
def isOpenNow (s : Station ι) : Bool :=
  let (day, clock) := around.localClock s.timezone around.now
  let hoursOf (weekday : Nat) : Option (Nat × Nat) :=
    (s.hours.find? fun hour => decide (hour.dayOfWeek = weekday)).bind fun hour =>
      if hour.isClosed then none else hour.opensAt.bind fun opens => hour.closesAt.map fun closes => (opens, closes)
  ((hoursOf day).any fun (opens, closes) =>
      if opens < closes then opens ≤ clock && clock < closes else closes < opens && opens ≤ clock) ||
    (hoursOf ((day + 6) % 7)).any fun (opens, closes) => closes < opens && clock < closes

def normalize (code : String) : String :=
  String.ofList ((code.toList.filter Char.isAlphanum).map Char.toLower)

def amenityCode (code : String) : String :=
  String.ofList ((code.toList.map Char.toLower).filter fun c => c ≠ '_' ∧ c ≠ '-')

def matchesConnector (s : Station ι) (item : Connector) : Bool :=
  let availability := connectorAvailability around s.connection item
  let wanted := filters.connectors.getD []
  (filters.connector.all fun c => normalize item.standard = normalize c) &&
    (wanted.isEmpty || (wanted.map normalize).contains (normalize item.standard)) &&
    (filters.minPowerW.all fun power => power ≤ item.maximumPowerW) &&
    (filters.current.all fun c => item.currentType.toUpper = c.toUpper) &&
    filters.availability.all fun
      | .busy => [.occupied, .reserved].contains availability
      | .offline => [.offline, .unavailable].contains availability
      | wanted => availability = wanted

def matchesFilters (s : Station ι) : Bool :=
  let hasConnectorCriteria :=
    filters.connector.isSome || filters.connectors.isSome || filters.minPowerW.isSome || filters.current.isSome
  (!(hasConnectorCriteria || filters.availability.isSome) ||
      if s.connectors.isEmpty && !hasConnectorCriteria && filters.availability.isSome then
        some (stationAvailability around s) = filters.availability
      else s.connectors.any (matchesConnector around filters s)) &&
    (filters.amenity.all fun a => s.amenities.any fun code => amenityCode code = amenityCode a) &&
    (filters.openNow.all fun wanted => !wanted || isOpenNow around s)

/-- What is told of a station. -/
structure Found (ι : Type) where
  station : Station ι
  distanceM : Option ℚ
  availability : Availability
  connectors : List Availability
  openNow : Bool

def present (s : Station ι) : Found ι where
  station := s
  distanceM := distanceM around filters s
  availability := stationAvailability around s
  connectors := s.connectors.map (connectorAvailability around s.connection)
  openNow := isOpenNow around s

/-- The stations of the database; the identifier is their primary key. -/
structure Stations (ι : Type) where
  rows : List (Station ι)
  unique : (rows.map Station.id).Nodup

def search (driver : Driver) (stations : Stations ι) : List (Found ι) :=
  (((candidates around filters driver stations.rows).filter (matchesFilters around filters)).take filters.limit).map
    (present around filters)

/-! ### What is asked for -/

def withinRadius (s : Station ι) : Bool :=
  match filters.point, filters.radiusM with
  | some point, some radius => around.distance point s.coordinates ≤ (radius : ℚ)
  | _, _ => true

/-- The station is public and satisfies every filter. -/
def satisfies (s : Station ι) : Bool :=
  selects around filters s && withinRadius around filters s && filters.bounds.all (·.contains s.coordinates) &&
    matchesFilters around filters s

/-- The first of all stations that satisfy the filters, by their distances and then by their identifiers. -/
def expected (stations : Stations ι) : List (Found ι) :=
  (((stations.rows.filter (satisfies around filters)).insertionSort fun a b =>
    sortKey around filters a ≤ sortKey around filters b).take filters.limit).map (present around filters)

/-- Of the stations that satisfy the filters and are no candidates, each has as many before it as are asked for. -/
def NoneMissed (driver : Driver) (stations : Stations ι) : Prop :=
  ∀ s ∈ stations.rows, satisfies around filters s = true →
    s ∈ candidates around filters driver stations.rows ∨
      filters.limit ≤ ((candidates around filters driver stations.rows).filter fun c =>
        matchesFilters around filters c && decide (sortKey around filters c < sortKey around filters s)).length

variable {around filters}

theorem databaseLe_iff (a b : Station ι) :
    databaseLe around filters a b = true ↔ sortKey around filters a ≤ sortKey around filters b := by
  unfold databaseLe sortKey distanceM
  cases filters.point with
  | none => simp [Prod.Lex.le_iff]
  | some point => exact decide_eq_true_iff

theorem insertionSort_congr {α : Type} {r r' : α → α → Prop} [DecidableRel r] [DecidableRel r']
    (same : ∀ a b, r a b ↔ r' a b) (l : List α) : l.insertionSort r = l.insertionSort r' := by
  obtain rfl : r = r' := funext fun a => funext fun b => propext (same a b)
  congr

omit [LinearOrder ι] in
theorem distinct_keys {rows part : List (Station ι)} (unique : (rows.map Station.id).Nodup) (inside : part.Sublist rows) :
    (part.map (sortKey around filters)).Nodup := by
  have identifiers : ((part.map (sortKey around filters)).map fun key => (ofLex key).2).Nodup := by
    rw [List.map_map]
    exact unique.sublist (inside.map _)
  exact identifiers.of_map _

theorem candidates_ranked (driver : Driver) (stations : Stations ι) :
    Ranked (sortKey around filters) (candidates around filters driver stations.rows) := by
  cases driver with
  | pgsql =>
    have same (rows : List (Station ι)) : rows.insertionSort (fun a b => databaseLe around filters a b = true) =
        rows.insertionSort fun a b => sortKey around filters a ≤ sortKey around filters b :=
      insertionSort_congr databaseLe_iff rows
    rw [candidates, postgis, same]
    refine List.Pairwise.sublist (List.take_sublist _ _) ?_
    exact ranked_insertionSort (distinct_keys stations.unique List.filter_sublist)
  | other =>
    have part := (List.filter_sublist (p := isNear around filters)).trans
      ((List.take_sublist 2000 _).trans (List.filter_sublist (p := selects around filters) (l := stations.rows)))
    exact ranked_insertionSort (distinct_keys stations.unique part)

theorem mem_candidates {driver : Driver} {rows : List (Station ι)} {s : Station ι}
    (among : s ∈ candidates around filters driver rows) :
    s ∈ rows ∧ selects around filters s = true ∧ withinRadius around filters s = true ∧
      filters.bounds.all (·.contains s.coordinates) = true := by
  cases driver with
  | pgsql =>
    have selected := List.mem_of_mem_take among
    rw [List.mem_insertionSort, List.mem_filter, Bool.and_eq_true, intersects, Bool.and_eq_true] at selected
    obtain ⟨stored, chosen, near, inside⟩ := selected
    refine ⟨stored, chosen, ?_, inside⟩
    rw [distanceM] at near
    unfold withinRadius
    split
    next point radius hp hr => simpa [hp, hr] using near
    next => rfl
  | other =>
    rw [candidates, portable, List.mem_insertionSort, List.mem_filter, isNear, Bool.and_eq_true] at among
    obtain ⟨taken, near, inside⟩ := among
    obtain ⟨stored, chosen⟩ := List.mem_filter.mp (List.mem_of_mem_take taken)
    refine ⟨stored, chosen, ?_, inside⟩
    rw [distanceM] at near
    unfold withinRadius
    split
    next point radius hp hr => simpa [hp, hr] using near
    next => rfl

omit [LinearOrder ι] in
theorem present_injective : Function.Injective (present around filters (ι := ι)) := fun _ _ same =>
  congrArg Found.station same

/-- The search is complete if and only if no station is missed that way. -/
theorem search_complete_iff (around : Surroundings) (filters : Filters) (driver : Driver) (stations : Stations ι) :
    search around filters driver stations = expected around filters stations ↔
      NoneMissed around filters driver stations := by
  have ranked : Ranked (sortKey around filters) (candidates around filters driver stations.rows) :=
    candidates_ranked driver stations
  have found : Ranked (sortKey around filters) ((candidates around filters driver stations.rows).filter
      (matchesFilters around filters)) := ranked.filter _
  have all : Ranked (sortKey around filters) ((stations.rows.filter (satisfies around filters)).insertionSort fun a b =>
      sortKey around filters a ≤ sortKey around filters b) :=
    ranked_insertionSort (distinct_keys stations.unique List.filter_sublist)
  have among : (candidates around filters driver stations.rows).filter (matchesFilters around filters) ⊆
      (stations.rows.filter (satisfies around filters)).insertionSort fun a b =>
        sortKey around filters a ≤ sortKey around filters b := by
    intro s stands
    obtain ⟨candidate, matched⟩ := List.mem_filter.mp stands
    obtain ⟨stored, chosen, near, inside⟩ := mem_candidates candidate
    rw [List.mem_insertionSort, List.mem_filter]
    exact ⟨stored, by rw [satisfies, chosen, near, inside, matched]; rfl⟩
  rw [search, expected, (List.map_injective_iff.mpr present_injective).eq_iff, all.take_eq_iff (found.sublist_of_subset all among)]
  simp only [List.mem_insertionSort, List.mem_filter, and_imp, List.filter_filter, NoneMissed]
  refine forall₃_congr fun s _ satisfied => or_congr (and_iff_left ?_) ?_
  · rw [satisfies, Bool.and_eq_true] at satisfied
    exact satisfied.2
  · simp only [Bool.and_comm]

end Search

/-! ### Many that do not match -/

namespace ManyStations

def around : Surroundings where
  now := 0
  connectionStaleAfterSeconds := 0
  like := fun _ _ => true
  distance := fun _ _ => 0
  localClock := fun _ _ => (0, 0)

/-- Only the last station has a connector of 50 kW. -/
def station (i : Nat) : Station Nat where
  id := i
  name := ""
  tenantId := ""
  lifecycleStatus := .active
  isPublic := true
  siteName := ""
  siteTenantId := ""
  siteLifecycleStatus := .active
  siteIsPublic := true
  publishedAt := some 0
  latitude := some 0
  longitude := some 0
  timezone := ""
  siteType := ""
  operatorId := ""
  operatorTenantId := ""
  cityName := none
  connectors := [{ standard := "", currentType := "", maximumPowerW := if i = 250 then 50000 else 22000, signal := none }]
  connection := none
  hours := []
  amenities := []

def fast : Filters := { minPowerW := some 50000, limit := 1 }

def stations : Stations Nat where
  rows := (List.range 251).map station
  unique := by
    rw [List.map_map]
    exact List.nodup_range.map fun _ _ same => same

theorem selected (i : Nat) : (selects around fast (station i) && intersects around fast (station i)) = true := by
  simp [selects, intersects, distanceM, around, fast, station]

theorem matches_last (i : Nat) : matchesFilters around fast (station i) = decide (i = 250) := by
  by_cases last : i = 250 <;> simp [matchesFilters, matchesConnector, fast, station, last]

theorem candidates_first : candidates around fast .pgsql stations.rows = (List.range 250).map station := by
  have sorted : ((List.range 251).map station).Pairwise fun a b => databaseLe around fast a b = true := by
    rw [List.pairwise_map]
    exact List.pairwise_lt_range.imp fun before => decide_eq_true before.le
  have all : ((List.range 251).map station).filter
      (fun s => selects around fast s && intersects around fast s) = (List.range 251).map station := by
    rw [List.filter_eq_self]
    intro s stands
    obtain ⟨i, -, rfl⟩ := List.mem_map.mp stands
    exact selected i
  rw [candidates, postgis, stations, all, sorted.insertionSort_eq, ← List.map_take, List.take_range]
  rfl

/-- The search finds nothing, as 250 stations that do not match come before the one that does. -/
theorem matching_station_missed :
    search around fast .pgsql stations = [] ∧ expected around fast stations ≠ [] := by
  refine ⟨?_, fun nothing => ?_⟩
  · have none : ((List.range 250).map station).filter (matchesFilters around fast) = [] := by
      rw [List.filter_eq_nil_iff]
      intro s stands
      obtain ⟨i, early, rfl⟩ := List.mem_map.mp stands
      rw [matches_last, decide_eq_true_iff]
      exact (List.mem_range.mp early).ne
    rw [search, candidates_first, none]
    rfl
  · have stored : station 250 ∈ stations.rows := List.mem_map_of_mem (List.mem_range.mpr (by decide))
    have satisfied : satisfies around fast (station 250) = true := by
      rw [satisfies, matches_last]
      simp [withinRadius, selects, fast, station, around]
    have sorted := List.mem_insertionSort (fun a b => sortKey around fast a ≤ sortKey around fast b) |>.mpr
      (List.mem_filter.mpr ⟨stored, satisfied⟩)
    rw [expected, List.map_eq_nil_iff, List.take_eq_nil_iff] at nothing
    obtain zero | empty := nothing
    · cases zero
    · rw [empty] at sorted
      exact absurd sorted List.not_mem_nil

end ManyStations

end VtsaCsms.Locations
