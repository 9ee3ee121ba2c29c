import VtsaCsms.Charging.EventEffects
import VtsaCsms.Foundation.Runs
import VtsaCsms.Gateway.Stores

/-!
# Transaction sequences

The transaction ids an OCPP 1.6 charge point is given: `on_start_transaction` of
`adapters/v16.py` with `next_protocol_transaction_id`, and what `OcppEventConsumer.php` makes
of the start events that carry them.
-/
namespace VtsaCsms.Gateway
open Foundation Foundation.Action Assets Charging

/-- The fields of a `StartTransaction.req`; the token goes to the authorization only. -/
structure StartTransaction where
  connectorId : Int
  idTag : String
  meterStart : Int
  timestamp : String
  reservationId : Option Int := none

def StartTransaction.data (request : StartTransaction) (authorizationStatus : String)
    (protocolTransactionId : Int) : Mixed :=
  .array [("connector_id", .int request.connectorId), ("meter_start_wh", .int request.meterStart),
    ("reservation_id", (request.reservationId.map Mixed.int).getD .null),
    ("protocol_transaction_id", .int protocolTransactionId),
    ("authorization_status", .string authorizationStatus)]

/-- `on_start_transaction` once the authorization is decided: the transaction id it answers, and
the data of its event. -/
def onStartTransaction (store : RedisGatewayStore) (now later : ℚ) (chargePointIdentity : String)
    (request : StartTransaction) (authorizationStatus : String) :
    Action RedisRows Redis.Error (Int × Mixed) := do
  let protocolTransactionId ← store.nextProtocolTransactionId now later chargePointIdentity
  pure (protocolTransactionId, request.data authorizationStatus protocolTransactionId)

/-- A start, the time before it, and the time between its two commands. -/
structure StartCall where
  wait : ℚ
  pause : ℚ
  forward : 0 ≤ wait ∧ 0 ≤ pause
  request : StartTransaction
  authorizationStatus : String

/-- The starts of one charge point that were answered, in order. -/
structure StartHistory where
  now : ℚ
  rows : RedisRows
  starts : List (Int × Mixed)

namespace StartHistory

def start (now : ℚ) : StartHistory := ⟨now, fun _ => none, []⟩

def ids (h : StartHistory) : List Int := h.starts.map Prod.fst

/-- The time of a start's second command. -/
def renewsAt (c : StartCall) (h : StartHistory) : ℚ := h.now + c.wait + c.pause

def next (store : RedisGatewayStore) (chargePointIdentity : String) (c : StartCall) (h : StartHistory) :
    StartHistory :=
  match onStartTransaction store (h.now + c.wait) (renewsAt c h) chargePointIdentity c.request
      c.authorizationStatus h.rows with
  | (.ok answered, rows) => ⟨renewsAt c h, rows, h.starts ++ [answered]⟩
  | (.error _, rows) => ⟨renewsAt c h, rows, h.starts⟩

end StartHistory

/-- A session whose charging is behind it. -/
def ended (q : ChargingSession) : Bool :=
  q.state.isTerminal || q.state = .finalizing || q.state = .reviewRequired

/-- On some rows of the platform the event of a start is attached to the ended session of the
transaction `earlier`. -/
def Attaches (env : Environment) (connector : ConnectorSnapshot) (earlier : Int) (data : Mixed) : Prop :=
  ∃ (sourceAt : Instant) (s s' : Store) (key : Nat) (q : ChargingSession) (transactionId : String),
    s.sessions.get? key = some q ∧ ended q = true ∧ OcppEventConsumer.holds connector (toString earlier) q = true ∧
      OcppEventConsumer.transactionId data = .ok transactionId ∧
      Returns (OcppEventConsumer.sessionForStart env connector transactionId sourceAt) s key s'

/-- No id is given twice, and no start is attached to the ended session of an earlier one. -/
structure NeverRepeats (h : StartHistory) : Prop where
  distinct : h.ids.Nodup
  detached : ∀ earlier later, [earlier, later].Sublist h.starts →
    ∀ env connector, ¬ Attaches env connector earlier.1 later.2

/-- The counter of the charge point has not expired when a start after the first asks for an id;
a start is only answered while the server's clock can represent the end of a renewal. -/
def CounterKept (store : RedisGatewayStore) (chargePointIdentity : String) (c : StartCall) (h : StartHistory) :
    Prop :=
  h.starts ≠ [] → Redis.fits (StartHistory.renewsAt c h) RedisGatewayStore.sequenceSeconds →
    Redis.find (h.now + c.wait) h.rows (store.transactionSequenceKey chargePointIdentity) ≠ none

section Counting
variable {store : RedisGatewayStore} {cp : String} {c : StartCall} {h : StartHistory} {id n : Int} {rows : RedisRows}

/-- The rows a renewal at the time of a start's second command leaves. -/
def renewedRows (store : RedisGatewayStore) (cp : String) (c : StartCall) (h : StartHistory) (rows : RedisRows) :
    RedisRows :=
  after (Redis.expire (StartHistory.renewsAt c h) (store.transactionSequenceKey cp) RedisGatewayStore.sequenceSeconds)
    rows

theorem next_now : (h.next store cp c).now = StartHistory.renewsAt c h := by
  unfold StartHistory.next
  split <;> rfl

theorem next_counted (counted : Returns (store.incrementSequence (h.now + c.wait) cp) h.rows id rows)
    (fit : Redis.fits (StartHistory.renewsAt c h) RedisGatewayStore.sequenceSeconds) :
    (h.next store cp c).starts = h.starts ++ [(id, c.request.data c.authorizationStatus id)] ∧
      (h.next store cp c).rows = renewedRows store cp c h rows := by
  obtain ⟨held, renewed⟩ := Redis.returns_expire fit rows (store.transactionSequenceKey cp)
  have given : Returns (store.nextProtocolTransactionId (h.now + c.wait) (StartHistory.renewsAt c h) cp) h.rows id
      (renewedRows store cp c h rows) :=
    counted.bind (renewed.bind ((returns_pure ..).mpr ⟨rfl, rfl⟩))
  have answered : Returns
      (onStartTransaction store (h.now + c.wait) (StartHistory.renewsAt c h) cp c.request c.authorizationStatus)
      h.rows (id, c.request.data c.authorizationStatus id) (renewedRows store cp c h rows) :=
    given.bind ((returns_pure ..).mpr ⟨rfl, rfl⟩)
  unfold Returns at answered
  unfold StartHistory.next
  simp only [answered, and_self]

theorem next_unfit (unfit : ¬ Redis.fits (StartHistory.renewsAt c h) RedisGatewayStore.sequenceSeconds) :
    (h.next store cp c).starts = h.starts := by
  have thrown : ∀ answered rows, ¬ Returns
      (onStartTransaction store (h.now + c.wait) (StartHistory.renewsAt c h) cp c.request c.authorizationStatus)
      h.rows answered rows := by
    intro answered rows returned
    simp only [onStartTransaction, RedisGatewayStore.nextProtocolTransactionId, returns_bind] at returned
    obtain ⟨_, _, ⟨_, rows, -, _, _, renewed, -⟩, -⟩ := returned
    rw [Returns, Redis.expire_unfit unfit] at renewed
    cases renewed
  unfold StartHistory.next
  split
  · rename_i answered rows returned
    exact absurd returned (thrown answered rows)
  · rfl

theorem incrementSequence_first
    (missing : Redis.find (h.now + c.wait) h.rows (store.transactionSequenceKey cp) = none) :
    Returns (store.incrementSequence (h.now + c.wait) cp) h.rows 1
      (Redis.put h.rows (store.transactionSequenceKey cp) ⟨.number 1, none⟩) := by
  simp only [Returns, RedisGatewayStore.incrementSequence, Redis.incr, missing]

theorem incrementSequence_next {t : Option ℚ} (below : n < Redis.longLongMax)
    (found : Redis.find (h.now + c.wait) h.rows (store.transactionSequenceKey cp) = some ⟨.number n, t⟩) :
    Returns (store.incrementSequence (h.now + c.wait) cp) h.rows (n + 1)
      (Redis.put h.rows (store.transactionSequenceKey cp) ⟨.number (n + 1), t⟩) := by
  simp only [Returns, RedisGatewayStore.incrementSequence, Redis.incr, found, RedisValue.number?, if_pos below]

theorem next_full {t : Option ℚ} (full : ¬ n < Redis.longLongMax)
    (found : Redis.find (h.now + c.wait) h.rows (store.transactionSequenceKey cp) = some ⟨.number n, t⟩) :
    (h.next store cp c).starts = h.starts ∧ (h.next store cp c).rows = h.rows := by
  have refused : Throws (store.incrementSequence (h.now + c.wait) cp) h.rows .outOfRange h.rows := by
    simp only [Throws, RedisGatewayStore.incrementSequence, Redis.incr, found, RedisValue.number?, if_neg full]
  have thrown : Throws
      (onStartTransaction store (h.now + c.wait) (StartHistory.renewsAt c h) cp c.request c.authorizationStatus)
      h.rows .outOfRange h.rows :=
    Throws.bind (Throws.bind refused)
  unfold Throws at thrown
  unfold StartHistory.next
  simp only [thrown, and_self]

end Counting

/-! ### Histories -/

/-- What the counter says of the ids given so far: it stands at the largest of them, and the first
is one of them. -/
structure Counted (store : RedisGatewayStore) (cp : String) (h : StartHistory) : Prop where
  positive : ∀ id ∈ h.ids, 1 ≤ id
  carried : ∀ a ∈ h.starts, OcppEventConsumer.transactionId a.2 = .ok (toString a.1)
  counter : Redis.fits h.now RedisGatewayStore.sequenceSeconds →
    (h.starts = [] ∧ h.rows (store.transactionSequenceKey cp) = none) ∨
      (h.starts ≠ [] ∧ 1 ∈ h.ids ∧ ∃ n t, h.rows (store.transactionSequenceKey cp) = some ⟨.number n, t⟩ ∧
        ∀ id ∈ h.ids, id ≤ n)

section Histories
variable {store : RedisGatewayStore} {cp : String} {c : StartCall} {h : StartHistory}

theorem counted_start (store : RedisGatewayStore) (cp : String) (now : ℚ) :
    Counted store cp (StartHistory.start now) := by
  refine ⟨?_, ?_, fun _ => Or.inl ⟨rfl, rfl⟩⟩
  · intro id member
    cases member
  · intro a member
    cases member

theorem now_le_next (c : StartCall) (h : StartHistory) : h.now ≤ StartHistory.renewsAt c h := by
  obtain ⟨wait, pause⟩ := c.forward
  unfold StartHistory.renewsAt
  linarith

theorem carried_data (request : StartTransaction) (status : String) (id : Int) :
    OcppEventConsumer.transactionId (request.data status id) = .ok (toString id) := rfl

theorem Counted.answer (counted : Counted store cp h) {id : Int} {rows : RedisRows} {t : Option ℚ}
    (given : (h.next store cp c).starts = h.starts ++ [(id, c.request.data c.authorizationStatus id)])
    (left : (h.next store cp c).rows = renewedRows store cp c h rows)
    (stored : rows (store.transactionSequenceKey cp) = some ⟨.number id, t⟩) (positive : 1 ≤ id)
    (below : ∀ k ∈ h.ids, k < id) (first : id = 1 ∨ 1 ∈ h.ids) : Counted store cp (h.next store cp c) := by
  have ids : (h.next store cp c).ids = h.ids ++ [id] := by
    simp only [StartHistory.ids, given, List.map_append, List.map_cons, List.map_nil]
  refine ⟨?_, ?_, fun _ => Or.inr ⟨?_, ?_, ?_⟩⟩
  · intro k member
    rw [ids] at member
    rcases List.mem_append.mp member with old | new
    · exact counted.positive k old
    · rw [List.mem_singleton.mp new]
      exact positive
  · intro a member
    rw [given] at member
    rcases List.mem_append.mp member with old | new
    · exact counted.carried a old
    · rw [List.mem_singleton.mp new]
      exact carried_data _ _ _
  · simp [given]
  · rw [ids]
    rcases first with rfl | earlier
    · simp
    · exact List.mem_append_left _ earlier
  · obtain ⟨t', renewed⟩ : ∃ t', after (Redis.expire (StartHistory.renewsAt c h) (store.transactionSequenceKey cp)
        RedisGatewayStore.sequenceSeconds) rows (store.transactionSequenceKey cp) = some ⟨.number id, t'⟩ :=
      Redis.expire_stored (by decide) stored
    refine ⟨id, t', by rw [left]; exact renewed, ?_⟩
    intro k member
    rw [ids] at member
    rcases List.mem_append.mp member with old | new
    · exact le_of_lt (below k old)
    · exact le_of_eq (List.mem_singleton.mp new)

theorem next_kept (counted : Counted store cp h) (distinct : h.ids.Nodup) (kept : CounterKept store cp c h) :
    Counted store cp (h.next store cp c) ∧ (h.next store cp c).ids.Nodup := by
  by_cases fit : Redis.fits (StartHistory.renewsAt c h) RedisGatewayStore.sequenceSeconds
  · rcases counted.counter (Redis.fits_earlier (now_le_next c h) fit) with ⟨none', missing⟩ |
      ⟨some', first, n, t, stored, upper⟩
    · have absent : Redis.find (h.now + c.wait) h.rows (store.transactionSequenceKey cp) = none := by
        rw [Redis.find, missing]
        rfl
      obtain ⟨given, left⟩ := next_counted (incrementSequence_first absent) fit
      have no : ∀ k ∈ h.ids, k < 1 := by simp [StartHistory.ids, none']
      refine ⟨counted.answer given left (Function.update_self ..) (le_refl 1) no (Or.inl rfl), ?_⟩
      simp [StartHistory.ids, given, none']
    · have held : Redis.find (h.now + c.wait) h.rows (store.transactionSequenceKey cp) = some ⟨.number n, t⟩ := by
        obtain ⟨e, found⟩ := Option.ne_none_iff_exists'.mp (kept some' fit)
        rw [found, ← stored]
        exact (Redis.find_some.mp found).1.symm
      by_cases below : n < Redis.longLongMax
      · obtain ⟨given, left⟩ := next_counted (incrementSequence_next below held) fit
        have above : ∀ k ∈ h.ids, k < n + 1 := by
          intro k member
          have := upper k member
          omega
        have least : 1 ≤ n + 1 := by
          have := upper 1 first
          omega
        refine ⟨counted.answer given left (Function.update_self ..) least above (Or.inr first), ?_⟩
        have ids : (h.next store cp c).ids = h.ids ++ [n + 1] := by
          simp only [StartHistory.ids, given, List.map_append, List.map_cons, List.map_nil]
        rw [ids]
        refine List.Nodup.append distinct (by simp) ?_
        intro k old new
        have := above k old
        rw [List.mem_singleton.mp new] at this
        omega
      · obtain ⟨same, same'⟩ := next_full (c := c) below held
        have ids : (h.next store cp c).ids = h.ids := by rw [StartHistory.ids, same, StartHistory.ids]
        refine ⟨⟨?_, ?_, fun _ => Or.inr ?_⟩, ?_⟩
        · rw [ids]
          exact counted.positive
        · rw [same]
          exact counted.carried
        · rw [same, ids, same']
          exact ⟨some', first, n, t, stored, upper⟩
        · rw [ids]
          exact distinct
  · have same : (h.next store cp c).starts = h.starts := next_unfit fit
    have ids : (h.next store cp c).ids = h.ids := by rw [StartHistory.ids, same, StartHistory.ids]
    refine ⟨⟨?_, ?_, ?_⟩, ?_⟩
    · rw [ids]
      exact counted.positive
    · rw [same]
      exact counted.carried
    · rw [next_now]
      exact fun fit' => absurd fit' fit
    · rw [ids]
      exact distinct

/-- A start after the first that does not find the counter is given the first id again. -/
theorem next_broken (counted : Counted store cp h) (lost : ¬ CounterKept store cp c h) :
    ¬ (h.next store cp c).ids.Nodup := by
  simp only [CounterKept, Classical.not_imp, not_not] at lost
  obtain ⟨some', fit, missing⟩ := lost
  obtain ⟨given, -⟩ := next_counted (incrementSequence_first missing) fit
  rcases counted.counter (Redis.fits_earlier (now_le_next c h) fit) with ⟨none', -⟩ | ⟨-, first, -⟩
  · exact absurd none' some'
  · have ids : (h.next store cp c).ids = h.ids ++ [1] := by
      simp only [StartHistory.ids, given, List.map_append, List.map_cons, List.map_nil]
    intro distinct
    rw [ids] at distinct
    exact (List.disjoint_of_nodup_append distinct) first (by simp)

theorem ids_next (store : RedisGatewayStore) (cp : String) (c : StartCall) (h : StartHistory) :
    h.ids <+: (h.next store cp c).ids := by
  unfold StartHistory.next StartHistory.ids
  split
  · rw [List.map_append]
    exact List.prefix_append _ _
  · exact List.prefix_refl _

theorem ids_reached (store : RedisGatewayStore) (cp : String) (calls : List StartCall) (h : StartHistory) :
    h.ids <+: (Runs.reached (StartHistory.next store cp) calls h).ids := by
  induction calls generalizing h with
  | nil => exact List.prefix_refl _
  | cons c rest ih => exact (ids_next store cp c h).trans (ih _)

theorem distinct_iff_met (calls : List StartCall) (counted : Counted store cp h) (distinct : h.ids.Nodup) :
    (Runs.reached (StartHistory.next store cp) calls h).ids.Nodup ↔
      Runs.Met (StartHistory.next store cp) (CounterKept store cp) calls h := by
  induction calls generalizing h with
  | nil => exact iff_of_true distinct trivial
  | cons c rest ih =>
    by_cases kept : CounterKept store cp c h
    · obtain ⟨counted', distinct'⟩ := next_kept counted distinct kept
      exact (ih counted' distinct').trans ⟨fun met => ⟨kept, met⟩, fun met => met.2⟩
    · refine iff_of_false ?_ fun met => kept met.1
      intro distinct'
      exact next_broken counted kept ((ids_reached store cp rest _).sublist.nodup distinct')

theorem Counted.reached (calls : List StartCall) (counted : Counted store cp h) (distinct : h.ids.Nodup)
    (met : Runs.Met (StartHistory.next store cp) (CounterKept store cp) calls h) :
    Counted store cp (Runs.reached (StartHistory.next store cp) calls h) := by
  induction calls generalizing h with
  | nil => exact counted
  | cons _ _ ih =>
    obtain ⟨counted', distinct'⟩ := next_kept counted distinct met.1
    exact ih counted' distinct' met.2

end Histories

/-! ### What the platform makes of the ids -/

section Attaching
variable {env : Environment} {connector : ConnectorSnapshot} {earlier later : Int} {data : Mixed}

theorem attaches_same (attaches : Attaches env connector earlier data)
    (carried : OcppEventConsumer.transactionId data = .ok (toString later)) :
    toString earlier = toString later := by
  obtain ⟨sourceAt, s, s', key, q, transactionId, stored, behind, held, carried', found⟩ := attaches
  obtain rfl : toString later = transactionId := Except.ok.inj (carried.symm.trans carried')
  obtain ⟨chosen, -⟩ := OcppEventConsumer.sessionForStart_returns found
  unfold OcppEventConsumer.selected at chosen
  simp only [OcppEventConsumer.holds, Bool.and_eq_true, decide_eq_true_eq] at held
  cases holding : OcppEventConsumer.holder s connector (toString later) with
  | some row =>
    obtain ⟨holdingKey, q'⟩ := row
    rw [holding] at chosen
    obtain ⟨stored', -, -, transaction⟩ := OcppEventConsumer.holder_some holding
    simp only [Option.some_or, Option.getD_some] at chosen
    rw [← chosen, stored] at stored'
    rw [← Option.some.inj stored', held.2] at transaction
    exact Option.some.inj transaction
  | none =>
    rw [holding] at chosen
    cases awaiting : OcppEventConsumer.reservedFor s connector sourceAt with
    | some row =>
      -- a session that awaits its start has not ended
      obtain ⟨awaitingKey, q'⟩ := row
      rw [awaiting] at chosen
      obtain ⟨stored', awaits⟩ := OcppEventConsumer.reservedFor_some awaiting
      simp only [Option.none_or, Option.getD_some] at chosen
      rw [← chosen, stored] at stored'
      rw [← Option.some.inj stored'] at awaits
      simp only [OcppEventConsumer.awaitsStart, Bool.and_eq_true, decide_eq_true_eq] at awaits
      have state := awaits.1.2
      simp only [List.mem_cons, List.not_mem_nil, or_false] at state
      rcases state with state | state | state | state <;>
        simp [ended, state, ChargingSessionState.isTerminal] at behind
    | none =>
      rw [awaiting] at chosen
      simp only [Option.none_or, Option.getD_none] at chosen
      rw [chosen, Indexed.get?_nextId] at stored
      cases stored

end Attaching

theorem NeverRepeats.of_distinct {store : RedisGatewayStore} {cp : String} {h : StartHistory}
    (counted : Counted store cp h) (distinct : h.ids.Nodup) : NeverRepeats h := by
  refine ⟨distinct, ?_⟩
  intro earlier later ordered env connector attaches
  have first : earlier ∈ h.starts := ordered.subset (by simp)
  have second : later ∈ h.starts := ordered.subset (by simp)
  have texts := attaches_same attaches (counted.carried later second)
  have lower : 0 ≤ earlier.1 := by
    have := counted.positive earlier.1 (List.mem_map_of_mem first)
    omega
  have lower' : 0 ≤ later.1 := by
    have := counted.positive later.1 (List.mem_map_of_mem second)
    omega
  have same := toString_injective_nonneg lower lower' texts
  have pair : [earlier.1, later.1].Nodup := (ordered.map Prod.fst).nodup distinct
  simp [same] at pair

/-- The ids of a charge point never repeat exactly when its counter never expires between two
starts. -/
theorem transactionIds_distinct_iff (store : RedisGatewayStore) (chargePointIdentity : String) (now : ℚ)
    (calls : List StartCall) :
    NeverRepeats (Runs.reached (StartHistory.next store chargePointIdentity) calls (StartHistory.start now)) ↔
      Runs.Met (StartHistory.next store chargePointIdentity) (CounterKept store chargePointIdentity) calls
        (StartHistory.start now) := by
  have counted := counted_start store chargePointIdentity now
  have exact' := distinct_iff_met calls counted List.nodup_nil
  constructor
  · intro never
    exact exact'.mp never.distinct
  · intro met
    exact NeverRepeats.of_distinct (counted.reached calls List.nodup_nil met) (exact'.mpr met)

/-! ### The store in the process -/

/-- The ids given to charge points that ask one after the other. -/
def memoryIds : List String → MemoryGatewayStore → List (String × Int)
  | [], _ => []
  | cp :: rest, s =>
    match MemoryGatewayStore.nextProtocolTransactionId (ε := Empty) cp s with
    | (.ok id, s') => (cp, id) :: memoryIds rest s'
    | (.error _, s') => memoryIds rest s'

theorem memoryIds_above (asked : List String) (s : MemoryGatewayStore) :
    (memoryIds asked s).Nodup ∧ ∀ given ∈ memoryIds asked s, s.transactionSequences given.1 < given.2 := by
  induction asked generalizing s with
  | nil => exact ⟨List.nodup_nil, nofun⟩
  | cons cp rest ih =>
    obtain ⟨distinct, above⟩ := ih (s.setSequence cp (s.transactionSequences cp + 1))
    have later : ∀ given ∈ memoryIds rest (s.setSequence cp (s.transactionSequences cp + 1)),
        s.transactionSequences given.1 < given.2 ∧ given ≠ (cp, s.transactionSequences cp + 1) := by
      intro given member
      have grown := above given member
      simp only [MemoryGatewayStore.setSequence, Function.update_apply] at grown
      split at grown
      · rename_i here
        refine ⟨by rw [here]; omega, ?_⟩
        rintro rfl
        simp at grown
      · rename_i other
        refine ⟨grown, ?_⟩
        rintro rfl
        exact other rfl
    constructor
    · refine List.nodup_cons.mpr ⟨fun member => (later _ member).2 rfl, distinct⟩
    · intro given member
      rcases List.mem_cons.mp member with rfl | old
      · simp
      · exact (later given old).1

/-- Two starts thirty days apart are both transaction 1. -/
theorem transactionIds_distinct_fails : ¬ ∀ (store : RedisGatewayStore) (chargePointIdentity : String) (now : ℚ)
    (calls : List StartCall),
    NeverRepeats (Runs.reached (StartHistory.next store chargePointIdentity) calls (StartHistory.start now)) := by
  intro never
  have distinct := (never ⟨"vtsa"⟩ "CP-1" 0
    [⟨0, 0, ⟨le_refl 0, le_refl 0⟩, ⟨1, "TAG", 0, "2026-01-01T00:00:00Z", none⟩, "Accepted"⟩,
      ⟨2592000, 0, ⟨(by decide), le_refl 0⟩, ⟨1, "TAG", 0, "2026-01-31T00:00:00Z", none⟩, "Accepted"⟩]).distinct
  revert distinct
  decide +kernel

end VtsaCsms.Gateway
