import VtsaCsms.Foundation.Runs
import VtsaCsms.Gateway.Stores

/-!
# Agreement of the stores

`store.py`: one sequence of calls given to the store in the process and to the store in
Redis. The process keeps expired entries until they are overwritten or asked for, Redis
never finds them; and Redis joins the parts of a key with a colon, which the parts may hold.
-/
namespace VtsaCsms.Gateway
open Foundation Foundation.Action

inductive StoreCall where
  | claimConnection (chargePointIdentity nodeId connectionId : String) (ttlSeconds : Int)
  | renewConnection (chargePointIdentity connectionId : String) (ttlSeconds : Int)
  | releaseConnection (chargePointIdentity connectionId : String)
  | claimMessage (chargePointIdentity uniqueId : String) (ttlSeconds : Int)
  | cacheResponse (chargePointIdentity uniqueId response : String) (ttlSeconds : Int)
  | cachedResponse (chargePointIdentity uniqueId : String)

inductive StoreResult where
  | raised
  | text (t : Option String)
  | flag (b : Bool)
  | done
  deriving DecidableEq

def StoreResult.of {ε α : Type} (returned : α → StoreResult) : Except ε α → StoreResult
  | .ok a => returned a
  | .error _ => .raised

/-- A call and the time that passes before it. -/
structure TimedCall where
  wait : ℚ
  forward : 0 ≤ wait
  call : StoreCall

namespace StoreCall

/-- The call on a store, as its result and what it leaves. -/
def perform {σ ε α : Type} (m : Action σ ε α) (returned : α → StoreResult) (s : σ) : StoreResult × σ :=
  (StoreResult.of returned (m s).1, (m s).2)

def inMemory (now : ℚ) (call : StoreCall) (s : MemoryGatewayStore) : StoreResult × MemoryGatewayStore :=
  match call with
  | .claimConnection cp node connection ttl =>
    perform (ε := Empty) (MemoryGatewayStore.claimConnection now cp node connection ttl) .text s
  | .renewConnection cp connection ttl =>
    perform (ε := Empty) (MemoryGatewayStore.renewConnection now cp connection ttl) .flag s
  | .releaseConnection cp connection =>
    perform (ε := Empty) (MemoryGatewayStore.releaseConnection cp connection) .flag s
  | .claimMessage cp unique ttl => perform (ε := Empty) (MemoryGatewayStore.claimMessage now cp unique ttl) .flag s
  | .cacheResponse cp unique response ttl =>
    perform (ε := Empty) (MemoryGatewayStore.cacheResponse now cp unique response ttl) (fun _ => .done) s
  | .cachedResponse cp unique => perform (ε := Empty) (MemoryGatewayStore.cachedResponse now cp unique) .text s

def inRedis (store : RedisGatewayStore) (now : ℚ) (call : StoreCall) (rows : RedisRows) : StoreResult × RedisRows :=
  match call with
  | .claimConnection cp node connection ttl => perform (store.claimConnection now cp node connection ttl) .text rows
  | .renewConnection cp connection ttl => perform (store.renewConnection now cp connection ttl) .flag rows
  | .releaseConnection cp connection => perform (store.releaseConnection now cp connection) .flag rows
  | .claimMessage cp unique ttl => perform (store.claimMessage now cp unique ttl) .flag rows
  | .cacheResponse cp unique response ttl =>
    perform (store.cacheResponse now cp unique response ttl) (fun _ => .done) rows
  | .cachedResponse cp unique => perform (store.cachedResponse now cp unique) .text rows

end StoreCall

/-- The results of the calls on the store in the process, from a time on. -/
def memoryResults : List TimedCall → ℚ → MemoryGatewayStore → List StoreResult
  | [], _, _ => []
  | c :: rest, now, s =>
    let out := c.call.inMemory (now + c.wait) s
    out.1 :: memoryResults rest (now + c.wait) out.2

def redisResults (store : RedisGatewayStore) : List TimedCall → ℚ → RedisRows → List StoreResult
  | [], _, _ => []
  | c :: rest, now, rows =>
    let out := c.call.inRedis store (now + c.wait) rows
    out.1 :: redisResults store rest (now + c.wait) out.2

/-! ### The two side by side -/

/-- Both stores after the same calls, and the message whose response was cached last under each
Redis key. -/
structure StorePair where
  now : ℚ
  memory : MemoryGatewayStore
  rows : RedisRows
  lastCached : String → Option (String × String)

namespace StorePair

def start (now : ℚ) : StorePair where
  now
  memory := MemoryGatewayStore.empty
  rows := fun _ => none
  lastCached := fun _ => none

def wait (p : StorePair) (seconds : ℚ) : StorePair := { p with now := p.now + seconds }

def cachedLast (store : RedisGatewayStore) (call : StoreCall) (last : String → Option (String × String)) :
    String → Option (String × String) :=
  match call with
  | .cacheResponse cp unique _ _ => Function.update last (store.responseKey cp unique) (some (cp, unique))
  | _ => last

/-- A call at the present time. -/
def perform (store : RedisGatewayStore) (call : StoreCall) (p : StorePair) : StorePair where
  now := p.now
  memory := (call.inMemory p.now p.memory).2
  rows := (call.inRedis store p.now p.rows).2
  lastCached := cachedLast store call p.lastCached

def next (store : RedisGatewayStore) (c : TimedCall) (p : StorePair) : StorePair := (p.wait c.wait).perform store c.call

end StorePair

/-! ### When a call has one result -/

namespace MemoryGatewayStore

/-- The lease that has not expired. -/
def lease (now : ℚ) (s : MemoryGatewayStore) (chargePointIdentity : String) : Option MemoryLease :=
  (s.connections chargePointIdentity).filter fun l => now < l.expiresAt

/-- The deadline of a claim that has not expired. -/
def claim (now : ℚ) (s : MemoryGatewayStore) (message : String × String) : Option ℚ :=
  (s.messageClaims message).filter fun expiresAt => now < expiresAt

/-- The response that has not expired. -/
def response (now : ℚ) (s : MemoryGatewayStore) (message : String × String) : Option (String × ℚ) :=
  (s.responses message).filter fun cached => now < cached.2

/-- The connection's own lease is there and has expired. -/
def Stale (now : ℚ) (s : MemoryGatewayStore) (chargePointIdentity connectionId : String) : Prop :=
  ∃ l, s.connections chargePointIdentity = some l ∧ l.connectionId = connectionId ∧ l.expiresAt ≤ now

/-- The connection's own lease is there and has not expired. -/
def Leases (now : ℚ) (s : MemoryGatewayStore) (chargePointIdentity connectionId : String) : Prop :=
  ∃ l, s.connections chargePointIdentity = some l ∧ l.connectionId = connectionId ∧ now < l.expiresAt

end MemoryGatewayStore

/-- What a call has to find for one result in both stores: a time to live Redis accepts, no lease
of its own that has expired, no other message under the key of its own. -/
def Alike (store : RedisGatewayStore) (call : StoreCall) (p : StorePair) : Prop :=
  match call with
  | .claimConnection _ _ _ ttl => Redis.accepts p.now ttl
  | .renewConnection cp connection ttl =>
    ¬ p.memory.Stale p.now cp connection ∧ (p.memory.Leases p.now cp connection → Redis.fits p.now ttl)
  | .releaseConnection cp connection => ¬ p.memory.Stale p.now cp connection
  | .claimMessage cp unique ttl =>
    Redis.accepts p.now ttl ∧ ∀ cp' unique' t, store.messageKey cp' unique' = store.messageKey cp unique →
      p.memory.claim p.now (cp', unique') = some t → (cp', unique') = (cp, unique)
  | .cacheResponse _ _ _ ttl => Redis.accepts p.now ttl
  | .cachedResponse cp unique => ∀ last, p.lastCached (store.responseKey cp unique) = some last →
      (p.memory.response p.now last).map Prod.fst = (p.memory.response p.now (cp, unique)).map Prod.fst

/-- The condition in the state the call comes in. -/
def TimedCall.Alike (store : RedisGatewayStore) (c : TimedCall) (p : StorePair) : Prop :=
  Gateway.Alike store c.call (p.wait c.wait)

/-! ### What the stores have in common -/

namespace MemoryLease

/-- The lease as Redis keeps it. -/
def entry (l : MemoryLease) : Redis.Entry RedisValue := ⟨.lease l.nodeId l.connectionId, some l.expiresAt⟩

end MemoryLease

def responseEntry (cached : String × ℚ) : Redis.Entry RedisValue := ⟨.text cached.1, some cached.2⟩

/-- Leases that have not expired are the same. -/
def LeasesAgree (store : RedisGatewayStore) (p : StorePair) : Prop :=
  ∀ cp, Redis.find p.now p.rows (store.connectionKey cp) = (p.memory.lease p.now cp).map MemoryLease.entry

/-- A claim in Redis is that of one message in the process. -/
structure ClaimsAgree (store : RedisGatewayStore) (p : StorePair) : Prop where
  found : ∀ cp unique t, p.memory.claim p.now (cp, unique) = some t →
    Redis.find p.now p.rows (store.messageKey cp unique) = some ⟨.text "processing", some t⟩
  owned : ∀ cp unique e, Redis.find p.now p.rows (store.messageKey cp unique) = some e →
    ∃ cp' unique' t, store.messageKey cp' unique' = store.messageKey cp unique ∧
      p.memory.claim p.now (cp', unique') = some t
  single : ∀ cp unique t cp' unique' t', store.messageKey cp' unique' = store.messageKey cp unique →
    p.memory.claim p.now (cp, unique) = some t → p.memory.claim p.now (cp', unique') = some t' →
    (cp', unique') = (cp, unique)

/-- A response in Redis is the one cached last under its key. -/
structure ResponsesAgree (store : RedisGatewayStore) (p : StorePair) : Prop where
  none' : ∀ cp unique, p.lastCached (store.responseKey cp unique) = none →
    Redis.find p.now p.rows (store.responseKey cp unique) = none ∧ p.memory.response p.now (cp, unique) = none
  last : ∀ cp unique q, p.lastCached (store.responseKey cp unique) = some q →
    store.responseKey q.1 q.2 = store.responseKey cp unique ∧
      Redis.find p.now p.rows (store.responseKey cp unique) = (p.memory.response p.now q).map responseEntry

structure Agreeing (store : RedisGatewayStore) (p : StorePair) : Prop where
  leases : LeasesAgree store p
  claims : ClaimsAgree store p
  responses : ResponsesAgree store p

variable {store : RedisGatewayStore} {p : StorePair}

theorem agreeing_start (store : RedisGatewayStore) (now : ℚ) : Agreeing store (StorePair.start now) where
  leases := fun _ => rfl
  claims := by
    constructor
    · intro cp unique t held
      cases held
    · intro cp unique e held
      cases held
    · intro cp unique t cp' unique' t' same held
      cases held
  responses := by
    constructor
    · exact fun _ _ _ => ⟨rfl, rfl⟩
    · intro cp unique q held
      cases held

/-! #### Time that passes -/

section Waiting
variable {seconds : ℚ}

theorem filter_later {α : Type} {deadline : α → ℚ} {now later : ℚ} (order : now ≤ later) (o : Option α) :
    (o.filter fun a => now < deadline a).filter (fun a => later < deadline a) =
      o.filter fun a => later < deadline a := by
  rw [Option.filter_filter]
  congr 1
  funext a
  by_cases alive : later < deadline a
  · simp [alive, lt_of_le_of_lt order alive]
  · simp [alive]

theorem LeasesAgree.wait (agree : LeasesAgree store p) (forward : 0 ≤ seconds) :
    LeasesAgree store (p.wait seconds) := by
  intro cp
  have order : p.now ≤ p.now + seconds := by linarith
  unfold StorePair.wait
  rw [Redis.find_later order, agree cp, Option.filter_map]
  unfold MemoryGatewayStore.lease
  rw [← filter_later order (p.memory.connections cp)]
  rfl

theorem claim_earlier {now later : ℚ} (order : now ≤ later) {s : MemoryGatewayStore} {message : String × String}
    {t : ℚ} (held : s.claim later message = some t) : s.claim now message = some t ∧ later < t := by
  unfold MemoryGatewayStore.claim at held ⊢
  rw [Option.filter_eq_some_iff] at held ⊢
  simp only [decide_eq_true_eq] at held ⊢
  exact ⟨⟨held.1, lt_of_le_of_lt order held.2⟩, held.2⟩

theorem ClaimsAgree.wait (agree : ClaimsAgree store p) (forward : 0 ≤ seconds) :
    ClaimsAgree store (p.wait seconds) := by
  have order : p.now ≤ p.now + seconds := by linarith
  constructor
  · intro cp unique t held
    obtain ⟨held', alive⟩ := claim_earlier order held
    have found := agree.found cp unique t held'
    refine Redis.find_some.mpr ⟨(Redis.find_some.mp found).1, ?_⟩
    exact decide_eq_true alive
  · intro cp unique e found
    have found' : Redis.find p.now p.rows (store.messageKey cp unique) = some e := Redis.find_earlier order found
    obtain ⟨cp', unique', t, same, held⟩ := agree.owned cp unique e found'
    refine ⟨cp', unique', t, same, ?_⟩
    -- the entry found is the claim's own, so the claim is as alive as the entry
    have entry := agree.found cp' unique' t held
    rw [same, found'] at entry
    obtain rfl := Option.some.inj entry
    have alive := (Redis.find_some.mp found).2
    unfold MemoryGatewayStore.claim at held ⊢
    rw [Option.filter_eq_some_iff] at held ⊢
    exact ⟨held.1, by simpa [Redis.Entry.live] using alive⟩
  · intro cp unique t cp' unique' t' same held held'
    exact agree.single cp unique t cp' unique' t' same (claim_earlier order held).1 (claim_earlier order held').1

theorem ResponsesAgree.wait (agree : ResponsesAgree store p) (forward : 0 ≤ seconds) :
    ResponsesAgree store (p.wait seconds) := by
  have order : p.now ≤ p.now + seconds := by linarith
  constructor
  · intro cp unique nothing
    obtain ⟨missing, missing'⟩ := agree.none' cp unique nothing
    unfold StorePair.wait MemoryGatewayStore.response at *
    rw [Redis.find_later order, missing, ← filter_later order (p.memory.responses (cp, unique)), missing']
    exact ⟨rfl, rfl⟩
  · intro cp unique q last
    obtain ⟨same, found⟩ := agree.last cp unique q last
    refine ⟨same, ?_⟩
    unfold StorePair.wait MemoryGatewayStore.response at *
    rw [Redis.find_later order, found, Option.filter_map, ← filter_later order (p.memory.responses q)]
    rfl

theorem Agreeing.wait (agree : Agreeing store p) (forward : 0 ≤ seconds) : Agreeing store (p.wait seconds) :=
  ⟨agree.leases.wait forward, agree.claims.wait forward, agree.responses.wait forward⟩

end Waiting

/-! #### Calls that leave a part alone -/

section Frames
variable {p' : StorePair}

theorem LeasesAgree.frame (agree : LeasesAgree store p) (time : p'.now = p.now)
    (memory : p'.memory.connections = p.memory.connections)
    (rows : ∀ cp, p'.rows (store.connectionKey cp) = p.rows (store.connectionKey cp)) : LeasesAgree store p' := by
  intro cp
  rw [Redis.find_congr (rows cp), time, agree cp]
  unfold MemoryGatewayStore.lease
  rw [memory]

theorem ClaimsAgree.frame (agree : ClaimsAgree store p) (time : p'.now = p.now)
    (memory : p'.memory.messageClaims = p.memory.messageClaims)
    (rows : ∀ cp unique, p'.rows (store.messageKey cp unique) = p.rows (store.messageKey cp unique)) :
    ClaimsAgree store p' := by
  have claims : ∀ q, p'.memory.claim p'.now q = p.memory.claim p.now q := by
    intro q
    unfold MemoryGatewayStore.claim
    rw [memory, time]
  constructor
  · intro cp unique t held
    rw [claims] at held
    rw [Redis.find_congr (rows cp unique), time]
    exact agree.found cp unique t held
  · intro cp unique e found
    rw [Redis.find_congr (rows cp unique), time] at found
    simpa only [claims] using agree.owned cp unique e found
  · intro cp unique t cp' unique' t' same held held'
    rw [claims] at held held'
    exact agree.single cp unique t cp' unique' t' same held held'

theorem ResponsesAgree.frame (agree : ResponsesAgree store p) (time : p'.now = p.now)
    (memory : ∀ q, p'.memory.response p.now q = p.memory.response p.now q)
    (rows : ∀ cp unique, p'.rows (store.responseKey cp unique) = p.rows (store.responseKey cp unique))
    (last : p'.lastCached = p.lastCached) : ResponsesAgree store p' := by
  constructor
  · intro cp unique nothing
    rw [last] at nothing
    rw [Redis.find_congr (rows cp unique), time, memory]
    exact agree.none' cp unique nothing
  · intro cp unique q latest
    rw [last] at latest
    rw [Redis.find_congr (rows cp unique), time, memory]
    exact agree.last cp unique q latest

end Frames

end VtsaCsms.Gateway
