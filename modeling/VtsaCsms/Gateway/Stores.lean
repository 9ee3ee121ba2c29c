import VtsaCsms.Foundation.Redis

/-!
# The gateway's stores

`store.py`: connection leases, message claims, cached responses and transaction sequences,
once in the process and once in Redis. A call takes place at one time; times are seconds.
-/
namespace VtsaCsms.Gateway
open Foundation Foundation.Action

/-! ### MemoryGatewayStore -/

/-- `tuple[str, str, float]`: node, connection, deadline. -/
structure MemoryLease where
  nodeId : String
  connectionId : String
  expiresAt : ℚ
  deriving DecidableEq

structure MemoryGatewayStore where
  connections : String → Option MemoryLease
  messageClaims : String × String → Option ℚ
  responses : String × String → Option (String × ℚ)
  transactionSequences : String → Int

namespace MemoryGatewayStore
variable {ε : Type}

def setConnection (s : MemoryGatewayStore) (chargePointIdentity : String) (lease : Option MemoryLease) :
    MemoryGatewayStore :=
  { s with connections := Function.update s.connections chargePointIdentity lease }

def setClaim (s : MemoryGatewayStore) (key : String × String) (expiresAt : ℚ) : MemoryGatewayStore :=
  { s with messageClaims := Function.update s.messageClaims key (some expiresAt) }

def setResponse (s : MemoryGatewayStore) (key : String × String) (cached : Option (String × ℚ)) :
    MemoryGatewayStore :=
  { s with responses := Function.update s.responses key cached }

def setSequence (s : MemoryGatewayStore) (chargePointIdentity : String) (n : Int) : MemoryGatewayStore :=
  { s with transactionSequences := Function.update s.transactionSequences chargePointIdentity n }

def empty : MemoryGatewayStore where
  connections := fun _ => none
  messageClaims := fun _ => none
  responses := fun _ => none
  transactionSequences := fun _ => 0

def claimConnection (now : ℚ) (chargePointIdentity nodeId connectionId : String) (ttlSeconds : Int) :
    Action MemoryGatewayStore ε (Option String) := fun s =>
  let previous := s.connections chargePointIdentity
  (.ok (previous.bind fun p => if p.expiresAt ≤ now then none else some p.connectionId),
    s.setConnection chargePointIdentity (some ⟨nodeId, connectionId, now + ttlSeconds⟩))

/-- The deadline of the lease in hand is not looked at. -/
def renewConnection (now : ℚ) (chargePointIdentity connectionId : String) (ttlSeconds : Int) :
    Action MemoryGatewayStore ε Bool := fun s =>
  match s.connections chargePointIdentity with
  | none => (.ok false, s)
  | some current =>
    if current.connectionId ≠ connectionId then (.ok false, s)
    else (.ok true,
      s.setConnection chargePointIdentity (some ⟨current.nodeId, connectionId, now + ttlSeconds⟩))

def releaseConnection (chargePointIdentity connectionId : String) : Action MemoryGatewayStore ε Bool := fun s =>
  match s.connections chargePointIdentity with
  | none => (.ok false, s)
  | some current =>
    if current.connectionId ≠ connectionId then (.ok false, s)
    else (.ok true, s.setConnection chargePointIdentity none)

def claimMessage (now : ℚ) (chargePointIdentity uniqueId : String) (ttlSeconds : Int) :
    Action MemoryGatewayStore ε Bool := fun s =>
  let key := (chargePointIdentity, uniqueId)
  match s.messageClaims key with
  | none => (.ok true, s.setClaim key (now + ttlSeconds))
  | some expiresAt => if now < expiresAt then (.ok false, s) else (.ok true, s.setClaim key (now + ttlSeconds))

/-- A response that has expired is dropped when it is asked for. -/
def cachedResponse (now : ℚ) (chargePointIdentity uniqueId : String) :
    Action MemoryGatewayStore ε (Option String) := fun s =>
  let key := (chargePointIdentity, uniqueId)
  match s.responses key with
  | none => (.ok none, s.setResponse key none)
  | some cached => if cached.2 ≤ now then (.ok none, s.setResponse key none) else (.ok (some cached.1), s)

def cacheResponse (now : ℚ) (chargePointIdentity uniqueId response : String) (ttlSeconds : Int) :
    Action MemoryGatewayStore ε Unit :=
  write fun s => s.setResponse (chargePointIdentity, uniqueId) (some (response, now + ttlSeconds))

def nextProtocolTransactionId (chargePointIdentity : String) : Action MemoryGatewayStore ε Int := fun s =>
  let next := s.transactionSequences chargePointIdentity + 1
  (.ok next, s.setSequence chargePointIdentity next)

end MemoryGatewayStore

/-! ### RedisGatewayStore -/

/-- What the gateway keeps under its keys: a lease as the JSON object of its two texts, a text,
a counter. -/
inductive RedisValue where
  | lease (nodeId connectionId : String)
  | text (s : String)
  | number (n : Int)
  deriving DecidableEq

def RedisValue.number? : RedisValue → Option Int
  | .number n => some n
  | _ => none

abbrev RedisRows : Type := Redis.Keyspace String RedisValue

/-- The store of one deployment: the prefix of its keys. -/
structure RedisGatewayStore where
  keyPrefix : String

namespace RedisGatewayStore
variable (store : RedisGatewayStore)

def connectionKey (chargePointIdentity : String) : String :=
  store.keyPrefix ++ ":connection:" ++ chargePointIdentity

def messageKey (chargePointIdentity uniqueId : String) : String :=
  store.keyPrefix ++ ":message:" ++ chargePointIdentity ++ ":" ++ uniqueId

def responseKey (chargePointIdentity uniqueId : String) : String :=
  store.keyPrefix ++ ":response:" ++ chargePointIdentity ++ ":" ++ uniqueId

def transactionSequenceKey (chargePointIdentity : String) : String :=
  store.keyPrefix ++ ":transaction-sequence:" ++ chargePointIdentity

/-- `json.loads(previous)["connection_id"]`. -/
def connectionIdOf (value : RedisValue) : Except Redis.Error String :=
  match value with
  | .lease _ connectionId => .ok connectionId
  | _ => .error .wrongValue

def claimConnection (now : ℚ) (chargePointIdentity nodeId connectionId : String) (ttlSeconds : Int) :
    Action RedisRows Redis.Error (Option String) := do
  let previous ← Redis.set now (store.connectionKey chargePointIdentity) (.lease nodeId connectionId) ttlSeconds
  match previous with
  | none => pure none
  | some value => do
    let owner ← lift (connectionIdOf value)
    pure (some owner)

/-- What both scripts do: one command, where the lease under the key is the connection's own.
The server runs a script as one command. -/
def onOwnLease (now : ℚ) (key connectionId : String) (command : Action RedisRows Redis.Error Bool) :
    Action RedisRows Redis.Error Bool := do
  let current ← Redis.get now key
  match current with
  | none => pure false
  | some value => do
    let owner ← lift (connectionIdOf value)
    if owner ≠ connectionId then pure false
    else do
      let _ ← command
      pure true

/-- `_renew_script`. -/
def renewScript (now : ℚ) (key connectionId : String) (ttlSeconds : Int) : Action RedisRows Redis.Error Bool :=
  onOwnLease now key connectionId (Redis.expire now key ttlSeconds)

/-- `_release_script`. -/
def releaseScript (now : ℚ) (key connectionId : String) : Action RedisRows Redis.Error Bool :=
  onOwnLease now key connectionId (Redis.del now key)

def renewConnection (now : ℚ) (chargePointIdentity connectionId : String) (ttlSeconds : Int) :
    Action RedisRows Redis.Error Bool :=
  renewScript now (store.connectionKey chargePointIdentity) connectionId ttlSeconds

def releaseConnection (now : ℚ) (chargePointIdentity connectionId : String) :
    Action RedisRows Redis.Error Bool :=
  releaseScript now (store.connectionKey chargePointIdentity) connectionId

def claimMessage (now : ℚ) (chargePointIdentity uniqueId : String) (ttlSeconds : Int) :
    Action RedisRows Redis.Error Bool :=
  Redis.setIfAbsent now (store.messageKey chargePointIdentity uniqueId) (.text "processing") ttlSeconds

/-- The text under a key, as `GET` returns it. -/
def textOf (value : RedisValue) : Except Redis.Error String :=
  match value with
  | .text s => .ok s
  | _ => .error .wrongValue

def cachedResponse (now : ℚ) (chargePointIdentity uniqueId : String) :
    Action RedisRows Redis.Error (Option String) := do
  let response ← Redis.get now (store.responseKey chargePointIdentity uniqueId)
  match response with
  | none => pure none
  | some value => do
    let text ← lift (textOf value)
    pure (some text)

def cacheResponse (now : ℚ) (chargePointIdentity uniqueId response : String) (ttlSeconds : Int) :
    Action RedisRows Redis.Error Unit := do
  let _ ← Redis.set now (store.responseKey chargePointIdentity uniqueId) (.text response) ttlSeconds
  pure ()

/-- The time to live of a transaction sequence. -/
def sequenceSeconds : Int := 2592000

def incrementSequence (now : ℚ) (chargePointIdentity : String) : Action RedisRows Redis.Error Int :=
  Redis.incr RedisValue.number? .number now (store.transactionSequenceKey chargePointIdentity)

/-- `next_protocol_transaction_id`: two commands, the second at a later time. -/
def nextProtocolTransactionId (now later : ℚ) (chargePointIdentity : String) :
    Action RedisRows Redis.Error Int := do
  let transactionId ← store.incrementSequence now chargePointIdentity
  let _ ← Redis.expire later (store.transactionSequenceKey chargePointIdentity) sequenceSeconds
  pure transactionId

/-! ### What a call in Redis does -/

variable {store : RedisGatewayStore} {now : ℚ} {rows : RedisRows} {chargePointIdentity nodeId connectionId : String}
  {uniqueId response node owner : String} {ttlSeconds : Int} {expiresAt : Option ℚ}

theorem claimConnection_refused (refused : ¬ Redis.accepts now ttlSeconds) :
    store.claimConnection now chargePointIdentity nodeId connectionId ttlSeconds rows =
      (.error .invalidExpireTime, rows) := by
  simp only [claimConnection, Bind.bind, Redis.set, if_neg refused]

theorem claimConnection_first (accepted : Redis.accepts now ttlSeconds)
    (none' : Redis.find now rows (store.connectionKey chargePointIdentity) = none) :
    store.claimConnection now chargePointIdentity nodeId connectionId ttlSeconds rows =
      (.ok none, Redis.put rows (store.connectionKey chargePointIdentity)
        ⟨.lease nodeId connectionId, some (now + ttlSeconds)⟩) := by
  simp only [claimConnection, Bind.bind, Redis.set, if_pos accepted, Redis.value, none']
  rfl

theorem claimConnection_next (accepted : Redis.accepts now ttlSeconds)
    (held : Redis.find now rows (store.connectionKey chargePointIdentity) = some ⟨.lease node owner, expiresAt⟩) :
    store.claimConnection now chargePointIdentity nodeId connectionId ttlSeconds rows =
      (.ok (some owner), Redis.put rows (store.connectionKey chargePointIdentity)
        ⟨.lease nodeId connectionId, some (now + ttlSeconds)⟩) := by
  simp only [claimConnection, Bind.bind, Redis.set, if_pos accepted, Redis.value, held]
  rfl

section Scripts
variable {key : String} {command : Action RedisRows Redis.Error Bool}

theorem onOwnLease_absent (none' : Redis.find now rows key = none) :
    onOwnLease now key connectionId command rows = (.ok false, rows) := by
  rw [onOwnLease, Returns.bind_eq (Redis.returns_get_none none')]
  rfl

theorem onOwnLease_held
    (held : Redis.find now rows key = some ⟨.lease node owner, expiresAt⟩) :
    onOwnLease now key connectionId command rows =
      (if owner ≠ connectionId then pure false else command >>= fun _ => pure true) rows := by
  have read : Returns (lift (connectionIdOf (.lease node owner)) : Action RedisRows Redis.Error String) rows
      owner rows := rfl
  rw [onOwnLease, Returns.bind_eq (Redis.returns_get held)]
  exact Returns.bind_eq read

theorem onOwnLease_other (other : owner ≠ connectionId)
    (held : Redis.find now rows key = some ⟨.lease node owner, expiresAt⟩) :
    onOwnLease now key connectionId command rows = (.ok false, rows) := by
  rw [onOwnLease_held held, if_pos other]
  rfl

theorem onOwnLease_own (held : Redis.find now rows key = some ⟨.lease node connectionId, expiresAt⟩) :
    onOwnLease now key connectionId command rows = (command >>= fun _ => pure true) rows := by
  rw [onOwnLease_held held, if_neg (not_not_intro rfl)]

end Scripts

theorem renewConnection_unfit (unfit : ¬ Redis.fits now ttlSeconds)
    (held : Redis.find now rows (store.connectionKey chargePointIdentity) =
      some ⟨.lease node connectionId, expiresAt⟩) :
    store.renewConnection now chargePointIdentity connectionId ttlSeconds rows =
      (.error .invalidExpireTime, rows) := by
  rw [renewConnection, renewScript, onOwnLease_own held]
  simp only [Bind.bind, Redis.expire, if_neg unfit]

theorem renewConnection_own (fit : Redis.fits now ttlSeconds)
    (held : Redis.find now rows (store.connectionKey chargePointIdentity) =
      some ⟨.lease node connectionId, expiresAt⟩) :
    store.renewConnection now chargePointIdentity connectionId ttlSeconds rows =
      (.ok true, if ttlSeconds ≤ 0 then Redis.remove rows (store.connectionKey chargePointIdentity)
        else Redis.put rows (store.connectionKey chargePointIdentity)
          ⟨.lease node connectionId, some (now + ttlSeconds)⟩) := by
  rw [renewConnection, renewScript, onOwnLease_own held, Returns.bind_eq (Redis.expire_found fit held)]
  rfl

theorem releaseConnection_own
    (held : Redis.find now rows (store.connectionKey chargePointIdentity) =
      some ⟨.lease node connectionId, expiresAt⟩) :
    store.releaseConnection now chargePointIdentity connectionId rows =
      (.ok true, Redis.remove rows (store.connectionKey chargePointIdentity)) := by
  rw [releaseConnection, releaseScript, onOwnLease_own held]
  rfl

theorem claimMessage_refused (refused : ¬ Redis.accepts now ttlSeconds) :
    store.claimMessage now chargePointIdentity uniqueId ttlSeconds rows = (.error .invalidExpireTime, rows) := by
  simp only [claimMessage, Redis.setIfAbsent, if_neg refused]

theorem claimMessage_held (accepted : Redis.accepts now ttlSeconds) {e : Redis.Entry RedisValue}
    (held : Redis.find now rows (store.messageKey chargePointIdentity uniqueId) = some e) :
    store.claimMessage now chargePointIdentity uniqueId ttlSeconds rows = (.ok false, rows) := by
  simp only [claimMessage, Redis.setIfAbsent, if_pos accepted, held]

theorem claimMessage_free (accepted : Redis.accepts now ttlSeconds)
    (none' : Redis.find now rows (store.messageKey chargePointIdentity uniqueId) = none) :
    store.claimMessage now chargePointIdentity uniqueId ttlSeconds rows =
      (.ok true, Redis.put rows (store.messageKey chargePointIdentity uniqueId)
        ⟨.text "processing", some (now + ttlSeconds)⟩) := by
  simp only [claimMessage, Redis.setIfAbsent, if_pos accepted, none']

theorem cachedResponse_none
    (none' : Redis.find now rows (store.responseKey chargePointIdentity uniqueId) = none) :
    store.cachedResponse now chargePointIdentity uniqueId rows = (.ok none, rows) := by
  simp only [cachedResponse, Bind.bind, Redis.get, Action.read, Redis.value, none']
  rfl

theorem cachedResponse_some
    (held : Redis.find now rows (store.responseKey chargePointIdentity uniqueId) =
      some ⟨.text response, expiresAt⟩) :
    store.cachedResponse now chargePointIdentity uniqueId rows = (.ok (some response), rows) := by
  simp only [cachedResponse, Bind.bind, Redis.get, Action.read, Redis.value, held, Option.map_some, lift, textOf]
  rfl

theorem cacheResponse_refused (refused : ¬ Redis.accepts now ttlSeconds) :
    store.cacheResponse now chargePointIdentity uniqueId response ttlSeconds rows =
      (.error .invalidExpireTime, rows) := by
  simp only [cacheResponse, Bind.bind, Redis.set, if_neg refused]

theorem cacheResponse_accepted (accepted : Redis.accepts now ttlSeconds) :
    store.cacheResponse now chargePointIdentity uniqueId response ttlSeconds rows =
      (.ok (), Redis.put rows (store.responseKey chargePointIdentity uniqueId)
        ⟨.text response, some (now + ttlSeconds)⟩) := by
  simp only [cacheResponse, Bind.bind, Redis.set, if_pos accepted]
  rfl

theorem claimMessage_cases (store : RedisGatewayStore) (now : ℚ) (chargePointIdentity uniqueId : String)
    (ttlSeconds : Int) (rows : RedisRows) :
    (store.claimMessage now chargePointIdentity uniqueId ttlSeconds rows = (.error .invalidExpireTime, rows)) ∨
    (store.claimMessage now chargePointIdentity uniqueId ttlSeconds rows = (.ok false, rows)) ∨
    (Redis.accepts now ttlSeconds ∧
      Redis.find now rows (store.messageKey chargePointIdentity uniqueId) = none ∧
      store.claimMessage now chargePointIdentity uniqueId ttlSeconds rows =
        (.ok true, Redis.put rows (store.messageKey chargePointIdentity uniqueId)
          ⟨.text "processing", some (now + ttlSeconds)⟩)) := by
  by_cases accepted : Redis.accepts now ttlSeconds
  · cases found : Redis.find now rows (store.messageKey chargePointIdentity uniqueId) with
    | none => exact Or.inr (Or.inr ⟨accepted, rfl, claimMessage_free accepted found⟩)
    | some => exact Or.inr (Or.inl (claimMessage_held accepted found))
  · exact Or.inl (claimMessage_refused accepted)

theorem cachedResponse_cases (store : RedisGatewayStore) (now : ℚ) (chargePointIdentity uniqueId : String)
    (rows : RedisRows) :
    (Redis.find now rows (store.responseKey chargePointIdentity uniqueId) = none ∧
      store.cachedResponse now chargePointIdentity uniqueId rows = (.ok none, rows)) ∨
    (∃ e, Redis.find now rows (store.responseKey chargePointIdentity uniqueId) = some e ∧
      ((∃ text, e.value = .text text ∧
        store.cachedResponse now chargePointIdentity uniqueId rows = (.ok (some text), rows)) ∨
      store.cachedResponse now chargePointIdentity uniqueId rows = (.error .wrongValue, rows))) := by
  cases found : Redis.find now rows (store.responseKey chargePointIdentity uniqueId) with
  | none => exact Or.inl ⟨rfl, cachedResponse_none found⟩
  | some e =>
    obtain ⟨value, expiresAt⟩ := e
    refine Or.inr ⟨⟨value, expiresAt⟩, rfl, ?_⟩
    cases value with
    | text s => exact Or.inl ⟨s, rfl, cachedResponse_some found⟩
    | lease =>
      right
      simp only [cachedResponse, Bind.bind, Redis.get, Action.read, Redis.value, found, Option.map_some, lift, textOf]
    | number =>
      right
      simp only [cachedResponse, Bind.bind, Redis.get, Action.read, Redis.value, found, Option.map_some, lift, textOf]

theorem cacheResponse_cases (store : RedisGatewayStore) (now : ℚ) (chargePointIdentity uniqueId response : String)
    (ttlSeconds : Int) (rows : RedisRows) :
    (store.cacheResponse now chargePointIdentity uniqueId response ttlSeconds rows =
      (.error .invalidExpireTime, rows)) ∨
    store.cacheResponse now chargePointIdentity uniqueId response ttlSeconds rows =
      (.ok (), Redis.put rows (store.responseKey chargePointIdentity uniqueId)
        ⟨.text response, some (now + ttlSeconds)⟩) := by
  by_cases accepted : Redis.accepts now ttlSeconds
  · exact Or.inr (cacheResponse_accepted accepted)
  · exact Or.inl (cacheResponse_refused accepted)

/-! ### The keys -/

theorem connectionKey_injective {a b : String} (same : store.connectionKey a = store.connectionKey b) : a = b := by
  unfold connectionKey at same
  have texts := congrArg String.toList same
  simp only [String.toList_append, List.append_cancel_left_eq] at texts
  exact String.toList_inj.mp texts

theorem messageKey_injective {a u v : String} (same : store.messageKey a u = store.messageKey a v) : u = v := by
  unfold messageKey at same
  have texts := congrArg String.toList same
  simp only [String.toList_append, List.append_cancel_left_eq] at texts
  exact String.toList_inj.mp texts

theorem responseKey_injective {a u v : String} (same : store.responseKey a u = store.responseKey a v) : u = v := by
  unfold responseKey at same
  have texts := congrArg String.toList same
  simp only [String.toList_append, List.append_cancel_left_eq] at texts
  exact String.toList_inj.mp texts

theorem connectionKey_ne_messageKey (a b u : String) : store.connectionKey a ≠ store.messageKey b u := by
  unfold connectionKey messageKey
  intro same
  have texts := congrArg String.toList same
  simp [String.toList_append] at texts

theorem connectionKey_ne_responseKey (a b u : String) : store.connectionKey a ≠ store.responseKey b u := by
  unfold connectionKey responseKey
  intro same
  have texts := congrArg String.toList same
  simp [String.toList_append] at texts

theorem messageKey_ne_responseKey (a u b v : String) : store.messageKey a u ≠ store.responseKey b v := by
  unfold messageKey responseKey
  intro same
  have texts := congrArg String.toList same
  simp [String.toList_append] at texts

end RedisGatewayStore
end VtsaCsms.Gateway
