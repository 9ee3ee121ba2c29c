import Mathlib.Data.List.Sort
import VtsaCsms.Foundation.Json

/-!
# The audit chain

`AuditRecorder.php`, `AuditChainVerifier.php` and `AuditHasher.php`, on the events of one tenant, whose lock every
call holds. Changes, metadata and the values before and after are JSON columns, written from the entry and read
back by the verifier.
-/
namespace VtsaCsms.Audit
open Foundation

inductive ActorType where
  | human | service | platform
  deriving DecidableEq, Repr

def ActorType.value : ActorType → String
  | human => "human"
  | service => "service"
  | platform => "platform"

inductive AuditResult where
  | succeeded | denied | failed
  deriving DecidableEq, Repr

def AuditResult.value : AuditResult → String
  | succeeded => "succeeded"
  | denied => "denied"
  | failed => "failed"

/-- An array with keys. -/
abbrev Values := List (String × Mixed)

structure AuditEntry where
  action : String
  targetType : String
  targetId : Option String
  result : AuditResult
  reason : Option String := none
  changes : Values := []
  metadata : Values := []
  before : Option Values := none
  after : Option Values := none
  sourceIp : Option String := none
  userAgent : Option String := none

structure TenantContext where
  tenantId : String
  actorType : ActorType
  actorId : Option String
  correlationId : String

/-- What the current request tells of its client. -/
structure ClientRequest where
  ip : Option String
  userAgent : Option String

/-- A row; `id` is the number that its ULID spells. -/
structure AuditEvent where
  id : Nat
  tenantId : String
  occurredAt : Instant
  actorType : ActorType
  actorId : Option String
  action : String
  targetType : String
  targetId : Option String
  result : AuditResult
  reason : Option String
  changes : Json
  before : Option Json
  after : Option Json
  metadata : Json
  sourceIp : Option String
  userAgent : Option String
  correlationId : String
  previousHash : Option String
  contentHash : String

/-- What the language brings: which whole doubles `json_encode` writes with digits only, how `ksort` compares keys,
SHA-256 of a hash and a JSON text, the format of a time, and `Str::limit` to 500. -/
structure Php where
  plain : Rat → Bool
  keyLe : String → String → Bool
  sha256 : String → Json → String
  format : Instant → String
  limit : String → String

/-- What is hashed of an event. -/
structure Payload where
  tenantId : String
  occurredAt : Instant
  actorType : ActorType
  actorId : Option String
  action : String
  targetType : String
  targetId : Option String
  result : AuditResult
  reason : Option String
  changes : Mixed
  before : Mixed
  after : Mixed
  metadata : Mixed
  sourceIp : Option String
  userAgent : Option String
  correlationId : String

def text (s : Option String) : Mixed := (s.map Mixed.string).getD .null

def Payload.toMixed (php : Php) (payload : Payload) : Mixed :=
  .array [("tenant_id", .string payload.tenantId),
    ("occurred_at", .string (php.format payload.occurredAt)),
    ("actor_type", .string payload.actorType.value),
    ("actor_id", text payload.actorId),
    ("action", .string payload.action),
    ("target_type", .string payload.targetType),
    ("target_id", text payload.targetId),
    ("result", .string payload.result.value),
    ("reason", text payload.reason),
    ("changes", payload.changes),
    ("before", payload.before),
    ("after", payload.after),
    ("metadata", payload.metadata),
    ("source_ip", text payload.sourceIp),
    ("user_agent", text payload.userAgent),
    ("correlation_id", .string payload.correlationId)]

/-- `AuditHasher::hash`; it throws where `json_encode` does. -/
def hash (php : Php) (previousHash : Option String) (payload : Mixed) : Option String :=
  ((payload.sortRecursively php.keyLe).encode php.plain).map (php.sha256 (previousHash.getD ""))

/-! ### Order -/

/-- By `occurred_at`, then by `id`. -/
def NotLater (a b : AuditEvent) : Prop := a.occurredAt < b.occurredAt ∨ a.occurredAt = b.occurredAt ∧ a.id ≤ b.id

instance (a b : AuditEvent) : Decidable (NotLater a b) :=
  inferInstanceAs (Decidable (a.occurredAt < b.occurredAt ∨ a.occurredAt = b.occurredAt ∧ a.id ≤ b.id))

def oldest (events : List AuditEvent) : List AuditEvent := events.insertionSort NotLater

/-- The first in the opposite order; no two events tie, as `id` is the key of the table. -/
def latest (events : List AuditEvent) : Option AuditEvent := (oldest events).getLast?

/-! ### `record` -/

def ulid (now : Instant) (random : Fin (2 ^ 80)) : Nat := (now / 1000).toNat * 2 ^ 80 + random

/-- A call, with what the clock shows it for the time of the event and for its ULID. -/
structure Call where
  context : TenantContext
  entry : AuditEntry
  request : ClientRequest
  now : Instant
  ulidNow : Instant
  random : Fin (2 ^ 80)

namespace Call

def occurredAt (call : Call) : Instant := call.now.toSecond

def id (call : Call) : Nat := ulid call.ulidNow call.random

def payload (php : Php) (call : Call) : Payload where
  tenantId := call.context.tenantId
  occurredAt := call.occurredAt
  actorType := call.context.actorType
  actorId := call.context.actorId
  action := call.entry.action
  targetType := call.entry.targetType
  targetId := call.entry.targetId
  result := call.entry.result
  reason := call.entry.reason
  changes := .array call.entry.changes
  before := (call.entry.before.map Mixed.array).getD .null
  after := (call.entry.after.map Mixed.array).getD .null
  metadata := .array call.entry.metadata
  sourceIp := call.entry.sourceIp <|> call.request.ip
  userAgent := (call.entry.userAgent <|> call.request.userAgent).map php.limit
  correlationId := call.context.correlationId

end Call

/-- A column with the `array` cast. -/
def column (php : Php) (values : Values) : Option Json := (Mixed.array values).encode php.plain

/-- A column with the `array` cast that may be null; the outer `none` is a value that cannot be written. -/
def nullableColumn (php : Php) (values : Option Values) : Option (Option Json) :=
  match values with
  | none => some none
  | some values => (column php values).map some

/-- The row of a call; `none` where `json_encode` throws. -/
def row (php : Php) (call : Call) (previousHash : Option String) : Option AuditEvent := do
  let payload := call.payload php
  let contentHash ← hash php previousHash (payload.toMixed php)
  let changes ← column php call.entry.changes
  let before ← nullableColumn php call.entry.before
  let after ← nullableColumn php call.entry.after
  let metadata ← column php call.entry.metadata
  some {
    id := call.id, tenantId := payload.tenantId, occurredAt := payload.occurredAt, actorType := payload.actorType
    actorId := payload.actorId, action := payload.action, targetType := payload.targetType
    targetId := payload.targetId, result := payload.result, reason := payload.reason, changes, before, after, metadata
    sourceIp := payload.sourceIp, userAgent := payload.userAgent, correlationId := payload.correlationId
    previousHash, contentHash }

/-- `AuditRecorder::record` on the table, newest row first; a key that is taken and whatever throws leave it as it
was. -/
def record (php : Php) (call : Call) (events : List AuditEvent) : List AuditEvent :=
  match row php call ((latest events).map AuditEvent.contentHash) with
  | none => events
  | some event =>
    if events.any fun e => decide (e.id = event.id ∨ e.contentHash = event.contentHash) then events
    else event :: events

/-! ### `verify` -/

def readNullable (json : Option Json) : Mixed := (json.map Mixed.decode).getD .null

def AuditEvent.payload (event : AuditEvent) : Payload where
  tenantId := event.tenantId
  occurredAt := event.occurredAt
  actorType := event.actorType
  actorId := event.actorId
  action := event.action
  targetType := event.targetType
  targetId := event.targetId
  result := event.result
  reason := event.reason
  changes := Mixed.decode event.changes
  before := readNullable event.before
  after := readNullable event.after
  metadata := Mixed.decode event.metadata
  sourceIp := event.sourceIp
  userAgent := event.userAgent
  correlationId := event.correlationId

/-- The loop of `verify`, on the events that are left. -/
def verifyFrom (php : Php) (previousHash : Option String) : List AuditEvent → Bool
  | [] => true
  | event :: rest =>
    if event.previousHash ≠ previousHash then false
    else if hash php previousHash (event.payload.toMixed php) ≠ some event.contentHash then false
    else verifyFrom php (some event.contentHash) rest

def verify (php : Php) (events : List AuditEvent) : Bool := verifyFrom php none (oldest events)

end VtsaCsms.Audit
