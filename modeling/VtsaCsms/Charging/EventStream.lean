import VtsaCsms.Charging.Consumption
import VtsaCsms.Foundation.Runs

/-!
# The event stream

The gateway's Redis stream, its consumer group and the processes of `charging:consume-ocpp-events`.
A process reads entries that were never delivered, works them off one by one and acknowledges each
that the consumer has taken. Nothing reads the group's pending entries.
-/
namespace VtsaCsms.Charging
open Foundation Foundation.Action

/-- An entry of the stream. Its event is the text of the field `event`, if it has one, as
`json_decode` reads the text. -/
structure StreamEntry where
  id : Nat
  event : Option (Option Mixed)

structure JsonException where
  message : String
  deriving DecidableEq

namespace ConsumeOcppEvents

def decode : Option (Option Mixed) → Except JsonException Mixed
  | none => .error ⟨"Redis Stream entry has no event field."⟩
  | some none => .error ⟨"Syntax error"⟩
  | some (some decoded) =>
    if decoded.isArray then .ok decoded else .error ⟨"Redis Stream event must be a JSON object."⟩

/-- The tenant id of an event, where it is a ULID. -/
def tenantId? (isUlid : String → Bool) (event : Mixed) : Option String :=
  (event.get "tenant_id").string?.filter isUlid

/-- The event of an entry that `handle` can decode, with the tenant that it is bound to. -/
def bound? (isUlid : String → Bool) (entry : StreamEntry) : Option (Mixed × String) :=
  match decode entry.event with
  | .error _ => none
  | .ok event => (tenantId? isUlid event).map fun tenantId => (event, tenantId)

def Decodable (entry : StreamEntry) : Prop := ∃ event, decode entry.event = .ok event

def WellFormed (isUlid : String → Bool) (entry : StreamEntry) : Prop := (bound? isUlid entry).isSome

instance (entry : StreamEntry) : Decidable (Decodable entry) :=
  match h : decode entry.event with
  | .ok event => .isTrue ⟨event, h⟩
  | .error _ => .isFalse fun ⟨_, eq⟩ => by rw [h] at eq; cases eq

instance (isUlid : String → Bool) (entry : StreamEntry) : Decidable (WellFormed isUlid entry) :=
  inferInstanceAs (Decidable ((bound? isUlid entry).isSome = true))

theorem WellFormed.decodable {isUlid : String → Bool} {entry : StreamEntry} (formed : WellFormed isUlid entry) :
    Decodable entry := by
  unfold WellFormed bound? at formed
  cases decoded : decode entry.event with
  | ok event => exact ⟨event, decoded⟩
  | error =>
    rw [decoded] at formed
    cases formed

/-- `consume` in the context of the tenant. -/
def consumeAs (env : Environment) (isUlid : String → Bool) (tenantId : String) (event : Mixed) :
    Charge OcppEventConsumer.OcppEventConsumptionResult :=
  OcppEventConsumer.consume { env with tenantId := tenantId, isUlid := isUlid } event

/-- The count of `xreadgroup`. -/
def readCount : Nat := 25

end ConsumeOcppEvents

/-- A consumer group: how many entries it has delivered, and to whom those not acknowledged yet. -/
structure ConsumerGroup where
  delivered : Nat
  pending : List (String × StreamEntry)

namespace ConsumerGroup

/-- `XREADGROUP` from `>`. -/
def new (g : ConsumerGroup) (stream : List StreamEntry) : List StreamEntry :=
  (stream.drop g.delivered).take ConsumeOcppEvents.readCount

def deliver (g : ConsumerGroup) (stream : List StreamEntry) (consumer : String) : ConsumerGroup where
  delivered := g.delivered + (g.new stream).length
  pending := g.pending ++ (g.new stream).map fun entry => (consumer, entry)

/-- `XACK`. -/
def acknowledge (g : ConsumerGroup) (id : Nat) : ConsumerGroup :=
  { g with pending := g.pending.filter fun row => row.2.id ≠ id }

end ConsumerGroup

/-- A process of the command: its consumer name, its option `once`, whether it has read, and what
remains of the batch it works off. -/
structure ConsumerProcess where
  name : String
  once : Bool
  hasRead : Bool := false
  batch : List StreamEntry := []

variable {K : Type} [DecidableEq K]

/-- The stream, its group and the processes on it, with the active tenants and Charging's rows. -/
structure EventBus (K : Type) where
  stream : List StreamEntry
  group : Option ConsumerGroup
  processes : K → Option ConsumerProcess
  activeTenants : List String
  store : Store

namespace EventBus
open ConsumeOcppEvents

def start (activeTenants : List String) (store : Store) : EventBus K where
  stream := []
  group := none
  processes := fun _ => none
  activeTenants
  store

def setProcess (s : EventBus K) (k : K) (p : Option ConsumerProcess) : EventBus K :=
  { s with processes := Function.update s.processes k p }

def ensureGroup (s : EventBus K) : EventBus K :=
  match s.group with
  | some _ => s
  | none => { s with group := some ⟨0, []⟩ }

/-- The entry a process has next. -/
def current (s : EventBus K) (k : K) : Option StreamEntry := (s.processes k).bind fun p => p.batch.head?

/-- What remains to a process. -/
def batch (s : EventBus K) (k : K) : List StreamEntry := ((s.processes k).map ConsumerProcess.batch).getD []

/-- `handle` gives the entry to the consumer: it is well formed and its tenant is active. -/
def given? (s : EventBus K) (isUlid : String → Bool) (entry : StreamEntry) : Option (Mixed × String) :=
  (bound? isUlid entry).filter fun row => row.2 ∈ s.activeTenants

/-- The entries the next read of a process brings. A process with `--once` reads once. -/
def arriving (s : EventBus K) (k : K) : List StreamEntry :=
  match s.processes k, s.group with
  | some p, some g => if p.batch = [] ∧ (p.once = true → p.hasRead = false) then g.new s.stream else []
  | _, _ => []

/-- `read`, where the loop comes to it; a process that is through with `--once` ends. -/
def read (s : EventBus K) (k : K) : EventBus K :=
  match s.processes k, s.group with
  | some p, some g =>
    if p.batch ≠ [] then s
    else if p.once = true ∧ p.hasRead = true then s.setProcess k none
    else
      { s.setProcess k (some { p with hasRead := true, batch := g.new s.stream }) with
        group := some (g.deliver s.stream p.name) }
  | _, _ => s

/-- One turn of the loop over a batch: an exception of `decode` or of `consume` ends the process. -/
def turn (s : EventBus K) (isUlid : String → Bool) (k : K) (env : Environment) : EventBus K :=
  match s.processes k with
  | none => s
  | some p =>
    match p.batch with
    | [] => s
    | entry :: rest =>
      match decode entry.event with
      | .error _ => s.setProcess k none
      | .ok _ =>
        match s.given? isUlid entry with
        | none => s.setProcess k (some { p with batch := rest })
        | some (event, tenantId) =>
          match consumeAs env isUlid tenantId event s.store with
          | (.error _, store) => { s.setProcess k none with store }
          | (.ok _, store) =>
            { s.setProcess k (some { p with batch := rest }) with
              store, group := s.group.map (ConsumerGroup.acknowledge · entry.id) }

/-- The process ends after `consume` and before the acknowledgement. -/
def lose (s : EventBus K) (isUlid : String → Bool) (k : K) (env : Environment) : EventBus K :=
  match (s.current k).bind (s.given? isUlid) with
  | none => s.setProcess k none
  | some (event, tenantId) =>
    { s.setProcess k none with store := after (consumeAs env isUlid tenantId event) s.store }

end EventBus

/-- What happens on the stream. A crash leaves a process wherever the stream does not tell the
difference: with an answer of Redis on its way, or in a transaction that rolls back. -/
inductive BusEvent (K : Type) where
  | append (event : Option (Option Mixed))
  | tenants (active : List String)
  | start (k : K) (name : String) (once : Bool)
  | read (k : K)
  | turn (k : K) (env : Environment)
  | crash (k : K)
  | lose (k : K) (env : Environment)

namespace EventBus
open ConsumeOcppEvents

def next (isUlid : String → Bool) (i : BusEvent K) (s : EventBus K) : EventBus K :=
  match i with
  | .append event => { s with stream := s.stream ++ [⟨s.stream.length, event⟩] }
  | .tenants active => { s with activeTenants := active }
  | .start k name once =>
    match s.processes k with
    | some _ => s
    | none => s.ensureGroup.setProcess k (some { name, once })
  | .read k => s.read k
  | .turn k env => s.turn isUlid k env
  | .crash k => s.setProcess k none
  | .lose k env => s.lose isUlid k env

/-- The step hands the entry to `consume`. -/
def Gives (isUlid : String → Bool) (s : EventBus K) (i : BusEvent K) (entry : StreamEntry) : Prop :=
  ∃ k env, i = .turn k env ∧ s.current k = some entry ∧ (s.given? isUlid entry).isSome

/-- Some run from here hands the entry to `consume`. -/
def StillGiven (isUlid : String → Bool) (s : EventBus K) (entry : StreamEntry) : Prop :=
  ∃ inputs i, Gives isUlid (Runs.reached (next isUlid) inputs s) i entry

/-- The entry is delivered and not acknowledged. -/
def Pending (s : EventBus K) (entry : StreamEntry) : Prop :=
  ∃ g consumer, s.group = some g ∧ (consumer, entry) ∈ g.pending

/-- No well-formed entry is lost: each that is delivered and not acknowledged is read again. -/
def NoneLost (isUlid : String → Bool) (s : EventBus K) : Prop :=
  ∀ entry, s.Pending entry → WellFormed isUlid entry → s.StillGiven isUlid entry

end EventBus
end VtsaCsms.Charging
