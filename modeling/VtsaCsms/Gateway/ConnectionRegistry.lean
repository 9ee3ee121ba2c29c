import VtsaCsms.Foundation.Runs
import VtsaCsms.Gateway.Stores

/-!
# The connection registry

`ConnectionRegistry` of `connections.py` on any number of nodes that share one store. A call is
a task that stops at every `await`: for the lock of its node, for the store, for time. The store
carries a command out at some time after it was sent; the await of its task may raise, be
cancelled or end with its node first, and the command may be carried out all the same. Closing a
transport only ends its socket, after which the node unregisters the connection.
-/
namespace VtsaCsms.Gateway
open Foundation Foundation.Action

/-- The settings of a node that the registry reads, as `Settings.__post_init__` admits them. -/
structure LeaseSettings where
  nodeId : String
  connectionLeaseSeconds : Int
  least : 9 ≤ connectionLeaseSeconds

structure RegisteredConnection where
  chargePointIdentity : String
  connectionId : String
  deriving DecidableEq

/-- An entry of `_connections`, with the number of its `lease_task`. -/
structure Registered where
  connection : RegisteredConnection
  leaseTask : Nat
  deriving DecidableEq

/-- Where a task stands. -/
inductive Task where
  /-- `register` before it has the lock. -/
  | registers (c : RegisteredConnection)
  /-- `register`, its claim on the way to the store. -/
  | claims (c : RegisteredConnection)
  /-- `register`, its claim answered. -/
  | claimed (c : RegisteredConnection)
  | unregisters (chargePointIdentity connectionId : String)
  /-- `unregister`, the release on the way, with the lease task of the entry it removed. -/
  | releases (chargePointIdentity connectionId : String) (removed : Option Nat)
  | released (chargePointIdentity connectionId : String) (removed : Option Nat)
  | gets (chargePointIdentity : String)
  /-- `get`, the renewal of the entry it read on the way. -/
  | getRenews (c : RegisteredConnection)
  | getRenewed (c : RegisteredConnection) (retained : Bool)
  /-- `_renew_lease` asleep. -/
  | leaseSleeps (c : RegisteredConnection) (wakesAt : ℚ)
  | leaseRenews (c : RegisteredConnection)
  | leaseRenewed (c : RegisteredConnection) (retained : Bool)
  /-- A claim on the way to the store that nobody awaits any more. -/
  | claimLeft (c : RegisteredConnection)
  | releaseLeft (chargePointIdentity connectionId : String)
  | renewLeft (c : RegisteredConnection)
  deriving DecidableEq

namespace Task

/-- The connection a task works for; a `get` works for the one it has read. -/
def connectionId? : Task → Option String
  | registers c | claims c | claimed c | getRenews c | getRenewed c _ | leaseSleeps c _ | leaseRenews c
  | leaseRenewed c _ | claimLeft c | renewLeft c => some c.connectionId
  | unregisters _ id | releases _ id _ | released _ id _ | releaseLeft _ id => some id
  | gets _ => none

/-- What remains of a task that ends early: the command it has sent. -/
def left : Task → Option Task
  | claims c | claimLeft c => some (.claimLeft c)
  | releases cp id _ | releaseLeft cp id => some (.releaseLeft cp id)
  | getRenews c | leaseRenews c | renewLeft c => some (.renewLeft c)
  | _ => none

/-- The stages of `register` inside `async with self._lock`. -/
def locks : Task → Bool
  | claims _ | claimed _ => true
  | _ => false

end Task

variable {N : Type} [DecidableEq N]

/-- The nodes and their store. `connected` are the connection ids generated so far, `claimed` those
whose claim the store has carried out, the latest first. -/
structure Cluster (N : Type) where
  now : ℚ
  rows : RedisRows
  registry : N → String → Option Registered
  lock : N → Option Nat
  tasks : Nat → Option (N × Task)
  nextTask : Nat
  connected : List String
  claimed : List String

namespace Cluster

def start (now : ℚ) : Cluster N where
  now
  rows := fun _ => none
  registry := fun _ _ => none
  lock := fun _ => none
  tasks := fun _ => none
  nextTask := 0
  connected := []
  claimed := []

def setTask (g : Cluster N) (t : Nat) (task : Option (N × Task)) : Cluster N :=
  { g with tasks := Function.update g.tasks t task }

def setLock (g : Cluster N) (node : N) (holder : Option Nat) : Cluster N :=
  { g with lock := Function.update g.lock node holder }

def setEntry (g : Cluster N) (node : N) (chargePointIdentity : String) (entry : Option Registered) : Cluster N :=
  { g with registry := Function.update g.registry node
             (Function.update (g.registry node) chargePointIdentity entry) }

def setRows (g : Cluster N) (rows : RedisRows) : Cluster N := { g with rows }

def spawn (g : Cluster N) (node : N) (task : Task) : Cluster N :=
  { g.setTask g.nextTask (some (node, task)) with nextTask := g.nextTask + 1 }

/-- The end of a task, or of all but its command; a lock it holds is released. -/
def finish (g : Cluster N) (t : Nat) (node : N) (left : Option Task) : Cluster N :=
  let g' := g.setTask t (left.map fun task => (node, task))
  if g.lock node = some t then g'.setLock node none else g'

section Projections
variable (g : Cluster N) (t : Nat) (node : N) (left : Option Task)

omit [DecidableEq N] in
@[simp] theorem setTask_rows (now : Option (N × Task)) : (g.setTask t now).rows = g.rows := rfl

omit [DecidableEq N] in
@[simp] theorem setRows_rows (rows : RedisRows) : (g.setRows rows).rows = rows := rfl

omit [DecidableEq N] in
@[simp] theorem spawn_rows (task : Task) : (g.spawn node task).rows = g.rows := rfl

@[simp] theorem setLock_rows (holder : Option Nat) : (g.setLock node holder).rows = g.rows := rfl

@[simp] theorem setEntry_rows (cp : String) (entry : Option Registered) :
    (g.setEntry node cp entry).rows = g.rows := rfl

@[simp] theorem finish_now : (g.finish t node left).now = g.now := by
  unfold finish
  split <;> rfl

@[simp] theorem finish_rows : (g.finish t node left).rows = g.rows := by
  unfold finish
  split <;> rfl

@[simp] theorem finish_registry : (g.finish t node left).registry = g.registry := by
  unfold finish
  split <;> rfl

@[simp] theorem finish_tasks :
    (g.finish t node left).tasks = Function.update g.tasks t (left.map fun task => (node, task)) := by
  unfold finish
  split <;> rfl

@[simp] theorem finish_nextTask : (g.finish t node left).nextTask = g.nextTask := by
  unfold finish
  split <;> rfl

@[simp] theorem finish_connected : (g.finish t node left).connected = g.connected := by
  unfold finish
  split <;> rfl

@[simp] theorem finish_claimed : (g.finish t node left).claimed = g.claimed := by
  unfold finish
  split <;> rfl

theorem finish_lock {t' : Nat} {node' : N} (other : t' ≠ t) (held : g.lock node' = some t') :
    (g.finish t node left).lock node' = g.lock node' := by
  unfold finish
  split
  · rename_i own
    refine Function.update_of_ne ?_ _ _
    rintro rfl
    exact other (Option.some.inj (held.symm.trans own))
  · rfl

end Projections

end Cluster

inductive Move (N : Type) where
  | wait (seconds : ℚ) (forward : 0 ≤ seconds)
  /-- A socket is accepted: `new_ulid()` and `register`. -/
  | register (node : N) (c : RegisteredConnection)
  | unregister (node : N) (chargePointIdentity connectionId : String)
  | get (node : N) (chargePointIdentity : String)
  /-- The store carries out the command a task has sent. -/
  | carry (t : Nat)
  /-- A task goes on. -/
  | resume (t : Nat)
  /-- The await of a task raises. -/
  | fail (t : Nat)
  | cancel (t : Nat)
  /-- A node stops. -/
  | stop (node : N)

namespace Cluster
variable (store : RedisGatewayStore) (settings : N → LeaseSettings)

def carry (t : Nat) (g : Cluster N) : Cluster N :=
  match g.tasks t with
  | some (node, .claims c) =>
    match store.claimConnection g.now c.chargePointIdentity (settings node).nodeId c.connectionId
        (settings node).connectionLeaseSeconds g.rows with
    | (.ok _, rows) =>
      { (g.setRows rows).setTask t (some (node, .claimed c)) with claimed := c.connectionId :: g.claimed }
    | (.error _, rows) => (g.setRows rows).finish t node none
  | some (node, .claimLeft c) =>
    match store.claimConnection g.now c.chargePointIdentity (settings node).nodeId c.connectionId
        (settings node).connectionLeaseSeconds g.rows with
    | (.ok _, rows) => { (g.setRows rows).setTask t none with claimed := c.connectionId :: g.claimed }
    | (.error _, rows) => (g.setRows rows).setTask t none
  | some (node, .releases cp id removed) =>
    (g.setRows (store.releaseConnection g.now cp id g.rows).2).setTask t (some (node, .released cp id removed))
  | some (_, .releaseLeft cp id) => (g.setRows (store.releaseConnection g.now cp id g.rows).2).setTask t none
  | some (node, .getRenews c) =>
    match store.renewConnection g.now c.chargePointIdentity c.connectionId
        (settings node).connectionLeaseSeconds g.rows with
    | (.ok retained, rows) => (g.setRows rows).setTask t (some (node, .getRenewed c retained))
    | (.error _, rows) => (g.setRows rows).finish t node none
  | some (node, .leaseRenews c) =>
    match store.renewConnection g.now c.chargePointIdentity c.connectionId
        (settings node).connectionLeaseSeconds g.rows with
    | (.ok retained, rows) => (g.setRows rows).setTask t (some (node, .leaseRenewed c retained))
    | (.error _, rows) =>
      (g.setRows rows).setTask t (some (node, .unregisters c.chargePointIdentity c.connectionId))
  | some (node, .renewLeft c) =>
    (g.setRows (store.renewConnection g.now c.chargePointIdentity c.connectionId
      (settings node).connectionLeaseSeconds g.rows).2).setTask t none
  | _ => g

/-- A task is cancelled. -/
def cancel (t : Nat) (g : Cluster N) : Cluster N :=
  match g.tasks t with
  | some (node, task) => g.finish t node task.left
  | none => g

/-- The time at which a renewed lease is renewed again. -/
def renewsNext (g : Cluster N) (node : N) : ℚ := g.now + (settings node).connectionLeaseSeconds / 3

/-- The entry `unregister` pops: the one of its own connection. -/
def popped (g : Cluster N) (node : N) (cp id : String) : Option Registered :=
  (g.registry node cp).filter fun e => e.connection.connectionId = id

def resume (t : Nat) (g : Cluster N) : Cluster N :=
  match g.tasks t with
  | some (node, .registers c) =>
    if g.lock node = none then (g.setLock node (some t)).setTask t (some (node, .claims c)) else g
  | some (node, .claimed c) =>
    ((g.setEntry node c.chargePointIdentity (some ⟨c, g.nextTask⟩)).spawn node
      (.leaseSleeps c (g.renewsNext settings node))).finish t node none
  | some (node, .unregisters cp id) =>
    if g.lock node = none then
      match g.popped node cp id with
      | some e => (g.setEntry node cp none).setTask t (some (node, .releases cp id (some e.leaseTask)))
      | none => g.setTask t (some (node, .releases cp id none))
    else g
  | some (_, .released _ _ removed) =>
    match removed with
    | some leaseTask => (g.cancel leaseTask).setTask t none
    | none => g.setTask t none
  | some (node, .gets cp) =>
    if g.lock node = none then
      match g.registry node cp with
      | some e => g.setTask t (some (node, .getRenews e.connection))
      | none => g.setTask t none
    else g
  | some (node, .getRenewed c retained) =>
    -- a retained connection is returned, a lost one is closed and unregistered
    if retained then g.setTask t none
    else g.setTask t (some (node, .unregisters c.chargePointIdentity c.connectionId))
  | some (node, .leaseSleeps c wakesAt) =>
    if wakesAt ≤ g.now then g.setTask t (some (node, .leaseRenews c)) else g
  | some (node, .leaseRenewed c retained) =>
    if retained then g.setTask t (some (node, .leaseSleeps c (g.renewsNext settings node)))
    else g.setTask t (some (node, .unregisters c.chargePointIdentity c.connectionId))
  | _ => g

/-- An exception: `unregister` logs a failed release and goes on, `_renew_lease` unregisters. The
command whose await raised may still be on its way. -/
def fail (t : Nat) (g : Cluster N) : Cluster N :=
  match g.tasks t with
  | some (node, .releases cp id removed) =>
    (g.setTask t (some (node, .released cp id removed))).spawn node (.releaseLeft cp id)
  | some (node, .leaseRenews c) =>
    (g.setTask t (some (node, .unregisters c.chargePointIdentity c.connectionId))).spawn node (.renewLeft c)
  | some (node, .leaseRenewed c _) =>
    g.setTask t (some (node, .unregisters c.chargePointIdentity c.connectionId))
  | some (node, task) => g.finish t node task.left
  | none => g

def stop (node : N) (g : Cluster N) : Cluster N :=
  { g with
    registry := Function.update g.registry node fun _ => none
    lock := Function.update g.lock node none
    tasks := fun t => (g.tasks t).bind fun task =>
      if task.1 = node then task.2.left.map fun left => (node, left) else some task }

def next (move : Move N) (g : Cluster N) : Cluster N :=
  match move with
  | .wait seconds _ => { g with now := g.now + seconds }
  | .register node c =>
    if c.connectionId ∈ g.connected then g
    else { g.spawn node (.registers c) with connected := c.connectionId :: g.connected }
  | .unregister node cp id => g.spawn node (.unregisters cp id)
  | .get node cp => g.spawn node (.gets cp)
  | .carry t => g.carry store settings t
  | .resume t => g.resume settings t
  | .fail t => g.fail t
  | .cancel t => g.cancel t
  | .stop node => g.stop node

/-- The store's lease names exactly this connection. -/
def Names (g : Cluster N) (c : RegisteredConnection) : Prop :=
  ∃ nodeId expiresAt, Redis.find g.now g.rows (store.connectionKey c.chargePointIdentity) =
    some ⟨.lease nodeId c.connectionId, expiresAt⟩

/-- A `get` that is about to return the connection. -/
def Returning (g : Cluster N) (t : Nat) (c : RegisteredConnection) : Prop :=
  ∃ node, g.tasks t = some (node, .getRenewed c true)

/-- The move is one of a task that works for the connection. -/
def ActsFor (g : Cluster N) (move : Move N) (connectionId : String) : Prop :=
  ∃ t node task, g.tasks t = some (node, task) ∧ task.connectionId? = some connectionId ∧
    (move = .carry t ∨ move = .resume t ∨ move = .fail t ∨ move = .cancel t)

end Cluster
end VtsaCsms.Gateway
