import Mathlib.Data.List.Basic
import VtsaCsms.Foundation.Runs

/-!
# The connection gauge

`ConnectionRegistry.register` and `unregister` of `connections.py` in one process, with the gauge
`vtsa_ocpp_connections`. A call stops at every `await`: for the lock, for the store, for the end of a lease task. What
is done after the gauge went up, closing the transport of a superseded connection, changes neither.
-/
namespace VtsaCsms.Gateway.ConnectionGauge
open Foundation

structure RegisteredConnection where
  chargePointIdentity : String
  connectionId : String
  protocol : String
  deriving DecidableEq

/-! ### `_connections` -/

def find (chargePointIdentity : String) (connections : List RegisteredConnection) : Option RegisteredConnection :=
  connections.find? fun c => decide (c.chargePointIdentity = chargePointIdentity)

/-- `_connections[identity] = connection`. -/
def assign (connection : RegisteredConnection) : List RegisteredConnection → List RegisteredConnection
  | [] => [connection]
  | c :: rest =>
    if c.chargePointIdentity = connection.chargePointIdentity then connection :: rest else c :: assign connection rest

/-- `_connections.pop(identity)`. -/
def pop (chargePointIdentity : String) : List RegisteredConnection → List RegisteredConnection
  | [] => []
  | c :: rest => if c.chargePointIdentity = chargePointIdentity then rest else c :: pop chargePointIdentity rest

section
variable {p : RegisteredConnection → Bool} {connections : List RegisteredConnection} {c e : RegisteredConnection}
  {cp : String}

theorem countP_assign_new (absent : find c.chargePointIdentity connections = none) :
    (assign c connections).countP p = connections.countP p + if p c then 1 else 0 := by
  induction connections with
  | nil => rw [assign, List.countP_singleton, List.countP_nil, Nat.zero_add]
  | cons e rest ih =>
    unfold find at absent
    rw [List.find?_cons] at absent
    split at absent
    · cases absent
    · rename_i other
      rw [assign, if_neg (of_decide_eq_false other), List.countP_cons, List.countP_cons, ih absent]
      omega

theorem countP_assign_old (present : find c.chargePointIdentity connections = some e) :
    (assign c connections).countP p + (if p e then 1 else 0) = connections.countP p + if p c then 1 else 0 := by
  induction connections with
  | nil => cases present
  | cons d rest ih =>
    unfold find at present
    rw [List.find?_cons] at present
    split at present
    · rename_i same
      cases present
      rw [assign, if_pos (of_decide_eq_true same), List.countP_cons, List.countP_cons]
      omega
    · rename_i other
      have := ih present
      rw [assign, if_neg (of_decide_eq_false other), List.countP_cons, List.countP_cons]
      omega

theorem countP_pop (present : find cp connections = some e) :
    (pop cp connections).countP p + (if p e then 1 else 0) = connections.countP p := by
  induction connections with
  | nil => cases present
  | cons d rest ih =>
    unfold find at present
    rw [List.find?_cons] at present
    split at present
    · rename_i same
      cases present
      rw [pop, if_pos (of_decide_eq_true same), List.countP_cons]
    · rename_i other
      have := ih present
      rw [pop, if_neg (of_decide_eq_false other), List.countP_cons, List.countP_cons]
      omega

end

/-! ### Calls -/

/-- Where a call stands. -/
inductive Call where
  /-- `register` before it has the lock. -/
  | registers (connection : RegisteredConnection)
  /-- `register` with the lock, its claim on the way to the store. -/
  | claims (connection : RegisteredConnection)
  /-- `unregister` before it has the lock. -/
  | unregisters (chargePointIdentity connectionId : String)
  /-- `unregister`, its release on the way, with the connection it removed. -/
  | releases (removed : Option RegisteredConnection)
  /-- `unregister`, the lease task of the removed connection not yet ended. -/
  | cancelsLease (removed : RegisteredConnection)
  | returned

/-- The connection that a call has removed and is still to count down. -/
def Call.removing : Call → Option RegisteredConnection
  | releases removed => removed
  | cancelsLease removed => some removed
  | _ => none

structure Registry where
  connections : List RegisteredConnection
  lock : Option Nat
  calls : List Call
  gauge : String → Int

namespace Registry

def start : Registry where
  connections := []
  lock := none
  calls := []
  gauge := fun _ => 0

def setCall (s : Registry) (k : Nat) (call : Call) : Registry := { s with calls := s.calls.set k call }

/-- `self._metrics.connections.labels(protocol=protocol).inc()`, or `.dec()`. -/
def count (s : Registry) (protocol : String) (n : Int) : Registry :=
  { s with gauge := Function.update s.gauge protocol (s.gauge protocol + n) }

/-- A call goes on; its await was answered. -/
def advance (k : Nat) (s : Registry) : Registry :=
  match s.calls[k]? with
  | some (.registers connection) =>
    if s.lock = none then { s.setCall k (.claims connection) with lock := some k } else s
  | some (.claims connection) =>
    { (s.setCall k .returned).count connection.protocol 1 with
      connections := assign connection s.connections, lock := none }
  | some (.unregisters chargePointIdentity connectionId) =>
    if s.lock = none then
      match (find chargePointIdentity s.connections).filter fun c => decide (c.connectionId = connectionId) with
      | some current =>
        { s.setCall k (.releases (some current)) with connections := pop chargePointIdentity s.connections }
      | none => s.setCall k (.releases none)
    else s
  | some (.releases (some removed)) => s.setCall k (.cancelsLease removed)
  | some (.releases none) => s.setCall k .returned
  | some (.cancelsLease removed) => (s.setCall k .returned).count removed.protocol (-1)
  | _ => s

/-- The await of a call raises: `register` ends, `unregister` logs a failed release, the end of a lease task is
gathered. -/
def raises (k : Nat) (s : Registry) : Registry :=
  match s.calls[k]? with
  | some (.claims _) => { s.setCall k .returned with lock := none }
  | some (.releases _) => s.advance k
  | some (.cancelsLease _) => s.advance k
  | _ => s

inductive Move where
  | register (connection : RegisteredConnection)
  | unregister (chargePointIdentity connectionId : String)
  | advance (k : Nat)
  | raises (k : Nat)

def next (move : Move) (s : Registry) : Registry :=
  match move with
  | .register connection => { s with calls := s.calls ++ [.registers connection] }
  | .unregister chargePointIdentity connectionId =>
    { s with calls := s.calls ++ [.unregisters chargePointIdentity connectionId] }
  | .advance k => s.advance k
  | .raises k => s.raises k

/-! ### Counting -/

def speaks (protocol : String) (c : RegisteredConnection) : Bool := decide (c.protocol = protocol)

/-- The registered connections of a protocol; one that is removed counts until its `unregister` is through. -/
def registered (s : Registry) (protocol : String) : Nat :=
  s.connections.countP (speaks protocol) + s.calls.countP fun call => call.removing.any (speaks protocol)

/-- All connections have unregistered. -/
def AllUnregistered (s : Registry) : Prop := s.connections = [] ∧ ∀ call ∈ s.calls, call.removing = none

/-- The gauge counts the connections, and is zero when there are none. -/
def GaugeCounts (s : Registry) : Prop :=
  ∀ protocol, s.gauge protocol = s.registered protocol ∧ (s.AllUnregistered → s.gauge protocol = 0)

/-- The move registers no connection over another of the same charge point. -/
def SupersedesNone (move : Move) (s : Registry) : Prop :=
  ∀ k connection, move = .advance k → s.calls[k]? = some (.claims connection) →
    find connection.chargePointIdentity s.connections = none

variable {s : Registry} {k : Nat} {protocol : String}

theorem registered_setCall {old : Call} (call : Call) (there : s.calls[k]? = some old) :
    (s.setCall k call).registered protocol + (if old.removing.any (speaks protocol) then 1 else 0) =
      s.registered protocol + if call.removing.any (speaks protocol) then 1 else 0 := by
  obtain ⟨inside, isOld⟩ := List.getElem?_eq_some_iff.mp there
  have member : 0 < s.calls.countP (fun call => call.removing.any (speaks protocol)) ∨
      old.removing.any (speaks protocol) = false := by
    cases removing : old.removing.any (speaks protocol) with
    | false => exact Or.inr rfl
    | true => exact Or.inl (List.countP_pos_iff.mpr ⟨old, isOld ▸ List.getElem_mem inside, removing⟩)
  unfold registered setCall
  simp only [List.countP_set inside, isOld]
  cases removing : old.removing.any (speaks protocol) with
  | false =>
    simp only [Bool.false_eq_true, if_false]
    omega
  | true =>
    have := member.resolve_right (by rw [removing]; decide)
    simp only [if_true]
    omega

theorem registered_same {old : Call} (call : Call) (there : s.calls[k]? = some old)
    (same : old.removing = call.removing) :
    (s.setCall k call).registered protocol = s.registered protocol := by
  have := @registered_setCall s k protocol old call there
  rw [same] at this
  omega

theorem gaugeCounts_iff : s.GaugeCounts ↔ ∀ protocol, s.gauge protocol = s.registered protocol := by
  refine ⟨fun counts protocol => (counts protocol).1, fun equal protocol => ⟨equal protocol, ?_⟩⟩
  rintro ⟨empty, removed⟩
  have calls : s.calls.countP (fun call => call.removing.any (speaks protocol)) = 0 := by
    rw [List.countP_eq_zero]
    intro call member
    rw [removed call member]
    exact Bool.false_ne_true
  rw [equal protocol, registered, empty, calls]
  rfl

theorem registered_append {call : Call} (removing : call.removing = none) :
    registered { s with calls := s.calls ++ [call] } protocol = s.registered protocol := by
  unfold registered
  simp [removing]

variable {c e removed : RegisteredConnection}

theorem gauge_count (label : String) (n : Int) :
    (s.count label n).gauge protocol = s.gauge protocol + if label = protocol then n else 0 := by
  change Function.update s.gauge label (s.gauge label + n) protocol = _
  by_cases same : label = protocol
  · rw [same, Function.update_self, if_pos rfl]
  · rw [Function.update_of_ne (Ne.symm same), if_neg same, Int.add_zero]

theorem speaks_iff : speaks protocol c = true ↔ c.protocol = protocol := decide_eq_true_iff

theorem counts_claims (there : s.calls[k]? = some (.claims c))
    (equal : ∀ protocol, s.gauge protocol = s.registered protocol) :
    (∀ protocol, (s.advance k).gauge protocol = (s.advance k).registered protocol) ↔
      find c.chargePointIdentity s.connections = none := by
  have after : s.advance k = { (s.setCall k .returned).count c.protocol 1 with
      connections := assign c s.connections, lock := none } := by
    rw [advance, there]
  have gauge : ∀ protocol,
      (s.advance k).gauge protocol = s.gauge protocol + if c.protocol = protocol then 1 else 0 := by
    intro protocol
    rw [after]
    exact @gauge_count (s.setCall k .returned) protocol c.protocol 1
  have registered : ∀ protocol, (s.advance k).registered protocol + s.connections.countP (speaks protocol) =
      s.registered protocol + (assign c s.connections).countP (speaks protocol) := by
    intro protocol
    have calls := @registered_same s k protocol _ .returned there rfl
    rw [after]
    simp only [Registry.registered, setCall, count] at calls ⊢
    omega
  cases present : find c.chargePointIdentity s.connections with
  | none =>
    refine ⟨fun _ => rfl, fun _ protocol => ?_⟩
    have new := countP_assign_new (p := speaks protocol) present
    have own := registered protocol
    have before := equal protocol
    simp only [speaks_iff] at new
    rw [gauge]
    by_cases same : c.protocol = protocol
    · rw [if_pos same] at new ⊢
      omega
    · rw [if_neg same] at new ⊢
      omega
  | some e =>
    refine ⟨fun counts => ?_, fun absent => by cases absent⟩
    have old := countP_assign_old (p := speaks e.protocol) present
    have own := registered e.protocol
    have before := equal e.protocol
    have now := counts e.protocol
    simp only [speaks_iff, if_true] at old
    rw [gauge] at now
    by_cases same : c.protocol = e.protocol
    · rw [if_pos same] at old now
      omega
    · rw [if_neg same] at old now
      omega

theorem counts_other (other : ∀ c, s.calls[k]? ≠ some (.claims c))
    (equal : ∀ protocol, s.gauge protocol = s.registered protocol) (protocol : String) :
    (s.advance k).gauge protocol = (s.advance k).registered protocol := by
  unfold advance
  cases there : s.calls[k]? with
  | none => exact equal protocol
  | some call =>
    cases call with
    | registers c =>
      simp only
      split
      · exact (equal protocol).trans (congrArg Nat.cast (registered_same (.claims c) there rfl).symm)
      · exact equal protocol
    | claims c => exact absurd there (other c)
    | unregisters cp id =>
      simp only
      split
      · cases current : (find cp s.connections).filter fun c => decide (c.connectionId = id) with
        | none => exact (equal protocol).trans (congrArg Nat.cast (registered_same (.releases none) there rfl).symm)
        | some e =>
          have popped := countP_pop (p := speaks protocol) (Option.filter_eq_some_iff.mp current).1
          have calls : (s.setCall k (.releases (some e))).registered protocol + 0 =
              s.registered protocol + if speaks protocol e = true then 1 else 0 := registered_setCall _ there
          have before := equal protocol
          simp only [Registry.registered, setCall] at popped calls before ⊢
          by_cases same : speaks protocol e = true
          · rw [if_pos same] at popped calls
            omega
          · rw [if_neg same] at popped calls
            omega
      · exact equal protocol
    | releases removed =>
      cases removed with
      | none => exact (equal protocol).trans (congrArg Nat.cast (registered_same .returned there rfl).symm)
      | some e => exact (equal protocol).trans (congrArg Nat.cast (registered_same (.cancelsLease e) there rfl).symm)
    | cancelsLease e =>
      have calls : (s.setCall k .returned).registered protocol + (if speaks protocol e = true then 1 else 0) =
          s.registered protocol + 0 := registered_setCall .returned there
      have gauge := @gauge_count (s.setCall k .returned) protocol e.protocol (-1)
      have before := equal protocol
      change ((s.setCall k .returned).count e.protocol (-1)).gauge protocol =
        (s.setCall k .returned).registered protocol
      rw [gauge]
      change s.gauge protocol + _ = _
      simp only [speaks_iff] at calls
      by_cases same : e.protocol = protocol
      · rw [if_pos same] at calls ⊢
        omega
      · rw [if_neg same] at calls ⊢
        omega
    | returned => exact equal protocol

theorem counts_raises (equal : ∀ protocol, s.gauge protocol = s.registered protocol) (protocol : String) :
    (s.raises k).gauge protocol = (s.raises k).registered protocol := by
  unfold raises
  cases there : s.calls[k]? with
  | none => exact equal protocol
  | some call =>
    have other : ∀ c, call ≠ .claims c → s.calls[k]? ≠ some (.claims c) := by
      intro c different same
      exact different (Option.some.inj (there.symm.trans same))
    cases call with
    | claims c => exact (equal protocol).trans (congrArg Nat.cast (registered_same .returned there rfl).symm)
    | releases removed => exact counts_other (fun c => other c (by simp)) equal protocol
    | cancelsLease e => exact counts_other (fun c => other c (by simp)) equal protocol
    | _ => exact equal protocol

theorem counts_next (move : Move) (equal : ∀ protocol, s.gauge protocol = s.registered protocol) :
    (∀ protocol, (s.next move).gauge protocol = (s.next move).registered protocol) ↔ s.SupersedesNone move := by
  cases move with
  | register c =>
    refine ⟨fun _ k c same => (by cases same), fun _ protocol => ?_⟩
    exact (equal protocol).trans (congrArg Nat.cast (registered_append rfl).symm)
  | unregister cp id =>
    refine ⟨fun _ k c same => (by cases same), fun _ protocol => ?_⟩
    exact (equal protocol).trans (congrArg Nat.cast (registered_append rfl).symm)
  | raises k => exact ⟨fun _ k c same => (by cases same), fun _ => counts_raises equal⟩
  | advance k =>
    by_cases claims : ∃ c, s.calls[k]? = some (.claims c)
    · obtain ⟨c, there⟩ := claims
      refine (counts_claims there equal).trans
        ⟨fun absent k' c' same there' => ?_, fun supersedes => supersedes k c rfl there⟩
      cases same
      rw [there] at there'
      cases there'
      exact absent
    · refine ⟨fun _ k' c same there => ?_, fun _ => counts_other (fun c there => claims ⟨c, there⟩) equal⟩
      cases same
      exact absurd ⟨c, there⟩ claims

/-- The gauge counts the connections throughout exactly the runs in which none is superseded. -/
theorem gauge_counts_iff (moves : List Move) :
    Runs.Throughout next GaugeCounts moves start ↔ Runs.Met next SupersedesNone moves start := by
  refine Runs.throughout_iff_met (Q := fun _ => True) (fun _ _ _ => trivial) (fun move s _ counts => ?_) moves start
    trivial (gaugeCounts_iff.mpr fun _ => rfl)
  exact gaugeCounts_iff.trans (counts_next move (gaugeCounts_iff.mp counts))

/-- A charger that connects anew before its old connection has ended; then both unregister. -/
def reconnection : List Move :=
  [.register ⟨"CP-1", "01A", "ocpp1.6"⟩, .advance 0, .advance 0,
    .register ⟨"CP-1", "01B", "ocpp1.6"⟩, .advance 1, .advance 1,
    .unregister "CP-1" "01A", .advance 2, .advance 2,
    .unregister "CP-1" "01B", .advance 3, .advance 3, .advance 3]

/-- Nothing is registered any more, and the gauge still shows one. -/
theorem reconnection_counted : (Runs.reached next reconnection start).AllUnregistered ∧
    (Runs.reached next reconnection start).gauge "ocpp1.6" = 1 ∧
    ¬ Runs.Throughout next GaugeCounts reconnection start := by
  have gone : (Runs.reached next reconnection start).AllUnregistered := by
    refine ⟨rfl, fun call member => ?_⟩
    have calls : (Runs.reached next reconnection start).calls = [.returned, .returned, .returned, .returned] := rfl
    rw [calls] at member
    simp only [List.mem_cons, List.not_mem_nil, or_false, or_self] at member
    rw [member]
    rfl
  have left : (Runs.reached next reconnection start).gauge "ocpp1.6" = 1 := by decide +kernel
  refine ⟨gone, left, fun throughout => ?_⟩
  have zero := (throughout.last "ocpp1.6").2 gone
  rw [left] at zero
  cases zero

end Registry

end VtsaCsms.Gateway.ConnectionGauge
