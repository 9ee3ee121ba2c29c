import VtsaCsms.Billing.WalletCalls
import VtsaCsms.Charging.Records
import VtsaCsms.Foundation.Rows

/-!
# The lifecycle of a charging session

What may happen to sessions, commands, charge detail records, prepaid customers and their
wallet, one move at a time and without the services that do it. Nothing here is translated
from the code; the services are shown to make no other move.
-/
namespace VtsaCsms.Charging
open Foundation Foundation.Action Billing

/-! ### What a session row says -/

/-- The columns written once, with the row. -/
structure SessionIdentity where
  chargingStationId : String
  connectorId : String
  protocol : String
  requestedAt : Instant

def ChargingSession.identity (q : ChargingSession) : SessionIdentity :=
  ⟨q.chargingStationId, q.connectorId, q.protocol, q.requestedAt⟩

/-- What is known of the charger's transaction. -/
structure SessionEvidence where
  protocolTransactionId : Option String
  startedAt : Option Instant

def ChargingSession.evidence (q : ChargingSession) : SessionEvidence :=
  ⟨q.protocolTransactionId, q.startedAt⟩

/-- Where the session stands. -/
structure SessionStanding where
  state : ChargingSessionState
  evidence : SessionEvidence
  finalizationOutcome : Option String
  finalCostMinor : Option Int

def ChargingSession.standing (q : ChargingSession) : SessionStanding :=
  ⟨q.state, q.evidence, q.finalizationOutcome, q.finalCostMinor⟩

/-- What a recording measures. -/
structure SessionMeasures where
  energyWh : Int
  durationSeconds : Int
  estimatedCostMinor : Option Int

def ChargingSession.measures (q : ChargingSession) : SessionMeasures :=
  ⟨q.energyWh, q.durationSeconds, q.estimatedCostMinor⟩

/-- The charger is delivering, or would be but for the vehicle or the station. -/
def ChargingSessionState.isDelivering : ChargingSessionState → Bool
  | charging | suspendedByEv | suspendedByEvse => true
  | _ => false

/-- The charger has reported neither a start nor an end. -/
def ChargingSessionState.isAwaiting : ChargingSessionState → Bool
  | requested | authorizing | authorized | starting => true
  | _ => false

/-! ### The tables of the lifecycle -/

structure Core where
  sessions : Indexed Nat ChargingSession ChargingSession.clash
  commands : Indexed Nat ChargerCommand ChargerCommand.clash
  cdrs : Indexed Nat ChargeDetailRecord ChargeDetailRecord.clash
  customers : Indexed Nat CustomerChargingSession CustomerChargingSession.clash
  wallet : Wallet

def Store.core (s : Store) : Core := ⟨s.sessions, s.commands, s.cdrs, s.customers, s.wallet⟩

/-- One session's row was rewritten, its identity kept. -/
structure Rewritten (c : Core) (t : Indexed Nat ChargingSession ChargingSession.clash) (key : Nat)
    (q q' : ChargingSession) : Prop where
  stored : c.sessions.get? key = some q
  placed : Indexed.Placed c.sessions t key q'
  identity : q'.identity = q.identity

/-- One command changed its state, and what it is about stays. -/
structure CommandRewritten (c : Core) (t : Indexed Nat ChargerCommand ChargerCommand.clash)
    (key : Nat) (cmd cmd' : ChargerCommand) : Prop where
  stored : c.commands.get? key = some cmd
  placed : Indexed.Placed c.commands t key cmd'
  session : cmd'.sessionId = cmd.sessionId
  type : cmd'.type = cmd.type
  expected : cmd'.expectedSessionState = cmd.expectedSessionState

/-- The record is the session's finalized one of the highest version. -/
structure LatestFinalized (cdrs : Indexed Nat ChargeDetailRecord ChargeDetailRecord.clash)
    (sessionId key : Nat) (cdr : ChargeDetailRecord) : Prop where
  stored : cdrs.get? key = some cdr
  session : cdr.sessionId = sessionId
  finalized : cdr.state = .finalized
  highest : ∀ k row, cdrs.get? k = some row → row.sessionId = sessionId → row.state = .finalized →
    row.version ≤ cdr.version

/-- Session and record say the same about energy, duration and cost. -/
structure Agrees (q : ChargingSession) (cdr : ChargeDetailRecord) : Prop where
  energy : q.energyWh = cdr.energyWh
  duration : q.durationSeconds = cdr.durationSeconds
  finalCost : q.finalCostMinor = cdr.totalMinor
  estimatedCost : q.estimatedCostMinor = cdr.totalMinor

/-- One of the session's records was written, and none of its records is newer. -/
structure RecordWritten (c : Core) (t : Indexed Nat ChargeDetailRecord ChargeDetailRecord.clash)
    (sessionId key : Nat) (cdr : ChargeDetailRecord) : Prop where
  placed : Indexed.Placed c.cdrs t key cdr
  session : cdr.sessionId = sessionId
  own : ∀ old, c.cdrs.get? key = some old → old.sessionId = sessionId
  newest : ∀ k row, c.cdrs.get? k = some row → row.sessionId = sessionId → k ≠ key →
    row.version < cdr.version

/-- How an ended session is left: awaiting a review, or completed with its record. -/
inductive Closing (q' : ChargingSession) (cdr : ChargeDetailRecord) : Prop
  | review (state : q'.state = .reviewRequired) (record : cdr.state = .reviewRequired)
  | completed (state : q'.state = .completed) (record : cdr.state = .finalized)
      (agrees : q'.finalizationOutcome ≠ some "unbillable" → Agrees q' cdr)

/-- Why a hold may be settled: its record is captured, or the session never started. -/
inductive SettlementCause (c : Core) (owner : CustomerChargingSession) (q : ChargingSession)
    (spent : Int) : Prop
  | captured (state : q.state = .completed) (outcome : q.finalizationOutcome = some "complete")
      (record : ∃ key cdr, LatestFinalized c.cdrs owner.sessionId key cdr ∧
        cdr.totalMinor = some spent) (budget : spent ≤ owner.budgetMinor)
  | released (nothing : spent = 0) (state : q.state ∈ [.failed, .cancelled, .expired])
      (unstarted : q.startedAt = none)

/-- The customer of a session, apart from how the payment stands. -/
structure CustomerRewritten (c : Core)
    (t : Indexed Nat CustomerChargingSession CustomerChargingSession.clash) (key : Nat)
    (owner owner' : CustomerChargingSession) : Prop where
  stored : c.customers.get? key = some owner
  placed : Indexed.Placed c.customers t key owner'
  subject : owner'.subjectId = owner.subjectId
  session : owner'.sessionId = owner.sessionId
  budget : owner'.budgetMinor = owner.budgetMinor

/-! ### Moves -/

/-- What a step may do that not every step may. -/
structure Permits where
  /-- measure a completed session again -/
  late : Prop
  /-- let a remote stop expire unsent -/
  expiry : Prop
  /-- reject a remote stop -/
  rejection : Prop

/-- The states a remote stop passes through without being rejected. -/
def ChargerCommandState.isLive : ChargerCommandState → Bool
  | requested | dispatched | acknowledged | timedOut | deliveryUnknown => true
  | _ => false

/-- A rejected remote stop takes a stopping session back to where the stop found it. -/
inductive StopRejection : Core → Core → Prop
  | mk {c t commands cmdKey cmd cmd' q q'} (command : CommandRewritten c commands cmdKey cmd cmd')
      (type : cmd.type = .remoteStop) (rejected : cmd'.state = .rejected)
      (row : Rewritten c t cmd.sessionId q q') (evidence : q'.evidence = q.evidence)
      (back : q.state = .stopping → q.state.canTransitionTo cmd.expectedSessionState = true →
        q'.state = cmd.expectedSessionState)
      (other : ¬ (q.state = .stopping ∧ q.state.canTransitionTo cmd.expectedSessionState = true) →
        q' = q) :
      StopRejection c { c with sessions := t, commands := commands }

/-- A remote stop that was never sent expires. Where its session waits for it, the session is
stranded. -/
inductive StopExpiry (stranding : Prop) : Core → Core → Prop
  | mk {c commands cmdKey cmd cmd'} (command : CommandRewritten c commands cmdKey cmd cmd')
      (type : cmd.type = .remoteStop) (unsent : cmd.state = .requested)
      (expired : cmd'.state = .expired)
      (stranded : ∀ q, c.sessions.get? cmd.sessionId = some q → q.state = .stopping → stranding) :
      StopExpiry stranding c { c with commands := commands }

inductive Move (p : Permits) : Core → Core → Prop
  /-- A remark in columns nothing here depends on. -/
  | noted {c t key q q'} (row : Rewritten c t key q q') (standing : q'.standing = q.standing)
      (measures : q'.measures = q.measures) : Move p c { c with sessions := t }
  | measured {c t key q q'} (row : Rewritten c t key q q') (standing : q'.standing = q.standing)
      (late : q.state = .completed → p.late) : Move p c { c with sessions := t }
  /-- Transaction evidence reaches a session that has not ended. -/
  | driven {c t key q q'} (row : Rewritten c t key q q')
      (before : q.state.isAwaiting = true ∨ q.state.isPhysicallyActive = true)
      (delivering : q'.state.isDelivering = true)
      (transaction : q'.protocolTransactionId.isSome = true)
      (started : q'.startedAt.isSome = true ∨
        (q.protocolTransactionId.isSome = true ∧ q'.startedAt = q.startedAt)) :
      Move p c { c with sessions := t }
  /-- Transaction evidence without a session. -/
  | reconstructed {c t key q} (fresh : c.sessions.get? key = none)
      (placed : Indexed.Placed c.sessions t key q) (delivering : q.state.isDelivering = true)
      (transaction : q.protocolTransactionId.isSome = true) (started : q.startedAt.isSome = true) :
      Move p c { c with sessions := t }
  /-- A remote start of a connector that has no unended session. -/
  | requested {c t commands key q cmdKey cmd} (fresh : c.sessions.get? key = none)
      (placed : Indexed.Placed c.sessions t key q) (starting : q.state = .starting)
      (unstarted : q.evidence = ⟨none, none⟩)
      (free : ∀ k row, c.sessions.get? k = some row → row.connectorId = q.connectorId →
        row.state.isTerminal = true)
      (freshCommand : c.commands.get? cmdKey = none)
      (command : Indexed.Placed c.commands commands cmdKey cmd) (session : cmd.sessionId = key)
      (type : cmd.type = .remoteStart) :
      Move p c { c with sessions := t, commands := commands }
  | stopRequested {c t commands key q q' cmdKey cmd} (row : Rewritten c t key q q')
      (before : q.state = .starting ∨ q.state.isDelivering = true)
      (known : q.protocolTransactionId.isSome = true) (stopping : q'.state = .stopping)
      (evidence : q'.evidence = q.evidence) (freshCommand : c.commands.get? cmdKey = none)
      (command : Indexed.Placed c.commands commands cmdKey cmd) (session : cmd.sessionId = key)
      (type : cmd.type = .remoteStop) (state : cmd.state = .requested)
      (expected : cmd.expectedSessionState = q.state) :
      Move p c { c with sessions := t, commands := commands }
  /-- A command's state alone; a remote stop stays live. -/
  | commandMoved {c commands cmdKey cmd cmd'} (row : CommandRewritten c commands cmdKey cmd cmd')
      (live : cmd.type = .remoteStop → cmd'.state = cmd.state ∨
        (cmd.state.isLive = true ∧ cmd'.state.isLive = true)) :
      Move p c { c with commands := commands }
  | stopExpired {c c' stranding} (permitted : p.expiry) (expiry : StopExpiry stranding c c') : Move p c c'
  | stopRejected {c c'} (permitted : p.rejection) (rejection : StopRejection c c') : Move p c c'
  /-- A remote stop that was rejected before is applied once more. -/
  | resumed {c t cmdKey cmd q q'} (command : c.commands.get? cmdKey = some cmd)
      (type : cmd.type = .remoteStop) (row : Rewritten c t cmd.sessionId q q')
      (stopping : q.state = .stopping)
      (allowed : q.state.canTransitionTo cmd.expectedSessionState = true)
      (back : q'.state = cmd.expectedSessionState) (evidence : q'.evidence = q.evidence) :
      Move p c { c with sessions := t }
  | ended {c t cdrs key q q' cdrKey cdr} (row : Rewritten c t key q q')
      (before : q.state.canTransitionTo .finalizing = true) (evidence : q'.evidence = q.evidence)
      (record : RecordWritten c cdrs key cdrKey cdr) (closing : Closing q' cdr) :
      Move p c { c with sessions := t, cdrs := cdrs }
  | reviewed {c t key q q'} (row : Rewritten c t key q q') (before : q.state = .finalizing)
      (review : q'.state = .reviewRequired) (evidence : q'.evidence = q.evidence) :
      Move p c { c with sessions := t }
  /-- A session that is given up before it starts. -/
  | withdrawn {c t key q q'} (row : Rewritten c t key q q') (before : q.state.isAwaiting = true)
      (closed : q'.state ∈ [.failed, .cancelled, .expired]) (evidence : q'.evidence = q.evidence) :
      Move p c { c with sessions := t }
  /-- A customer without an unfinished session reserves the budget of one. -/
  | prepaid {c customers wallet key owner vehicleId} (fresh : c.customers.get? key = none)
      (placed : Indexed.Placed c.customers customers key owner) (unsettled : owner.settledAt = none)
      (single : ∀ k other, c.customers.get? k = some other → other.sessionId ≠ owner.sessionId)
      (idle : ∀ k other q, c.customers.get? k = some other → other.subjectId = owner.subjectId →
        c.sessions.get? other.sessionId = some q → other.settledAt ≠ none ∧ q.state.isTerminal = true)
      (known : ∃ k cmd, c.commands.get? k = some cmd ∧ cmd.sessionId = owner.sessionId)
      (held : Returns (PrepaidWallet.reserve owner.subjectId "live" (keyText owner.sessionId)
        owner.budgetMinor owner.payerAccountId vehicleId) c.wallet () wallet) :
      Move p c { c with customers := customers, wallet := wallet }
  | settled {c customers wallet key owner owner' q spent}
      (row : CustomerRewritten c customers key owner owner') (unsettled : owner.settledAt = none)
      (closed : owner'.settledAt ≠ none) (session : c.sessions.get? owner.sessionId = some q)
      (paid : Returns (PrepaidWallet.settle owner.subjectId "live" (keyText owner.sessionId) spent
        owner.payerAccountId) c.wallet () wallet)
      (cause : SettlementCause c owner q spent) :
      Move p c { c with customers := customers, wallet := wallet }
  /-- The payment is marked as needing attention. -/
  | alerted {c customers key owner owner'} (row : CustomerRewritten c customers key owner owner')
      (same : owner'.settledAt = owner.settledAt) : Move p c { c with customers := customers }
  /-- A credit or a spending limit; holds stay. -/
  | funded {c wallet} (holds : wallet.reservations = c.wallet.reservations) :
      Move p c { c with wallet := wallet }

/-- The moves of one step. -/
abbrev Moves (p : Permits) : Core → Core → Prop := Relation.ReflTransGen (Move p)

theorem Moves.keep {p : Permits} {P : Core → Prop} (keeps : ∀ {c c'}, Move p c c' → P c → P c')
    {c c' : Core} (moves : Moves p c c') (holds : P c) : P c' := by
  induction moves with
  | refl => exact holds
  | tail _ move ih => exact keeps move ih

end VtsaCsms.Charging
