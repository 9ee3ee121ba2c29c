import VtsaCsms.Foundation.Action
import VtsaCsms.Foundation.Php
import VtsaCsms.Foundation.Runs
import VtsaCsms.Foundation.Table

/-!
# Fault automation

`FaultAutomationService`: incidents that the status reports of one tenant's assets open, count and
make candidates for recovery, and the two scheduled passes that escalate and resolve them.
-/
namespace VtsaCsms.Maintenance
open Foundation Foundation.Action

/-! ### Rows -/

inductive IncidentState where
  | opened | acknowledged | mitigated | resolved | recurrent | dismissed
  deriving DecidableEq, Repr

def IncidentState.active (state : IncidentState) : Bool :=
  state ∈ [.opened, .acknowledged, .mitigated, .recurrent]

structure IncidentRule where
  faultCode : String
  assetType : String
  createsWorkOrder : Bool := true
  persistentAfterSeconds : Int := 0
  recoveryAfterSeconds : Int := 0
  escalationAfterSeconds : Int := 0
  isActive : Bool := true
  deriving DecidableEq, Repr

structure Incident where
  sourceKey : String
  siteId : String
  assetType : String
  assetId : String
  ruleId : Option Nat
  faultCode : String
  fingerprint : String
  state : IncidentState := .opened
  occurrenceCount : Nat := 1
  escalationLevel : Nat := 0
  firstObservedAt : Instant
  lastObservedAt : Instant
  recoveryCandidateAt : Option Instant := none
  resolvedAt : Option Instant := none
  escalatedAt : Option Instant := none
  deriving DecidableEq, Repr

structure IncidentObservation where
  incidentId : Nat
  sourceEventId : String
  status : String
  faultCode : Option String
  observedAt : Instant
  deriving DecidableEq, Repr

structure IncidentBooks where
  incidents : Table Nat Incident
  observations : Table Nat IncidentObservation

/-- The arguments of `observe`. -/
structure StatusReport where
  sourceEventId : String
  siteId : String
  assetType : String
  assetId : String
  status : String
  faultCode : Option String
  observedAt : Instant

/-- What a call finds: the tenant, its rules in the order the database returns them, the case
mappings and the hash, and whether a work order and a notification go through. -/
structure FaultEnvironment where
  tenantId : String
  rules : List (Nat × IncidentRule)
  mbStrToLower : String → String
  mbStrToUpper : String → String
  sqlLower : String → String
  sha256 : String → String
  createWorkOrder : StatusReport → Except Throwable Unit
  notify : Nat → Except Throwable Unit

/-! ### Text -/

/-- The characters `trim` takes off. -/
def isBlank (c : Char) : Bool := c ∈ [' ', '\n', '\r', '\t', Char.ofNat 11, Char.ofNat 0]

def trim (s : String) : String :=
  String.ofList ((s.toList.dropWhile isBlank).reverse.dropWhile isBlank).reverse

/-- `LIKE`: `%` stands for any text, `_` for any character, a backslash for the character behind it. -/
def likeMatches : List Char → List Char → Bool
  | [], text => text.isEmpty
  | '%' :: pattern, text => text.tails.any fun rest => likeMatches pattern rest
  | '_' :: pattern, text =>
    match text with
    | [] => false
    | _ :: rest => likeMatches pattern rest
  | ['\\'], _ => false
  | '\\' :: c :: pattern, text =>
    match text with
    | [] => false
    | t :: rest => t = c && likeMatches pattern rest
  | c :: pattern, text =>
    match text with
    | [] => false
    | t :: rest => t = c && likeMatches pattern rest

namespace FaultAutomationService

abbrev Automation (α : Type) := Action IncidentBooks Throwable α

/-! ### Reports -/

/-- An observation of the event itself, or one under a key that starts with it. -/
def known (report : StatusReport) (s : IncidentBooks) : Bool :=
  s.observations.exists? fun _ o =>
    decide (o.sourceEventId = report.sourceEventId) ||
      likeMatches (report.sourceEventId ++ ":%").toList o.sourceEventId.toList

def normalizedStatus (env : FaultEnvironment) (report : StatusReport) : String := env.mbStrToLower report.status

def isFault (env : FaultEnvironment) (report : StatusReport) : Bool :=
  normalizedStatus env report ∈ ["faulted", "unavailable", "offline"]

/-- The code of a fault; a fault without one is coded by its status. -/
def normalizedCode (env : FaultEnvironment) (report : StatusReport) : String :=
  let code := trim (report.faultCode.getD "")
  if code = "" then env.mbStrToUpper (normalizedStatus env report) else code

def ruleFor (env : FaultEnvironment) (report : StatusReport) : Option (Nat × IncidentRule) :=
  env.rules.find? fun row =>
    row.2.isActive && decide (row.2.assetType = report.assetType ∧
      env.sqlLower row.2.faultCode = env.mbStrToLower (normalizedCode env report))

def fingerprint (env : FaultEnvironment) (report : StatusReport) : String :=
  env.sha256 ("|".intercalate
    [env.tenantId, report.assetType, report.assetId, env.mbStrToLower (normalizedCode env report)])

/-- The incident that counts a fault. -/
def unresolved? (fingerprint : String) (s : IncidentBooks) : Option (Nat × Incident) :=
  s.incidents.first? fun _ i => decide (i.fingerprint = fingerprint ∧ i.resolvedAt = none) && i.state.active

/-- `maint_incident_obs_event_unique`. -/
def putObservation (observation : IncidentObservation) : Automation Unit := do
  let taken ← read fun s => s.observations.exists? fun _ o => decide (o.sourceEventId = observation.sourceEventId)
  throwIf (taken = true) (.uniqueConstraint "maint_incident_obs_event_unique")
  write fun s => { s with observations := s.observations.create observation }

/-- `maint_incident_source_unique`; every incident here has the source `ocpp`. -/
def createIncident (incident : Incident) : Automation Nat := do
  let taken ← read fun s => s.incidents.exists? fun _ i => decide (i.sourceKey = incident.sourceKey)
  throwIf (taken = true) (.uniqueConstraint "maint_incident_source_unique")
  let id ← read fun s => s.incidents.nextId
  write fun s => { s with incidents := s.incidents.create incident }
  pure id

def saveIncident (id : Nat) (change : Incident → Incident) : Automation Unit :=
  write fun s => { s with incidents := s.incidents.update id change }

def faultObservation (env : FaultEnvironment) (report : StatusReport) (incidentId : Nat) : IncidentObservation where
  incidentId
  sourceEventId := report.sourceEventId
  status := normalizedStatus env report
  faultCode := some (normalizedCode env report)
  observedAt := report.observedAt.toSecond

def newIncident (env : FaultEnvironment) (ruleId : Nat) (report : StatusReport) : Incident where
  sourceKey := report.sourceEventId
  siteId := report.siteId
  assetType := report.assetType
  assetId := report.assetId
  ruleId := some ruleId
  faultCode := normalizedCode env report
  fingerprint := fingerprint env report
  firstObservedAt := report.observedAt.toSecond
  lastObservedAt := report.observedAt.toSecond

def recurred (observedAt : Instant) (i : Incident) : Incident :=
  { i with
    occurrenceCount := i.occurrenceCount + 1
    lastObservedAt := (max i.lastObservedAt observedAt).toSecond
    recoveryCandidateAt := none
    state := if 1 ≤ i.occurrenceCount then .recurrent else i.state }

def recordFault (env : FaultEnvironment) (ruleId : Nat) (rule : IncidentRule) (report : StatusReport) :
    Automation Unit := do
  let incident ← read (unresolved? (fingerprint env report))
  match incident with
  | none => do
    let id ← createIncident (newIncident env ruleId report)
    putObservation (faultObservation env report id)
    doIf (rule.createsWorkOrder = true) (lift (env.createWorkOrder report))
  | some (id, _) => do
    saveIncident id (recurred report.observedAt)
    putObservation (faultObservation env report id)

/-- An incident of an asset that reports no fault. -/
def recovering (observedAt : Instant) (i : Incident) : Incident :=
  { i with
    recoveryCandidateAt := some (i.recoveryCandidateAt.getD observedAt.toSecond)
    lastObservedAt := (max i.lastObservedAt observedAt).toSecond }

/-- The unresolved incidents of the asset. -/
def unresolvedOf (report : StatusReport) (s : IncidentBooks) : List (Nat × Incident) :=
  s.incidents.rowsWhere fun _ i =>
    decide (i.assetType = report.assetType ∧ i.assetId = report.assetId ∧ i.resolvedAt = none) && i.state.active

def recoveryObservation (env : FaultEnvironment) (report : StatusReport) (incidentId : Nat) : IncidentObservation where
  incidentId
  sourceEventId := report.sourceEventId ++ ":" ++ keyText incidentId
  status := normalizedStatus env report
  faultCode := none
  observedAt := report.observedAt.toSecond

def recordRecovery (env : FaultEnvironment) (report : StatusReport) : Automation Unit := do
  let incidents ← read (unresolvedOf report)
  forEach incidents fun (id, _) => do
    putObservation (recoveryObservation env report id)
    saveIncident id (recovering report.observedAt)

def observe (env : FaultEnvironment) (report : StatusReport) : Automation Unit :=
  transaction do
    let repeated ← read (known report)
    if repeated = true then pure ()
    else if isFault env report = true then
      match ruleFor env report with
      | none => pure ()
      | some (ruleId, rule) => recordFault env ruleId rule report
    else recordRecovery env report

/-! ### Passes -/

def rule? (env : FaultEnvironment) (ruleId : Nat) : Option IncidentRule :=
  (env.rules.find? fun row => row.1 = ruleId).map Prod.snd

/-- How long an incident waits for its next level, and from when on. -/
def escalationDue (rule : IncidentRule) (i : Incident) (asOf : Instant) : Bool :=
  let seconds := if i.escalatedAt = none then max rule.persistentAfterSeconds rule.escalationAfterSeconds
    else rule.escalationAfterSeconds
  decide (0 < seconds ∧ (i.escalatedAt.getD i.firstObservedAt).addSeconds seconds ≤ asOf)

def escalated (asOf : Instant) (i : Incident) : Incident :=
  { i with
    escalationLevel := i.escalationLevel + 1
    escalatedAt := some asOf.toSecond
    state := if 1 < i.occurrenceCount then .recurrent else i.state }

def escalateOne (env : FaultEnvironment) (asOf : Instant) (incident : Nat × Incident) : Automation Unit :=
  match incident.2.ruleId with
  | none => pure ()
  | some ruleId => do
    let rule ← orThrow (rule? env ruleId) (.modelNotFound "IncidentRule")
    doIf (escalationDue rule incident.2 asOf = true) do
      saveIncident incident.1 (escalated asOf)
      lift (env.notify incident.1)

def escalatePersistent (env : FaultEnvironment) (asOf : Instant) : Automation Nat := do
  let incidents ← read fun s => s.incidents.rowsWhere fun _ i =>
    decide (i.state ∈ [.opened, .acknowledged, .recurrent] ∧ i.resolvedAt = none)
  forEach incidents (escalateOne env asOf)
  pure (incidents.countP fun row =>
    ((row.2.ruleId.bind (rule? env)).map fun rule => escalationDue rule row.2 asOf).getD false)

def recoveryDue (rule : IncidentRule) (i : Incident) (asOf : Instant) : Bool :=
  i.recoveryCandidateAt.all fun candidate => decide (candidate.addSeconds rule.recoveryAfterSeconds ≤ asOf)

def recovered (asOf : Instant) (i : Incident) : Incident :=
  { i with state := .resolved, resolvedAt := some asOf.toSecond, recoveryCandidateAt := none }

def validateOne (env : FaultEnvironment) (asOf : Instant) (incident : Nat × Incident) : Automation Unit :=
  match incident.2.ruleId with
  | none => pure ()
  | some ruleId => do
    let rule ← orThrow (rule? env ruleId) (.modelNotFound "IncidentRule")
    doIf (recoveryDue rule incident.2 asOf = true) (saveIncident incident.1 (recovered asOf))

def candidates (s : IncidentBooks) : List (Nat × Incident) :=
  s.incidents.rowsWhere fun _ i => i.recoveryCandidateAt.isSome && decide (i.resolvedAt = none)

def validateRecoveries (env : FaultEnvironment) (asOf : Instant) : Automation Nat := do
  let incidents ← read candidates
  forEach incidents (validateOne env asOf)
  pure (incidents.countP fun row =>
    ((row.2.ruleId.bind (rule? env)).map fun rule => recoveryDue rule row.2 asOf).getD false)

end FaultAutomationService

/-! ### Runs -/

inductive FaultCall where
  | observe (env : FaultEnvironment) (report : StatusReport)
  | escalatePersistent (env : FaultEnvironment) (asOf : Instant)
  | validateRecoveries (env : FaultEnvironment) (asOf : Instant)

/-- The rows, the source events of the reports that returned, and the candidates for recovery of
whose asset a new fault was reported since. -/
structure FaultHistory where
  books : IncidentBooks
  seen : List String
  overtaken : Nat → Bool

namespace FaultHistory
open FaultAutomationService

def start : FaultHistory where
  books := ⟨Table.empty, Table.empty⟩
  seen := []
  overtaken := fun _ => false

def isCandidate (s : IncidentBooks) (id : Nat) : Bool :=
  ((s.incidents.get? id).map fun i => i.recoveryCandidateAt.isSome).getD false

/-- The report is of a fault, and not a repetition. -/
def newFault (s : FaultHistory) (env : FaultEnvironment) (report : StatusReport) : Bool :=
  isFault env report && decide (report.sourceEventId ∉ s.seen)

def concerns (s : IncidentBooks) (report : StatusReport) (id : Nat) : Bool :=
  ((s.incidents.get? id).map fun i => decide (i.assetType = report.assetType ∧ i.assetId = report.assetId)).getD false

def next (call : FaultCall) (s : FaultHistory) : FaultHistory :=
  match call with
  | .observe env report =>
    let left := after (observe env report) s.books
    { books := left
      seen := if (observe env report s.books).1.toBool then report.sourceEventId :: s.seen else s.seen
      overtaken := fun id => isCandidate left id && isCandidate s.books id &&
        (s.overtaken id || (s.newFault env report && concerns s.books report id)) }
  | .escalatePersistent env asOf =>
    let left := after (escalatePersistent env asOf) s.books
    { s with books := left, overtaken := fun id => isCandidate left id && s.overtaken id }
  | .validateRecoveries env asOf =>
    let left := after (validateRecoveries env asOf) s.books
    { s with books := left, overtaken := fun id => isCandidate left id && s.overtaken id }

end FaultHistory
end VtsaCsms.Maintenance
