import VtsaCsms.Foundation.EventLoop
import VtsaCsms.Mobile.ChargingModels

/-!
# The charging controller

`charging_controller.dart` as the turns of the app's event loop. A turn is one event with the
microtasks it leaves behind, so an operation is suspended only where it awaits the platform's
answer or the device's. What an operation sends is left out; what it is answered is not.
-/
namespace VtsaCsms.Mobile
open Foundation
open Charging (ChargingSessionState)

/-- `(_generation, _ownerId())` when an operation began. -/
structure Request where
  generation : Nat
  ownerId : String
  deriving DecidableEq

/-- `_realtimeSubscription`, with what its listener captured. -/
structure RealtimeSubscription where
  sessionId : String
  request : Request
  deriving DecidableEq

/-- What no answer changes: who uses the app, its network and clock, and the controller's counters. -/
structure Surroundings where
  ownerId : String
  authenticated : Bool
  online : Bool
  now : Instant
  disposed : Bool := false
  generation : Nat := 0
  accountGeneration : Nat := 0
  deriving DecidableEq

structure ChargingController extends Surroundings where
  store : LocalActiveSessionStore := none
  phase : ChargingFlowPhase := .idle
  preparation : Option ChargePreparation := none
  selectedPaymentMethod : Option PaymentMethodSummary := none
  session : Option ChargingSession := none
  failure : Option AppFailure := none
  mutationInFlight : Bool := false
  syncing : Bool := false
  realtimeConnected : Bool := false
  startIdempotencyKey : Option String := none
  stopIdempotencyKey : Option String := none
  pollTimer : Bool := false
  deadlineTimer : Option Instant := none
  realtimeSubscription : Option RealtimeSubscription := none
  syncedSessionId : Option String := none
  history : List ChargingSession := []
  historyCursor : Option String := none
  historyLoading : Bool := false
  deriving DecidableEq

/-- What goes on when `restoreAuthoritativeSession` is over: nothing, or the `start` that failed. -/
inductive AfterRestore where
  | nothing
  | start (request : Request)
  deriving DecidableEq

/-- What goes on when `_applySession` is over. `start`, `stop` and `cancelPendingStart` end the
same way, and so do `refresh` and `recoverSession`. -/
inductive AfterApply where
  | restored (request : Request) (reference : Option ActiveSessionReference) (recovered : ChargingSession)
      (k : AfterRestore)
  | restoredOther (k : AfterRestore)
  | mutation (request : Request)
  | sync (request : Request)
  | realtime
  deriving DecidableEq

/-- Where an operation is suspended, with the locals it goes on with. -/
inductive Suspended where
  /-- `_applySession`: the device keeps the reference, or forgets it -/
  | written (request : Request) (authoritative : ChargingSession) (k : AfterApply)
  | cleared (request : Request) (authoritative : ChargingSession) (k : AfterApply)
  /-- `restoreAuthoritativeSession` -/
  | reference (request : Request) (reference : ActiveSessionReference) (k : AfterRestore)
  | forgotten (request : Request) (reference : ActiveSessionReference) (k : AfterRestore)
  | active (request : Request) (reference : Option ActiveSessionReference) (k : AfterRestore)
  | otherActive (request : Request) (recovered : ChargingSession) (k : AfterRestore)
  | prepare (request : Request) (accountGeneration : Nat)
  | start (request : Request)
  | stop (request : Request) (current : ChargingSession)
  | cancelStart (request : Request)
  /-- `refresh` and `recoverSession` -/
  | session (request : Request)
  | detail (request : Request)
  | history (request : Request) (accountGeneration : Nat) (nextPage : Bool)
  /-- `_runSessionMutation` -/
  | mutation (request : Request)
  deriving DecidableEq

/-- What may come back, for an operation to take what it awaits; the active session may also be
answered by a text that is none. `ulid` is what `_ids.next()` would give. -/
structure Answers where
  session : Except AppFailure ChargingSession
  active : Except (Option AppFailure) (Option ChargingSession)
  preparation : Except AppFailure ChargePreparation
  page : Except AppFailure ChargingHistoryPage
  done : Except AppFailure Unit
  ulid : String

namespace ChargingController

def request (c : ChargingController) : Request := ⟨c.generation, c.ownerId⟩

def isCurrent (c : ChargingController) (request : Request) : Bool :=
  !c.disposed && request.generation = c.generation && request.ownerId = c.ownerId

def hasUnfinishedSession (c : ChargingController) : Bool :=
  c.session.any fun session => !session.isTerminal || c.phase = .paymentProcessing

/-- The payment states after which nothing of a payment is left to do. -/
def paid : List PaymentState := [.notRequired, .captured, .partiallyRefunded, .refunded]

def phaseFor (value : ChargingSession) : ChargingFlowPhase :=
  if value.isTerminal = true ∧ value.paymentState ∉ paid then .paymentProcessing
  else
    match value.state with
    | .completed => if value.paymentState ∈ paid then .completed else .paymentProcessing
    | .requested | .authorizing | .authorized | .starting => .startPending
    | .charging | .suspendedByEv | .suspendedByEvse => .live
    | .stopping => .stopPending
    | .finalizing | .reviewRequired => .finalizing
    | .failed | .cancelled | .expired => .failed

/-- `keepForRecovery`, right after the phase was set. -/
def keepForRecovery (value : ChargingSession) : Bool :=
  !value.isTerminal || phaseFor value = .paymentProcessing

/-! ### Timers and the realtime stream -/

def markStartTimedOut (c : ChargingController) : ChargingController :=
  if c.session.any ChargingSession.awaitsStart = true then { c with phase := .startTimedOut } else c

def scheduleDeadline (value : ChargingSession) (c : ChargingController) : ChargingController :=
  match value.startDeadlineAt with
  | none => { c with deadlineTimer := none }
  | some deadline =>
    if c.phase ≠ .startPending then { c with deadlineTimer := none }
    else if deadline ≤ c.now then markStartTimedOut { c with deadlineTimer := none }
    else { c with deadlineTimer := some deadline }

def startSync (sessionId : String) (c : ChargingController) : ChargingController :=
  let other := c.syncedSessionId.any fun synced => synced ≠ sessionId
  let kept := if other then none else c.realtimeSubscription
  { c with
    realtimeConnected := !other && c.realtimeConnected
    syncedSessionId := if kept.isNone then some sessionId else c.syncedSessionId
    realtimeSubscription := kept.or (some ⟨sessionId, c.request⟩)
    pollTimer := true }

def stopSync (c : ChargingController) : ChargingController :=
  { c with
    pollTimer := false
    deadlineTimer := none
    realtimeSubscription := none
    syncedSessionId := none
    realtimeConnected := false }

/-! ### The ends of operations -/

def finishMutation (request : Request) (c : ChargingController) : ChargingController :=
  if c.isCurrent request = true then { c with mutationInFlight := false } else c

def finishSync (request : Request) (c : ChargingController) : ChargingController :=
  if c.isCurrent request = true then { c with syncing := false } else c

/-- `on AppFailure catch (failure)`, where the operation shows it. -/
def fail (request : Request) (failure : AppFailure) (c : ChargingController) : ChargingController :=
  if c.isCurrent request = true then { c with failure := some failure } else c

def restored : AfterRestore → ChargingController → ChargingController × Option Suspended
  | .nothing, c => (c, none)
  | .start request, c =>
    if c.isCurrent request = true ∧ c.hasUnfinishedSession = false then
      (finishMutation request { c with phase := .failed }, none)
    else (finishMutation request c, none)

/-- An exception that is no `AppFailure` leaves the operations through their `finally`. -/
def restoreThrew : AfterRestore → ChargingController → ChargingController × Option Suspended
  | .nothing, c => (c, none)
  | .start request, c => (finishMutation request c, none)

def applied : AfterApply → ChargingController → ChargingController × Option Suspended
  | .restored request reference recovered k, c =>
    if reference.isSome = true ∧ recovered.isTerminal = true ∧ c.phase ≠ .paymentProcessing then
      (c, some (.otherActive request recovered k))
    else restored k c
  | .restoredOther k, c => restored k c
  | .mutation request, c => (finishMutation request c, none)
  | .sync request, c => (finishSync request c, none)
  | .realtime, c => (c, none)

/-! ### Applying what the platform says -/

/-- A snapshot of the shown session that is of a lower version. -/
def overtaken (c : ChargingController) (authoritative : ChargingSession) : Bool :=
  c.session.any fun current =>
    current.id = authoritative.id && authoritative.aggregateVersion < current.aggregateVersion

/-- `_applySession` from the stored reference on. -/
def syncApplied (request : Request) (authoritative : ChargingSession) (k : AfterApply) (keep : Bool)
    (c : ChargingController) : ChargingController × Option Suspended :=
  if c.isCurrent request = false then applied k c
  else
    let synced := if keep then startSync authoritative.id c else stopSync c
    applied k (scheduleDeadline authoritative synced)

/-- The session is the shown one. -/
def shown (authoritative : ChargingSession) (c : ChargingController) : ChargingController :=
  { c with
    stopIdempotencyKey :=
      if c.session.map ChargingSession.id = some authoritative.id then c.stopIdempotencyKey else none
    failure := none
    session := some authoritative
    phase := phaseFor authoritative }

/-- Its reference is kept while there is something to recover, and forgotten from then on. -/
def recordShown (authoritative : ChargingSession) (request : Request) (k : AfterApply)
    (c : ChargingController) : ChargingController × Option Suspended :=
  if keepForRecovery authoritative = true then
    ({ c with store := some ⟨request.ownerId, authoritative.id, c.now⟩ },
      some (.written request authoritative k))
  else if (c.store.read request.ownerId).isSome = true then
    ({ c with store := c.store.clear request.ownerId }, some (.cleared request authoritative k))
  else syncApplied request authoritative k false c

def applySession (authoritative : ChargingSession) (request : Request) (k : AfterApply)
    (c : ChargingController) : ChargingController × Option Suspended :=
  if c.isCurrent request = false ∨ c.authenticated = false then applied k c
  else if c.overtaken authoritative = true then applied k c
  else recordShown authoritative request k (shown authoritative c)

/-! ### Operations up to where they are first suspended -/

def restoreAuthoritativeSession (k : AfterRestore) (c : ChargingController) :
    ChargingController × Option Suspended :=
  if c.authenticated = false ∨ c.online = false then restored k c
  else if c.isCurrent c.request = false then restored k c
  else
    match c.store.read c.ownerId with
    | some reference => (c, some (.reference c.request reference k))
    | none => (c, some (.active c.request none k))

def alreadyActive : AppFailure where
  kind := .validation
  message := "Review your current charging request before starting another session. " ++
    "Switching accounts does not change its payer."
  code := some "session_already_active"

def connectorUnavailable : AppFailure where
  kind := .validation
  message := "The connector is no longer available."
  code := some "connector_unavailable"

def quoteExpired : AppFailure where
  kind := .validation
  message := "The tariff review expired. Scan the charger again."
  code := some "quote_expired"

/-- `code` is what `ChargerCode.parse` makes of the text: a code, or the message of an exception. -/
def prepare (code : Except String String) (c : ChargingController) : ChargingController × Option Suspended :=
  if c.authenticated = false ∨ c.online = false ∨ c.mutationInFlight = true then (c, none)
  else if c.hasUnfinishedSession = true then
    ({ c with failure := some alreadyActive }, none)
  else
    match code with
    | .error message => ({ c with failure := some ⟨.validation, message, none⟩ }, none)
    | .ok _ =>
      ({ c with phase := .resolvingCode, failure := none, mutationInFlight := true },
        some (.prepare c.request c.accountGeneration))

def selectPaymentMethod (method : PaymentMethodSummary) (c : ChargingController) : ChargingController :=
  let offered := c.preparation.any fun preparation =>
    preparation.paymentMethods.any fun item => item.id = method.id
  if offered = true then { c with selectedPaymentMethod := some method } else c

def start (c : ChargingController) : ChargingController × Option Suspended :=
  if c.authenticated = false ∨ c.online = false ∨ c.mutationInFlight = true then (c, none)
  else
    match c.preparation, c.selectedPaymentMethod with
    | some preparation, some _ =>
      if preparation.target.canStart = false then
        ({ c with failure := some connectorUnavailable }, none)
      else if preparation.quote.expiresAt ≤ c.now then
        ({ c with failure := some quoteExpired }, none)
      else
        let submitting := { c with mutationInFlight := true, phase := .submittingStart, failure := none }
        if c.startIdempotencyKey.isNone then (finishMutation c.request submitting, none)
        else (submitting, some (.start c.request))
    | _, _ => (c, none)

def stop (ulid : String) (c : ChargingController) : ChargingController × Option Suspended :=
  match c.session with
  | some current =>
    if c.authenticated = false ∨ c.online = false ∨ c.mutationInFlight = true ∨
        current.canRequestRemoteStop = false then (c, none)
    else
      ({ c with
        stopIdempotencyKey := c.stopIdempotencyKey.or (some ("mobile-stop-" ++ ulid))
        mutationInFlight := true
        phase := .stopPending
        failure := none }, some (.stop c.request current))
  | none => (c, none)

def cancelPendingStart (c : ChargingController) : ChargingController × Option Suspended :=
  match c.session with
  | some current =>
    if c.authenticated = false ∨ c.online = false ∨ c.mutationInFlight = true ∨
        current.canCancelStart = false then (c, none)
    else ({ c with mutationInFlight := true }, some (.cancelStart c.request))
  | none => (c, none)

def refresh (c : ChargingController) : ChargingController × Option Suspended :=
  if c.authenticated = false ∨ c.session.isNone = true ∨ c.online = false ∨ c.syncing = true then (c, none)
  else ({ c with syncing := true }, some (.session c.request))

def recoverSession (c : ChargingController) : ChargingController × Option Suspended :=
  if c.authenticated = false ∨ c.online = false ∨ c.syncing = true then (c, none)
  else ({ c with syncing := true }, some (.session c.request))

def fetchSessionDetail (sessionId : String) (c : ChargingController) : ChargingController × Option Suspended :=
  if c.session.map ChargingSession.id = some sessionId then refresh c
  else if c.authenticated = false ∨ c.online = false then (c, none)
  else (c, some (.detail c.request))

def loadHistory (nextPage : Bool) (c : ChargingController) : ChargingController × Option Suspended :=
  if c.authenticated = false ∨ c.historyLoading = true ∨ c.online = false then (c, none)
  else ({ c with historyLoading := true }, some (.history c.request c.accountGeneration nextPage))

/-- `requestRefund` and `reportIssue`. -/
def runSessionMutation (sessionId : Option String) (c : ChargingController) :
    ChargingController × Option Suspended :=
  if c.authenticated = false ∨ (sessionId.or (c.session.map ChargingSession.id)).isNone = true ∨
      c.online = false ∨ c.mutationInFlight = true then (c, none)
  else ({ c with mutationInFlight := true, failure := none }, some (.mutation c.request))

def resetStartFlow (c : ChargingController) : ChargingController :=
  if c.session.any ChargingSession.isPhysicalActive = true then c
  else { c with
    preparation := none
    selectedPaymentMethod := none
    startIdempotencyKey := none
    failure := none
    phase := if c.session.all ChargingSession.isTerminal then .idle else c.phase }

def onChargingAccountChanged (c : ChargingController) : ChargingController :=
  let idle := !c.hasUnfinishedSession && !c.mutationInFlight
  { c with
    accountGeneration := c.accountGeneration + 1
    history := []
    historyCursor := none
    historyLoading := false
    preparation := none
    selectedPaymentMethod := none
    startIdempotencyKey := if idle then none else c.startIdempotencyKey
    phase := if idle then .idle else c.phase
    failure := none }

def onSignedOut (ownerId : Option String) (c : ChargingController) : ChargingController :=
  let previousOwner := ownerId.getD c.ownerId
  let stopped := stopSync { c with generation := c.generation + 1 }
  { stopped with
    session := none
    preparation := none
    selectedPaymentMethod := none
    history := []
    historyCursor := none
    mutationInFlight := false
    historyLoading := false
    syncing := false
    startIdempotencyKey := none
    stopIdempotencyKey := none
    phase := .idle
    failure := none
    store := c.store.clear previousOwner }

def dispose (c : ChargingController) : ChargingController :=
  stopSync { c with disposed := true, generation := c.generation + 1 }

/-! ### Going on with an answer -/

/-- `restoreAuthoritativeSession` once the active session is known, or known to be missing. -/
def restoreActive (request : Request) (reference : Option ActiveSessionReference) (k : AfterRestore)
    (recovered : Option ChargingSession) (c : ChargingController) : ChargingController × Option Suspended :=
  if c.isCurrent request = false then restored k c
  else
    match recovered with
    | some recovered => applySession recovered request (.restored request reference recovered k) c
    | none => restored k c

/-- Its `catch`, or an exception that passes it. -/
def restoreFailed (request : Request) (k : AfterRestore) (failure : Option AppFailure) (c : ChargingController) :
    ChargingController × Option Suspended :=
  match failure with
  | some failure => restored k (fail request failure c)
  | none => restoreThrew k c

/-- A stored reference to a session the platform does not know is dropped. -/
def restoreMissing (request : Request) (reference : ActiveSessionReference) (k : AfterRestore)
    (c : ChargingController) : ChargingController × Option Suspended :=
  if c.isCurrent request = false then restored k c
  else if (c.store.read request.ownerId).isSome = true then
    ({ c with store := c.store.clear request.ownerId }, some (.forgotten request reference k))
  else (c, some (.active request (some reference) k))

def prepared (request : Request) (accountGeneration : Nat) (answers : Answers) (c : ChargingController) :
    ChargingController :=
  match answers.preparation with
  | .ok result =>
    if c.isCurrent request = false ∨ c.authenticated = false ∨ accountGeneration ≠ c.accountGeneration then c
    else { c with
      preparation := some result
      selectedPaymentMethod := result.paymentMethods.find? PaymentMethodSummary.isDefault
      startIdempotencyKey := some ("mobile-start-" ++ answers.ulid)
      phase := .reviewing }
  | .error failure =>
    if c.isCurrent request = false ∨ accountGeneration ≠ c.accountGeneration then c
    else { c with failure := some failure, phase := .failed }

def finishPrepare (request : Request) (accountGeneration : Nat) (c : ChargingController) : ChargingController :=
  if c.isCurrent request = true then
    { c with
      mutationInFlight := false
      phase := if accountGeneration ≠ c.accountGeneration ∧ c.hasUnfinishedSession = false then .idle
        else c.phase }
  else c

/-- A lost response does not prove that the platform rejected the start. -/
def inconclusive (failure : AppFailure) : Bool :=
  failure.code = some "session_already_active" || failure.code = some "charging_request_rejected" ||
    failure.kind ∈ [FailureKind.timeout, .offline, .server]

def startFailed (request : Request) (failure : AppFailure) (c : ChargingController) :
    ChargingController × Option Suspended :=
  if c.isCurrent request = false then (c, none)
  else if inconclusive failure = true then
    restoreAuthoritativeSession (.start request) { c with failure := some failure }
  else (finishMutation request { c with failure := some failure, phase := .failed }, none)

def stopFailed (request : Request) (current : ChargingSession) (failure : AppFailure) (c : ChargingController) :
    ChargingController :=
  if c.isCurrent request = false then c
  else finishMutation request { c with
    failure := some failure
    phase := if current.isPhysicalActive then .live else phaseFor current }

def historyLoaded (request : Request) (accountGeneration : Nat) (nextPage : Bool)
    (page : Except AppFailure ChargingHistoryPage) (c : ChargingController) : ChargingController :=
  if c.isCurrent request = false ∨ accountGeneration ≠ c.accountGeneration then c
  else
    match page with
    | .ok page =>
      if c.authenticated = false then { c with historyLoading := false }
      else { c with
        failure := none
        history := if nextPage then c.history ++ page.sessions else page.sessions
        historyCursor := page.nextCursor
        historyLoading := false }
    | .error failure => { c with failure := some failure, historyLoading := false }

def resume : Suspended → Answers → ChargingController → ChargingController × Option Suspended
  | .written request authoritative k, _, c => syncApplied request authoritative k true c
  | .cleared request authoritative k, _, c => syncApplied request authoritative k false c
  | .reference request reference k, answers, c =>
    match answers.session with
    | .ok recovered => restoreActive request (some reference) k (some recovered) c
    | .error failure =>
      if failure.kind ≠ .notFound then restoreFailed request k (some failure) c
      else restoreMissing request reference k c
  | .forgotten request reference k, _, c =>
    if c.isCurrent request = false then restored k c
    else (c, some (.active request (some reference) k))
  | .active request reference k, answers, c =>
    match answers.active with
    | .ok recovered => restoreActive request reference k recovered c
    | .error failure => restoreFailed request k failure c
  | .otherActive request recovered k, answers, c =>
    match answers.active with
    | .ok (some active) =>
      if active.id ≠ recovered.id then applySession active request (.restoredOther k) c else restored k c
    | .ok none => restored k c
    | .error failure => restoreFailed request k failure c
  | .prepare request accountGeneration, answers, c =>
    (finishPrepare request accountGeneration (prepared request accountGeneration answers c), none)
  | .start request, answers, c =>
    match answers.session with
    | .ok authoritative => applySession authoritative request (.mutation request) c
    | .error failure => startFailed request failure c
  | .stop request current, answers, c =>
    match answers.session with
    | .ok authoritative => applySession authoritative request (.mutation request) c
    | .error failure => (stopFailed request current failure c, none)
  | .cancelStart request, answers, c =>
    match answers.session with
    | .ok authoritative => applySession authoritative request (.mutation request) c
    | .error failure => (finishMutation request (fail request failure c), none)
  | .session request, answers, c =>
    match answers.session with
    | .ok authoritative => applySession authoritative request (.sync request) c
    | .error failure => (finishSync request (fail request failure c), none)
  | .detail request, answers, c =>
    match answers.session with
    | .ok _ => (c, none)
    | .error failure => (fail request failure c, none)
  | .history request accountGeneration nextPage, answers, c =>
    (historyLoaded request accountGeneration nextPage answers.page c, none)
  | .mutation request, answers, c =>
    match answers.done with
    | .ok _ => (finishMutation request c, none)
    | .error failure => (finishMutation request (fail request failure c), none)

end ChargingController

/-! ### Events -/

/-- What may happen to the controller at any time; the users, the network and the clock are the
app's. -/
inductive Event where
  | account (ownerId : String) (authenticated : Bool)
  | clock (now : Instant)
  | network (online : Bool)
  | restoreAuthoritativeSession
  | prepare (code : Except String String)
  | selectPaymentMethod (method : PaymentMethodSummary)
  | start
  | stop (ulid : String)
  | cancelPendingStart
  | refresh
  | recoverSession (sessionId : String)
  | fetchSessionDetail (sessionId : String)
  | loadHistory (nextPage : Bool)
  | runSessionMutation (sessionId : Option String)
  | resetStartFlow
  | onChargingAccountChanged
  | onSignedOut (ownerId : Option String)
  | push (sessionId : String)
  | update (authoritative : ChargingSession)
  | updatesEnded
  | poll
  | deadline
  | dispose

namespace ChargingController

/-- `_onNetworkChanged`. -/
def onNetworkChanged (c : ChargingController) : ChargingController × Option Suspended :=
  if c.online = true ∧ c.disposed = false then restoreAuthoritativeSession .nothing c else (c, none)

def onPush (sessionId : String) (c : ChargingController) : ChargingController × Option Suspended :=
  if c.disposed = true then (c, none)
  else
    match c.session with
    | none => restoreAuthoritativeSession .nothing c
    | some current =>
      if current.id = sessionId then refresh c
      else if current.isTerminal = true then recoverSession c
      else (c, none)

/-- The listener of the realtime stream. -/
def onUpdate (update : ChargingSession) (c : ChargingController) : ChargingController × Option Suspended :=
  match c.realtimeSubscription with
  | some subscription =>
    if c.isCurrent subscription.request = false ∨
        c.session.map ChargingSession.id ≠ some subscription.sessionId then (c, none)
    else applySession update subscription.request .realtime { c with realtimeConnected := true }
  | none => (c, none)

/-- Its `onError` and `onDone`. -/
def onUpdatesEnded (c : ChargingController) : ChargingController :=
  match c.realtimeSubscription with
  | some subscription =>
    if c.isCurrent subscription.request = true then { c with realtimeConnected := false } else c
  | none => c

/-- The deadline timer fires once. -/
def onDeadline (c : ChargingController) : ChargingController :=
  if c.deadlineTimer.any (fun deadline => deadline ≤ c.now) = true then
    markStartTimedOut { c with deadlineTimer := none }
  else c

def enter : Event → ChargingController → ChargingController × Option Suspended
  | .account ownerId authenticated, c => ({ c with ownerId, authenticated }, none)
  | .clock now, c => ({ c with now }, none)
  | .network online, c => onNetworkChanged { c with online }
  | .restoreAuthoritativeSession, c => restoreAuthoritativeSession .nothing c
  | .prepare code, c => prepare code c
  | .selectPaymentMethod method, c => (selectPaymentMethod method c, none)
  | .start, c => start c
  | .stop ulid, c => stop ulid c
  | .cancelPendingStart, c => cancelPendingStart c
  | .refresh, c => refresh c
  | .recoverSession _, c => recoverSession c
  | .fetchSessionDetail sessionId, c => fetchSessionDetail sessionId c
  | .loadHistory nextPage, c => loadHistory nextPage c
  | .runSessionMutation sessionId, c => runSessionMutation sessionId c
  | .resetStartFlow, c => (resetStartFlow c, none)
  | .onChargingAccountChanged, c => (onChargingAccountChanged c, none)
  | .onSignedOut ownerId, c => (onSignedOut ownerId c, none)
  | .push sessionId, c => onPush sessionId c
  | .update authoritative, c => onUpdate authoritative c
  | .updatesEnded, c => (onUpdatesEnded c, none)
  | .poll, c => if c.pollTimer = true then refresh c else (c, none)
  | .deadline, c => (onDeadline c, none)
  | .dispose, c => (dispose c, none)

def program : Program ChargingController Suspended Event Answers where
  enter := enter
  resume := resume

abbrev App := Isolate ChargingController Suspended

/-- The app as it is launched, for anyone and over any stored reference. -/
def launched (app : Surroundings) (store : LocalActiveSessionStore) : App :=
  ⟨{ toSurroundings := app, store }, []⟩

end ChargingController
end VtsaCsms.Mobile
