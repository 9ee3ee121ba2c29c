import VtsaCsms.Charging.Commands
import VtsaCsms.Foundation.Json

/-!
# Dispatched commands

`GatewayRuntime.dispatch_command` of `runtime.py`, with `ConnectionRegistry.get`, `send_command` of the adapters and
`EventPublisher.emit`, and what `DispatchChargerCommand.php` records of it. What each await meets comes with the
call: the store, the transport and the OCPP library, which hands on what the charger answers. Metrics, the id and
the time of an event are left out.
-/
namespace VtsaCsms.Gateway
open Foundation Foundation.Action Charging

inductive PythonError where
  | timeoutError
  | valueError (text : String)
  | other (text : String)
  deriving DecidableEq

structure ChargerIdentity where
  chargePointIdentity : String
  tenantId : Option String
  chargerId : Option String

def ChargerIdentity.isBound (identity : ChargerIdentity) : Bool :=
  identity.tenantId.isSome && identity.chargerId.isSome

/-- A registered connection, as a dispatch reads it. -/
structure CommandConnection where
  connectionId : String
  protocol : String
  identity : ChargerIdentity

structure CommandRequest where
  commandId : String
  tenantId : String
  chargerId : String
  chargePointIdentity : String
  action : String
  payload : Json
  correlationId : String
  actorId : String
  reasonCode : String
  expectedState : Json
  deadlineAt : ℚ
  timeoutSeconds : ℚ

inductive CommandStatus where
  | completed | rejected | timedOut | notConnected | failed
  deriving DecidableEq

namespace CommandStatus

def value : CommandStatus → String
  | completed => "completed"
  | rejected => "rejected"
  | timedOut => "timed_out"
  | notConnected => "not_connected"
  | failed => "failed"

end CommandStatus

structure CommandResult where
  commandId : String
  action : String
  status : CommandStatus
  response : Option Json := none
  error : Option String := none

structure CommandSettings where
  nodeId : String
  allowedCommands : List String
  commandTimeoutSeconds : ℚ
  eventStream : String
  quarantineStream : String

structure IntegrationEvent where
  eventType : String
  tenantId : Option String
  aggregateId : Option String
  correlationId : String
  causationId : Option String
  data : List (String × Json)

structure GatewayState where
  connections : String → Option CommandConnection
  streams : List (String × IntegrationEvent) := []

/-- What the OCPP library returns of an answer. -/
inductive LibraryResponse where
  | none
  | dataclass (fields : Json)
  | other (text : String)

/-- How the library's `call` ends and after how many seconds, if it does. -/
inductive CallOutcome where
  | returned (after : ℚ) (response : LibraryResponse)
  | raised (after : ℚ) (error : PythonError)
  | silent

/-- What the awaits and the clock of one dispatch meet. -/
structure Surroundings where
  renewed : Except PythonError Bool
  closed : Except PythonError Unit
  now : ℚ
  /-- `payload_type(**payload)`. -/
  built : Except PythonError Unit
  called : CallOutcome
  published : Except PythonError Unit

abbrev Dispatch (α : Type) := Action GatewayState PythonError α

/-- `ConnectionRegistry.get`; a failing release is only logged. -/
def getConnection (env : Surroundings) (chargePointIdentity : String) : Dispatch (Option CommandConnection) := do
  let found ← read fun s => s.connections chargePointIdentity
  match found with
  | none => pure none
  | some connection =>
    let retained ← lift env.renewed
    if retained = true then pure (some connection)
    else do
      lift env.closed
      write fun s => { s with connections := fun key => if key = chargePointIdentity then none else s.connections key }
      pure none

def commandTypes (protocol : String) : List String :=
  if protocol = "ocpp1.6" then
    ["TriggerMessage", "Reset", "RemoteStartTransaction", "RemoteStopTransaction", "UnlockConnector",
      "ChangeAvailability", "GetDiagnostics", "UpdateFirmware"]
  else if protocol = "ocpp2.0.1" then
    ["TriggerMessage", "Reset", "RequestStartTransaction", "RequestStopTransaction", "UnlockConnector",
      "ChangeAvailability", "GetLog", "UpdateFirmware"]
  else []

def LibraryResponse.toJson : LibraryResponse → Json
  | none => .object []
  | dataclass fields => fields
  | other text => .object [("response", .string text)]

def sendCommand (settings : CommandSettings) (env : Surroundings) (protocol action : String) (timeoutSeconds : ℚ) :
    Except PythonError Json :=
  if action ∉ settings.allowedCommands then .error (.valueError "Command action is not enabled")
  else if action ∉ commandTypes protocol then
    .error (.valueError "Command action is not supported for this protocol")
  else
    match env.built with
    | .error e => .error e
    | .ok () =>
      match env.called with
      | .returned after response => if after < timeoutSeconds then .ok response.toJson else .error .timeoutError
      | .raised after e => .error (if after < timeoutSeconds then e else .timeoutError)
      | .silent => .error .timeoutError

/-- `_snake_case`. -/
def snakeCase (value : String) : String :=
  let characters := value.toList
  String.ofList ((characters.zip (none :: characters.map some)).flatMap fun (character, before) =>
    if character.isUpper ∧ before.any Char.isLower = true then ['_', character.toLower] else [character.toLower])

/-- `EventPublisher.emit` for an event without a protocol timestamp. -/
def emit (settings : CommandSettings) (env : Surroundings) (connection : CommandConnection) (action : String)
    (data : List (String × Json)) (correlationId : String) (causationId : Option String) : Dispatch Unit := do
  let identity := connection.identity
  let event : IntegrationEvent :=
    { eventType := "gateway.ocpp." ++ snakeCase action ++ ".received.v1"
      tenantId := identity.tenantId
      aggregateId := identity.chargerId
      correlationId
      causationId
      data := data ++
        [("charge_point_identity", .string identity.chargePointIdentity), ("protocol", .string connection.protocol),
          ("gateway_node_id", .string settings.nodeId), ("connection_id", .string connection.connectionId),
          ("protocol_timestamp", .null), ("clock_skew_seconds", .null), ("clock_skew_detected", .bool false)] }
  let stream := if identity.isBound then settings.eventStream else settings.quarantineStream
  lift env.published
  write fun s => { s with streams := s.streams ++ [(stream, event)] }

/-- The command is not for the charger that is enrolled under the connection. -/
def Misdirected (request : CommandRequest) (connection : CommandConnection) : Prop :=
  connection.identity.isBound = true ∧
    (connection.identity.tenantId ≠ some request.tenantId ∨ connection.identity.chargerId ≠ some request.chargerId)

instance (request : CommandRequest) (connection : CommandConnection) : Decidable (Misdirected request connection) :=
  inferInstanceAs (Decidable (_ ∧ (_ ∨ _)))

def answerSeconds (settings : CommandSettings) (env : Surroundings) (request : CommandRequest) : ℚ :=
  min request.timeoutSeconds (min settings.commandTimeoutSeconds (request.deadlineAt - env.now))

/-- The result of a call of `send_command`. -/
def resultOf (request : CommandRequest) : Except PythonError Json → CommandResult
  | .ok response => ⟨request.commandId, request.action, .completed, some response, none⟩
  | .error .timeoutError => ⟨request.commandId, request.action, .timedOut, none, some "Charger response timed out"⟩
  | .error (.valueError text) => ⟨request.commandId, request.action, .rejected, none, some text⟩
  | .error (.other _) => ⟨request.commandId, request.action, .failed, none, some "Command delivery failed"⟩

def responseEvent (request : CommandRequest) (result : CommandResult) : List (String × Json) :=
  [("command_id", .string request.commandId), ("tenant_id", .string request.tenantId),
    ("charger_id", .string request.chargerId), ("actor_id", .string request.actorId),
    ("reason_code", .string request.reasonCode), ("expected_state", request.expectedState),
    ("action", .string request.action), ("status", .string result.status.value),
    ("response", result.response.getD .null), ("error", (result.error.map Json.string).getD .null)]

/-- `dispatch_command` on the connection it found. -/
def dispatchOn (settings : CommandSettings) (env : Surroundings) (request : CommandRequest)
    (connection : CommandConnection) : Dispatch CommandResult :=
  if Misdirected request connection then
    pure ⟨request.commandId, request.action, .rejected, none,
      some "Command target does not match the enrolled connection"⟩
  else if request.deadlineAt - env.now ≤ 0 then
    pure ⟨request.commandId, request.action, .rejected, none, some "Command deadline has expired"⟩
  else do
    let result := resultOf request
      (sendCommand settings env connection.protocol request.action (answerSeconds settings env request))
    emit settings env connection "CommandResponse" (responseEvent request result) request.correlationId
      (some request.commandId)
    pure result

/-- The connection, or none of the two where the look-up raised. -/
def ownedConnection (env : Surroundings) (chargePointIdentity : String) :
    Dispatch (Except Unit (Option CommandConnection)) :=
  Action.tryCatch
    (do
      let found ← getConnection env chargePointIdentity
      pure (.ok found))
    fun _ => pure (.error ())

def dispatchCommand (settings : CommandSettings) (env : Surroundings) (request : CommandRequest) :
    Dispatch CommandResult := do
  let connection ← ownedConnection env request.chargePointIdentity
  match connection with
  | .error () =>
    pure ⟨request.commandId, request.action, .failed, none, some "Connection ownership could not be verified"⟩
  | .ok none => pure ⟨request.commandId, request.action, .notConnected, none, some "Charger is not connected"⟩
  | .ok (some connection) => dispatchOn settings env request connection

/-! ### What the platform records -/

def CommandStatus.gatewayStatus : CommandStatus → DispatchChargerCommand.GatewayStatus
  | completed => .completed
  | rejected => .rejected
  | timedOut => .timedOut
  | notConnected => .notConnected
  | failed => .other

/-- `$response['status']` where it is a text. -/
def statusOf : Json → Option String
  | .object members => (members.lookup "status").bind fun
    | .string s => some s
    | _ => none
  | _ => none

/-- The state `DispatchChargerCommand::handle` settles a command in; a dispatch that raised is an HTTP error. -/
def settledState : Except PythonError CommandResult → ChargerCommandState
  | .ok result =>
    DispatchChargerCommand.outcomeOf ⟨result.status.gatewayStatus, result.response.bind statusOf⟩
  | .error _ => .deliveryUnknown

/-! ### Reported outcomes -/

/-- The dispatch gets as far as the adapter. -/
structure Tried (env : Surroundings) (request : CommandRequest) (s : GatewayState)
    (connection : CommandConnection) : Prop where
  connected : s.connections request.chargePointIdentity = some connection
  retained : env.renewed = .ok true
  target : ¬ Misdirected request connection
  pending : env.now < request.deadlineAt

/-- The command is sent to the charger, which answers in time. -/
structure Answered (settings : CommandSettings) (env : Surroundings) (request : CommandRequest) (s : GatewayState)
    (response : Json) : Prop where
  sent : ∃ connection, Tried env request s connection ∧ request.action ∈ commandTypes connection.protocol
  enabled : request.action ∈ settings.allowedCommands
  built : env.built = .ok ()
  inTime : ∃ after answer, env.called = .returned after answer ∧ answer.toJson = response ∧
    after < answerSeconds settings env request

/-- The dispatch returns, an answer in time is its result, and the platform records that answer. -/
structure Reported (settings : CommandSettings) (env : Surroundings) (request : CommandRequest)
    (s : GatewayState) : Prop where
  returns : ∃ result s', Returns (dispatchCommand settings env request) s result s'
  completed : ∀ response, Answered settings env request s response →
    (dispatchCommand settings env request s).1 =
      .ok ⟨request.commandId, request.action, .completed, some response, none⟩
  recorded : ∀ response, Answered settings env request s response →
    settledState (dispatchCommand settings env request s).1 =
      DispatchChargerCommand.protocolOutcome (statusOf response)

variable {settings : CommandSettings} {env : Surroundings} {request : CommandRequest} {s : GatewayState}
  {connection : CommandConnection}

/-- The look-up never raises, and finds a connection only where the store confirms the node's claim of it. -/
theorem ownedConnection_returns (env : Surroundings) (chargePointIdentity : String) (s : GatewayState) :
    ∃ found s', Returns (ownedConnection env chargePointIdentity) s found s' ∧
      ∀ connection, found = .ok (some connection) →
        s' = s ∧ s.connections chargePointIdentity = some connection ∧ env.renewed = .ok true := by
  unfold ownedConnection Action.tryCatch
  rcases run : getConnection env chargePointIdentity s with ⟨out, left⟩
  cases out with
  | error e =>
    refine ⟨.error (), left, ?_, fun connection same => by cases same⟩
    simp only [Returns, bind, run]
    rfl
  | ok found =>
    refine ⟨.ok found, left, ?_, fun connection same => ?_⟩
    · simp only [Returns, bind, run]
      rfl
    · cases same
      have returned : Returns (getConnection env chargePointIdentity) s (some connection) left := run
      unfold getConnection at returned
      rw [returns_bind] at returned
      obtain ⟨stored, _, look, returned⟩ := returned
      obtain ⟨value, same⟩ := (returns_read ..).mp look
      rw [value, same] at returned
      cases found : s.connections chargePointIdentity with
      | none =>
        rw [found] at returned
        simp at returned
      | some stored =>
        rw [found] at returned
        simp only [returns_bind, returns_lift, returns_ite, returns_pure] at returned
        obtain ⟨retained, _, ⟨renewed, rfl⟩, ⟨rfl, connected, left'⟩ | ⟨-, _, _, -, _, _, -, connected, -⟩⟩ := returned
        · exact ⟨left', connected.symm, renewed⟩
        · cases connected

theorem ownedConnection_found (tried : Tried env request s connection) :
    Returns (ownedConnection env request.chargePointIdentity) s (.ok (some connection)) s := by
  have found : Returns (getConnection env request.chargePointIdentity) s (some connection) s := by
    unfold getConnection
    rw [returns_bind]
    refine ⟨_, s, (returns_read ..).mpr ⟨rfl, rfl⟩, ?_⟩
    rw [tried.connected]
    exact ((returns_lift ..).mpr ⟨tried.retained, rfl⟩ : Returns (lift env.renewed) s true s).bind rfl
  unfold ownedConnection Returns Action.tryCatch
  rw [found.bind_eq]
  rfl

theorem dispatchCommand_tried (tried : Tried env request s connection) :
    dispatchCommand settings env request s = dispatchOn settings env request connection s := by
  unfold dispatchCommand
  rw [(ownedConnection_found tried).bind_eq]

theorem dispatchCommand_untried (untried : ∀ connection, ¬ Tried env request s connection) :
    ∃ result s', Returns (dispatchCommand settings env request) s result s' := by
  obtain ⟨found, s', returned, owned⟩ := ownedConnection_returns env request.chargePointIdentity s
  match found, returned, owned with
  | .error (), returned, _ => exact ⟨_, _, returned.bind rfl⟩
  | .ok none, returned, _ => exact ⟨_, _, returned.bind rfl⟩
  | .ok (some connection), returned, owned =>
    obtain ⟨rfl, connected, retained⟩ := owned connection rfl
    have ended : ∃ result, dispatchOn settings env request connection s' = (.ok result, s') := by
      unfold dispatchOn
      split
      · exact ⟨_, rfl⟩
      · rename_i target
        rw [if_pos]
        · exact ⟨_, rfl⟩
        · by_contra pending
          exact untried connection ⟨connected, retained, target, by linarith⟩
    obtain ⟨result, ended⟩ := ended
    exact ⟨result, s', returned.bind ended⟩

theorem dispatchOn_published (settings : CommandSettings) (tried : Tried env request s connection)
    (published : env.published = .ok ()) :
    (dispatchOn settings env request connection s).1 = .ok (resultOf request
      (sendCommand settings env connection.protocol request.action (answerSeconds settings env request))) := by
  unfold dispatchOn emit
  rw [if_neg tried.target, if_neg (by have := tried.pending; linarith)]
  simp only [bind, lift, published, write, pure]

theorem dispatchOn_unpublished (settings : CommandSettings) (tried : Tried env request s connection)
    {e : PythonError} (failed : env.published = .error e) :
    (dispatchOn settings env request connection s).1 = .error e := by
  unfold dispatchOn emit
  rw [if_neg tried.target, if_neg (by have := tried.pending; linarith)]
  simp only [bind, lift, failed]

theorem sendCommand_answered {response : Json} (answered : Answered settings env request s response)
    (tried : Tried env request s connection) :
    sendCommand settings env connection.protocol request.action (answerSeconds settings env request) =
      .ok response := by
  obtain ⟨⟨other, tried', supported⟩, enabled, built, after, answer, called, rfl, inTime⟩ := answered
  have same : connection = other := Option.some.inj (tried.connected.symm.trans tried'.connected)
  subst same
  unfold sendCommand
  rw [if_neg (not_not.mpr enabled), if_neg (not_not.mpr supported), built]
  simp only [called, if_pos inTime]

/-- A dispatch reports what happened exactly if the event of a command that was tried is published. -/
theorem reported_iff_published (settings : CommandSettings) (env : Surroundings) (request : CommandRequest)
    (s : GatewayState) :
    Reported settings env request s ↔ ((∃ connection, Tried env request s connection) → env.published = .ok ()) := by
  constructor
  · rintro ⟨⟨result, s', returned⟩, -, -⟩ ⟨connection, tried⟩
    cases published : env.published with
    | ok => rfl
    | error e =>
      have raised := dispatchOn_unpublished settings tried published
      rw [← dispatchCommand_tried tried, returned] at raised
      cases raised
  · intro published
    have completed : ∀ response, Answered settings env request s response →
        (dispatchCommand settings env request s).1 =
          .ok ⟨request.commandId, request.action, .completed, some response, none⟩ := by
      intro response answered
      obtain ⟨connection, tried, -⟩ := answered.sent
      rw [dispatchCommand_tried tried, dispatchOn_published settings tried (published ⟨connection, tried⟩),
        sendCommand_answered answered tried]
      rfl
    refine ⟨?_, completed, fun response answered => ?_⟩
    · by_cases tried : ∃ connection, Tried env request s connection
      · obtain ⟨connection, tried'⟩ := tried
        have outcome := dispatchOn_published settings tried' (published ⟨connection, tried'⟩)
        rw [← dispatchCommand_tried tried'] at outcome
        exact ⟨_, _, Prod.ext outcome rfl⟩
      · exact dispatchCommand_untried fun connection tried' => tried ⟨connection, tried'⟩
    · rw [completed response answered]
      rfl

/-! ### An accepted reset -/

def resetSettings : CommandSettings := ⟨"node-1", ["Reset"], 30, "ocpp:events", "ocpp:quarantine"⟩

/-- The charger accepts after a second, and the store is gone by then. -/
def storeGone : Surroundings where
  renewed := .ok true
  closed := .ok ()
  now := 0
  built := .ok ()
  called := .returned 1 (.dataclass (.object [("status", .string "Accepted")]))
  published := .error (.other "store is unreachable")

def resetRequest : CommandRequest where
  commandId := "01K0M0AA1A0M0AA1A0M0AA1A0M"
  tenantId := "01K0M0TT1T0M0TT1T0M0TT1T0M"
  chargerId := "01K0M0CH1C0M0CH1C0M0CH1C0M"
  chargePointIdentity := "CP-1"
  action := "Reset"
  payload := .object [("type", .string "Soft")]
  correlationId := "01K0M0BB2B0M0BB2B0M0BB2B0M"
  actorId := "01K0M0CC3C0M0CC3C0M0CC3C0M"
  reasonCode := "operator.reset"
  expectedState := .object []
  deadlineAt := 60
  timeoutSeconds := 20

def resetConnection : CommandConnection :=
  ⟨"connection", "ocpp1.6", ⟨"CP-1", some resetRequest.tenantId, some resetRequest.chargerId⟩⟩

def resetGateway : GatewayState := { connections := fun key => if key = "CP-1" then some resetConnection else none }

/-- The charger answers in time, and the platform settles the command as of unknown delivery. -/
theorem acceptedReset_unreported :
    Answered resetSettings storeGone resetRequest resetGateway (.object [("status", .string "Accepted")]) ∧
      ¬ Reported resetSettings storeGone resetRequest resetGateway ∧
      settledState (dispatchCommand resetSettings storeGone resetRequest resetGateway).1 = .deliveryUnknown := by
  have tried : Tried storeGone resetRequest resetGateway resetConnection :=
    ⟨rfl, rfl, by decide, by decide⟩
  have raised : (dispatchCommand resetSettings storeGone resetRequest resetGateway).1 =
      .error (.other "store is unreachable") := by
    rw [dispatchCommand_tried tried]
    exact dispatchOn_unpublished _ tried rfl
  have inTime : 1 < answerSeconds resetSettings storeGone resetRequest := by
    norm_num [answerSeconds, resetSettings, resetRequest, storeGone]
  have answered : Answered resetSettings storeGone resetRequest resetGateway
      (.object [("status", .string "Accepted")]) :=
    ⟨⟨resetConnection, tried, by decide⟩, by decide, rfl, 1, _, rfl, rfl, inTime⟩
  refine ⟨answered, fun reported => ?_, ?_⟩
  · rw [reported.completed _ answered] at raised
    cases raised
  · rw [raised]
    rfl

end VtsaCsms.Gateway
