import Mathlib.Data.List.Chain
import Mathlib.Data.List.Sort
import Mathlib.Logic.Function.Basic
import VtsaCsms.Foundation.Php
import VtsaCsms.Foundation.Runs
import VtsaCsms.Foundation.Table

/-!
# Notices that are pushed to installations

`NotificationDeviceRegistry.php`, and `deliver` of `DriverNoticePush.php` on any number of workers that may be
interrupted, with the answers of `FirebaseNoticeSender.php`. A worker takes one step after the other: it makes the
deliveries of the active notices, gives up what other workers left, reads the deliveries that are due, and then claims
each of them, looks whether it still is to be sent, sends it and records the answer. A delivery is known by its
tenant, its notice and its installation, and points at the row of the device that was registered when it was made.
-/
namespace VtsaCsms.Notifications
open Foundation

structure MobileAccessToken where
  id : String
  tenantId : String
  userId : Nat

structure NotificationDevice where
  tenantId : String
  userId : Nat
  authTokenId : String
  platform : String
  installationHash : String
  installation : String
  lastRegisteredAt : Instant

inductive DeliveryStatus where
  | pending | sending | accepted | unknown | invalid | failed | cancelled
  deriving DecidableEq

/-- The unique index `notice_push_once`. -/
structure DeliveryKey where
  tenantId : String
  noticeId : String
  installationHash : String
  deriving DecidableEq

structure NoticePushDelivery where
  deviceId : Nat
  status : DeliveryStatus := .pending
  attempts : Nat := 0
  availableAt : Instant
  attemptedAt : Option Instant := none
  acceptedAt : Option Instant := none
  errorCode : Option String := none

/-! ### The sender -/

/-- The answer to a message, if one comes: its status, whether a detail says `UNREGISTERED`, and `Retry-After`. -/
inductive Reply where
  | lost
  | response (status : Nat) (unregistered : Bool) (retryAfter : Int)

structure SendResult where
  status : DeliveryStatus
  error : Option String
  delay : Int

/-- What `FirebaseNoticeSender::send` makes of it. -/
def sendResult : Reply → SendResult
  | .lost => ⟨.unknown, some "transport_uncertain", 0⟩
  | .response status unregistered retryAfter =>
    if 200 ≤ status ∧ status < 300 then ⟨.accepted, none, 0⟩
    else if unregistered then ⟨.invalid, some "unregistered", 0⟩
    else ⟨if status ∈ [401, 429, 500, 503] then .pending else .failed, some ("http_" ++ toString status),
      max 60 (min 86400 retryAfter)⟩

/-! ### Workers -/

/-- A delivery that is to be sent, with what was read of it and of its device. -/
structure Attempt where
  key : DeliveryKey
  deviceId : Nat
  installation : String
  attempts : Nat
  errorCode : Option String

/-- What a worker has read, and what it does next. -/
inductive Stage where
  | enrolling (notices : List String) (page : List (Nat × NotificationDevice))
  | fetching
  | claiming (due : List (DeliveryKey × Nat))
  | claimed (key : DeliveryKey) (due : List (DeliveryKey × Nat))
  | ready (attempt : Attempt) (due : List (DeliveryKey × Nat))
  | waiting (attempt : Attempt) (due : List (DeliveryKey × Nat))
  | removing (attempt : Attempt) (due : List (DeliveryKey × Nat))

structure Worker where
  tenantId : String
  stage : Stage

/-- A message that is sent, and what the answer to it says. -/
inductive PushEvent where
  | sent (key : DeliveryKey) (installation : String)
  | told (key : DeliveryKey) (status : DeliveryStatus)

structure Push where
  devices : Table Nat NotificationDevice
  /-- Identifiers are not used twice. -/
  nextDevice : Nat
  deliveries : Table DeliveryKey NoticePushDelivery
  workers : Nat → Option Worker
  log : List PushEvent

def Push.empty : Push := ⟨.empty, 0, .empty, fun _ => none, []⟩

/-- The time of a step, cut to the second as it is stored and compared, and which notices and sign-ins are active
then. -/
structure Moment where
  now : Instant
  active : String → String → Bool
  eligible : String → String → Bool

inductive WorkerAct where
  | notices (ids : List String)
  /-- A page of devices, by their identifiers. -/
  | load (ids : List Nat)
  | enroll
  | nextNotice
  | expire
  | fetch (limit : Nat)
  | claim
  | look
  | send
  | receive (reply : Reply)
  | remove

inductive Act where
  | register (token : MobileAccessToken) (installationId platform : String)
  | unregister (token : MobileAccessToken)
  | start (worker : Nat) (tenantId : String)
  /-- The worker has come to its end, or did not. -/
  | leave (worker : Nat)
  | work (worker : Nat) (act : WorkerAct)

/-- Steps of `deliver`. -/
def Act.delivers : Act → Bool
  | .register _ _ _ | .unregister _ => false
  | .start _ _ | .leave _ | .work _ _ => true

structure PushStep where
  moment : Moment
  act : Act

namespace Push
variable (sha256 : String → String) (moment : Moment) (s : Push)

/-! ### Devices -/

/-- One installation belongs to the most recent sign-in. -/
def register (token : MobileAccessToken) (installationId platform : String) : Push :=
  let hash := sha256 installationId
  let kept := s.devices.removeWhere fun _ d => decide (d.installationHash = hash ∧ d.authTokenId ≠ token.id)
  let written : NotificationDevice :=
    { tenantId := token.tenantId, userId := token.userId, authTokenId := token.id, platform, installationHash := hash,
      installation := installationId, lastRegisteredAt := moment.now }
  match kept.first? fun _ d => decide (d.tenantId = token.tenantId ∧ d.authTokenId = token.id) with
  | some (id, _) => { s with devices := kept.update id fun _ => written }
  | none => { s with devices := kept.put s.nextDevice written, nextDevice := s.nextDevice + 1 }

def unregister (token : MobileAccessToken) : Push :=
  { s with devices := s.devices.removeWhere fun _ d =>
      decide (d.tenantId = token.tenantId ∧ d.authTokenId = token.id) }

/-! ### `deliver` -/

def goOn (w : Nat) (worker : Worker) : Push := { s with workers := Function.update s.workers w (some worker) }

/-- The devices of a page that have no delivery of the notice. -/
def page (tenantId noticeId : String) (ids : List Nat) : List (Nat × NotificationDevice) :=
  ids.filterMap fun id => (s.devices.get? id).bind fun d =>
    if d.tenantId = tenantId ∧ d.platform ∈ ["android", "web"] ∧
        (s.deliveries.get? ⟨tenantId, noticeId, d.installationHash⟩).isNone = true then some (id, d) else none

/-- `firstOrCreate`. -/
def enrolled (key : DeliveryKey) (deviceId : Nat) : Table DeliveryKey NoticePushDelivery :=
  match s.deliveries.get? key with
  | some _ => s.deliveries
  | none => s.deliveries.put key { deviceId, availableAt := moment.now }

/-- What another worker has left for ten minutes is given up. -/
def expired (tenantId : String) : Table DeliveryKey NoticePushDelivery :=
  s.deliveries.updateWhere
    (fun key row => decide (key.tenantId = tenantId ∧ row.status = .sending) &&
      row.attemptedAt.any fun attempted => decide (attempted.addSeconds 600 < moment.now))
    fun row => { row with status := .unknown, errorCode := some "worker_interrupted" }

def due (tenantId : String) (limit : Nat) : List (DeliveryKey × Nat) :=
  (((s.deliveries.rowsWhere fun key row =>
    decide (key.tenantId = tenantId ∧ row.status = .pending ∧ row.availableAt ≤ moment.now)).insertionSort fun a b =>
      a.2.availableAt ≤ b.2.availableAt).take limit).map fun row => (row.1, row.2.attempts)

/-- The delivery as it is then, if its notice and the recipient at its device are still active. -/
def sendable (key : DeliveryKey) : Option Attempt :=
  (s.deliveries.get? key).bind fun row => (s.devices.get? row.deviceId).bind fun d =>
    if moment.active key.tenantId key.noticeId = true ∧ d.tenantId = key.tenantId ∧
        d.installationHash = key.installationHash ∧ moment.eligible key.tenantId d.authTokenId = true then
      some ⟨key, row.deviceId, d.installation, row.attempts, row.errorCode⟩
    else none

/-- The row after an answer; a fifth attempt is the last. What is as it was read is not written. -/
def recorded (attempt : Attempt) (result : SendResult) (row : NoticePushDelivery) : NoticePushDelivery :=
  let status := if result.status = .pending ∧ 5 ≤ attempt.attempts then .failed else result.status
  { row with
    status, availableAt := moment.now.addSeconds result.delay
    errorCode := if result.error = attempt.errorCode then row.errorCode else result.error
    acceptedAt := if status = .accepted then some moment.now else none }

def work (w : Nat) (worker : Worker) (act : WorkerAct) : Push :=
  let go (s : Push) (stage : Stage) : Push := s.goOn w { worker with stage }
  match act, worker.stage with
  | .notices ids, .enrolling _ [] => go s (.enrolling (ids.filter (moment.active worker.tenantId)) [])
  | .load ids, .enrolling (notice :: notices) [] =>
    go s (.enrolling (notice :: notices) (s.page worker.tenantId notice ids))
  | .nextNotice, .enrolling (_ :: notices) [] => go s (.enrolling notices [])
  | .enroll, .enrolling (notice :: notices) ((id, d) :: page) =>
    let enrolled := s.enrolled moment ⟨worker.tenantId, notice, d.installationHash⟩ id
    go { s with deliveries := if moment.eligible worker.tenantId d.authTokenId = true then enrolled else s.deliveries }
      (.enrolling (notice :: notices) page)
  | .expire, .enrolling _ [] => go { s with deliveries := s.expired moment worker.tenantId } .fetching
  | .fetch limit, .fetching => go s (.claiming (s.due moment worker.tenantId limit))
  | .claim, .claiming ((key, attempts) :: due) =>
    if (s.deliveries.get? key).any fun row => decide (row.status = .pending) then
      let claim (row : NoticePushDelivery) : NoticePushDelivery :=
        { row with status := .sending, attemptedAt := some moment.now, attempts := attempts + 1 }
      go { s with deliveries := s.deliveries.update key claim } (.claimed key due)
    else go s (.claiming due)
  | .look, .claimed key due =>
    match s.sendable moment key with
    | some attempt => go s (.ready attempt due)
    | none =>
      let cancel (row : NoticePushDelivery) : NoticePushDelivery :=
        { row with status := .cancelled, errorCode := some "notice_or_recipient_inactive" }
      go { s with deliveries := s.deliveries.update key cancel } (.claiming due)
  | .send, .ready attempt due =>
    go { s with log := s.log ++ [.sent attempt.key attempt.installation] } (.waiting attempt due)
  | .receive reply, .waiting attempt due =>
    let result := sendResult reply
    let s' := { s with
      deliveries := s.deliveries.update attempt.key (recorded moment attempt result)
      log := s.log ++ [.told attempt.key result.status] }
    go s' (if result.status = .invalid then .removing attempt due else .claiming due)
  | .remove, .removing attempt due =>
    let left := s.devices.removeWhere fun id d => decide (id = attempt.deviceId ∧ d.tenantId = attempt.key.tenantId ∧
      d.installationHash = attempt.key.installationHash)
    go { s with devices := left } (.claiming due)
  | _, _ => s

def next (step : PushStep) (s : Push) : Push :=
  match step.act with
  | .register token installationId platform => s.register sha256 step.moment token installationId platform
  | .unregister token => s.unregister token
  | .start w tenantId => if (s.workers w).isNone then s.goOn w ⟨tenantId, .enrolling [] []⟩ else s
  | .leave w => { s with workers := Function.update s.workers w none }
  | .work w act =>
    match s.workers w with
    | none => s
    | some worker => s.work step.moment w worker act

end Push

/-! ### What is to hold -/

def PushEvent.key : PushEvent → DeliveryKey
  | .sent key _ => key
  | .told key _ => key

def PushEvent.isSent : PushEvent → Bool
  | .sent _ _ => true
  | .told _ _ => false

/-- The answer says that the message was not accepted, and may be sent again. -/
def PushEvent.refused : PushEvent → Bool
  | .sent _ _ => false
  | .told _ status => decide (status = .pending)

namespace Push

/-- What was sent of a notice to an installation, and what was answered. -/
def history (s : Push) (key : DeliveryKey) : List PushEvent := s.log.filter fun e => decide (e.key = key)

/-- A message follows another only after an answer that it was not accepted. -/
def SentAfterRefusal (s : Push) : Prop :=
  ∀ key, (s.history key).IsChain fun before after => after.isSent = true → before.refused = true

def sentCount (s : Push) (key : DeliveryKey) : Nat := (s.history key).countP PushEvent.isSent

def AtMostFive (s : Push) : Prop := ∀ key, s.sentCount key ≤ 5

variable (sha256 : String → String)

/-- An installation signs in under another token than the one its delivery is for, while the delivery is pending and
was not attempted. -/
def SignsInAnew (key : DeliveryKey) (step : PushStep) (s : Push) : Prop :=
  ∃ token installationId platform, step.act = .register token installationId platform ∧
    key.tenantId = token.tenantId ∧ key.installationHash = sha256 installationId ∧
    ∃ row, s.deliveries.get? key = some row ∧ row.status = .pending ∧ row.attempts = 0 ∧
      ∀ device, s.devices.get? row.deviceId = some device → device.authTokenId ≠ token.id

def NoneSignsInAnew (step : PushStep) (s : Push) : Prop := ∀ key, ¬ SignsInAnew sha256 key step s

/-- Later runs of `deliver` may still send the notice to whoever signed in anew. -/
def StillReached (run : List PushStep) : Prop :=
  ∀ before step later, run = before ++ step :: later →
    ∀ key, SignsInAnew sha256 key step (Runs.reached (next sha256) before empty) →
      ∃ more, (∀ step ∈ more, step.act.delivers = true) ∧
        (Runs.reached (next sha256) (before ++ [step]) empty).sentCount key <
          (Runs.reached (next sha256) (before ++ step :: more) empty).sentCount key

/-- A worker claims what no other has attempted since it was read. -/
def ClaimsFresh (step : PushStep) (s : Push) : Prop :=
  ∀ w tenantId key attempts due row, step.act = .work w .claim →
    s.workers w = some ⟨tenantId, .claiming ((key, attempts) :: due)⟩ → s.deliveries.get? key = some row →
    row.status = .pending → attempts = row.attempts

/-! ### What a step does -/

end Push

namespace Stage

def key : Stage → Option DeliveryKey
  | .claimed key _ => some key
  | .ready attempt _ | .waiting attempt _ => some attempt.key
  | _ => none

def unsent : Stage → Bool
  | .claimed _ _ | .ready _ _ => true
  | _ => false

/-- The number of attempts as the worker knows it. -/
def read : Stage → Option Nat
  | .ready attempt _ | .waiting attempt _ => some attempt.attempts
  | _ => none

end Stage

namespace Push
variable {s s' : Push} {w : Nat}

@[simp]
theorem goOn_self (s : Push) (w : Nat) (worker : Worker) : (s.goOn w worker).workers w = some worker :=
  Function.update_self ..

theorem goOn_other {w' : Nat} (worker : Worker) (other : w' ≠ w) : (s.goOn w worker).workers w' = s.workers w' :=
  Function.update_of_ne other ..

/-- What becomes of a row that no worker has claimed or was answered about. -/
structure Same (row row' : NoticePushDelivery) : Prop where
  device : row'.deviceId = row.deviceId
  attempts : row'.attempts = row.attempts
  pending : row'.status = .pending → row.status = .pending

theorem Same.refl (row : NoticePushDelivery) : Same row row := ⟨rfl, rfl, id⟩

/-- Nothing is sent or answered, no delivery is claimed, and none becomes pending again. -/
structure Quiet (s s' : Push) : Prop where
  log : s'.log = s.log
  claimed : ∀ w worker key, s'.workers w = some worker → worker.stage.key = some key →
    ∃ before, s.workers w = some before ∧ before.stage.key = some key ∧
      (worker.stage.unsent = true → before.stage.unsent = true) ∧
      ∀ n, worker.stage.read = some n → before.stage.read = some n ∨
        ∃ row d, s.deliveries.get? key = some row ∧ row.attempts = n ∧ s.devices.get? row.deviceId = some d ∧
          d.installationHash = key.installationHash
  rows : ∀ key row', s'.deliveries.get? key = some row' →
    (∃ row, s.deliveries.get? key = some row ∧ Same row row') ∨
      s.deliveries.get? key = none ∧ row'.attempts = 0
  stays : ∀ key, s'.deliveries.get? key = none → s.deliveries.get? key = none

/-- The worker goes on, and the others stay where they are. -/
def Goes (s s' : Push) (w : Nat) (worker : Worker) : Prop :=
  s'.workers = Function.update s.workers w (some worker)

/-- Of one step: it is quiet, or a worker claims, sends or is answered. -/
inductive Move (step : PushStep) (s s' : Push) : Prop where
  | quiet (quiet : Quiet s s')
  | claims {w : Nat} {worker : Worker} {key : DeliveryKey} {attempts : Nat} {due : List (DeliveryKey × Nat)}
      {row : NoticePushDelivery} (claim : NoticePushDelivery → NoticePushDelivery) (act : step.act = .work w .claim)
      (here : s.workers w = some worker) (stage : worker.stage = .claiming ((key, attempts) :: due))
      (stored : s.deliveries.get? key = some row) (pending : row.status = .pending)
      (taken : ∀ row, (claim row).status = .sending ∧ (claim row).attempts = attempts + 1 ∧
        (claim row).deviceId = row.deviceId)
      (goes : Goes s s' w { worker with stage := .claimed key due })
      (deliveries : s'.deliveries = s.deliveries.update key claim) (log : s'.log = s.log)
  | sends {w : Nat} {worker : Worker} {attempt : Attempt} {due : List (DeliveryKey × Nat)}
      (here : s.workers w = some worker) (stage : worker.stage = .ready attempt due)
      (goes : Goes s s' w { worker with stage := .waiting attempt due }) (deliveries : s'.deliveries = s.deliveries)
      (log : s'.log = s.log ++ [.sent attempt.key attempt.installation])
  | answered {w : Nat} {worker : Worker} {attempt : Attempt} {due : List (DeliveryKey × Nat)} {result : SendResult}
      {stage' : Stage} (here : s.workers w = some worker) (stage : worker.stage = .waiting attempt due)
      (free : stage'.key = none) (goes : Goes s s' w { worker with stage := stage' })
      (deliveries : s'.deliveries = s.deliveries.update attempt.key (recorded step.moment attempt result))
      (log : s'.log = s.log ++ [.told attempt.key result.status])

theorem quiet_same (devices : Table Nat NotificationDevice) (nextDevice : Nat) :
    Quiet s { s with devices, nextDevice } where
  log := rfl
  claimed := fun _ worker _ here held => ⟨worker, here, held, id, fun _ => .inl⟩
  rows := fun _ row stored => .inl ⟨row, stored, .refl row⟩
  stays := fun _ absent => absent

theorem Quiet.goOn (quiet : Quiet s s') (worker : Worker) (free : worker.stage.key = none) :
    Quiet s (s'.goOn w worker) where
  log := quiet.log
  claimed := by
    intro w' worker' key here held
    by_cases same : w' = w
    · subst same
      rw [goOn_self] at here
      cases here
      rw [free] at held
      cases held
    · rw [goOn_other worker same] at here
      exact quiet.claimed w' worker' key here held
  rows := quiet.rows
  stays := quiet.stays

theorem quiet_rows {deliveries : Table DeliveryKey NoticePushDelivery}
    (rows : ∀ key row', deliveries.get? key = some row' →
      (∃ row, s.deliveries.get? key = some row ∧ Same row row') ∨ s.deliveries.get? key = none ∧ row'.attempts = 0)
    (stays : ∀ key, deliveries.get? key = none → s.deliveries.get? key = none) :
    Quiet s { s with deliveries } where
  log := rfl
  claimed := fun _ worker _ here held => ⟨worker, here, held, id, fun _ => .inl⟩
  rows := rows
  stays := stays

theorem quiet_enrolled (moment : Moment) (key : DeliveryKey) (deviceId : Nat) :
    Quiet s { s with deliveries := s.enrolled moment key deviceId } := by
  unfold enrolled
  split
  next => exact quiet_rows (fun _ row stored => .inl ⟨row, stored, .refl row⟩) fun _ absent => absent
  next absent =>
    refine quiet_rows (fun key' row' stored => ?_) fun key' absent' => ?_
    · rw [Table.get?_put] at stored
      split at stored
      next same =>
        cases stored
        exact .inr ⟨same ▸ absent, rfl⟩
      next => exact .inl ⟨row', stored, .refl row'⟩
    · rw [Table.get?_put] at absent'
      split at absent'
      · cases absent'
      · exact absent'

theorem quiet_updateWhere (p : DeliveryKey → NoticePushDelivery → Bool) (f : NoticePushDelivery → NoticePushDelivery)
    (settled : ∀ row, (f row).deviceId = row.deviceId ∧ (f row).attempts = row.attempts ∧ (f row).status ≠ .pending) :
    Quiet s { s with deliveries := s.deliveries.updateWhere p f } := by
  refine quiet_rows (fun key row' stored => ?_) fun key absent => ?_
  · rw [Table.get?_updateWhere] at stored
    obtain ⟨row, old, rfl⟩ := Option.map_eq_some_iff.mp stored
    refine .inl ⟨row, old, ?_⟩
    split
    · obtain ⟨device, attempts, other⟩ := settled row
      exact ⟨device, attempts, fun pending => absurd pending other⟩
    · exact .refl row
  · rw [Table.get?_updateWhere] at absent
    exact Option.map_eq_none_iff.mp absent

theorem sendable_some {moment : Moment} {key : DeliveryKey} {attempt : Attempt}
    (found : s.sendable moment key = some attempt) :
    attempt.key = key ∧ ∃ row d, s.deliveries.get? key = some row ∧ row.attempts = attempt.attempts ∧
      s.devices.get? row.deviceId = some d ∧ d.installationHash = key.installationHash := by
  unfold sendable at found
  obtain ⟨row, stored, found⟩ := Option.bind_eq_some_iff.mp found
  obtain ⟨d, known, found⟩ := Option.bind_eq_some_iff.mp found
  split at found
  next meets =>
    cases found
    exact ⟨rfl, row, d, stored, rfl, known, meets.2.2.1⟩
  · cases found

theorem quiet_ready {moment : Moment} {worker : Worker} {key : DeliveryKey} {due : List (DeliveryKey × Nat)}
    {attempt : Attempt} (here : s.workers w = some worker) (stage : worker.stage = .claimed key due)
    (found : s.sendable moment key = some attempt) :
    Quiet s (s.goOn w { worker with stage := .ready attempt due }) where
  log := rfl
  claimed := by
    intro w' worker' key' here' held
    by_cases same : w' = w
    · subst same
      rw [goOn_self] at here'
      cases here'
      obtain ⟨rfl, row, d, stored, attempts, known, hash⟩ := sendable_some found
      cases held
      refine ⟨worker, here, by rw [stage]; rfl, fun _ => by rw [stage]; rfl, fun n read => .inr ⟨row, d, ?_⟩⟩
      cases read
      exact ⟨stored, attempts, known, hash⟩
    · rw [goOn_other _ same] at here'
      exact ⟨worker', here', held, id, fun _ => .inl⟩
  rows := fun _ row stored => .inl ⟨row, stored, .refl row⟩
  stays := fun _ absent => absent

variable (sha256 : String → String)

theorem move_work (step : PushStep) {worker : Worker} {act : WorkerAct} (acts : step.act = .work w act)
    (here : s.workers w = some worker) : Move step s (s.work step.moment w worker act) := by
  have idle : Quiet s s := quiet_same s.devices s.nextDevice
  unfold work
  dsimp only
  split
  · exact .quiet (idle.goOn _ rfl)
  · exact .quiet (idle.goOn _ rfl)
  · exact .quiet (idle.goOn _ rfl)
  next notice notices id d page stage =>
    refine .quiet (Quiet.goOn ?_ _ rfl)
    split
    · exact quiet_enrolled ..
    · exact idle
  · refine .quiet (Quiet.goOn ?_ _ rfl)
    exact quiet_updateWhere _ _ fun _ => ⟨rfl, rfl, nofun⟩
  · exact .quiet (idle.goOn _ rfl)
  next key attempts due stage =>
    split
    next open' =>
      obtain ⟨row, stored, pending⟩ := (Option.any_eq_true ..).mp open'
      let claim (row : NoticePushDelivery) : NoticePushDelivery :=
        { row with status := .sending, attemptedAt := some step.moment.now, attempts := attempts + 1 }
      exact .claims claim acts here stage stored (of_decide_eq_true pending) (fun _ => ⟨rfl, rfl, rfl⟩) rfl rfl rfl
    next => exact .quiet (idle.goOn _ rfl)
  next key due stage =>
    split
    next attempt found => exact .quiet (quiet_ready here stage found)
    next =>
      refine .quiet (Quiet.goOn ?_ _ rfl)
      exact quiet_updateWhere _ _ fun _ => ⟨rfl, rfl, nofun⟩
  next attempt due stage => exact .sends here stage rfl rfl rfl
  next reply attempt due stage =>
    refine .answered here stage ?_ rfl rfl rfl
    split <;> rfl
  next attempt due stage => exact .quiet ((quiet_same _ s.nextDevice).goOn _ rfl)
  · exact .quiet idle

theorem move_next (step : PushStep) (s : Push) : Move step s (next sha256 step s) := by
  unfold next
  split
  next token installationId platform act =>
    unfold register
    dsimp only
    split
    · exact .quiet (quiet_same _ s.nextDevice)
    · exact .quiet (quiet_same _ _)
  · exact .quiet (quiet_same _ s.nextDevice)
  next w tenantId act =>
    split
    · exact .quiet ((quiet_same s.devices s.nextDevice).goOn _ rfl)
    · exact .quiet (quiet_same s.devices s.nextDevice)
  next w act =>
    refine .quiet ⟨rfl, fun w' worker key here held => ?_, fun _ row stored => .inl ⟨row, stored, .refl row⟩,
      fun _ absent => absent⟩
    dsimp only at here
    by_cases same : w' = w
    · subst same
      rw [Function.update_self] at here
      cases here
    · rw [Function.update_of_ne same] at here
      exact ⟨worker, here, held, id, fun _ => .inl⟩
  next w act acts =>
    split
    · exact .quiet (quiet_same s.devices s.nextDevice)
    next worker here => exact move_work step acts here

end Push
end VtsaCsms.Notifications
