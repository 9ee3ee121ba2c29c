import VtsaCsms.Foundation.Runs
import VtsaCsms.Gateway.Stores

/-!
# The calls of a charge point

`WebSocketOcppConnection.recv` and `send` of `connections.py` on any number of sockets of one
charge point, the handler between them, and the store they share. A socket takes one CALL after
the other. Its library hands the call to a handler, which reports it with one `emit`, and sends
the answer through `send`; what it answers, and whether it hands the call on at all, is the
library's own affair. A store call takes place at one time, and may raise before or after it did.
-/
namespace VtsaCsms.Gateway
open Foundation Foundation.Action

/-- A frame of message type 2. -/
structure Call where
  uniqueId : String
  action : String
  payload : String
  deriving DecidableEq

/-- The settings of a node that `recv` and `send` read. -/
structure MessageSettings where
  messageDeduplicationSeconds : Int
  commandTimeoutSeconds : ℚ

/-- How long `_wait_for_response` waits for the response of a call in flight. -/
def MessageSettings.patience (s : MessageSettings) : ℚ := min s.commandTimeoutSeconds 5

/-- The pause between two looks at the cache. -/
def pollSeconds : ℚ := 1 / 20

/-- Where a socket stands. -/
inductive Phase where
  /-- `receive_text`. -/
  | receiving
  /-- Before `cached_response`. -/
  | looksUp (call : Call)
  /-- Before `claim_message`. -/
  | claims (call : Call)
  /-- At the head of the loop of `_wait_for_response`. -/
  | waits (call : Call) (deadline : ℚ)
  | sleeps (call : Call) (deadline wakesAt : ℚ)
  /-- The library has the call. -/
  | handles (call : Call)
  /-- `send`, before `cache_response`. -/
  | answers (call : Call) (message : String)
  deriving DecidableEq

/-- What a call is answered with where the library does not have it. -/
inductive Duplicate where
  | replayed (response : String)
  | rejected (code description : String)
  deriving DecidableEq

def stillProcessing : Duplicate :=
  .rejected "OccurrenceConstraintViolation" "Duplicate message is still processing"

variable {K : Type} [DecidableEq K]

/-- A call that was handed to the library of a socket. -/
structure Handled (K : Type) where
  call : Call
  socket : K
  claimedAt : ℚ

/-- The sockets, their store and what has become of the calls so far, the latest last. -/
structure Traffic (K : Type) where
  now : ℚ
  rows : RedisRows
  sockets : K → Phase
  received : List Call
  handled : List (Handled K)
  /-- Calls whose event is in the stream. -/
  published : List Call
  /-- Calls whose handling ended before their event was. -/
  failed : List Call
  /-- What was cached. -/
  responses : List (Call × String)
  duplicates : List (Call × Duplicate)

namespace Traffic

def start (now : ℚ) : Traffic K where
  now
  rows := fun _ => none
  sockets := fun _ => .receiving
  received := []
  handled := []
  published := []
  failed := []
  responses := []
  duplicates := []

/-- A closed socket stands where a new one begins. -/
def setSocket (s : Traffic K) (k : K) (phase : Phase) : Traffic K :=
  { s with sockets := Function.update s.sockets k phase }

def setRows (s : Traffic K) (rows : RedisRows) : Traffic K := { s with rows }

end Traffic

inductive Event (K : Type) where
  | wait (seconds : ℚ) (forward : 0 ≤ seconds)
  | frame (k : K) (call : Call)
  /-- The socket goes on, by its store call where one is due. -/
  | step (k : K)
  /-- The store call of the socket raises, carried out or not; the socket closes. -/
  | lose (k : K) (carried : Bool)
  /-- The socket closes or its node stops. -/
  | drop (k : K)
  /-- The event is published and the call answered. -/
  | emit (k : K) (message : String)
  /-- The handler raises, its event published or not, and the library answers with the error. -/
  | raises (k : K) (published : Bool) (message : String)
  /-- The library answers without the handler. -/
  | refuses (k : K) (message : String)
  /-- The library does not answer. -/
  | ignores (k : K)

namespace Traffic
variable (store : RedisGatewayStore) (settings : K → MessageSettings) (cp : String)

def step (k : K) (s : Traffic K) : Traffic K :=
  match s.sockets k with
  | .receiving => s
  | .looksUp call =>
    match store.cachedResponse s.now cp call.uniqueId s.rows with
    | (.ok none, rows) => (s.setRows rows).setSocket k (.claims call)
    | (.ok (some cached), rows) =>
      { (s.setRows rows).setSocket k .receiving with
        duplicates := s.duplicates ++ [(call, .replayed cached)] }
    | (.error _, rows) => (s.setRows rows).setSocket k .receiving
  | .claims call =>
    match store.claimMessage s.now cp call.uniqueId (settings k).messageDeduplicationSeconds s.rows with
    | (.ok true, rows) =>
      { (s.setRows rows).setSocket k (.handles call) with handled := s.handled ++ [⟨call, k, s.now⟩] }
    | (.ok false, rows) => (s.setRows rows).setSocket k (.waits call (s.now + (settings k).patience))
    | (.error _, rows) => (s.setRows rows).setSocket k .receiving
  | .waits call deadline =>
    if s.now < deadline then s.setSocket k (.sleeps call deadline (s.now + pollSeconds))
    else { s.setSocket k .receiving with duplicates := s.duplicates ++ [(call, stillProcessing)] }
  | .sleeps call deadline wakesAt =>
    if wakesAt ≤ s.now then
      match store.cachedResponse s.now cp call.uniqueId s.rows with
      | (.ok none, rows) => (s.setRows rows).setSocket k (.waits call deadline)
      | (.ok (some cached), rows) =>
        { (s.setRows rows).setSocket k .receiving with
          duplicates := s.duplicates ++ [(call, .replayed cached)] }
      | (.error _, rows) => (s.setRows rows).setSocket k .receiving
    else s
  | .handles _ => s
  | .answers call message =>
    match store.cacheResponse s.now cp call.uniqueId message (settings k).messageDeduplicationSeconds s.rows with
    | (.ok _, rows) =>
      { (s.setRows rows).setSocket k .receiving with responses := s.responses ++ [(call, message)] }
    | (.error _, rows) => (s.setRows rows).setSocket k .receiving

/-- The store call of a socket that learns nothing of it. -/
def lose (k : K) (carried : Bool) (s : Traffic K) : Traffic K :=
  match s.sockets k with
  | .looksUp _ | .sleeps _ _ _ => s.setSocket k .receiving
  | .claims call =>
    if carried then
      match store.claimMessage s.now cp call.uniqueId (settings k).messageDeduplicationSeconds s.rows with
      | (.ok true, rows) =>
        -- the call is claimed and nobody has it
        { (s.setRows rows).setSocket k .receiving with failed := s.failed ++ [call] }
      | (_, rows) => (s.setRows rows).setSocket k .receiving
    else s.setSocket k .receiving
  | .answers call message =>
    if carried then
      match store.cacheResponse s.now cp call.uniqueId message (settings k).messageDeduplicationSeconds s.rows with
      | (.ok _, rows) =>
        { (s.setRows rows).setSocket k .receiving with responses := s.responses ++ [(call, message)] }
      | (.error _, rows) => (s.setRows rows).setSocket k .receiving
    else s.setSocket k .receiving
  | _ => s

def drop (k : K) (s : Traffic K) : Traffic K :=
  match s.sockets k with
  | .handles call => { s.setSocket k .receiving with failed := s.failed ++ [call] }
  | _ => s.setSocket k .receiving

def emit (k : K) (message : String) (s : Traffic K) : Traffic K :=
  match s.sockets k with
  | .handles call => { s.setSocket k (.answers call message) with published := s.published ++ [call] }
  | _ => s

def raises (k : K) (published : Bool) (message : String) (s : Traffic K) : Traffic K :=
  match s.sockets k with
  | .handles call =>
    if published then { s.setSocket k (.answers call message) with published := s.published ++ [call] }
    else { s.setSocket k (.answers call message) with failed := s.failed ++ [call] }
  | _ => s

def refuses (k : K) (message : String) (s : Traffic K) : Traffic K :=
  match s.sockets k with
  | .handles call => s.setSocket k (.answers call message)
  | _ => s

def ignores (k : K) (s : Traffic K) : Traffic K :=
  match s.sockets k with
  | .handles _ => s.setSocket k .receiving
  | _ => s

def next (event : Event K) (s : Traffic K) : Traffic K :=
  match event with
  | .wait seconds _ => { s with now := s.now + seconds }
  | .frame k call =>
    if s.sockets k = .receiving then
      { s.setSocket k (.looksUp call) with received := s.received ++ [call] }
    else s
  | .step k => s.step store settings cp k
  | .lose k carried => s.lose store settings cp k carried
  | .drop k => s.drop k
  | .emit k message => s.emit k message
  | .raises k published message => s.raises k published message
  | .refuses k message => s.refuses k message
  | .ignores k => s.ignores k

/-- The charge point's traffic, from the time at which the first socket opens. -/
def run (now : ℚ) (events : List (Event K)) : Traffic K :=
  Runs.reached (next store settings cp) events (start now)

end Traffic
end VtsaCsms.Gateway
