import Mathlib.Data.List.Infix
import VtsaCsms.Foundation.Php
import VtsaCsms.Foundation.Runs

/-!
# Requests of the app

`api_client.dart` over its HTTP package. Every request passes `_onRequest`, and every failed one
`_onError`, which may send the request again and await it. The package starts one error handler at
a time, the next one only after the running one has called `next`, `resolve` or `reject`; a request
sent again passes the same interceptors. An operation of the token store, an answer of the platform
and a delay each end in a step of their own, so that anything may happen in between.
-/
namespace VtsaCsms.Mobile
open Foundation

structure TokenBundle where
  accessToken : String
  refreshToken : Option String := none
  expiresAt : Instant
  tenantId : String
  deviceId : String
  deriving DecidableEq, Repr

inductive DioExceptionType where
  | connectionTimeout | sendTimeout | receiveTimeout | badCertificate | badResponse | cancel | connectionError
  | unknown
  deriving DecidableEq, Repr

/-- `statusCode` is that of the response, if one came. -/
structure DioException where
  type : DioExceptionType
  statusCode : Option Int := none
  deriving DecidableEq, Repr

/-- `anonymous`, `authRetried` and `retryCount` are the entries of `extra`. -/
structure RequestOptions where
  method : String
  path : String
  anonymous : Bool := false
  authRetried : Bool := false
  retryCount : Nat := 0
  deriving DecidableEq, Repr

inductive Outcome where
  | response (statusCode : Int)
  | failure (error : DioException)
  deriving DecidableEq, Repr

/-- What a running error handler awaits. -/
inductive HandlerWait where
  | tokens
  | refresh (current : TokenBundle)
  | write (refreshed : TokenBundle)
  | clear
  | expiry
  | delay
  | replay (id : Nat)
  | retry (id : Nat)
  /-- It has thrown, and calls nothing any more. -/
  | nothing
  deriving DecidableEq, Repr

inductive FetchStage where
  | entering
  | sent
  | queued (error : DioException)
  | handled (error : DioException) (awaited : HandlerWait)
  | done (outcome : Outcome)
  deriving DecidableEq, Repr

/-- One pass through the interceptors: of a request that the app makes, or of one that an error handler sends
again for the request `call`. `sentWith` are the tokens of the header, once it is sent. -/
structure Fetch where
  options : RequestOptions
  call : Nat
  sentWith : Option (Option TokenBundle) := none
  stage : FetchStage := .entering
  deriving DecidableEq, Repr

/-- What comes back for `/api/v1/auth/refresh`. -/
structure RefreshData where
  token : String
  refreshToken : Option String := none
  expiresAt : Instant
  tenantId : Option String := none
  deviceId : Option String := none

inductive RefreshReply where
  | failed
  | empty
  | malformed
  | data (d : RefreshData)

/-- The requests, those whose error no handler has taken yet, and the one whose error is being handled. -/
structure RequestQueue where
  fetches : List Fetch := []
  errors : List Nat := []
  running : Option Nat := none
  deriving DecidableEq, Repr

/-- `stored` and `locked` are the token store's; `expired` counts the calls of `onSessionExpired`. -/
structure ApiClient extends RequestQueue where
  stored : Option TokenBundle := none
  locked : Bool := false
  expired : Nat := 0
  deriving DecidableEq, Repr

inductive ApiStep where
  | call (method path : String) (anonymous : Bool)
  | entered (id : Nat)
  | replied (id : Nat) (outcome : Outcome)
  | serve
  | read
  | refreshed (reply : RefreshReply)
  | written
  | cleared
  | notified
  | elapsed
  | answered
  | signIn (tokens : TokenBundle)
  | signOut
  | lock (locked : Bool)

/-- The step ends what a request waits for. -/
def ApiStep.isAnswer : ApiStep → Bool
  | .call .. | .signIn _ | .signOut | .lock _ => false
  | _ => true

def ApiStep.isCall : ApiStep → Bool
  | .call .. => true
  | _ => false

def TokenBundle.refreshedWith (current : TokenBundle) (data : RefreshData) : TokenBundle where
  accessToken := data.token
  refreshToken := data.refreshToken.or current.refreshToken
  expiresAt := data.expiresAt
  tenantId := data.tenantId.getD current.tenantId
  deviceId := data.deviceId.getD current.deviceId

def HandlerWait.fetch : HandlerWait → Option Nat
  | .replay id | .retry id => some id
  | _ => none

namespace ApiClient

def canRefresh (options : RequestOptions) (error : DioException) : Bool :=
  error.statusCode = some 401 && !options.anonymous && !decide ("/auth/login".toList <:+: options.path.toList) &&
    !decide ("/auth/refresh".toList <:+: options.path.toList)

def isSafe (method : String) : Bool := ["GET", "HEAD", "OPTIONS"].contains method.toUpper

def isTransient (error : DioException) : Bool :=
  error.type = .connectionError || error.type = .connectionTimeout || error.type = .receiveTimeout ||
    500 ≤ error.statusCode.getD 0

section Fetches
variable (id : Nat) (f : Fetch) (error : DioException) (s : ApiClient)

def place (f : Fetch) (s : ApiClient) : ApiClient := { s with fetches := s.fetches.set id f }

/-- `_onRequest` once the tokens are read. -/
def onRequest : ApiClient :=
  if s.locked = true ∧ f.options.anonymous = false then
    place id { f with stage := .done (.failure { type := .cancel }) } s
  else place id { f with sentWith := some (if f.options.anonymous then none else s.stored), stage := .sent } s

def received (outcome : Outcome) : ApiClient :=
  match outcome with
  | .response _ => place id { f with stage := .done outcome } s
  | .failure error => { place id { f with stage := .queued error } s with errors := s.errors ++ [id] }

/-- `handler.next` or `handler.resolve`. -/
def finish (outcome : Outcome) : ApiClient :=
  { place id { f with stage := .done outcome } s with running := none }

def await (awaited : HandlerWait) : ApiClient :=
  { place id { f with stage := .handled error awaited } s with running := some id }

/-- `_onError` where the credentials are not the matter. -/
def retryOrNext : ApiClient :=
  if isSafe f.options.method = true ∧ f.options.retryCount < 2 ∧ isTransient error = true then
    await id f error s .delay
  else finish id f s (.failure error)

def onError : ApiClient :=
  if canRefresh f.options error = true ∧ f.options.authRetried = false then await id f error s .tokens
  else retryOrNext id f error s

/-- `_dio.fetch` of the request, with its `extra` changed. -/
def fetchAgain (options : RequestOptions) (awaited : Nat → HandlerWait) : ApiClient :=
  let s := await id f error s (awaited s.fetches.length)
  { s with fetches := s.fetches ++ [{ options := options, call := f.call }] }

/-- `_refresh` once the tokens are read. -/
def refresh : ApiClient :=
  match (if s.locked then none else s.stored) with
  | some current =>
    if current.refreshToken = none then await id f error s .clear else await id f error s (.refresh current)
  | none => await id f error s .clear

/-- `_refresh` once the platform has answered; a locked store takes no tokens. -/
def refreshReplied (current : TokenBundle) : RefreshReply → ApiClient
  | .failed | .empty => await id f error s .clear
  | .malformed => await id f error s .nothing
  | .data d =>
    if s.locked then await id f error s .nothing else await id f error s (.write (current.refreshedWith d))

/-- An error handler hears of the request it has sent again. -/
def heard (awaited : HandlerWait) (outcome : Outcome) : ApiClient :=
  match awaited, outcome with
  | .replay _, .failure _ => await id f error s .nothing
  | _, _ => finish id f s outcome

end Fetches

/-- The running error handler. -/
def handling (s : ApiClient) : Option (Nat × Fetch × DioException × HandlerWait) :=
  match s.running with
  | none => none
  | some id =>
    match s.fetches[id]? with
    | none => none
    | some f =>
      match f.stage with
      | .handled error awaited => some (id, f, error, awaited)
      | _ => none

def next : ApiStep → ApiClient → ApiClient
  | .call method path anonymous, s =>
    { s with
      fetches := s.fetches ++
        [{ options := { method := method, path := path, anonymous := anonymous }, call := s.fetches.length }] }
  | .entered id, s =>
    match s.fetches[id]? with
    | some f => if f.stage = .entering then onRequest id f s else s
    | none => s
  | .replied id outcome, s =>
    match s.fetches[id]? with
    | some f => if f.stage = .sent then received id f s outcome else s
    | none => s
  | .serve, s =>
    match s.running, s.errors with
    | none, id :: rest =>
      match s.fetches[id]? with
      | some f =>
        match f.stage with
        | .queued error => onError id f error { s with errors := rest }
        | _ => s
      | none => s
    | _, _ => s
  | .read, s =>
    match s.handling with
    | some (id, f, error, .tokens) => refresh id f error s
    | _ => s
  | .refreshed reply, s =>
    match s.handling with
    | some (id, f, error, .refresh current) => refreshReplied id f error s current reply
    | _ => s
  | .written, s =>
    match s.handling with
    | some (id, f, error, .write refreshed) =>
      fetchAgain id f error { s with stored := some refreshed } { f.options with authRetried := true } .replay
    | _ => s
  | .cleared, s =>
    match s.handling with
    | some (id, f, error, .clear) => await id f error { s with stored := none, locked := false } .expiry
    | _ => s
  | .notified, s =>
    match s.handling with
    | some (id, f, error, .expiry) => retryOrNext id f error { s with expired := s.expired + 1 }
    | _ => s
  | .elapsed, s =>
    match s.handling with
    | some (id, f, error, .delay) =>
      fetchAgain id f error s { f.options with retryCount := f.options.retryCount + 1 } .retry
    | _ => s
  | .answered, s =>
    match s.handling with
    | some (id, f, error, awaited) =>
      match awaited.fetch.bind fun child => s.fetches[child]? with
      | some child =>
        match child.stage with
        | .done outcome => heard id f error s awaited outcome
        | _ => s
      | none => s
    | none => s
  | .signIn tokens, s => if s.locked then s else { s with stored := some tokens }
  | .signOut, s => { s with stored := none, locked := false }
  | .lock locked, s => { s with locked := locked }

def launched (stored : Option TokenBundle) (locked : Bool) : ApiClient := { stored := stored, locked := locked }

end ApiClient
end VtsaCsms.Mobile
