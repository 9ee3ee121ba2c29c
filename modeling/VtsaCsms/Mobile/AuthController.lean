import VtsaCsms.Mobile.ChargingController

/-!
# Who uses the app

`auth_controller.dart` as what its calls leave when they are done, and the listener of
`app_dependencies.dart` that tells the charging controller when the account changes. A lock takes
the user away until the same session is unlocked; the listener takes no notice of it.
-/
namespace VtsaCsms.Mobile
open Foundation

inductive AuthStatus where
  | checking | guest | locked | authenticated
  deriving DecidableEq, Repr

structure UserProfile where
  id : String
  emailVerified : Bool
  deriving DecidableEq

/-- `quickUnlockEnabled` is `quickUnlock?.enabled`, and `lastOwner` the listener's variable. -/
structure AuthController where
  status : AuthStatus := .checking
  user : Option UserProfile := none
  verificationRequired : Bool := false
  quickUnlockEnabled : Bool := false
  lastOwner : Option String := none
  deriving DecidableEq

namespace AuthController

def needsEmailVerification (a : AuthController) : Bool :=
  a.status = .authenticated && (a.verificationRequired || (a.user.map UserProfile.emailVerified) ≠ some true)

/-- The closure `ownerId` of `AppDependencies.fromParts`. -/
def ownerId (a : AuthController) : String :=
  match a.user with
  | some user => if user.id = "" then "guest" else user.id
  | none => "guest"

/-- The closure `isAuthenticated`. -/
def isAuthenticated (a : AuthController) : Bool := a.status = .authenticated && !a.needsEmailVerification

/-- `login`, and `restore` and `refreshVerification` where the platform names the user. -/
def signedIn (user : UserProfile) (a : AuthController) : AuthController :=
  { a with user := some user, verificationRequired := !user.emailVerified, status := .authenticated }

/-- `logout`, `sessionExpired` and `usePassword`, and whatever else finds no session. -/
def signedOut (a : AuthController) : AuthController :=
  { a with user := none, verificationRequired := false, status := .guest }

def lock (a : AuthController) : AuthController :=
  if a.quickUnlockEnabled = false ∨ a.status = .guest then a
  else { a with user := none, status := .locked }

/-- `unlock` once the store has accepted the driver: `current` says that nobody locked or cleared it since, and
`answer` is the platform's. -/
def unlock (current : Bool) (answer : Except AppFailure UserProfile) (a : AuthController) : AuthController :=
  match answer with
  | .ok user => if current then signedIn user a else a
  | .error failure =>
    if failure.code = some "email_unverified" ∧ current = true then
      { a with verificationRequired := true, status := .authenticated }
    else if failure.kind = .unauthenticated ∨ failure.kind = .forbidden ∨ a.quickUnlockEnabled = false then
      { a with quickUnlockEnabled := false, status := .guest }
    else a

/-- The listener of `AppDependencies.fromParts`: the owner to sign out of charging, if any. -/
def notify (a : AuthController) : Option String × AuthController :=
  match a.status, a.user with
  | .guest, _ => (a.lastOwner, { a with lastOwner := none })
  | .authenticated, some _ =>
    (a.lastOwner.filter fun last => last ≠ a.ownerId, { a with lastOwner := some a.ownerId })
  | _, _ => (none, a)

end AuthController

/-- What may happen to the sign-in at any time. -/
inductive AuthEvent where
  | signedIn (user : UserProfile)
  | signedOut
  | lock
  | unlock (current : Bool) (answer : Except AppFailure UserProfile)
  | quickUnlock (enabled : Bool)

def AuthEvent.perform : AuthEvent → AuthController → AuthController
  | .signedIn user, a => a.signedIn user
  | .signedOut, a => a.signedOut
  | .lock, a => a.lock
  | .unlock current answer, a => a.unlock current answer
  | .quickUnlock enabled, a => { a with quickUnlockEnabled := enabled }

/-- An event of the charging controller itself: the account and the clock of the app are not its own, and
`onSignedOut` is called by the listener alone. -/
def Event.isOwn : Event → Bool
  | .account .. | .onSignedOut _ | .dispose => false
  | _ => true

/-- The app as the driver has it before him. -/
structure DriverApp where
  auth : AuthController := {}
  charging : ChargingController.App

inductive AppStep where
  | auth (e : AuthEvent)
  | charging (e : Event) (own : e.isOwn = true)
  | answer (id : Nat) (answers : Answers)

namespace DriverApp

/-- The charging controller asks for the owner whenever it needs him. -/
def owned (auth : AuthController) (charging : ChargingController.App) : ChargingController.App :=
  ChargingController.program.next (.enter (.account auth.ownerId auth.isAuthenticated)) charging

def signOut (previous : Option String) (charging : ChargingController.App) : ChargingController.App :=
  match previous with
  | some owner => ChargingController.program.next (.enter (.onSignedOut (some owner))) charging
  | none => charging

def next : AppStep → DriverApp → DriverApp
  | .auth e, d =>
    let changed := e.perform d.auth
    ⟨changed.notify.2, signOut changed.notify.1 (owned changed d.charging)⟩
  | .charging e _, d => { d with charging := ChargingController.program.next (.enter e) d.charging }
  | .answer id answers, d => { d with charging := ChargingController.program.next (.resume id answers) d.charging }

def launched (now : Instant) (online : Bool) (store : LocalActiveSessionStore) : DriverApp where
  charging := ChargingController.launched ⟨"guest", false, online, now, false, 0, 0⟩ store

end DriverApp
end VtsaCsms.Mobile
