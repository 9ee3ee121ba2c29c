import VtsaCsms.Organizations.AccessControl

/-!
# Charging accounts

`ChargingAccounts.php` on the accounts of one tenant. Users and memberships are kept elsewhere, so a call finds them
as they then are; a user's key stands for the public identifier too. Audit is left out.
-/
namespace VtsaCsms.Organizations
open Foundation

inductive ChargingAccountRole where
  | owner | admin | billingManager | fleetManager | driver
  deriving DecidableEq, Repr

def ChargingAccountRole.permissions (role : ChargingAccountRole) : List PermissionKey :=
  .chargingAccountView :: match role with
    | owner => [.chargingMembersManage, .chargingVehiclesManage, .chargingWalletView, .chargingWalletFund,
        .chargingLimitsManage, .chargingAccountCharge, .chargingHistoryView, .chargingSessionControl]
    | admin => [.chargingMembersManage, .chargingVehiclesManage, .chargingAccountCharge, .chargingHistoryView,
        .chargingSessionControl]
    | billingManager => [.chargingWalletView, .chargingWalletFund, .chargingHistoryView]
    | fleetManager => [.chargingVehiclesManage, .chargingAccountCharge, .chargingHistoryView, .chargingSessionControl]
    | driver => [.chargingAccountCharge]

inductive AccountType where
  | personal | business | fleet
  deriving DecidableEq, Repr

def AccountType.tryFrom : String → Option AccountType
  | "personal" => some personal
  | "business" => some business
  | "fleet" => some fleet
  | _ => none

/-- An organization with a charging account type. -/
structure Account where
  name : String
  chargingAccountType : AccountType
  ownerSubjectId : Nat
  personalSubjectId : Option Nat
  isActive : Bool
  deriving DecidableEq

/-- A role assignment at the scope of an organization, with the user of its membership. -/
structure AccountAssignment where
  userId : Nat
  role : ChargingAccountRole
  scopeId : Nat
  grantedByUserId : Nat
  expiresAt : Option Instant := none
  deriving DecidableEq

/-- An invitation whose purpose is `charging_account`. -/
structure AccountInvitation where
  organizationId : Nat
  role : ChargingAccountRole
  email : String
  invitedByUserId : Nat
  expiresAt : Instant
  acceptedAt : Option Instant := none
  revokedAt : Option Instant := none
  deriving DecidableEq

/-- `drawn` ULIDs have been given to accounts, and `acceptances` are the invitations that have been accepted, in
order; `clock` is the time of the last call. -/
structure Accounts where
  accounts : Table Nat Account
  assignments : List AccountAssignment
  invitations : List AccountInvitation
  drawn : Nat
  acceptances : List Nat
  clock : Instant

def Accounts.empty : Accounts := ⟨Table.empty, [], [], 0, [], 0⟩

/-- A user, and the status and the expiry of the membership, where there is one. -/
structure Person where
  user : User
  membership : Option (MembershipStatus × Option Instant)

/-- What a call finds: the time, the users, whether the tenant is active, and whether vehicles, funds or charging
history refer to an account. -/
structure Surroundings where
  now : Instant
  people : Table Nat Person
  tenantActive : Bool
  referred : Nat → Bool

inductive AccountFailure where
  | http (status : Nat) (message : String)
  | modelNotFound (model : String)
  | validation (field message : String)
  deriving DecidableEq

def abortUnless (condition : Bool) (status : Nat) (message : String) : Except AccountFailure Unit :=
  if condition then .ok () else .error (.http status message)

def abortIf (condition : Bool) (status : Nat) (message : String) : Except AccountFailure Unit :=
  abortUnless (!condition) status message

def firstOrFail {α : Type} (found : Option α) (model : String) : Except AccountFailure α :=
  match found with
  | some row => .ok row
  | none => .error (.modelNotFound model)

def Person.hasActiveMembership (person : Person) (now : Instant) : Bool :=
  person.membership.any fun m => decide (m.1 = .active) && unexpired now m.2

namespace ChargingAccounts
variable (around : Surroundings)

def isEnabled (userId : Nat) : Bool := (around.people.get? userId).any fun p => decide p.user.isEnabled

def hasActiveMembership (userId : Nat) : Bool :=
  (around.people.get? userId).any fun p => p.hasActiveMembership around.now

/-- The assignment has not expired. -/
def active (now : Instant) (a : AccountAssignment) : Bool := unexpired now a.expiresAt

/-- `AuthorizationService::allowsChargingAccount`. -/
def allowsChargingAccount (s : Accounts) (userId : Nat) (permission : PermissionKey) (id : Nat) : Bool :=
  isEnabled around userId && around.tenantActive && hasActiveMembership around userId &&
    s.assignments.any fun a => decide (a.userId = userId) && active around.now a &&
      decide (permission ∈ a.role.permissions) && decide (a.scopeId = id)

/-- Whether the assignment is one of `assignments($user)` at the account. -/
def assignments (userId id : Nat) (a : AccountAssignment) : Bool :=
  decide (a.userId = userId) && decide (a.scopeId = id) && active around.now a

/-- `require`. -/
def require (s : Accounts) (userId id : Nat) (permission : PermissionKey) : Except AccountFailure Account := do
  let account ← firstOrFail ((s.accounts.get? id).filter Account.isActive) "Organization"
  abortUnless (allowsChargingAccount around s userId .chargingAccountView id) 404 ""
  abortUnless (allowsChargingAccount around s userId permission id) 403 ""
  abortIf (decide (account.chargingAccountType = .personal) && decide (account.ownerSubjectId ≠ userId)) 404 ""
  .ok account

def assign (userId id : Nat) (role : ChargingAccountRole) (grantor : Nat) (s : Accounts) :
    Except AccountFailure Accounts := do
  let _ ← firstOrFail ((around.people.get? userId).bind Person.membership) "Membership"
  abortUnless (hasActiveMembership around userId && isEnabled around userId) 403 ""
  .ok { s with assignments := s.assignments ++ [⟨userId, role, id, grantor, none⟩] }

/-- `Organization::query()->where('personal_subject_id', …)->first()`. -/
def personalAccount (s : Accounts) (userId : Nat) : Option Nat :=
  (s.accounts.first? fun _ account => decide (account.personalSubjectId = some userId)).map Prod.fst

def create (userId : Nat) (name type : String) (s : Accounts) : Except AccountFailure (Nat × Accounts) :=
  match AccountType.tryFrom type with
  | none => .error (.http 422 "")
  | some kind => do
    let _ ← firstOrFail ((around.people.get? userId).bind Person.membership) "Membership"
    abortUnless (hasActiveMembership around userId && isEnabled around userId) 403 ""
    match (if kind = .personal then personalAccount s userId else none) with
    | some existing => .ok (existing, s)
    | none =>
      let made := { s with
        accounts := s.accounts.put s.drawn
          { name, chargingAccountType := kind, ownerSubjectId := userId
            personalSubjectId := if kind = .personal then some userId else none, isActive := true }
        drawn := s.drawn + 1 }
      let assigned ← assign around userId s.drawn .owner userId made
      .ok (s.drawn, assigned)

def personal (userId : Nat) (s : Accounts) : Except AccountFailure (Nat × Accounts) := do
  let _ ← firstOrFail ((around.people.get? userId).bind Person.membership) "Membership"
  abortUnless (hasActiveMembership around userId && isEnabled around userId) 403 ""
  match personalAccount s userId with
  | some existing => .ok (existing, s)
  | none => create around userId "Personal" "personal" s

def update (userId id : Nat) (name type : String) (s : Accounts) : Except AccountFailure Accounts := do
  let account ← require around s userId id .chargingAccountView
  abortUnless (decide (account.ownerSubjectId = userId) && decide (account.chargingAccountType ≠ .personal)) 403 ""
  match AccountType.tryFrom type with
  | none => .error (.http 422 "")
  | some kind =>
    abortUnless (decide (kind ≠ .personal)) 422 ""
    .ok { s with accounts := s.accounts.update id fun a => { a with name, chargingAccountType := kind } }

def inUse : String :=
  "This account has vehicles, funds, invitations or charging history. It can be edited but cannot be deleted."

/-- Restricting foreign keys keep an account that other rows refer to. -/
def deleteUnused (userId id : Nat) (s : Accounts) : Except AccountFailure Accounts := do
  let account ← require around s userId id .chargingAccountView
  abortUnless (decide (account.ownerSubjectId = userId) && decide (account.chargingAccountType ≠ .personal)) 403 ""
  abortUnless (match s.assignments.filter fun a => decide (a.scopeId = id) with
    | [only] => decide (only.userId = userId) && decide (only.role = .owner)
    | _ => false) 409 "Remove members first. Accounts with past membership must be retained."
  abortIf (around.referred id || s.invitations.any fun i => decide (i.organizationId = id)) 409 inUse
  .ok { s with
    assignments := s.assignments.filter fun a => decide (a.scopeId ≠ id)
    accounts := s.accounts.removeWhere fun key _ => decide (key = id) }

def member (actor id subject : Nat) (role : Option ChargingAccountRole) (s : Accounts) :
    Except AccountFailure Accounts := do
  let account ← require around s actor id .chargingMembersManage
  abortUnless (decide (account.ownerSubjectId = actor) && decide (account.chargingAccountType ≠ .personal)) 403 ""
  abortIf (decide (subject = account.ownerSubjectId) || decide (role = some .owner)) 422
    "The account owner cannot be replaced or revoked here."
  let _ ← firstOrFail (around.people.get? subject) "User"
  let _ ← require around s subject id .chargingAccountView
  let expired := { s with
    assignments := s.assignments.map fun a =>
      if assignments around subject id a then { a with expiresAt := some around.now.toSecond } else a }
  match role with
  | none => .ok expired
  | some role => assign around subject id role actor expired

/-- What `join` and the invitations let an inviter grant. -/
def grants (account : Account) (inviter : Nat) (role : ChargingAccountRole) : Bool :=
  decide (account.ownerSubjectId = inviter) || decide (role ∈ [ChargingAccountRole.driver, .fleetManager])

def join (userId inviter id : Nat) (role : ChargingAccountRole) (s : Accounts) : Except AccountFailure Accounts := do
  let account ← require around s inviter id .chargingMembersManage
  abortIf (decide (account.chargingAccountType = .personal) || decide (role = .owner)) 403 ""
  abortUnless (grants account inviter role) 403 ""
  abortIf (s.assignments.any (assignments around userId id)) 409 "Already a member."
  assign around userId id role inviter s

end ChargingAccounts
end VtsaCsms.Organizations
