import VtsaCsms.Organizations.ChargingAccounts
import VtsaCsms.Foundation.Runs

/-!
# Invitations to charging accounts

`ChargingAccountInvitations.php`, whose transactions lock the account first, and the calls of both services in any
order. Mail and audit are left out.
-/
namespace VtsaCsms.Identity
open Foundation Organizations

/-- `trim`. -/
def trim (s : String) : String :=
  let blank (c : Char) : Bool := c ∈ [' ', '\n', '\r', '\t', '\x0b', '\x00']
  String.ofList ((s.toList.dropWhile blank).reverse.dropWhile blank).reverse

namespace ChargingAccountInvitations
open Organizations.ChargingAccounts
variable (around : Surroundings)

def canBeAccepted (row : AccountInvitation) : Bool :=
  row.acceptedAt.isNone && row.revokedAt.isNone && decide (around.now < row.expiresAt)

/-- The first user with the folded address. -/
def recipientOf (email : String) : Option Nat :=
  (around.people.first? fun _ p => decide (mbStrToLower p.user.email = email)).map Prod.fst

def invite (actor id : Nat) (email : String) (role : ChargingAccountRole) (s : Accounts) :
    Except AccountFailure Accounts := do
  let account ← require around s actor id .chargingMembersManage
  abortIf (decide (account.chargingAccountType = .personal) || decide (role = .owner)) 403 ""
  abortUnless (grants account actor role) 403 ""
  let email := mbStrToLower (trim email)
  match (recipientOf around email).filter fun user => isEnabled around user && hasActiveMembership around user with
  | none => .error (.validation "email"
      "Use the email of a registered, active Power Solutions user. Ask them to register first.")
  | some recipient =>
    if allowsChargingAccount around s recipient .chargingAccountView id then
      .error (.validation "email" "This user is already a member. Manage their role in Members.")
    else do
      let existing := s.invitations.any fun i =>
        decide (i.organizationId = id) && decide (i.email = email) && canBeAccepted around i
      abortIf existing 409 "A pending invitation already exists."
      .ok { s with
        invitations := s.invitations ++
          [⟨id, role, email, actor, (Instant.addSeconds around.now (7 * 86400)).toSecond, none, none⟩] }

/-- Whether the user has verified the address that the invitation was sent to. -/
def addressed (userId : Nat) (row : AccountInvitation) : Bool :=
  (around.people.get? userId).any fun p =>
    p.user.emailVerifiedAt.isSome && decide (mbStrToLower p.user.email = row.email)

def accept (actor id : Nat) (s : Accounts) : Except AccountFailure Accounts := do
  let row ← firstOrFail s.invitations[id]? "UserInvitation"
  abortUnless (addressed around actor row) 404 ""
  abortUnless (around.people.get? row.invitedByUserId).isSome 403 ""
  let _ ← require around s row.invitedByUserId row.organizationId .chargingMembersManage
  abortUnless (canBeAccepted around row) 422 "Invitation expired or already used."
  let account ← require around s row.invitedByUserId row.organizationId .chargingMembersManage
  abortUnless (grants account row.invitedByUserId row.role) 403 ""
  let joined ← join around actor row.invitedByUserId row.organizationId row.role s
  .ok { joined with
    invitations := joined.invitations.set id { row with acceptedAt := some around.now.toSecond }
    acceptances := joined.acceptances ++ [id] }

def revoke (actor account id : Nat) (s : Accounts) : Except AccountFailure Accounts := do
  let _ ← require around s actor account .chargingMembersManage
  let row ← firstOrFail (s.invitations[id]?.filter fun i => decide (i.organizationId = account)) "UserInvitation"
  abortIf row.acceptedAt.isSome 422 "Revoke the membership for an accepted invitation."
  .ok { s with
    invitations := s.invitations.set id { row with revokedAt := row.revokedAt.or (some around.now.toSecond) } }

end ChargingAccountInvitations

/-- The calls, and an account that is activated or not by others. -/
inductive AccountCall where
  | personal (user : Nat)
  | create (user : Nat) (name type : String)
  | update (user id : Nat) (name type : String)
  | deleteUnused (user id : Nat)
  | member (actor id subject : Nat) (role : Option ChargingAccountRole)
  | join (user inviter id : Nat) (role : ChargingAccountRole)
  | invite (actor id : Nat) (email : String) (role : ChargingAccountRole)
  | accept (actor id : Nat)
  | revoke (actor account id : Nat)
  | activated (id : Nat) (isActive : Bool)

/-- A call, the microseconds since the one before it, and what it finds of other tables. -/
structure AccountRequest where
  call : AccountCall
  elapsed : Nat
  people : Table Nat Person
  tenantActive : Bool
  referred : Nat → Bool

/-- What a call finds. -/
def AccountRequest.around (request : AccountRequest) (s : Accounts) : Surroundings :=
  ⟨s.clock + request.elapsed, request.people, request.tenantActive, request.referred⟩

def AccountCall.result (around : Surroundings) (s : Accounts) : AccountCall → Except AccountFailure Accounts
  | personal user => (ChargingAccounts.personal around user s).map Prod.snd
  | create user name type => (ChargingAccounts.create around user name type s).map Prod.snd
  | update user id name type => ChargingAccounts.update around user id name type s
  | deleteUnused user id => ChargingAccounts.deleteUnused around user id s
  | member actor id subject role => ChargingAccounts.member around actor id subject role s
  | join user inviter id role => ChargingAccounts.join around user inviter id role s
  | invite actor id email role => ChargingAccountInvitations.invite around actor id email role s
  | accept actor id => ChargingAccountInvitations.accept around actor id s
  | revoke actor account id => ChargingAccountInvitations.revoke around actor account id s
  | activated id isActive => .ok { s with accounts := s.accounts.update id fun a => { a with isActive } }

/-- The tables after a request; a call that throws is rolled back. -/
def nextAccounts (request : AccountRequest) (s : Accounts) : Accounts :=
  { (request.call.result (request.around s) s).toOption.getD s with clock := (request.around s).now }

end VtsaCsms.Identity
