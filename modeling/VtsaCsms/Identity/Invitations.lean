import VtsaCsms.Organizations.AccessControl

/-!
# Invitations and accounts

`InvitationService.php`, what `RegistrationController.php` and `ConsumerEnrollment.php` store, and
`AccountLifecycleService.php`. Names, passwords, notifications and audit are left out: whether the name
and the password of a new account are valid is read from outside.
-/
namespace VtsaCsms.Identity
open Foundation Foundation.Action Organizations

def canBeAccepted (now : Instant) (invitation : UserInvitation) : Prop :=
  invitation.acceptedAt = none ∧ invitation.revokedAt = none ∧ now < invitation.expiresAt
  deriving Decidable

namespace InvitationService

def validateScope (tenantId : Nat) (scope : ResourceScope) : AccessAction Unit :=
  match scope.type with
  | .tenant => pure ()
  | .organization => do
    let _ ← findOrganization tenantId scope.id
  | .site => do
    let _ ← findSite tenantId scope.id
  | _ => raise (.authorization "Invitation scope is not supported.")

/-- The keys of the role are in the catalogue of permissions, so the join with it keeps them all. -/
def assertGrantable (now : Instant) (tenantId actorId roleId : Nat) (scope : ResourceScope) : AccessAction Unit := do
  let loaded ← read fun s => s.roles.get? roleId
  let role ← orThrow loaded (modelNotFound "Role")
  throwIf (role.tenantId ≠ tenantId) .notFound
  let permitted ← read (AuthorizationService.allows now tenantId actorId .invitationManage (some scope))
  throwIf (permitted = false) (.authorization "Invitation management is not permitted.")
  validateScope tenantId scope
  let delegable ← read fun s => (rolePermissionKeys tenantId roleId s).all (mayDelegate now tenantId actorId scope s)
  throwIf (delegable = false) (.authorization "You cannot invite someone with permissions you do not hold.")

/-- `email` is folded and valid. -/
def invite (now : Instant) (tenantId actorId : Nat) (email : String) (organizationId : Option Nat) (roleId : Nat)
    (scope : ResourceScope) (tokenHash : String) : AccessAction Unit := do
  let permitted ← read (AuthorizationService.allows now tenantId actorId .invitationManage (some scope))
  throwIf (permitted = false) (.authorization "Invitation creation is not permitted.")
  let organization ← read fun s => organizationId.bind s.organizations.get?
  let outside ← read fun s => (s.roles.get? roleId).any (fun role => decide (role.tenantId ≠ tenantId)) ||
    organization.any fun o => decide (o.tenantId ≠ tenantId)
  throwIf (outside = true) (.authorization "Invitation target is outside the tenant.")
  assertGrantable now tenantId actorId roleId scope
  throwIf (organization.any (fun o => !o.isActive) = true) (.validation "organization_id" "Choose an active organization.")
  let taken ← read fun s => s.invitations.exists? fun _ i => i.tokenHash = tokenHash
  throwIf (taken = true) (.thrown (.uniqueConstraint "user_invitations_token_hash_unique"))
  write fun s => { s with
    invitations := s.invitations.create
      { tenantId, purpose := "tenant", organizationId, roleId, scope, email, tokenHash, invitedByUserId := actorId
        expiresAt := Instant.addSeconds now (7 * 86400) } }

def invalidToken (message : String) : AccessFailure := .validation "token" message

/-- The account of the invitation: the one with its address, or a new one. -/
def account (now : Instant) (email : String) (existing : Option (Nat × User)) (validAccount : Bool) :
    AccessAction Nat := do
  match existing with
  | some (userId, _) => do
    write fun s => { s with
      users := s.users.update userId fun user => { user with
        emailVerifiedAt := some (user.emailVerifiedAt.getD now), activatedAt := some (user.activatedAt.getD now) } }
    pure userId
  | none => do
    throwIf (validAccount = false) (.validation "password" "The name and the password are required.")
    let userId ← read fun s => s.users.nextId
    write fun s => { s with
      users := s.users.create { email, emailVerifiedAt := some now, activatedAt := some now } }
    pure userId

/-- The membership of the account, as it was or new. -/
def join (now : Instant) (invitation : UserInvitation) (userId : Nat) (previous : Option (Nat × Membership)) :
    AccessAction Nat := do
  match previous with
  | some (membershipId, _) => do
    write fun s => { s with
      memberships := s.memberships.update membershipId fun m => { m with
        organizationId := invitation.organizationId, status := .active, joinedAt := now } }
    pure membershipId
  | none => do
    let membershipId ← read fun s => s.memberships.nextId
    write fun s => { s with
      memberships := s.memberships.create
        { tenantId := invitation.tenantId, userId, organizationId := invitation.organizationId, status := .active
          joinedAt := now } }
    pure membershipId

/-- `firstOrCreate`: an assignment that is there stays as it is. -/
def grant (invitation : UserInvitation) (membershipId : Nat) : AccessAction Unit := do
  let there ← read fun s => s.assignments.exists? fun _ a =>
    decide (a.tenantId = invitation.tenantId ∧ a.membershipId = membershipId ∧ a.roleId = invitation.roleId ∧
      a.scopeType = invitation.scope.type ∧ a.scopeId = invitation.scope.id)
  doIf (there = false) <| write fun s => { s with
    assignments := s.assignments.create
      { tenantId := invitation.tenantId, membershipId, roleId := invitation.roleId
        scopeType := invitation.scope.type, scopeId := invitation.scope.id
        grantedByUserId := some invitation.invitedByUserId } }

/-- The transaction of an acceptance. -/
def acceptLocked (now : Instant) (row : Nat × UserInvitation) (existing : Option (Nat × User)) (validAccount : Bool) :
    AccessAction Unit := do
  let invitation := row.2
  let grantor ← read fun s => s.users.get? invitation.invitedByUserId
  throwIf (grantor = none) (invalidToken "Ask the administrator for a new invitation.")
  assertGrantable now invitation.tenantId invitation.invitedByUserId invitation.roleId invitation.scope
  let organization ← read fun s => invitation.organizationId.bind s.organizations.get?
  throwIf (organization.any (fun o => !o.isActive) = true) (invalidToken "This organization is inactive.")
  throwIf (existing.any (fun user => user.2.disabledAt.isSome) = true)
    (invalidToken "Contact your administrator to restore this account.")
  let previous ← read fun s => existing.bind fun user =>
    s.memberships.first? fun _ m => decide (m.tenantId = invitation.tenantId ∧ m.userId = user.1)
  throwIf (previous.any (fun m => decide (m.2.status ≠ .active ∨ m.2.organizationId ≠ invitation.organizationId)) = true)
    (invalidToken "An administrator must review the existing membership before changing access.")
  let userId ← account now invitation.email existing validAccount
  let membershipId ← join now invitation userId previous
  grant invitation membershipId
  write fun s => { s with
    invitations := s.invitations.update row.1 fun i => { i with acceptedAt := some now } }

def accept (now : Instant) (tokenHash : String) (hasCredentials validAccount : Bool) : AccessAction Unit := do
  let found ← read fun s => s.invitations.first? fun _ i => decide (i.tokenHash = tokenHash ∧ i.purpose = "tenant")
  let row ← orThrow found (invalidToken "The invitation is invalid or expired.")
  throwIf (¬ canBeAccepted now row.2) (invalidToken "The invitation is invalid or expired.")
  let existing ← read fun s => s.users.first? fun _ user => user.email = row.2.email
  throwIf (existing = none ∧ hasCredentials = false)
    (.validation "password" "A name and password are required for a new account.")
  transaction (acceptLocked now row existing validAccount)

end InvitationService

/-! ### Accounts -/

/-- A registered user is activated, and a member of the organization that `ConsumerEnrollment::scope` answers. -/
def register (now : Instant) (email : String) (tenantId : Nat) (scope : Option (Nat × Nat)) : AccessAction Unit := do
  let enrollment ← orThrow scope .notFound
  transaction do
    let taken ← read fun s => s.users.exists? fun _ user => user.email = email
    throwIf (taken = true) (.validation "email" "The email has already been taken.")
    let userId ← read fun s => s.users.nextId
    write fun s => { s with users := s.users.create { email, activatedAt := some now } }
    let membershipId ← read fun s => s.memberships.nextId
    write fun s => { s with
      memberships := s.memberships.create
        { tenantId, userId, organizationId := some enrollment.1, status := .active, joinedAt := now } }
    write fun s => { s with
      assignments := s.assignments.create
        { tenantId, membershipId, roleId := enrollment.2, scopeType := .organization, scopeId := some enrollment.1
          grantedByUserId := none } }

namespace AccountLifecycleService

def authorize (now : Instant) (tenantId actorId : Nat) : AccessAction Unit := do
  let permitted ← read (AuthorizationService.allows now tenantId actorId .membershipManage (some ResourceScope.tenant))
  throwIf (permitted = false) (.authorization "Global account lifecycle management is not permitted.")

def activate (now : Instant) (tenantId actorId subjectId : Nat) : AccessAction Unit := do
  authorize now tenantId actorId
  write fun s => { s with
    users := s.users.update subjectId fun user => { user with activatedAt := some now, disabledAt := none } }

def suspend (now : Instant) (tenantId actorId subjectId : Nat) : AccessAction Unit := do
  authorize now tenantId actorId
  write fun s => { s with users := s.users.update subjectId fun user => { user with disabledAt := some now } }

end AccountLifecycleService
end VtsaCsms.Identity
