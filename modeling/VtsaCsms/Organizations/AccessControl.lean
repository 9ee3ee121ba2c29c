import VtsaCsms.Foundation.Action
import VtsaCsms.Foundation.Php
import VtsaCsms.Foundation.Table

/-!
# Access control

`AuthorizationService.php` and `RoleAssignmentService.php` with `PermissionKey.php` and `ResourceScope.php`:
permissions are held through the roles assigned to a membership, at the scope of each assignment. Reasons
and audit are left out.
-/
namespace VtsaCsms.Organizations
open Foundation Foundation.Action

inductive PermissionKey where
  | chargingAccountView | chargingMembersManage | chargingVehiclesManage | chargingWalletView
  | chargingWalletFund | chargingLimitsManage | chargingAccountCharge | chargingHistoryView
  | chargingSessionControl | identityContextView | kycView | kycReview | kycSensitiveView | kycSettingsManage
  | platformPanelAccess | operatorPanelAccess | membershipView | membershipManage | invitationManage | roleView
  | roleManage | roleAssign | tokenIssue | tokenRevoke | sessionView | sessionRevoke | auditView | auditExport
  | tenantSettingsView | tenantSettingsManage | organizationView | organizationManage | locationView
  | locationManage | assetView | assetManage | chargingSessionView | chargingRemoteCommand
  | chargingSessionReview | tariffView | tariffManage | tariffPublish | paymentView | paymentRefund
  | billingView | settlementView | settlementPrepare | settlementApprove | procurementView | procurementManage
  | procurementApprove | inventoryView | inventoryOperate | inventoryAdjust | maintenanceView
  | maintenanceDispatch | maintenancePerform | maintenanceVerify | supportView | supportManage
  | supportSensitiveReveal | reportingView | reportingExport | cmsEdit | cmsPublish | integrationView
  | integrationManage
  deriving DecidableEq, Repr

namespace PermissionKey

def value : PermissionKey → String
  | chargingAccountView => "organizations.charging_accounts.view"
  | chargingMembersManage => "organizations.charging_accounts.members"
  | chargingVehiclesManage => "organizations.charging_accounts.vehicles"
  | chargingWalletView => "organizations.charging_accounts.wallet_view"
  | chargingWalletFund => "organizations.charging_accounts.wallet_fund"
  | chargingLimitsManage => "organizations.charging_accounts.limits"
  | chargingAccountCharge => "organizations.charging_accounts.charge"
  | chargingHistoryView => "organizations.charging_accounts.history"
  | chargingSessionControl => "organizations.charging_accounts.control"
  | identityContextView => "identity.context.view"
  | kycView => "identity.kyc.view"
  | kycReview => "identity.kyc.review"
  | kycSensitiveView => "identity.kyc.sensitive_view"
  | kycSettingsManage => "identity.kyc.settings.manage"
  | platformPanelAccess => "identity.panels.platform.access"
  | operatorPanelAccess => "identity.panels.operator.access"
  | membershipView => "identity.memberships.view"
  | membershipManage => "identity.memberships.manage"
  | invitationManage => "identity.invitations.manage"
  | roleView => "identity.roles.view"
  | roleManage => "identity.roles.manage"
  | roleAssign => "identity.roles.assign"
  | tokenIssue => "identity.tokens.issue"
  | tokenRevoke => "identity.tokens.revoke"
  | sessionView => "identity.sessions.view"
  | sessionRevoke => "identity.sessions.revoke"
  | auditView => "audit.events.view"
  | auditExport => "audit.events.export"
  | tenantSettingsView => "tenancy.settings.view"
  | tenantSettingsManage => "tenancy.settings.manage"
  | organizationView => "organizations.view"
  | organizationManage => "organizations.manage"
  | locationView => "locations.view"
  | locationManage => "locations.manage"
  | assetView => "assets.view"
  | assetManage => "assets.manage"
  | chargingSessionView => "charging.sessions.view"
  | chargingRemoteCommand => "charging.remote_commands.execute"
  | chargingSessionReview => "charging.sessions.review"
  | tariffView => "tariffs.view"
  | tariffManage => "tariffs.manage"
  | tariffPublish => "tariffs.publish"
  | paymentView => "payments.view"
  | paymentRefund => "payments.refunds.execute"
  | billingView => "billing.view"
  | settlementView => "settlements.view"
  | settlementPrepare => "settlements.prepare"
  | settlementApprove => "settlements.approve"
  | procurementView => "procurement.view"
  | procurementManage => "procurement.manage"
  | procurementApprove => "procurement.approve"
  | inventoryView => "inventory.view"
  | inventoryOperate => "inventory.operate"
  | inventoryAdjust => "inventory.adjust"
  | maintenanceView => "maintenance.view"
  | maintenanceDispatch => "maintenance.dispatch"
  | maintenancePerform => "maintenance.perform"
  | maintenanceVerify => "maintenance.verify"
  | supportView => "support.view"
  | supportManage => "support.manage"
  | supportSensitiveReveal => "support.sensitive_reveal"
  | reportingView => "reporting.view"
  | reportingExport => "reporting.export"
  | cmsEdit => "cms.edit"
  | cmsPublish => "cms.publish"
  | integrationView => "integrations.view"
  | integrationManage => "integrations.manage"

def cases : List PermissionKey :=
  [.chargingAccountView, .chargingMembersManage, .chargingVehiclesManage, .chargingWalletView,
    .chargingWalletFund, .chargingLimitsManage, .chargingAccountCharge, .chargingHistoryView,
    .chargingSessionControl, .identityContextView, .kycView, .kycReview, .kycSensitiveView, .kycSettingsManage,
    .platformPanelAccess, .operatorPanelAccess, .membershipView, .membershipManage, .invitationManage, .roleView,
    .roleManage, .roleAssign, .tokenIssue, .tokenRevoke, .sessionView, .sessionRevoke, .auditView, .auditExport,
    .tenantSettingsView, .tenantSettingsManage, .organizationView, .organizationManage, .locationView,
    .locationManage, .assetView, .assetManage, .chargingSessionView, .chargingRemoteCommand,
    .chargingSessionReview, .tariffView, .tariffManage, .tariffPublish, .paymentView, .paymentRefund,
    .billingView, .settlementView, .settlementPrepare, .settlementApprove, .procurementView, .procurementManage,
    .procurementApprove, .inventoryView, .inventoryOperate, .inventoryAdjust, .maintenanceView,
    .maintenanceDispatch, .maintenancePerform, .maintenanceVerify, .supportView, .supportManage,
    .supportSensitiveReveal, .reportingView, .reportingExport, .cmsEdit, .cmsPublish, .integrationView,
    .integrationManage]

def tryFrom (value : String) : Option PermissionKey := cases.find? fun key => key.value = value

theorem tryFrom_some {text : String} {key : PermissionKey} (found : tryFrom text = some key) : key.value = text := by
  have matched := List.find?_some found
  exact of_decide_eq_true matched

end PermissionKey

inductive ScopeType where
  | tenant | organization | site | location | assetGroup | warehouse | supportQueue | finance
  deriving DecidableEq, Repr

/-- The tenant, or a resource with an identifier. -/
structure ResourceScope where
  type : ScopeType
  id : Option Nat
  valid : type = .tenant ↔ id = none
  deriving DecidableEq

def ResourceScope.tenant : ResourceScope := ⟨.tenant, none, by decide⟩

/-! ### Rows -/

inductive TenantStatus where
  | provisioning | active | suspended | closing | closed
  deriving DecidableEq, Repr

inductive MembershipStatus where
  | invited | active | suspended | revoked
  deriving DecidableEq, Repr

inductive OrganizationType where
  | personal | business | platform | chargePointOperator | siteHost | fleet | vendor | serviceContractor
  deriving DecidableEq, Repr

structure User where
  email : String
  emailVerifiedAt : Option Instant := none
  activatedAt : Option Instant := none
  disabledAt : Option Instant := none
  deriving DecidableEq, Repr

def User.isEnabled (user : User) : Prop := user.activatedAt ≠ none ∧ user.disabledAt = none
  deriving Decidable

structure Membership where
  tenantId : Nat
  userId : Nat
  organizationId : Option Nat
  status : MembershipStatus
  joinedAt : Instant
  expiresAt : Option Instant := none
  deriving DecidableEq, Repr

structure Role where
  tenantId : Nat
  deriving DecidableEq, Repr

structure RolePermission where
  tenantId : Nat
  roleId : Nat
  permissionKey : String
  deriving DecidableEq, Repr

structure RoleAssignment where
  tenantId : Nat
  membershipId : Nat
  roleId : Nat
  scopeType : ScopeType
  scopeId : Option Nat
  grantedByUserId : Option Nat
  expiresAt : Option Instant := none
  deriving DecidableEq, Repr

structure Organization where
  tenantId : Nat
  type : OrganizationType
  isActive : Bool
  deriving DecidableEq, Repr

structure Site where
  tenantId : Nat
  operatorOrganizationId : Option Nat
  deriving DecidableEq, Repr

structure UserInvitation where
  tenantId : Nat
  purpose : String
  organizationId : Option Nat
  roleId : Nat
  scope : ResourceScope
  email : String
  tokenHash : String
  invitedByUserId : Nat
  expiresAt : Instant
  acceptedAt : Option Instant := none
  revokedAt : Option Instant := none
  deriving DecidableEq

structure Access where
  tenants : Table Nat TenantStatus
  users : Table Nat User
  memberships : Table Nat Membership
  roles : Table Nat Role
  rolePermissions : List RolePermission
  assignments : Table Nat RoleAssignment
  organizations : Table Nat Organization
  sites : Table Nat Site
  invitations : Table Nat UserInvitation

/-- What a request throws. -/
inductive AccessFailure where
  | authorization (message : String)
  | tenantMismatch
  | validation (field message : String)
  | notFound
  | thrown (e : Throwable)
  deriving DecidableEq

abbrev AccessAction (α : Type) := Action Access AccessFailure α

def modelNotFound (model : String) : AccessFailure := .thrown (.modelNotFound model)

/-- `expires_at` is null or in the future. -/
def unexpired (now : Instant) (expiresAt : Option Instant) : Bool := expiresAt.all fun t => decide (now < t)

/-! ### Authorization -/

namespace AuthorizationService

/-- The joined row is one of the user's, in force, and its role has the permission. -/
def permissionRow (now : Instant) (tenantId userId : Nat) (permission : PermissionKey) (s : Access)
    (a : RoleAssignment) : Bool :=
  (s.memberships.get? a.membershipId).any (fun m =>
      decide (a.tenantId = m.tenantId ∧ m.tenantId = tenantId ∧ m.userId = userId ∧ m.status = .active) &&
        unexpired now m.expiresAt) &&
    unexpired now a.expiresAt &&
    s.rolePermissions.any fun p =>
      decide (p.tenantId = a.tenantId ∧ p.roleId = a.roleId ∧ p.permissionKey = permission.value)

/-- The site is operated by the organization, an active operator of the tenant. -/
def operatedBy (s : Access) (tenantId siteId : Nat) (organizationId : Option Nat) : Bool :=
  (s.sites.get? siteId).any fun site =>
    decide (site.tenantId = tenantId ∧ site.operatorOrganizationId = organizationId) &&
      (site.operatorOrganizationId.bind s.organizations.get?).any fun organization =>
        decide (organization.tenantId = site.tenantId ∧ organization.type = .chargePointOperator ∧
          organization.isActive = true)

def applyResourceScope (s : Access) (resourceScope : Option ResourceScope) (a : RoleAssignment) : Bool :=
  match resourceScope with
  | none => decide (a.scopeType = .tenant)
  | some resource =>
    if resource.type = .tenant then decide (a.scopeType = .tenant)
    else
      decide (a.scopeType = .tenant) || decide (a.scopeType = resource.type ∧ a.scopeId = resource.id) ||
        decide (resource.type = .site) && decide (a.scopeType = .organization) &&
          resource.id.any fun siteId => operatedBy s a.tenantId siteId a.scopeId

def allows (now : Instant) (tenantId userId : Nat) (permission : PermissionKey)
    (resourceScope : Option ResourceScope) (s : Access) : Bool :=
  (s.users.get? userId).any (fun user => decide user.isEnabled) &&
    decide (s.tenants.get? tenantId = some .active) &&
    s.assignments.exists? fun _ a =>
      permissionRow now tenantId userId permission s a && applyResourceScope s resourceScope a

end AuthorizationService

/-- The user may delegate the permission of that name. -/
def mayDelegate (now : Instant) (tenantId userId : Nat) (scope : ResourceScope) (s : Access) (key : String) : Bool :=
  (PermissionKey.tryFrom key).any fun permission =>
    AuthorizationService.allows now tenantId userId permission (some scope) s

def rolePermissionKeys (tenantId roleId : Nat) (s : Access) : List String :=
  (s.rolePermissions.filter fun p => decide (p.tenantId = tenantId ∧ p.roleId = roleId)).map
    RolePermission.permissionKey

def findOrganization (tenantId : Nat) (id : Option Nat) : AccessAction Organization := do
  let found ← read fun s => (id.bind s.organizations.get?).filter fun o => o.tenantId = tenantId
  orThrow found (modelNotFound "Organization")

def findSite (tenantId : Nat) (id : Option Nat) : AccessAction Site := do
  let found ← read fun s => (id.bind s.sites.get?).filter fun site => site.tenantId = tenantId
  orThrow found (modelNotFound "Site")

/-! ### Assignment -/

namespace RoleAssignmentService

def assign (now : Instant) (tenantId actorId membershipId roleId : Nat) (scope : ResourceScope)
    (expiresAt : Option Instant) : AccessAction Unit := do
  let loaded ← read fun s => s.memberships.get? membershipId
  let membership ← orThrow loaded (modelNotFound "Membership")
  let loaded ← read fun s => s.roles.get? roleId
  let role ← orThrow loaded (modelNotFound "Role")
  throwIf (tenantId ≠ membership.tenantId ∨ tenantId ≠ role.tenantId) .tenantMismatch
  let permitted ← read (AuthorizationService.allows now tenantId actorId .roleAssign (some scope))
  throwIf (permitted = false) (.authorization "Role assignment is not permitted.")
  let delegable ← read fun s => (rolePermissionKeys tenantId roleId s).all (mayDelegate now tenantId actorId scope s)
  throwIf (delegable = false) (.authorization "A grantor cannot delegate authority they do not hold.")
  doIf (scope.type = .organization) do
    let _ ← findOrganization tenantId scope.id
  doIf (scope.type = .site) do
    let _ ← findSite tenantId scope.id
  write fun s => { s with
    assignments := s.assignments.create
      { tenantId, membershipId, roleId, scopeType := scope.type, scopeId := scope.id
        grantedByUserId := some actorId, expiresAt } }

end RoleAssignmentService
end VtsaCsms.Organizations
