import VtsaCsms.Organizations.AccessControl

/-!
# Delegated permissions

Which rows a call may add so that nobody gets a permission on a resource that the grantor does not hold
there; an assignment is such a call.
-/
namespace VtsaCsms.Organizations
open Foundation Foundation.Action AuthorizationService

/-! ### Scopes -/

variable {s s' : Access} {resource : Option ResourceScope} {a : RoleAssignment} {scope : ResourceScope}
  {now : Instant} {tenantId userId : Nat} {permission : PermissionKey}

theorem applyResourceScope_some {resource : ResourceScope} :
    applyResourceScope s (some resource) a = true ↔
      a.scopeType = .tenant ∨ (a.scopeType = resource.type ∧ a.scopeId = resource.id) ∨
        (resource.type = .site ∧ a.scopeType = .organization ∧
          ∃ siteId, resource.id = some siteId ∧ operatedBy s a.tenantId siteId a.scopeId = true) := by
  unfold applyResourceScope
  by_cases whole : resource.type = .tenant
  · simp only [whole, if_true, decide_eq_true_eq, reduceCtorEq, false_and, or_false]
    exact ⟨Or.inl, fun given => given.elim id And.left⟩
  · simp only [whole, if_false, Bool.or_eq_true, Bool.and_eq_true, decide_eq_true_eq, Option.any_eq_true, or_assoc,
      and_assoc]

theorem applyResourceScope_covers
    {b : RoleAssignment} (tenant : a.tenantId = b.tenantId) (type : a.scopeType = scope.type)
    (scopeId : a.scopeId = scope.id) (held : applyResourceScope s (some scope) b = true)
    (reaches : applyResourceScope s resource a = true) : applyResourceScope s resource b = true := by
  obtain whole | ⟨type', scopeId'⟩ | ⟨site, organization, siteId, site', operated⟩ := applyResourceScope_some.mp held
  · cases resource with
    | none => exact decide_eq_true whole
    | some => exact applyResourceScope_some.mpr (Or.inl whole)
  · have same : applyResourceScope s resource b = applyResourceScope s resource a := by
      unfold applyResourceScope
      rw [type', scopeId', ← type, ← scopeId, tenant]
    rw [same]
    exact reaches
  · have only : a.scopeType = .site := type.trans site
    cases resource with
    | none => exact absurd (only.symm.trans (of_decide_eq_true reaches)) (by decide)
    | some resource =>
      obtain whole | ⟨here, named⟩ | ⟨-, organization', -⟩ := applyResourceScope_some.mp reaches
      · exact absurd (only.symm.trans whole) (by decide)
      · have resourceId : resource.id = some siteId := named.symm.trans (scopeId.trans site')
        exact applyResourceScope_some.mpr
          (Or.inr (Or.inr ⟨here.symm.trans only, organization, siteId, resourceId, operated⟩))
      · exact absurd (only.symm.trans organization') (by decide)

/-! ### What a call adds -/

theorem allows_iff :
    allows now tenantId userId permission resource s = true ↔
      ((∃ user, s.users.get? userId = some user ∧ user.isEnabled) ∧ s.tenants.get? tenantId = some .active) ∧
        ∃ key a, s.assignments.get? key = some a ∧ permissionRow now tenantId userId permission s a = true ∧
          applyResourceScope s resource a = true := by
  unfold allows
  simp only [Bool.and_eq_true, decide_eq_true_eq, Table.exists?_iff]
  rw [Option.any_eq_true]
  simp

theorem permissionRow_tenant
    (row : permissionRow now tenantId userId permission s a = true) : a.tenantId = tenantId := by
  unfold permissionRow at row
  simp only [Bool.and_eq_true, Option.any_eq_true, decide_eq_true_eq] at row
  obtain ⟨⟨⟨m, -, ⟨here, tenant, -⟩, -⟩, -⟩, -⟩ := row
  exact here.trans tenant

/-- The rows of a call that adds at most one assignment, and nothing to what the others give. -/
structure Adds (added : Option RoleAssignment) (s s' : Access) : Prop where
  tenants : s'.tenants = s.tenants
  organizations : s'.organizations = s.organizations
  sites : s'.sites = s.sites
  rolePermissions : s'.rolePermissions = s.rolePermissions
  assignments : ∀ key a, s'.assignments.get? key = some a → s.assignments.get? key = some a ∨ added = some a
  kept : ∀ now tenantId userId permission key a, s.assignments.get? key = some a →
    permissionRow now tenantId userId permission s' a = true →
      permissionRow now tenantId userId permission s a = true ∧
        ((∃ user, s'.users.get? userId = some user ∧ user.isEnabled) →
          ∃ user, s.users.get? userId = some user ∧ user.isEnabled)

theorem Adds.cases {added : Option RoleAssignment} (adds : Adds added s s')
    (allowed : allows now tenantId userId permission resource s' = true) :
    allows now tenantId userId permission resource s = true ∨
      ∃ a, added = some a ∧ permissionRow now tenantId userId permission s' a = true ∧
        applyResourceScope s resource a = true := by
  obtain ⟨⟨enabled, active⟩, key, a, stored, row, reaches⟩ := allows_iff.mp allowed
  have reaches' : applyResourceScope s resource a = true := by
    unfold applyResourceScope operatedBy at reaches ⊢
    rw [adds.sites, adds.organizations] at reaches
    exact reaches
  obtain old | new := adds.assignments key a stored
  · obtain ⟨row', enabled'⟩ := adds.kept now tenantId userId permission key a old row
    rw [adds.tenants] at active
    exact Or.inl (allows_iff.mpr ⟨⟨enabled' enabled, active⟩, key, a, old, row', reaches'⟩)
  · exact Or.inr ⟨a, new, row, reaches'⟩

/-- A grantor who may delegate every permission of the role holds whatever the assignment gives. -/
theorem Adds.held (adds : Adds (some a) s s') {grantorId : Nat} (tenant : a.tenantId = tenantId)
    (type : a.scopeType = scope.type) (scopeId : a.scopeId = scope.id)
    (delegable : (rolePermissionKeys tenantId a.roleId s).all (mayDelegate now tenantId grantorId scope s) = true)
    {tenantId' : Nat} (allowed : allows now tenantId' userId permission resource s' = true) :
    allows now tenantId' userId permission resource s = true ∨
      allows now tenantId' grantorId permission resource s = true := by
  obtain old | ⟨a', new, row, reaches⟩ := adds.cases allowed
  · exact Or.inl old
  · cases new
    have same : tenantId' = tenantId := (permissionRow_tenant row).symm.trans tenant
    subst same
    unfold permissionRow at row
    simp only [Bool.and_eq_true, List.any_eq_true, decide_eq_true_eq] at row
    obtain ⟨-, p, granted, inTenant, ofRole, key⟩ := row
    rw [adds.rolePermissions] at granted
    have listed : permission.value ∈ rolePermissionKeys tenantId' a.roleId s := by
      refine List.mem_map.mpr ⟨p, List.mem_filter.mpr ⟨granted, ?_⟩, key⟩
      exact decide_eq_true ⟨inTenant.trans tenant, ofRole⟩
    have may := List.all_eq_true.mp delegable _ listed
    obtain ⟨permission', found, held⟩ := (Option.any_eq_true _ _).mp may
    obtain ⟨enabled, key', b, stored, row', covers⟩ := allows_iff.mp held
    have row : permissionRow now tenantId' grantorId permission s b = true := by
      unfold permissionRow at row' ⊢
      rw [PermissionKey.tryFrom_some found] at row'
      exact row'
    refine Or.inr (allows_iff.mpr ⟨enabled, key', b, stored, row, ?_⟩)
    exact applyResourceScope_covers (tenant.trans (permissionRow_tenant row).symm) type scopeId covers reaches

/-! ### Assignments -/

theorem keeps_findOrganization (tenantId : Nat) (id' : Option Nat) : Keeps id (findOrganization tenantId id') :=
  (keeps_read _).bind fun _ => keeps_orThrow _ _

theorem keeps_findSite (tenantId : Nat) (id' : Option Nat) : Keeps id (findSite tenantId id') :=
  (keeps_read _).bind fun _ => keeps_orThrow _ _

theorem keeps_checkIf {c : Prop} [Decidable c] {α : Type} {m : AccessAction α} (silent : Keeps id m) :
    Keeps id (doIf c (do let _ ← m)) := by
  unfold doIf
  exact Keeps.ite (silent.bind fun _ => keeps_pure _) (keeps_pure _)

/-- An assignment that goes through. -/
structure Assigns (now : Instant) (tenantId actorId membershipId roleId : Nat) (scope : ResourceScope)
    (expiresAt : Option Instant) (s s' : Access) : Prop where
  member : ∃ m, s.memberships.get? membershipId = some m ∧ m.tenantId = tenantId
  delegable : (rolePermissionKeys tenantId roleId s).all (mayDelegate now tenantId actorId scope s) = true
  left : s' = { s with
    assignments := s.assignments.create
      { tenantId, membershipId, roleId, scopeType := scope.type, scopeId := scope.id
        grantedByUserId := some actorId, expiresAt } }

theorem assign_cases (now : Instant) (tenantId actorId membershipId roleId : Nat) (scope : ResourceScope)
    (expiresAt : Option Instant) (s : Access) :
    after (RoleAssignmentService.assign now tenantId actorId membershipId roleId scope expiresAt) s = s ∨
      Assigns now tenantId actorId membershipId roleId scope expiresAt s
        (after (RoleAssignmentService.assign now tenantId actorId membershipId roleId scope expiresAt) s) := by
  have atomic : Atomic (RoleAssignmentService.assign now tenantId actorId membershipId roleId scope expiresAt) := by
    unfold RoleAssignmentService.assign
    refine (keeps_read _).atomic_bind fun _ => (keeps_orThrow _ _).atomic_bind fun _ => ?_
    refine (keeps_read _).atomic_bind fun _ => (keeps_orThrow _ _).atomic_bind fun _ => ?_
    refine (keeps_throwIf _ _).atomic_bind fun _ => (keeps_read _).atomic_bind fun _ => ?_
    refine (keeps_throwIf _ _).atomic_bind fun _ => (keeps_read _).atomic_bind fun _ => ?_
    refine (keeps_throwIf _ _).atomic_bind fun _ => ?_
    refine (keeps_checkIf (keeps_findOrganization _ _)).atomic_bind fun _ => ?_
    exact (keeps_checkIf (keeps_findSite _ _)).atomic_bind fun _ => atomic_write _
  obtain ⟨unchanged, -⟩ | success := after_cases atomic s
  · exact Or.inl unchanged
  · generalize after (RoleAssignmentService.assign now tenantId actorId membershipId roleId scope expiresAt) s = s'
      at success ⊢
    unfold RoleAssignmentService.assign at success
    simp only [returns_bind, returns_read, returns_orThrow, returns_throwIf, returns_write] at success
    obtain ⟨_, _, ⟨rfl, rfl⟩, m, _, ⟨member, rfl⟩, _, _, ⟨rfl, rfl⟩, role, _, ⟨-, rfl⟩, _, _, ⟨same, rfl⟩, _, _,
      ⟨rfl, rfl⟩, _, _, ⟨-, rfl⟩, _, _, ⟨rfl, rfl⟩, _, _, ⟨delegable, rfl⟩, _, s₁, organization, _, s₂, site, rfl⟩ := success
    obtain rfl := (keeps_checkIf (keeps_findOrganization _ _)).returns organization
    obtain rfl := (keeps_checkIf (keeps_findSite _ _)).returns site
    push Not at same
    exact Or.inr ⟨⟨m, member, same.1.symm⟩, by simpa using delegable, rfl⟩

/-! ### Rows of the accounts -/

/-- Every user was activated when the account was made, and rows refer to rows there are. -/
structure Sound (s : Access) : Prop where
  activated : ∀ id user, s.users.get? id = some user → user.activatedAt ≠ none
  members : ∀ id m, s.memberships.get? id = some m → ∃ user, s.users.get? m.userId = some user
  assigned : ∀ key a, s.assignments.get? key = some a → ∃ m, s.memberships.get? a.membershipId = some m

/-- No user becomes enabled, and no membership comes into force, that was there before. -/
structure Unraised (s s' : Access) : Prop where
  users : ∀ id user', s'.users.get? id = some user' →
    (∃ user, s.users.get? id = some user ∧ (user'.isEnabled → user.isEnabled)) ∨ s.users.get? id = none
  memberships : ∀ id m', s'.memberships.get? id = some m' →
    (∃ m, s.memberships.get? id = some m ∧ m'.tenantId = m.tenantId ∧ m'.userId = m.userId ∧
      m'.expiresAt = m.expiresAt ∧ (m'.status = .active → m.status = .active)) ∨ s.memberships.get? id = none

theorem Unraised.adds {added : Option RoleAssignment} (unraised : Unraised s s') (sound : Sound s)
    (tenants : s'.tenants = s.tenants) (organizations : s'.organizations = s.organizations) (sites : s'.sites = s.sites)
    (rolePermissions : s'.rolePermissions = s.rolePermissions)
    (assignments : ∀ key a, s'.assignments.get? key = some a → s.assignments.get? key = some a ∨ added = some a) :
    Adds added s s' := by
  refine ⟨tenants, organizations, sites, rolePermissions, assignments, ?_⟩
  intro now tenantId userId permission key a stored row
  obtain ⟨m, member⟩ := sound.assigned key a stored
  obtain ⟨user, known⟩ := sound.members _ m member
  unfold permissionRow at row ⊢
  simp only [Bool.and_eq_true, Option.any_eq_true, decide_eq_true_eq] at row ⊢
  rw [rolePermissions] at row
  obtain ⟨⟨⟨m', member', ⟨here, inTenant, isUser, active⟩, unexpired⟩, inForce⟩, granted⟩ := row
  obtain ⟨m₀, member₀, tenant, owner, expires, status⟩ | absent := unraised.memberships _ m' member'
  · cases member.symm.trans member₀
    refine ⟨⟨⟨⟨m, member, ⟨here.trans tenant, tenant.symm.trans inTenant, owner.symm.trans isUser, status active⟩,
      expires ▸ unexpired⟩, inForce⟩, granted⟩, ?_⟩
    rintro ⟨user', stored', enabled⟩
    obtain ⟨user₀, stored₀, before⟩ | absent := unraised.users userId user' stored'
    · exact ⟨user₀, stored₀, before enabled⟩
    · rw [← isUser, owner, known] at absent
      cases absent
  · rw [member] at absent
    cases absent

theorem Assigns.adds {actorId membershipId roleId : Nat} {expiresAt : Option Instant}
    (assigns : Assigns now tenantId actorId membershipId roleId scope expiresAt s s') (sound : Sound s) :
    Adds (some { tenantId, membershipId, roleId, scopeType := scope.type, scopeId := scope.id
                 grantedByUserId := some actorId, expiresAt }) s s' := by
  obtain ⟨-, -, rfl⟩ := assigns
  refine Unraised.adds ⟨?_, ?_⟩ sound rfl rfl rfl rfl ?_
  · exact fun id user' stored => Or.inl ⟨user', stored, fun enabled => enabled⟩
  · exact fun id m' stored => Or.inl ⟨m', stored, rfl, rfl, rfl, fun active => active⟩
  · intro key a stored
    obtain ⟨-, rfl⟩ | old := Table.get?_create_cases stored
    · exact Or.inr rfl
    · exact Or.inl old

end VtsaCsms.Organizations
