import VtsaCsms.Identity.Delegation

/-!
# What an accepted invitation grants

Whether the account of an accepted invitation holds the permissions of the invited role right after, where the
membership or an assignment of that role may be there already and may have expired.
-/
namespace VtsaCsms.Identity
open Foundation Foundation.Action Organizations AuthorizationService

def invitationOf (tokenHash : String) (s : Access) : Option (Nat × UserInvitation) :=
  s.invitations.first? fun _ i => decide (i.tokenHash = tokenHash ∧ i.purpose = "tenant")

/-- The account with the address, or the one that is made for it. -/
def accountOf (email : String) (s : Access) : Nat :=
  ((s.users.first? fun _ user => user.email = email).map Prod.fst).getD s.users.nextId

/-- The membership an invited account has already. -/
def membershipOf (invitation : UserInvitation) (s : Access) : Option (Nat × Membership) :=
  (s.users.first? fun _ user => user.email = invitation.email).bind fun user =>
    s.memberships.first? fun _ m => decide (m.tenantId = invitation.tenantId ∧ m.userId = user.1)

/-- The assignment that `firstOrCreate` takes for the one of the invitation. -/
def sameGrant (invitation : UserInvitation) (membershipId : Nat) (a : RoleAssignment) : Bool :=
  decide (a.tenantId = invitation.tenantId ∧ a.membershipId = membershipId ∧ a.roleId = invitation.roleId ∧
    a.scopeType = invitation.scope.type ∧ a.scopeId = invitation.scope.id)

/-- The user holds every permission of the invited role at the scope of the invitation. -/
def Holds (now : Instant) (invitation : UserInvitation) (userId : Nat) (s : Access) : Prop :=
  (rolePermissionKeys invitation.tenantId invitation.roleId s).all
    (mayDelegate now invitation.tenantId userId invitation.scope s) = true

/-- The membership of the account, if it has one, is unexpired, and so is an assignment of the role at the scope to
it, if there is one. -/
def Unexpired (now : Instant) (invitation : UserInvitation) (s : Access) : Prop :=
  ∀ found, membershipOf invitation s = some found → unexpired now found.2.expiresAt = true ∧
    ((s.assignments.exists? fun _ a => sameGrant invitation found.1 a) = true →
      (s.assignments.exists? fun _ a => sameGrant invitation found.1 a && unexpired now a.expiresAt) = true)

/-! ### What an acceptance leaves -/

/-- The rows before and after an acceptance that goes through. -/
structure Settled (now : Instant) (invitation : UserInvitation) (membershipId : Nat) (m : Membership)
    (s s' : Access) : Prop where
  tenants : s'.tenants = s.tenants
  rolePermissions : s'.rolePermissions = s.rolePermissions
  sites : s'.sites = s.sites
  organizations : s'.organizations = s.organizations
  active : s.tenants.get? invitation.tenantId = some .active
  known : ∀ key ∈ rolePermissionKeys invitation.tenantId invitation.roleId s,
    ∃ permission, PermissionKey.tryFrom key = some permission
  enabled : ∃ user, s'.users.get? (accountOf invitation.email s) = some user ∧ user.isEnabled
  undisabled : ∀ user, s.users.get? (accountOf invitation.email s) = some user → user.disabledAt = none
  member : s'.memberships.get? membershipId = some m ∧ m.tenantId = invitation.tenantId ∧
    m.userId = accountOf invitation.email s ∧ m.status = .active
  previous : (membershipOf invitation s = none ∧ s.memberships.get? membershipId = none ∧ m.expiresAt = none) ∨
    ∃ m₀, membershipOf invitation s = some (membershipId, m₀) ∧ s.memberships.get? membershipId = some m₀ ∧
      m₀.tenantId = m.tenantId ∧ m₀.userId = m.userId ∧ m₀.status = m.status ∧ m₀.expiresAt = m.expiresAt
  others : ∀ k, k ≠ membershipId → s'.memberships.get? k = s.memberships.get? k
  assignments : ((s.assignments.exists? fun _ a => sameGrant invitation membershipId a) = true ∧
      s'.assignments = s.assignments) ∨
    ((s.assignments.exists? fun _ a => sameGrant invitation membershipId a) = false ∧
      s'.assignments = s.assignments.create (invited invitation membershipId))

variable {now : Instant} {s s' : Access} {invitation : UserInvitation} {membershipId : Nat} {m : Membership}

theorem assertGrantable_grants {tenantId actorId roleId : Nat} {scope : ResourceScope} {u : Unit}
    (success : Returns (InvitationService.assertGrantable now tenantId actorId roleId scope) s u s') :
    s.tenants.get? tenantId = some .active ∧
      ∀ key ∈ rolePermissionKeys tenantId roleId s, ∃ permission, PermissionKey.tryFrom key = some permission := by
  have delegable := assertGrantable_delegable success
  unfold InvitationService.assertGrantable at success
  simp only [returns_bind, returns_read, returns_orThrow, returns_throwIf] at success
  obtain ⟨_, _, ⟨rfl, rfl⟩, _, _, ⟨-, rfl⟩, _, _, ⟨-, rfl⟩, _, _, ⟨rfl, rfl⟩, _, _, ⟨permitted, -⟩, -⟩ := success
  refine ⟨?_, fun key listed => ?_⟩
  · rw [Bool.not_eq_false] at permitted
    exact (allows_iff.mp permitted).1.2
  · obtain ⟨permission, found, -⟩ := (Option.any_eq_true _ _).mp (List.all_eq_true.mp delegable key listed)
    exact ⟨permission, found⟩

theorem grant_left {u : Unit} (success : Returns (InvitationService.grant invitation membershipId) s u s') :
    ((s.assignments.exists? fun _ a => sameGrant invitation membershipId a) = true ∧ s' = s) ∨
      ((s.assignments.exists? fun _ a => sameGrant invitation membershipId a) = false ∧
        s' = { s with assignments := s.assignments.create (invited invitation membershipId) }) := by
  unfold InvitationService.grant at success
  simp only [returns_bind, returns_read, returns_doIf, returns_write] at success
  obtain ⟨there, _, ⟨rfl, rfl⟩, ⟨none', left⟩ | ⟨some', left⟩⟩ := success
  · exact Or.inr ⟨none', left⟩
  · exact Or.inl ⟨Bool.not_eq_false _ ▸ some', left⟩

theorem account_enabled {email : String} {existing : Option (Nat × User)} {validAccount : Bool} {userId : Nat}
    (lookup : existing = s.users.first? fun _ user => user.email = email)
    (undisabled : ∀ user, existing = some (userId, user) → user.disabledAt = none)
    (account : Returns (InvitationService.account now email existing validAccount) s userId s') :
    userId = accountOf email s ∧ (∃ user, s'.users.get? userId = some user ∧ user.isEnabled) ∧
      (∀ user, s.users.get? userId = some user → user.disabledAt = none) ∧ s' = { s with users := s'.users } := by
  unfold accountOf
  rw [← lookup]
  obtain ⟨user, known, rfl⟩ | ⟨new, rfl, rfl⟩ := account_returns account
  · have stored : s.users.get? userId = some user := (Table.first?_some (lookup.symm.trans known)).1
    have fine := undisabled user known
    have updated := (Table.get?_update_self s.users userId fun user => { user with
      emailVerifiedAt := some (user.emailVerifiedAt.getD now)
      activatedAt := some (user.activatedAt.getD now) }).trans (congrArg (Option.map _) stored)
    refine ⟨by rw [known]; rfl, ⟨_, updated, Option.some_ne_none _, fine⟩, fun user' there => ?_, rfl⟩
    rw [stored] at there
    cases there
    exact fine
  · refine ⟨by rw [new]; rfl, ⟨_, Table.get?_create_self .., Option.some_ne_none _, rfl⟩, fun user there => ?_, rfl⟩
    rw [Table.get?_nextId] at there
    cases there

theorem join_member {userId : Nat} {previous : Option (Nat × Membership)}
    (lookup : ∀ found, previous = some found → s.memberships.get? found.1 = some found.2 ∧
      found.2.tenantId = invitation.tenantId ∧ found.2.userId = userId ∧ found.2.status = .active)
    (join : Returns (InvitationService.join now invitation userId previous) s membershipId s') :
    ∃ m, (s'.memberships.get? membershipId = some m ∧ m.tenantId = invitation.tenantId ∧ m.userId = userId ∧
        m.status = .active) ∧
      ((previous = none ∧ s.memberships.get? membershipId = none ∧ m.expiresAt = none) ∨
        ∃ m₀, previous = some (membershipId, m₀) ∧ s.memberships.get? membershipId = some m₀ ∧
          m₀.tenantId = m.tenantId ∧ m₀.userId = m.userId ∧ m₀.status = m.status ∧ m₀.expiresAt = m.expiresAt) ∧
      (∀ k, k ≠ membershipId → s'.memberships.get? k = s.memberships.get? k) ∧
      s' = { s with memberships := s'.memberships } := by
  obtain ⟨m₀, known, rfl⟩ | ⟨new, rfl, rfl⟩ := join_returns join
  · obtain ⟨stored, tenant, user, status⟩ := lookup _ known
    have updated := (Table.get?_update_self s.memberships membershipId fun m => { m with
      organizationId := invitation.organizationId, status := .active, joinedAt := now }).trans
        (congrArg (Option.map _) stored)
    refine ⟨_, ⟨updated, tenant, user, rfl⟩, Or.inr ⟨m₀, known, stored, rfl, rfl, status, rfl⟩, fun k other => ?_, rfl⟩
    exact Table.get?_update_of_ne (t := s.memberships) _ other
  · refine ⟨_, ⟨Table.get?_create_self .., rfl, rfl, rfl⟩, Or.inl ⟨new, Table.get?_nextId _, rfl⟩, fun k other => ?_,
      rfl⟩
    rw [Table.get?_create, if_neg other]

theorem accept_settles {tokenHash : String} {hasCredentials validAccount : Bool}
    (accepted : Returns (InvitationService.accept now tokenHash hasCredentials validAccount) s () s') :
    ∃ row, invitationOf tokenHash s = some row ∧ ∃ membershipId m, Settled now row.2 membershipId m s s' := by
  unfold InvitationService.accept at accepted
  simp only [returns_transaction, returns_bind, returns_read, returns_orThrow, returns_throwIf] at accepted
  obtain ⟨_, _, ⟨rfl, rfl⟩, row, _, ⟨found, rfl⟩, _, _, ⟨-, rfl⟩, existing, _, ⟨lookup, rfl⟩, _, _, ⟨-, rfl⟩,
    success⟩ := accepted
  refine ⟨row, found, ?_⟩
  unfold InvitationService.acceptLocked at success
  simp only [returns_bind, returns_read, returns_throwIf, returns_write] at success
  obtain ⟨_, _, ⟨-, rfl⟩, _, _, ⟨-, rfl⟩, _, _, grantable, _, _, ⟨-, rfl⟩, _, _, ⟨-, rfl⟩, _, _, ⟨undisabled, rfl⟩,
    previous, _, ⟨member, rfl⟩, _, s, ⟨reviewed, rfl⟩, userId, s₁, account, membershipId, s₂, join, _, s₃,
    grant, rfl⟩ := success
  obtain rfl := (keeps_assertGrantable _ _ _ _ _).returns grantable
  obtain ⟨active, known⟩ := assertGrantable_grants grantable
  obtain ⟨rfl, enabled, fine, users⟩ := account_enabled lookup (fun user there => by
    rw [there] at undisabled
    simpa using undisabled) account
  have before : membershipOf row.2 s = previous := by
    unfold membershipOf
    rw [← lookup, member]
  obtain ⟨m, there, earlier, others, memberships⟩ := join_member (fun found there => by
    rw [there] at member reviewed
    obtain ⟨user, known', there'⟩ := Option.bind_eq_some_iff.mp member.symm
    obtain ⟨stored, owner⟩ := Table.first?_some there'
    have key : accountOf row.2.email s = user.1 := by
      unfold accountOf
      rw [← lookup, known']
      rfl
    simp only [Option.any_some, decide_eq_true_eq] at reviewed owner
    push Not at reviewed
    rw [users]
    exact ⟨stored, owner.1, owner.2.trans key.symm, reviewed.1⟩) join
  rw [users] at memberships earlier others
  refine ⟨membershipId, m, ?_⟩
  have left : s₂ = { s with users := s₁.users, memberships := s₂.memberships } := memberships
  have assignments₂ : s₂.assignments = s.assignments := by rw [left]
  have users₂ : s₂.users = s₁.users := by rw [left]
  have rows : ∀ assignments invitations,
      ((s.assignments.exists? fun _ a => sameGrant row.2 membershipId a) = true ∧ assignments = s.assignments) ∨
        ((s.assignments.exists? fun _ a => sameGrant row.2 membershipId a) = false ∧
          assignments = s.assignments.create (invited row.2 membershipId)) →
      Settled now row.2 membershipId m s { s₂ with assignments, invitations } := fun _ _ granted =>
    { tenants := by rw [left]
      rolePermissions := by rw [left]
      sites := by rw [left]
      organizations := by rw [left]
      active, known, undisabled := fine
      enabled := users₂.symm ▸ enabled
      member := there
      previous := before.symm ▸ earlier
      others, assignments := granted }
  have granted := grant_left grant
  rw [assignments₂] at granted
  obtain ⟨same, rfl⟩ | ⟨none', rfl⟩ := granted
  · exact rows _ _ (Or.inl ⟨same, assignments₂⟩)
  · exact rows _ _ (Or.inr ⟨none', rfl⟩)

namespace Settled
variable {permission : PermissionKey} {a : RoleAssignment} {key : Nat}

theorem permissionRow_eq (settled : Settled now invitation membershipId m s s') (sound : Sound s)
    (stored : s.assignments.get? key = some a) (tenantId userId : Nat) :
    permissionRow now tenantId userId permission s' a = permissionRow now tenantId userId permission s a := by
  have memberships : ∀ p : Membership → Bool, (∀ m₀, m₀.tenantId = m.tenantId → m₀.userId = m.userId →
      m₀.status = m.status → m₀.expiresAt = m.expiresAt → p m₀ = p m) →
      (s'.memberships.get? a.membershipId).any p = (s.memberships.get? a.membershipId).any p := by
    intro p reads
    by_cases here : a.membershipId = membershipId
    · rcases settled.previous with ⟨-, absent, -⟩ | ⟨m₀, -, there, tenant, user, status, expires⟩
      · obtain ⟨m₁, there⟩ := sound.assigned key a stored
        rw [here, absent] at there
        cases there
      · rw [here, settled.member.1, there]
        exact (reads m₀ tenant user status expires).symm
    · rw [settled.others _ here]
  unfold permissionRow
  rw [settled.rolePermissions, memberships]
  intro m₀ tenant user status expires
  rw [tenant, user, status, expires]

theorem applyResourceScope_eq (settled : Settled now invitation membershipId m s s') (resource : Option ResourceScope)
    (a : RoleAssignment) : applyResourceScope s' resource a = applyResourceScope s resource a := by
  unfold applyResourceScope operatedBy
  rw [settled.sites, settled.organizations]

theorem enabled_of_row (settled : Settled now invitation membershipId m s s') (sound : Sound s) {tenantId : Nat}
    (row : permissionRow now tenantId (accountOf invitation.email s) permission s a = true) :
    ∃ user, s.users.get? (accountOf invitation.email s) = some user ∧ user.isEnabled := by
  unfold permissionRow at row
  simp only [Bool.and_eq_true, Option.any_eq_true, decide_eq_true_eq] at row
  obtain ⟨⟨⟨m₀, there, ⟨-, -, owner, -⟩, -⟩, -⟩, -⟩ := row
  obtain ⟨user, known⟩ := sound.members _ m₀ there
  rw [owner] at known
  exact ⟨user, known, sound.activated _ user known, settled.undisabled user known⟩

/-- The assignment of the invitation gives a permission of the role as long as the membership is unexpired. -/
theorem invited_row (settled : Settled now invitation membershipId m s s')
    (listed : permission.value ∈ rolePermissionKeys invitation.tenantId invitation.roleId s) :
    permissionRow now invitation.tenantId (accountOf invitation.email s) permission s'
      (invited invitation membershipId) = unexpired now m.expiresAt := by
  obtain ⟨there, tenant, owner, status⟩ := settled.member
  obtain ⟨p, granted, key⟩ := List.mem_map.mp listed
  obtain ⟨member, ofRole⟩ := List.mem_filter.mp granted
  have gives : (s'.rolePermissions.any fun p => decide (p.tenantId = invitation.tenantId ∧
      p.roleId = invitation.roleId ∧ p.permissionKey = permission.value)) = true := by
    rw [settled.rolePermissions, List.any_eq_true]
    simp only [decide_eq_true_eq] at ofRole ⊢
    exact ⟨p, member, ofRole.1, ofRole.2, key⟩
  unfold permissionRow invited
  simp only [there, Option.any_some, tenant, owner, status, and_self, decide_true, Bool.true_and, gives, Bool.and_true]
  simp [unexpired]

/-- What the account holds after the acceptance it held before, or the invitation has just given it. -/
theorem allowed_iff (settled : Settled now invitation membershipId m s s') (sound : Sound s)
    (listed : permission.value ∈ rolePermissionKeys invitation.tenantId invitation.roleId s) :
    allows now invitation.tenantId (accountOf invitation.email s) permission (some invitation.scope) s' = true ↔
      allows now invitation.tenantId (accountOf invitation.email s) permission (some invitation.scope) s = true ∨
        ((s.assignments.exists? fun _ a => sameGrant invitation membershipId a) = false ∧
          unexpired now m.expiresAt = true) := by
  have before : ∀ key a, s.assignments.get? key = some a →
      permissionRow now invitation.tenantId (accountOf invitation.email s) permission s' a = true →
      applyResourceScope s' (some invitation.scope) a = true →
      allows now invitation.tenantId (accountOf invitation.email s) permission (some invitation.scope) s = true := by
    intro key a stored row reaches
    rw [settled.permissionRow_eq sound stored] at row
    rw [settled.applyResourceScope_eq] at reaches
    exact allows_iff.mpr ⟨⟨settled.enabled_of_row sound row, settled.active⟩, key, a, stored, row, reaches⟩
  constructor
  · intro allowed
    obtain ⟨-, key, a, stored, row, reaches⟩ := allows_iff.mp allowed
    rcases settled.assignments with ⟨-, same⟩ | ⟨none', created⟩
    · rw [same] at stored
      exact Or.inl (before key a stored row reaches)
    · rw [created] at stored
      obtain ⟨-, rfl⟩ | old := Table.get?_create_cases stored
      · rw [settled.invited_row listed] at row
        exact Or.inr ⟨none', row⟩
      · exact Or.inl (before key a old row reaches)
  · have enabled := settled.enabled
    have active : s'.tenants.get? invitation.tenantId = some .active := settled.tenants.symm ▸ settled.active
    rintro (allowed | ⟨none', current⟩)
    · obtain ⟨-, key, a, stored, row, reaches⟩ := allows_iff.mp allowed
      rw [← settled.permissionRow_eq sound stored] at row
      rw [← settled.applyResourceScope_eq] at reaches
      refine allows_iff.mpr ⟨⟨enabled, active⟩, key, a, ?_, row, reaches⟩
      rcases settled.assignments with ⟨-, same⟩ | ⟨-, created⟩
      · rwa [same]
      · rw [created]
        exact Table.get?_create_of_some _ _ stored
    · rcases settled.assignments with ⟨there, -⟩ | ⟨-, created⟩
      · rw [none'] at there
        cases there
      · refine allows_iff.mpr ⟨⟨enabled, active⟩, s.assignments.nextId, invited invitation membershipId, ?_, ?_, ?_⟩
        · rw [created]
          exact Table.get?_create_self ..
        · rw [settled.invited_row listed]
          exact current
        · exact applyResourceScope_some.mpr (Or.inr (Or.inl ⟨rfl, rfl⟩))

/-- Where nothing the acceptance finds has expired, the account is allowed what the role gives. -/
theorem allowed_of_unexpired (settled : Settled now invitation membershipId m s s') (sound : Sound s)
    (listed : permission.value ∈ rolePermissionKeys invitation.tenantId invitation.roleId s)
    (current : Unexpired now invitation s) :
    allows now invitation.tenantId (accountOf invitation.email s) permission (some invitation.scope) s' = true := by
  rw [settled.allowed_iff sound listed]
  rcases settled.previous with ⟨-, absent, endless⟩ | ⟨m₀, found, there, tenant, owner, status, expires⟩
  · refine Or.inr ⟨?_, by rw [endless]; rfl⟩
    rw [Bool.eq_false_iff, Ne, Table.exists?_iff]
    rintro ⟨key, a, stored, same⟩
    obtain ⟨m₁, there⟩ := sound.assigned key a stored
    rw [(of_decide_eq_true same).2.1, absent] at there
    cases there
  · obtain ⟨unexpired', grants⟩ := current _ found
    cases granted : s.assignments.exists? fun _ a => sameGrant invitation membershipId a with
    | false => exact Or.inr ⟨rfl, expires ▸ unexpired'⟩
    | true =>
      left
      obtain ⟨key, a, stored, same⟩ := (Table.exists?_iff ..).mp (grants granted)
      rw [Bool.and_eq_true] at same
      obtain ⟨same, current'⟩ := same
      obtain ⟨tenant', member, role, type, scopeId⟩ := of_decide_eq_true same
      have row : permissionRow now invitation.tenantId (accountOf invitation.email s) permission s a = true := by
        have given := settled.invited_row listed
        rw [← expires, unexpired'] at given
        rw [← settled.permissionRow_eq sound stored]
        unfold permissionRow invited at *
        simp only [tenant', member, role, Bool.and_eq_true] at given ⊢
        exact ⟨⟨given.1.1, current'⟩, given.2⟩
      exact allows_iff.mpr ⟨⟨settled.enabled_of_row sound row, settled.active⟩, key, a, stored, row,
        applyResourceScope_some.mpr (Or.inr (Or.inl ⟨type, scopeId⟩))⟩

end Settled

theorem holds_iff {userId : Nat}
    (known : ∀ key ∈ rolePermissionKeys invitation.tenantId invitation.roleId s,
      ∃ permission, PermissionKey.tryFrom key = some permission) :
    Holds now invitation userId s ↔ ∀ permission, (∃ key ∈ rolePermissionKeys invitation.tenantId invitation.roleId s,
      PermissionKey.tryFrom key = some permission) →
      allows now invitation.tenantId userId permission (some invitation.scope) s = true := by
  unfold Holds
  rw [List.all_eq_true]
  constructor
  · rintro holds permission ⟨key, listed, found⟩
    obtain ⟨permission', found', allowed⟩ := (Option.any_eq_true _ _).mp (holds key listed)
    rw [found] at found'
    cases found'
    exact allowed
  · intro each key listed
    obtain ⟨permission, found⟩ := known key listed
    exact (Option.any_eq_true _ _).mpr ⟨permission, found, each permission ⟨key, listed, found⟩⟩

/-- Some run of the calls leads here from tenants without accounts. -/
def Reachable (s : Access) : Prop :=
  ∃ tenants roles rolePermissions organizations sites steps,
    s = Runs.reached AccessCall.next steps (AccessCall.opening tenants roles rolePermissions organizations sites)

theorem Reachable.sound (reachable : Reachable s) : Sound s := by
  obtain ⟨tenants, roles, rolePermissions, organizations, sites, steps, rfl⟩ := reachable
  exact (Runs.throughout_of_kept AccessCall.next_sound (fun _ sound => sound) steps _
    (AccessCall.opening_sound ..)).last

/-- An accepted invitation gives the account every permission of the role at the scope exactly if the membership and
the assignment it finds are unexpired, or the account held them all before. -/
theorem accepted_holds_iff (reachable : Reachable s) {tokenHash : String} {hasCredentials validAccount : Bool}
    (accepted : Returns (InvitationService.accept now tokenHash hasCredentials validAccount) s () s') :
    ∃ row, invitationOf tokenHash s = some row ∧
      (Holds now row.2 (accountOf row.2.email s) s' ↔
        Unexpired now row.2 s ∨ Holds now row.2 (accountOf row.2.email s) s) := by
  have sound := reachable.sound
  obtain ⟨row, found, membershipId, m, settled⟩ := accept_settles accepted
  refine ⟨row, found, ?_⟩
  have keys : rolePermissionKeys row.2.tenantId row.2.roleId s' = rolePermissionKeys row.2.tenantId row.2.roleId s := by
    unfold rolePermissionKeys
    rw [settled.rolePermissions]
  have listed : ∀ {permission}, (∃ key ∈ rolePermissionKeys row.2.tenantId row.2.roleId s,
      PermissionKey.tryFrom key = some permission) →
      permission.value ∈ rolePermissionKeys row.2.tenantId row.2.roleId s := by
    rintro permission ⟨key, listed, same⟩
    rwa [PermissionKey.tryFrom_some same]
  rw [holds_iff (s := s') (keys.symm ▸ settled.known), holds_iff settled.known, keys]
  constructor
  · intro holds
    by_contra neither
    push Not at neither
    obtain ⟨expired, permission, ofRole, refused⟩ := neither
    apply expired
    rcases (settled.allowed_iff sound (listed ofRole)).mp (holds permission ofRole) with allowed | ⟨none', current⟩
    · exact absurd allowed refused
    · intro found' same
      rcases settled.previous with ⟨absent, -, -⟩ | ⟨m₀, there, -, -, -, -, expires⟩
      · rw [absent] at same
        cases same
      · rw [there] at same
        cases same
        refine ⟨expires ▸ current, fun granted => ?_⟩
        rw [none'] at granted
        cases granted
  · rintro (current | held) permission ofRole
    · exact settled.allowed_of_unexpired sound (listed ofRole) current
    · exact (settled.allowed_iff sound (listed ofRole)).mpr (Or.inl (held permission ofRole))

/-! ### One organization -/

/-- A tenant with an organization and three roles: of the owner, of a member, and of a viewer of assets. -/
def oneOrganization : Access :=
  AccessCall.opening (Table.empty.put 1 .active) (((Table.empty.put 1 ⟨1⟩).put 2 ⟨1⟩).put 3 ⟨1⟩)
    [⟨1, 1, "identity.invitations.manage"⟩, ⟨1, 1, "identity.roles.assign"⟩, ⟨1, 1, "identity.context.view"⟩,
      ⟨1, 1, "assets.view"⟩, ⟨1, 2, "identity.context.view"⟩, ⟨1, 3, "assets.view"⟩]
    (Table.empty.put 5 ⟨1, .business, true⟩) Table.empty

def organizationScope : ResourceScope := ⟨.organization, some 5, by decide⟩

def memberInvited : Access :=
  Runs.reached AccessCall.next
    [(0, .register "owner@example.test" 1 (some (5, 1))),
      (1, .invite 1 0 "member@example.test" (some 5) 2 organizationScope "first")] oneOrganization

/-- The member has accepted and got the role of a viewer for a short time, and an invitation with that role after. -/
def viewerInvited : Access :=
  Runs.reached AccessCall.next
    [(0, .register "owner@example.test" 1 (some (5, 1))),
      (1, .invite 1 0 "member@example.test" (some 5) 2 organizationScope "first"), (2, .accept "first" true true),
      (3, .assign 1 0 1 3 organizationScope (some 100)),
      (200, .invite 1 0 "member@example.test" (some 5) 3 organizationScope "second")] oneOrganization

theorem memberInvited_reachable : Reachable memberInvited := ⟨_, _, _, _, _, _, rfl⟩

theorem viewerInvited_reachable : Reachable viewerInvited := ⟨_, _, _, _, _, _, rfl⟩

theorem accepted_newMember :
    ∃ row, invitationOf "first" memberInvited = some row ∧
      (Holds 2 row.2 (accountOf row.2.email memberInvited)
          (after (InvitationService.accept 2 "first" true true) memberInvited) ↔
        Unexpired 2 row.2 memberInvited ∨ Holds 2 row.2 (accountOf row.2.email memberInvited) memberInvited) :=
  accepted_holds_iff memberInvited_reachable (returns_of_toBool (by decide))

/-- The second invitation is accepted, and the permission of its role is not allowed. -/
theorem expiredAssignment_kept :
    Reachable viewerInvited ∧
      Returns (InvitationService.accept 201 "second" false false) viewerInvited ()
        (after (InvitationService.accept 201 "second" false false) viewerInvited) ∧
      ∃ row, invitationOf "second" viewerInvited = some row ∧
        ¬ Holds 201 row.2 (accountOf row.2.email viewerInvited)
          (after (InvitationService.accept 201 "second" false false) viewerInvited) := by
  have refused : (invitationOf "second" viewerInvited).map (fun row =>
      (rolePermissionKeys row.2.tenantId row.2.roleId
        (after (InvitationService.accept 201 "second" false false) viewerInvited)).all
          (mayDelegate 201 row.2.tenantId (accountOf row.2.email viewerInvited) row.2.scope
            (after (InvitationService.accept 201 "second" false false) viewerInvited))) = some false := by
    decide
  obtain ⟨row, found, none'⟩ := Option.map_eq_some_iff.mp refused
  exact ⟨viewerInvited_reachable, returns_of_toBool (by decide), row, found, fun holds => by
    rw [Holds, none'] at holds
    cases holds⟩

end VtsaCsms.Identity
