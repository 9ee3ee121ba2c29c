import VtsaCsms.Foundation.Runs
import VtsaCsms.Identity.Acceptance

/-!
# Delegation never creates authority

Over any run of the calls that store accounts, memberships and assignments, an assignment or an accepted
invitation gives nobody a permission on a resource that its grantor did not hold there.
-/
namespace VtsaCsms.Identity
open Foundation Foundation.Action Organizations AuthorizationService

/-- The calls that store users, assignments made and invitations accepted. Other services change the other
rows as they like, as far as foreign keys let them; none of them stores a user. -/
inductive AccessCall where
  | register (email : String) (tenantId : Nat) (scope : Option (Nat × Nat))
  | activate (tenantId actorId subjectId : Nat)
  | suspend (tenantId actorId subjectId : Nat)
  | invite (tenantId actorId : Nat) (email : String) (organizationId : Option Nat) (roleId : Nat)
      (scope : ResourceScope) (tokenHash : String)
  | accept (tokenHash : String) (hasCredentials validAccount : Bool)
  | assign (tenantId actorId membershipId roleId : Nat) (scope : ResourceScope) (expiresAt : Option Instant)
  | elsewhere (change : Access → Access) (users : ∀ s, (change s).users = s.users)
      (keys : ∀ s, Sound s → Sound (change s))

namespace AccessCall

def perform (now : Instant) : AccessCall → AccessAction Unit
  | register email tenantId scope => Identity.register now email tenantId scope
  | activate tenantId actorId subjectId => AccountLifecycleService.activate now tenantId actorId subjectId
  | suspend tenantId actorId subjectId => AccountLifecycleService.suspend now tenantId actorId subjectId
  | invite tenantId actorId email organizationId roleId scope tokenHash =>
    InvitationService.invite now tenantId actorId email organizationId roleId scope tokenHash
  | accept tokenHash hasCredentials validAccount => InvitationService.accept now tokenHash hasCredentials validAccount
  | assign tenantId actorId membershipId roleId scope expiresAt =>
    RoleAssignmentService.assign now tenantId actorId membershipId roleId scope expiresAt
  | elsewhere change _ _ => write change

/-- The rows a call at an instant leaves, whether it returned or threw. -/
def next (step : Instant × AccessCall) (s : Access) : Access := after (step.2.perform step.1) s

def grantor : AccessCall → Access → Option Nat
  | assign _ actorId _ _ _ _, _ => some actorId
  | accept tokenHash _ _, s =>
    (s.invitations.first? fun _ i => decide (i.tokenHash = tokenHash ∧ i.purpose = "tenant")).map
      fun row => row.2.invitedByUserId
  | _, _ => none

/-- Whatever an assignment or an acceptance newly allows anyone, in any tenant, its grantor was allowed. -/
def Delegates (step : Instant × AccessCall) (s : Access) : Prop :=
  ∀ grantorId, step.2.grantor s = some grantorId → ∀ userId tenantId permission resource,
    allows step.1 tenantId userId permission resource (next step s) = true →
      allows step.1 tenantId userId permission resource s = true ∨
        allows step.1 tenantId grantorId permission resource s = true

/-! ### One call -/

theorem register_sound {now : Instant} {email : String} {tenantId : Nat} {scope : Option (Nat × Nat)} {s s' : Access}
    (sound : Sound s) (success : Returns (Identity.register now email tenantId scope) s () s') : Sound s' := by
  unfold Identity.register at success
  simp only [returns_transaction, returns_bind, returns_read, returns_orThrow, returns_throwIf, returns_write] at success
  obtain ⟨enrollment, _, ⟨-, rfl⟩, _, _, ⟨rfl, rfl⟩, _, _, ⟨-, rfl⟩, _, _, ⟨rfl, rfl⟩, _, _, rfl, _, _, ⟨rfl, rfl⟩, _, _,
    rfl, rfl⟩ := success
  refine ⟨?_, ?_, ?_⟩
  · intro id user stored
    obtain ⟨-, rfl⟩ | old := Table.get?_create_cases stored
    · exact Option.some_ne_none _
    · exact sound.activated id user old
  · intro id m stored
    obtain ⟨-, rfl⟩ | old := Table.get?_create_cases stored
    · exact ⟨_, Table.get?_create_self ..⟩
    · obtain ⟨user, known⟩ := sound.members id m old
      exact ⟨user, Table.get?_create_of_some _ _ known⟩
  · intro key a stored
    obtain ⟨-, rfl⟩ | old := Table.get?_create_cases stored
    · exact ⟨_, Table.get?_create_self ..⟩
    · obtain ⟨m, known⟩ := sound.assigned key a old
      exact ⟨m, Table.get?_create_of_some _ _ known⟩

theorem sound_users {s : Access} (sound : Sound s) (subjectId : Nat) {f : User → User}
    (activated : ∀ user, user.activatedAt ≠ none → (f user).activatedAt ≠ none) :
    Sound { s with users := s.users.update subjectId f } := by
  refine ⟨?_, ?_, sound.assigned⟩
  · intro id user stored
    obtain ⟨-, user₀, old, rfl⟩ | ⟨-, old⟩ := Table.get?_update_cases stored
    · exact activated user₀ (sound.activated _ user₀ old)
    · exact sound.activated id user old
  · intro id m stored
    obtain ⟨user, known⟩ := sound.members id m stored
    exact Table.get?_update_of_some _ _ known

theorem keeps_authorize (now : Instant) (tenantId actorId : Nat) :
    Keeps id (AccountLifecycleService.authorize now tenantId actorId) :=
  (keeps_read _).bind fun _ => keeps_throwIf _ _

theorem keeps_invite (now : Instant) (tenantId actorId : Nat) (email : String) (organizationId : Option Nat) (roleId : Nat)
    (scope : ResourceScope) (tokenHash : String) :
    Keeps (fun s : Access => (s.users, s.memberships, s.assignments))
      (InvitationService.invite now tenantId actorId email organizationId roleId scope tokenHash) := by
  have grantable : Keeps (fun s : Access => (s.users, s.memberships, s.assignments))
      (InvitationService.assertGrantable now tenantId actorId roleId scope) := by
    intro s
    have same : after (InvitationService.assertGrantable now tenantId actorId roleId scope) s = s :=
      keeps_assertGrantable _ _ _ _ _ s
    rw [same]
  unfold InvitationService.invite
  refine (keeps_read _).bind fun _ => (keeps_throwIf _ _).bind fun _ => (keeps_read _).bind fun _ => ?_
  refine (keeps_read _).bind fun _ => (keeps_throwIf _ _).bind fun _ => grantable.bind fun _ => ?_
  refine (keeps_throwIf _ _).bind fun _ => (keeps_read _).bind fun _ => (keeps_throwIf _ _).bind fun _ => ?_
  exact keeps_write fun _ => rfl

theorem sound_assigns {now : Instant} {tenantId actorId membershipId roleId : Nat} {scope : ResourceScope}
    {expiresAt : Option Instant} {s s' : Access} (sound : Sound s)
    (assigns : Assigns now tenantId actorId membershipId roleId scope expiresAt s s') : Sound s' := by
  obtain ⟨⟨m, member, -⟩, -, rfl⟩ := assigns
  refine ⟨sound.activated, sound.members, ?_⟩
  intro key a stored
  obtain ⟨-, rfl⟩ | old := Table.get?_create_cases stored
  · exact ⟨m, member⟩
  · exact sound.assigned key a old

theorem next_sound (step : Instant × AccessCall) (s : Access) (sound : Sound s) : Sound (next step s) := by
  obtain ⟨now, call⟩ := step
  unfold next
  cases call with
  | register email tenantId scope =>
    have atomic : Atomic (Identity.register now email tenantId scope) :=
      (keeps_orThrow _ _).atomic_bind fun _ => atomic_transaction _
    obtain ⟨unchanged, -⟩ | success := after_cases atomic s
    · exact unchanged.symm ▸ sound
    · exact register_sound sound success
  | activate _ _ subjectId =>
    refine after_silent_bind (keeps_authorize _ _ _) sound fun _ => ?_
    exact sound_users sound subjectId fun _ _ => Option.some_ne_none _
  | suspend _ _ subjectId =>
    refine after_silent_bind (keeps_authorize _ _ _) sound fun _ => ?_
    exact sound_users sound subjectId fun _ activated => activated
  | invite tenantId actorId email organizationId roleId scope tokenHash =>
    have kept := keeps_invite now tenantId actorId email organizationId roleId scope tokenHash s
    obtain ⟨users, others⟩ := Prod.mk.inj kept
    obtain ⟨memberships, assignments⟩ := Prod.mk.inj others
    refine ⟨?_, ?_, ?_⟩
    · exact fun id user stored => sound.activated id user (users ▸ stored)
    · intro id m stored
      obtain ⟨user, known⟩ := sound.members id m (memberships ▸ stored)
      exact ⟨user, users.symm ▸ known⟩
    · intro key a stored
      obtain ⟨m, known⟩ := sound.assigned key a (assignments ▸ stored)
      exact ⟨m, memberships.symm ▸ known⟩
  | accept tokenHash hasCredentials validAccount =>
    obtain unchanged | ⟨row, existing, -, isAccount, accepts⟩ := accept_cases now tokenHash hasCredentials validAccount s
    · exact unchanged.symm ▸ sound
    · exact (accepts.adds sound isAccount).1
  | assign tenantId actorId membershipId roleId scope expiresAt =>
    obtain unchanged | assigns := assign_cases now tenantId actorId membershipId roleId scope expiresAt s
    · exact unchanged.symm ▸ sound
    · exact sound_assigns sound assigns
  | elsewhere _ _ keys => exact keys s sound

theorem next_delegates (step : Instant × AccessCall) (s : Access) (sound : Sound s) : Delegates step s := by
  obtain ⟨now, call⟩ := step
  intro grantorId granted userId tenantId' permission resource allowed
  unfold next at allowed
  cases call with
  | register => cases granted
  | activate => cases granted
  | suspend => cases granted
  | invite => cases granted
  | elsewhere => cases granted
  | assign tenantId _ membershipId roleId scope expiresAt =>
    cases granted
    obtain unchanged | assigns := assign_cases now tenantId grantorId membershipId roleId scope expiresAt s
    · exact Or.inl (unchanged ▸ allowed)
    · exact (assigns.adds sound).held rfl rfl rfl assigns.delegable allowed
  | accept tokenHash hasCredentials validAccount =>
    obtain unchanged | ⟨row, existing, found, isAccount, accepts⟩ :=
      accept_cases now tokenHash hasCredentials validAccount s
    · exact Or.inl (unchanged ▸ allowed)
    · obtain ⟨row', found', sender⟩ := Option.map_eq_some_iff.mp granted
      cases found.symm.trans found'
      cases sender
      obtain ⟨-, membershipId, adds⟩ := accepts.adds sound isAccount
      exact adds.held rfl rfl rfl accepts.delegable allowed

/-! ### Runs -/

/-- Tenants with their roles, organizations and sites before the first account. -/
def opening (tenants : Table Nat TenantStatus) (roles : Table Nat Role) (rolePermissions : List RolePermission)
    (organizations : Table Nat Organization) (sites : Table Nat Site) : Access where
  tenants := tenants
  users := Table.empty
  memberships := Table.empty
  roles := roles
  rolePermissions := rolePermissions
  assignments := Table.empty
  organizations := organizations
  sites := sites
  invitations := Table.empty

theorem opening_sound (tenants : Table Nat TenantStatus) (roles : Table Nat Role)
    (rolePermissions : List RolePermission) (organizations : Table Nat Organization) (sites : Table Nat Site) :
    Sound (opening tenants roles rolePermissions organizations sites) where
  activated _ _ stored := by cases stored
  members _ _ stored := by cases stored
  assigned _ _ stored := by cases stored

/-- In every run every assignment and every acceptance gives only what the grantor was allowed. -/
theorem delegation_never_creates (tenants : Table Nat TenantStatus) (roles : Table Nat Role)
    (rolePermissions : List RolePermission) (organizations : Table Nat Organization) (sites : Table Nat Site)
    (steps : List (Instant × AccessCall)) :
    Runs.Met next Delegates steps (opening tenants roles rolePermissions organizations sites) :=
  Runs.met_of_kept next_sound next_delegates steps _ (opening_sound ..)

end AccessCall
end VtsaCsms.Identity
