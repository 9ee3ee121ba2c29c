import VtsaCsms.Identity.Invitations
import VtsaCsms.Organizations.Delegation

/-!
# Accepted invitations

What an acceptance leaves: an activated account, a membership, and the assignment of the invitation.
-/
namespace VtsaCsms.Identity
open Foundation Foundation.Action Organizations AuthorizationService

theorem keeps_assertGrantable (now : Instant) (tenantId actorId roleId : Nat) (scope : ResourceScope) :
    Keeps id (InvitationService.assertGrantable now tenantId actorId roleId scope) := by
  have validates : Keeps id (InvitationService.validateScope tenantId scope) := by
    unfold InvitationService.validateScope
    cases scope.type with
    | tenant => exact keeps_pure _
    | organization => exact (keeps_findOrganization _ _).bind fun _ => keeps_pure _
    | site => exact (keeps_findSite _ _).bind fun _ => keeps_pure _
    | location | assetGroup | warehouse | supportQueue | finance => exact keeps_raise _
  unfold InvitationService.assertGrantable
  refine (keeps_read _).bind fun _ => (keeps_orThrow _ _).bind fun _ => (keeps_throwIf _ _).bind fun _ => ?_
  refine (keeps_read _).bind fun _ => (keeps_throwIf _ _).bind fun _ => validates.bind fun _ => ?_
  exact (keeps_read _).bind fun _ => keeps_throwIf _ _

variable {now : Instant} {s s' s₁ s₂ : Access} {email : String} {existing : Option (Nat × User)} {validAccount : Bool}
  {userId membershipId : Nat} {invitation : UserInvitation} {previous : Option (Nat × Membership)}

theorem assertGrantable_delegable {tenantId actorId roleId : Nat} {scope : ResourceScope}
    {u : Unit} (success : Returns (InvitationService.assertGrantable now tenantId actorId roleId scope) s u s') :
    (rolePermissionKeys tenantId roleId s).all (mayDelegate now tenantId actorId scope s) = true := by
  have same := (keeps_assertGrantable _ _ _ _ _).returns success
  unfold InvitationService.assertGrantable at success
  simp only [returns_bind, returns_read, returns_orThrow, returns_throwIf] at success
  obtain ⟨_, _, ⟨rfl, rfl⟩, _, _, ⟨-, rfl⟩, _, _, ⟨-, rfl⟩, _, _, ⟨rfl, rfl⟩, _, _, ⟨-, rfl⟩, _, _, -, _, _, ⟨rfl, rfl⟩,
    delegable, rfl⟩ := success
  subst same
  simpa using delegable

theorem account_returns
    (success : Returns (InvitationService.account now email existing validAccount) s userId s') :
    (∃ user, existing = some (userId, user) ∧
      s' = { s with
        users := s.users.update userId fun user => { user with
          emailVerifiedAt := some (user.emailVerifiedAt.getD now), activatedAt := some (user.activatedAt.getD now) } }) ∨
      (existing = none ∧ userId = s.users.nextId ∧
        s' = { s with users := s.users.create { email, emailVerifiedAt := some now, activatedAt := some now } }) := by
  unfold InvitationService.account at success
  cases existing with
  | some found =>
    simp only [returns_bind, returns_write, returns_pure] at success
    obtain ⟨_, _, rfl, rfl, rfl⟩ := success
    exact Or.inl ⟨found.2, rfl, rfl⟩
  | none =>
    simp only [returns_bind, returns_throwIf, returns_read, returns_write, returns_pure] at success
    obtain ⟨_, _, ⟨-, rfl⟩, _, _, ⟨rfl, rfl⟩, _, _, rfl, rfl, rfl⟩ := success
    exact Or.inr ⟨rfl, rfl, rfl⟩

theorem join_returns
    (success : Returns (InvitationService.join now invitation userId previous) s membershipId s') :
    (∃ m, previous = some (membershipId, m) ∧
      s' = { s with
        memberships := s.memberships.update membershipId fun m => { m with
          organizationId := invitation.organizationId, status := .active, joinedAt := now } }) ∨
      (previous = none ∧ membershipId = s.memberships.nextId ∧
        s' = { s with
          memberships := s.memberships.create
            { tenantId := invitation.tenantId, userId, organizationId := invitation.organizationId, status := .active
              joinedAt := now } }) := by
  unfold InvitationService.join at success
  cases previous with
  | some found =>
    simp only [returns_bind, returns_write, returns_pure] at success
    obtain ⟨_, _, rfl, rfl, rfl⟩ := success
    exact Or.inl ⟨found.2, rfl, rfl⟩
  | none =>
    simp only [returns_bind, returns_read, returns_write, returns_pure] at success
    obtain ⟨_, _, ⟨rfl, rfl⟩, _, _, rfl, rfl, rfl⟩ := success
    exact Or.inr ⟨rfl, rfl, rfl⟩

def invited (invitation : UserInvitation) (membershipId : Nat) : RoleAssignment :=
  { tenantId := invitation.tenantId, membershipId, roleId := invitation.roleId, scopeType := invitation.scope.type
    scopeId := invitation.scope.id, grantedByUserId := some invitation.invitedByUserId }

theorem grant_returns {u : Unit}
    (success : Returns (InvitationService.grant invitation membershipId) s u s') :
    s' = s ∨ s' = { s with assignments := s.assignments.create (invited invitation membershipId) } := by
  unfold InvitationService.grant doIf at success
  simp only [returns_bind, returns_read] at success
  obtain ⟨there, _, ⟨rfl, rfl⟩, success⟩ := success
  split at success
  · rw [returns_write] at success
    exact Or.inr success
  · rw [returns_pure] at success
    exact Or.inl success.2

theorem unraised_joined (sound : Sound s)
    (isMember : ∀ found, previous = some found → s.memberships.get? found.1 = some found.2 ∧ found.2.status = .active)
    (account : Returns (InvitationService.account now email existing validAccount) s userId s₁)
    (join : Returns (InvitationService.join now invitation userId previous) s₁ membershipId s₂) : Unraised s s₂ := by
  have users : s₂.users = s₁.users ∧ s₁.memberships = s.memberships := by
    obtain ⟨user, -, rfl⟩ | ⟨-, -, rfl⟩ := account_returns account <;>
      obtain ⟨m, -, rfl⟩ | ⟨-, -, rfl⟩ := join_returns join <;> exact ⟨rfl, rfl⟩
  constructor
  · intro id user' stored
    rw [users.1] at stored
    obtain ⟨user, known, rfl⟩ | ⟨-, -, rfl⟩ := account_returns account
    · obtain ⟨rfl, user₀, old, rfl⟩ | ⟨-, old⟩ := Table.get?_update_cases stored
      · refine Or.inl ⟨user₀, old, fun enabled => ⟨sound.activated id user₀ old, enabled.2⟩⟩
      · exact Or.inl ⟨user', old, fun enabled => enabled⟩
    · obtain ⟨rfl, -⟩ | old := Table.get?_create_cases stored
      · exact Or.inr (Table.get?_nextId _)
      · exact Or.inl ⟨user', old, fun enabled => enabled⟩
  · intro id m' stored
    rw [← users.2]
    obtain ⟨m, member, rfl⟩ | ⟨-, -, rfl⟩ := join_returns join
    · obtain ⟨there, active⟩ := isMember _ member
      obtain ⟨rfl, m₀, old, rfl⟩ | ⟨-, old⟩ := Table.get?_update_cases stored
      · refine Or.inl ⟨m₀, old, rfl, rfl, rfl, fun _ => ?_⟩
        rw [users.2] at old
        cases there.symm.trans old
        exact active
      · exact Or.inl ⟨m', old, rfl, rfl, rfl, fun active' => active'⟩
    · obtain ⟨rfl, -⟩ | old := Table.get?_create_cases stored
      · exact Or.inr (Table.get?_nextId _)
      · exact Or.inl ⟨m', old, rfl, rfl, rfl, fun active => active⟩

/-- What an acceptance that goes through leaves. -/
structure Accepts (now : Instant) (row : Nat × UserInvitation) (existing : Option (Nat × User)) (validAccount : Bool)
    (s s' : Access) : Prop where
  delegable : (rolePermissionKeys row.2.tenantId row.2.roleId s).all
    (mayDelegate now row.2.tenantId row.2.invitedByUserId row.2.scope s) = true
  joined : ∃ previous userId membershipId s₁ s₂ s₃,
    (∀ found, previous = some found → s.memberships.get? found.1 = some found.2 ∧ found.2.status = .active) ∧
      Returns (InvitationService.account now row.2.email existing validAccount) s userId s₁ ∧
        Returns (InvitationService.join now row.2 userId previous) s₁ membershipId s₂ ∧
          Returns (InvitationService.grant row.2 membershipId) s₂ () s₃ ∧ ∃ invitations, s' = { s₃ with invitations }

theorem acceptLocked_returns {row : Nat × UserInvitation}
    (success : Returns (InvitationService.acceptLocked now row existing validAccount) s () s') :
    Accepts now row existing validAccount s s' := by
  unfold InvitationService.acceptLocked at success
  simp only [returns_bind, returns_read, returns_throwIf, returns_write] at success
  obtain ⟨_, _, ⟨-, rfl⟩, _, _, ⟨-, rfl⟩, _, _, grantable, _, _, ⟨-, rfl⟩, _, _, ⟨-, rfl⟩, _, _, ⟨-, rfl⟩, previous, _,
    ⟨lookup, rfl⟩, _, _, ⟨reviewed, rfl⟩, userId, s₁, account, membershipId, s₂, join, _, s₃, grant, rfl⟩ := success
  obtain rfl := (keeps_assertGrantable _ _ _ _ _).returns grantable
  refine ⟨assertGrantable_delegable grantable, previous, userId, membershipId, s₁, s₂, s₃, ?_, account, join, grant, _, rfl⟩
  intro m member
  rw [member] at lookup reviewed
  obtain ⟨user, -, there⟩ := Option.bind_eq_some_iff.mp lookup.symm
  refine ⟨(Table.first?_some there).1, ?_⟩
  simp only [Option.any_some, decide_eq_true_eq] at reviewed
  push Not at reviewed
  exact reviewed.1

theorem accept_cases (now : Instant) (tokenHash : String) (hasCredentials validAccount : Bool) (s : Access) :
    after (InvitationService.accept now tokenHash hasCredentials validAccount) s = s ∨
      ∃ row existing, (s.invitations.first? fun _ i => decide (i.tokenHash = tokenHash ∧ i.purpose = "tenant")) = some row ∧
        (∀ found, existing = some found → s.users.get? found.1 = some found.2) ∧
          Accepts now row existing validAccount s
            (after (InvitationService.accept now tokenHash hasCredentials validAccount) s) := by
  have atomic : Atomic (InvitationService.accept now tokenHash hasCredentials validAccount) := by
    unfold InvitationService.accept
    refine (keeps_read _).atomic_bind fun _ => (keeps_orThrow _ _).atomic_bind fun _ => ?_
    refine (keeps_throwIf _ _).atomic_bind fun _ => (keeps_read _).atomic_bind fun _ => ?_
    exact (keeps_throwIf _ _).atomic_bind fun _ => atomic_transaction _
  obtain ⟨unchanged, -⟩ | success := after_cases atomic s
  · exact Or.inl unchanged
  · generalize after (InvitationService.accept now tokenHash hasCredentials validAccount) s = s' at success ⊢
    unfold InvitationService.accept at success
    simp only [returns_transaction, returns_bind, returns_read, returns_orThrow, returns_throwIf] at success
    obtain ⟨_, _, ⟨rfl, rfl⟩, row, _, ⟨found, rfl⟩, _, _, ⟨-, rfl⟩, existing, _, ⟨lookup, rfl⟩, _, _, ⟨-, rfl⟩, success⟩ :=
      success
    refine Or.inr ⟨row, existing, found, ?_, acceptLocked_returns success⟩
    intro user known
    exact (Table.first?_some (lookup.symm.trans known)).1

theorem sound_joined
    (sound : Sound s) (isAccount : ∀ found, existing = some found → s.users.get? found.1 = some found.2)
    (isMember : ∀ found, previous = some found → s.memberships.get? found.1 = some found.2 ∧ found.2.status = .active)
    (account : Returns (InvitationService.account now email existing validAccount) s userId s₁)
    (join : Returns (InvitationService.join now invitation userId previous) s₁ membershipId s₂) :
    Sound s₂ ∧ ∃ m, s₂.memberships.get? membershipId = some m := by
  have sound₁ : Sound s₁ ∧ ∃ user, s₁.users.get? userId = some user := by
    obtain ⟨user, known, rfl⟩ | ⟨-, rfl, rfl⟩ := account_returns account
    · refine ⟨⟨?_, ?_, sound.assigned⟩, Table.get?_update_of_some _ _ (isAccount _ known)⟩
      · intro id user' stored
        obtain ⟨-, user₀, -, rfl⟩ | ⟨-, old⟩ := Table.get?_update_cases stored
        · exact Option.some_ne_none _
        · exact sound.activated id user' old
      · intro id m stored
        obtain ⟨user₀, old⟩ := sound.members id m stored
        exact Table.get?_update_of_some _ _ old
    · refine ⟨⟨?_, ?_, sound.assigned⟩, _, Table.get?_create_self ..⟩
      · intro id user' stored
        obtain ⟨-, rfl⟩ | old := Table.get?_create_cases stored
        · exact Option.some_ne_none _
        · exact sound.activated id user' old
      · intro id m stored
        obtain ⟨user₀, old⟩ := sound.members id m stored
        exact ⟨user₀, Table.get?_create_of_some _ _ old⟩
  have memberships : s₁.memberships = s.memberships := by
    obtain ⟨user, -, rfl⟩ | ⟨-, -, rfl⟩ := account_returns account <;> rfl
  obtain ⟨sound₁, user, isUser⟩ := sound₁
  obtain ⟨m, known, rfl⟩ | ⟨-, rfl, rfl⟩ := join_returns join
  · have member : s₁.memberships.get? membershipId = some m := by
      rw [memberships]
      exact (isMember _ known).1
    refine ⟨⟨sound₁.activated, ?_, ?_⟩, Table.get?_update_of_some _ _ member⟩
    · intro id m' stored
      obtain ⟨-, m₀, old, rfl⟩ | ⟨-, old⟩ := Table.get?_update_cases stored
      · exact sound₁.members _ m₀ old
      · exact sound₁.members id m' old
    · intro key a stored
      obtain ⟨m', there⟩ := sound₁.assigned key a stored
      exact Table.get?_update_of_some _ _ there
  · refine ⟨⟨sound₁.activated, ?_, ?_⟩, _, Table.get?_create_self ..⟩
    · intro id m' stored
      obtain ⟨-, rfl⟩ | old := Table.get?_create_cases stored
      · exact ⟨user, isUser⟩
      · exact sound₁.members id m' old
    · intro key a stored
      obtain ⟨m', there⟩ := sound₁.assigned key a stored
      exact ⟨m', Table.get?_create_of_some _ _ there⟩

theorem joined_others
    (account : Returns (InvitationService.account now email existing validAccount) s userId s₁)
    (join : Returns (InvitationService.join now invitation userId previous) s₁ membershipId s₂) :
    s₂ = { s with users := s₂.users, memberships := s₂.memberships } := by
  obtain ⟨user, -, rfl⟩ | ⟨-, -, rfl⟩ := account_returns account
  · obtain ⟨m, -, rfl⟩ | ⟨-, -, rfl⟩ := join_returns join <;> rfl
  · obtain ⟨m, -, rfl⟩ | ⟨-, -, rfl⟩ := join_returns join <;> rfl

theorem Accepts.adds {row : Nat × UserInvitation}
    (accepts : Accepts now row existing validAccount s s') (sound : Sound s)
    (isAccount : ∀ found, existing = some found → s.users.get? found.1 = some found.2) :
    Sound s' ∧ ∃ membershipId, Adds (some (invited row.2 membershipId)) s s' := by
  obtain ⟨previous, userId, membershipId, s₁, s₂, s₃, isMember, account, join, grant, invitations, rfl⟩ := accepts.joined
  have unraised := unraised_joined sound isMember account join
  obtain ⟨sound₂, member⟩ := sound_joined sound isAccount isMember account join
  have others := joined_others account join
  have assignments : s₂.assignments = s.assignments := by rw [others]
  have sound₃ : Sound s₃ ∧ s₃ = { s₂ with assignments := s₃.assignments } ∧
      ∀ key a, s₃.assignments.get? key = some a →
        s.assignments.get? key = some a ∨ some (invited row.2 membershipId) = some a := by
    obtain rfl | rfl := grant_returns grant
    · exact ⟨sound₂, rfl, fun key a stored => Or.inl (assignments ▸ stored)⟩
    · refine ⟨⟨sound₂.activated, sound₂.members, ?_⟩, rfl, ?_⟩
      · intro key a stored
        obtain ⟨-, rfl⟩ | old := Table.get?_create_cases stored
        · exact member
        · exact sound₂.assigned key a old
      · intro key a stored
        obtain ⟨-, rfl⟩ | old := Table.get?_create_cases stored
        · exact Or.inr rfl
        · exact Or.inl (assignments ▸ old)
  obtain ⟨sound₃, same, added⟩ := sound₃
  refine ⟨⟨sound₃.activated, sound₃.members, sound₃.assigned⟩, membershipId, ?_⟩
  have raised : Unraised s { s₃ with invitations } := by
    rw [same]
    exact ⟨unraised.users, unraised.memberships⟩
  refine raised.adds sound ?_ ?_ ?_ ?_ added
  all_goals
    rw [same, others]

end VtsaCsms.Identity
