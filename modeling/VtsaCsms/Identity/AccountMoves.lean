import VtsaCsms.Foundation.Amounts
import VtsaCsms.Identity.ChargingInvitations

/-!
# What the calls on charging accounts do

One lemma for each transaction that goes through, and the writes of all of them as one relation.
-/
namespace VtsaCsms.Organizations
open Foundation

@[simp] theorem abortUnless_ok {condition : Bool} {status : Nat} {message : String} {u : Unit} :
    abortUnless condition status message = .ok u ↔ condition = true := by
  cases condition <;> simp [abortUnless]

@[simp] theorem abortIf_ok {condition : Bool} {status : Nat} {message : String} {u : Unit} :
    abortIf condition status message = .ok u ↔ condition = false := by
  simp [abortIf]

@[simp] theorem firstOrFail_ok {α : Type} {found : Option α} {model : String} {row : α} :
    firstOrFail found model = .ok row ↔ found = some row := by
  cases found <;> simp [firstOrFail]

namespace ChargingAccounts
variable {around : Surroundings} {s s' : Accounts} {account : Organizations.Account}
variable {userId inviter actor id subject : Nat} {permission : PermissionKey} {role : ChargingAccountRole}

theorem require_ok (passed : require around s userId id permission = .ok account) :
    s.accounts.get? id = some account ∧ allowsChargingAccount around s userId permission id = true ∧
      (account.chargingAccountType = .personal → account.ownerSubjectId = userId) := by
  simp only [require, bind_ok_iff, firstOrFail_ok, abortUnless_ok, abortIf_ok, Option.filter_eq_some_iff] at passed
  obtain ⟨found, ⟨stored, -⟩, -, -, -, allowed, -, own, same⟩ := passed
  cases same
  refine ⟨stored, allowed, fun personal => ?_⟩
  simpa [personal] using own

theorem assign_ok {grantor : Nat} (passed : assign around userId id role grantor s = .ok s') :
    s' = { s with assignments := s.assignments ++ [⟨userId, role, id, grantor, none⟩] } := by
  simp only [assign, bind_ok_iff, firstOrFail_ok, abortUnless_ok] at passed
  obtain ⟨-, -, -, -, same⟩ := passed
  cases same
  rfl

theorem personalAccount_none (missing : personalAccount s userId = none) :
    ∀ id account, s.accounts.get? id = some account → account.personalSubjectId ≠ some userId := by
  intro id account stored
  have other := Table.first?_none (Option.map_eq_none_iff.mp missing) id account stored
  exact of_decide_eq_false other

/-- A new account of the user, with its owner's assignment. -/
structure Made (s : Accounts) (userId : Nat) (account : Organizations.Account) : Prop where
  own : account.ownerSubjectId = userId
  subject : account.personalSubjectId = if account.chargingAccountType = .personal then some userId else none
  new : account.chargingAccountType = .personal →
    ∀ id other, s.accounts.get? id = some other → other.personalSubjectId ≠ some userId

theorem create_ok {name type : String} {result : Nat × Accounts} (passed : create around userId name type s = .ok result) :
    result.2 = s ∨ ∃ account, Made s userId account ∧
      result.2 = { s with
        accounts := s.accounts.put s.drawn account
        drawn := s.drawn + 1
        assignments := s.assignments ++ [⟨userId, .owner, s.drawn, userId, none⟩] } := by
  unfold create at passed
  split at passed
  · cases passed
  · rename_i kind parsed
    simp only [bind_ok_iff, firstOrFail_ok, abortUnless_ok] at passed
    obtain ⟨-, -, -, -, rest⟩ := passed
    split at rest
    · cases rest
      exact Or.inl rfl
    · rename_i missing
      obtain ⟨assigned, written, same⟩ := bind_ok_iff.mp rest
      cases same
      refine Or.inr ⟨_, ⟨rfl, rfl, fun personal => ?_⟩, assign_ok written⟩
      have personal' : kind = .personal := personal
      rw [if_pos personal'] at missing
      exact personalAccount_none missing

theorem personal_ok {result : Nat × Accounts} (passed : personal around userId s = .ok result) :
    result.2 = s ∨ ∃ account, Made s userId account ∧
      result.2 = { s with
        accounts := s.accounts.put s.drawn account
        drawn := s.drawn + 1
        assignments := s.assignments ++ [⟨userId, .owner, s.drawn, userId, none⟩] } := by
  simp only [personal, bind_ok_iff, firstOrFail_ok, abortUnless_ok] at passed
  obtain ⟨-, -, -, -, rest⟩ := passed
  split at rest
  · cases rest
    exact Or.inl rfl
  · exact create_ok rest

theorem update_ok {name type : String} (passed : update around userId id name type s = .ok s') :
    ∃ account kind, s.accounts.get? id = some account ∧ account.chargingAccountType ≠ .personal ∧
      kind ≠ AccountType.personal ∧
      s' = { s with accounts := s.accounts.update id fun a => { a with name, chargingAccountType := kind } } := by
  simp only [update, bind_ok_iff, abortUnless_ok] at passed
  obtain ⟨account, found, -, shared, rest⟩ := passed
  rw [Bool.and_eq_true, decide_eq_true_eq, decide_eq_true_eq] at shared
  split at rest
  · cases rest
  · rename_i kind parsed
    simp only [bind_ok_iff, abortUnless_ok, decide_eq_true_eq] at rest
    obtain ⟨-, other, same⟩ := rest
    cases same
    exact ⟨account, kind, (require_ok found).1, shared.2, other, rfl⟩

theorem deleteUnused_ok (passed : deleteUnused around userId id s = .ok s') :
    s' = { s with
      assignments := s.assignments.filter fun a => decide (a.scopeId ≠ id)
      accounts := s.accounts.removeWhere fun key _ => decide (key = id) } := by
  simp only [deleteUnused, bind_ok_iff] at passed
  obtain ⟨-, -, -, -, -, -, -, -, same⟩ := passed
  cases same
  rfl

/-- What `member` leaves of the assignments. -/
def expired (around : Surroundings) (subject id : Nat) (all : List AccountAssignment) : List AccountAssignment :=
  all.map fun a => if assignments around subject id a then { a with expiresAt := some around.now.toSecond } else a

theorem member_ok {role : Option ChargingAccountRole} (passed : member around actor id subject role s = .ok s') :
    ∃ account, s.accounts.get? id = some account ∧ account.ownerSubjectId = actor ∧
      account.chargingAccountType ≠ .personal ∧ subject ≠ account.ownerSubjectId ∧ role ≠ some .owner ∧
      s' = { s with
        assignments := expired around subject id s.assignments ++
          role.toList.map fun role => ⟨subject, role, id, actor, none⟩ } := by
  simp only [member, bind_ok_iff, firstOrFail_ok, abortUnless_ok, abortIf_ok, Bool.and_eq_true, Bool.or_eq_false_iff,
    decide_eq_true_eq, decide_eq_false_iff_not] at passed
  obtain ⟨account, found, -, ⟨own, shared⟩, -, ⟨other, lower⟩, -, -, -, -, rest⟩ := passed
  refine ⟨account, (require_ok found).1, own, shared, other, lower, ?_⟩
  cases role with
  | none =>
    cases rest
    simp [expired]
  | some => exact assign_ok rest

theorem join_ok (passed : join around userId inviter id role s = .ok s') :
    ∃ account, s.accounts.get? id = some account ∧ account.chargingAccountType ≠ .personal ∧ role ≠ .owner ∧
      grants account inviter role = true ∧ s.assignments.any (assignments around userId id) = false ∧
      s' = { s with assignments := s.assignments ++ [⟨userId, role, id, inviter, none⟩] } := by
  simp only [join, bind_ok_iff, abortUnless_ok, abortIf_ok, Bool.or_eq_false_iff, decide_eq_false_iff_not] at passed
  obtain ⟨account, found, -, ⟨shared, lower⟩, -, granted, -, alone, rest⟩ := passed
  exact ⟨account, (require_ok found).1, shared, lower, granted, alone, assign_ok rest⟩

end ChargingAccounts
end VtsaCsms.Organizations

namespace VtsaCsms.Identity
open Foundation Organizations Organizations.ChargingAccounts
namespace ChargingAccountInvitations
variable {around : Surroundings} {s s' : Accounts} {actor id : Nat}

theorem invite_ok {email : String} {role : ChargingAccountRole} (passed : invite around actor id email role s = .ok s') :
    ∃ row, row.acceptedAt = none ∧ s' = { s with invitations := s.invitations ++ [row] } := by
  simp only [invite, bind_ok_iff] at passed
  obtain ⟨-, -, -, -, -, -, rest⟩ := passed
  split at rest
  · cases rest
  · split at rest
    · cases rest
    · obtain ⟨-, -, same⟩ := bind_ok_iff.mp rest
      cases same
      exact ⟨_, rfl, rfl⟩

/-- Whether the inviter of the row may, by the tables as they are, manage the members of its account and grant its
role. -/
def Authorized (around : Surroundings) (s : Accounts) (row : AccountInvitation) : Prop :=
  ∃ account, s.accounts.get? row.organizationId = some account ∧
    allowsChargingAccount around s row.invitedByUserId .chargingMembersManage row.organizationId = true ∧
    account.chargingAccountType ≠ .personal ∧ row.role ≠ .owner ∧ grants account row.invitedByUserId row.role = true

theorem accept_ok (passed : accept around actor id s = .ok s') :
    ∃ row joined, s.invitations[id]? = some row ∧ addressed around actor row = true ∧
      canBeAccepted around row = true ∧ Authorized around s row ∧
      join around actor row.invitedByUserId row.organizationId row.role s = .ok joined ∧
      s' = { joined with
        invitations := joined.invitations.set id { row with acceptedAt := some around.now.toSecond }
        acceptances := joined.acceptances ++ [id] } := by
  simp only [accept, bind_ok_iff, firstOrFail_ok, abortUnless_ok] at passed
  obtain ⟨row, stored, -, own, -, -, -, -, -, pending, account, found, -, granted, joined, written, same⟩ := passed
  cases same
  obtain ⟨there, allowed, -⟩ := require_ok found
  obtain ⟨account', there', shared, lower, -⟩ := join_ok written
  rw [there] at there'
  cases there'
  exact ⟨row, joined, stored, own, pending, ⟨account, there, allowed, shared, lower, granted⟩, written, rfl⟩

theorem revoke_ok {account : Nat} (passed : revoke around actor account id s = .ok s') :
    ∃ row, s.invitations[id]? = some row ∧ row.acceptedAt = none ∧
      s' = { s with
        invitations := s.invitations.set id
          { row with revokedAt := row.revokedAt.or (some around.now.toSecond) } } := by
  simp only [revoke, bind_ok_iff, firstOrFail_ok, abortIf_ok, Option.filter_eq_some_iff,
    Option.isSome_eq_false_iff, Option.isNone_iff_eq_none] at passed
  obtain ⟨-, -, row, ⟨stored, -⟩, -, pending, same⟩ := passed
  cases same
  exact ⟨row, stored, pending, rfl⟩

end ChargingAccountInvitations
end VtsaCsms.Identity
