import VtsaCsms.Identity.AccountMoves

/-!
# Shared charging accounts

One owner for every account, one role for every member, and no authority that does not come from the owner: what
holds of the accounts and the assignments in force after every call, whoever makes it.
-/
namespace VtsaCsms.Organizations
open Foundation

def ownerOf (id : Nat) (a : AccountAssignment) : Bool := decide (a.scopeId = id) && decide (a.role = .owner)

def memberOf (userId id : Nat) (a : AccountAssignment) : Bool := decide (a.userId = userId) && decide (a.scopeId = id)

/-- What holds of the accounts and of the assignments that are in force. -/
structure Shared (accounts : Table Nat Organizations.Account) (members : List AccountAssignment) : Prop where
  owner : ∀ id account, accounts.get? id = some account →
    members.countP (ownerOf id) = 1 ∧ ∀ a ∈ members, ownerOf id a = true → a.userId = account.ownerSubjectId
  single : ∀ userId id, members.countP (memberOf userId id) ≤ 1
  alone : ∀ id account, accounts.get? id = some account → account.chargingAccountType = .personal →
    ∀ a ∈ members, a.scopeId = id → a.userId = account.ownerSubjectId
  personal : ∀ id account id' account', accounts.get? id = some account → accounts.get? id' = some account' →
    account.chargingAccountType = .personal → account'.chargingAccountType = .personal →
    account.ownerSubjectId = account'.ownerSubjectId → id = id'
  granted : ∀ id account, accounts.get? id = some account → ∀ a ∈ members, a.scopeId = id →
    a.role = .admin ∨ a.role = .billingManager → a.grantedByUserId = account.ownerSubjectId

namespace Shared
variable {accounts : Table Nat Organizations.Account} {members : List AccountAssignment}

theorem countP_append_one (p : AccountAssignment → Bool) (a : AccountAssignment) :
    (members ++ [a]).countP p = members.countP p + if p a = true then 1 else 0 := by
  rw [List.countP_append, List.countP_singleton]

theorem countP_fresh {p : AccountAssignment → Bool} {drawn : Nat} (older : ∀ a ∈ members, a.scopeId < drawn)
    (own : ∀ a, p a = true → a.scopeId = drawn) : members.countP p = 0 := by
  rw [List.countP_eq_zero]
  intro a there holds
  exact Nat.lt_irrefl drawn (own a holds ▸ older a there)

variable {account : Organizations.Account}

theorem made {userId drawn : Nat} (shared : Shared accounts members)
    (older : ∀ a ∈ members, a.scopeId < drawn)
    (fresh : ∀ id account, accounts.get? id = some account → id < drawn)
    (own : account.ownerSubjectId = userId)
    (new : account.chargingAccountType = .personal → ∀ id other, accounts.get? id = some other →
      other.chargingAccountType = .personal → other.ownerSubjectId ≠ userId) :
    Shared (accounts.put drawn account) (members ++ [⟨userId, .owner, drawn, userId, none⟩]) := by
  have stored : ∀ id other, (accounts.put drawn account).get? id = some other →
      id = drawn ∧ other = account ∨ id < drawn ∧ accounts.get? id = some other := by
    intro id other there
    rw [Table.get?_put] at there
    split at there
    · rename_i same
      exact Or.inl ⟨same, (Option.some.inj there).symm⟩
    · exact Or.inr ⟨fresh id other there, there⟩
  refine ⟨?_, ?_, ?_, ?_, ?_⟩
  · intro id other there
    rw [countP_append_one]
    rcases stored id other there with ⟨rfl, rfl⟩ | ⟨before, old⟩
    · refine ⟨?_, ?_⟩
      · rw [countP_fresh older fun a owns => (by simp [ownerOf] at owns; exact owns.1)]
        simp [ownerOf]
      · intro a member owns
        rcases List.mem_append.mp member with old | new
        · have inside := older a old
          simp only [ownerOf, Bool.and_eq_true, decide_eq_true_eq] at owns
          omega
        · rw [List.mem_singleton.mp new]
          exact own.symm
    · obtain ⟨one, belongs⟩ := shared.owner id other old
      refine ⟨?_, ?_⟩
      · rw [if_neg (by simp only [ownerOf, Bool.and_eq_true, decide_eq_true_eq]; omega)]
        exact one
      · intro a member owns
        rcases List.mem_append.mp member with old | new
        · exact belongs a old owns
        · rw [List.mem_singleton.mp new] at owns
          simp only [ownerOf, Bool.and_eq_true, decide_eq_true_eq] at owns
          omega
  · intro user id
    rw [countP_append_one]
    by_cases same : id = drawn
    · rw [countP_fresh older fun a holds => (by simp [memberOf] at holds; omega)]
      split <;> omega
    · rw [if_neg (by simp only [memberOf, Bool.and_eq_true, decide_eq_true_eq]; omega)]
      exact shared.single user id
  · intro id other there type a member scope
    rcases stored id other there with ⟨rfl, rfl⟩ | ⟨before, old⟩
    · rcases List.mem_append.mp member with old | new
      · have inside := older a old
        omega
      · rw [List.mem_singleton.mp new]
        exact own.symm
    · rcases List.mem_append.mp member with there' | new
      · exact shared.alone id other old type a there' scope
      · rw [List.mem_singleton.mp new] at scope
        dsimp only at scope
        omega
  · intro id first id' second there there' type type' same
    rcases stored id first there with ⟨rfl, rfl⟩ | ⟨-, old⟩
    · rcases stored id' second there' with ⟨rfl, rfl⟩ | ⟨-, old'⟩
      · rfl
      · exact absurd (same.symm.trans own) (new type id' second old' type')
    · rcases stored id' second there' with ⟨rfl, rfl⟩ | ⟨-, old'⟩
      · exact absurd (same.trans own) (new type' id first old type)
      · exact shared.personal id first id' second old old' type type' same
  · intro id other there a member scope high
    rcases stored id other there with ⟨rfl, rfl⟩ | ⟨before, old⟩
    · rcases List.mem_append.mp member with old | new
      · have inside := older a old
        omega
      · rw [List.mem_singleton.mp new]
        exact own.symm
    · rcases List.mem_append.mp member with there' | new
      · exact shared.granted id other old a there' scope high
      · rw [List.mem_singleton.mp new] at scope
        dsimp only at scope
        omega

theorem update {id : Nat} {f : Organizations.Account → Organizations.Account} (shared : Shared accounts members)
    (same : ∀ account, accounts.get? id = some account → (f account).ownerSubjectId = account.ownerSubjectId ∧
      ((f account).chargingAccountType = .personal ↔ account.chargingAccountType = .personal)) :
    Shared (accounts.update id f) members := by
  have stored : ∀ key changed, (accounts.update id f).get? key = some changed →
      ∃ account, accounts.get? key = some account ∧ changed.ownerSubjectId = account.ownerSubjectId ∧
        (changed.chargingAccountType = .personal ↔ account.chargingAccountType = .personal) := by
    intro key changed there
    rw [Table.get?_update] at there
    split at there
    · rename_i here
      obtain ⟨account, found, rfl⟩ := Option.map_eq_some_iff.mp there
      exact ⟨account, found, same account (here ▸ found)⟩
    · exact ⟨changed, there, rfl, Iff.rfl⟩
  refine ⟨?_, shared.single, ?_, ?_, ?_⟩
  · intro key changed there
    obtain ⟨account, found, owner, -⟩ := stored key changed there
    rw [owner]
    exact shared.owner key account found
  · intro key changed there type
    obtain ⟨account, found, owner, kind⟩ := stored key changed there
    rw [owner]
    exact shared.alone key account found (kind.mp type)
  · intro key first key' second there there' type type' equal
    obtain ⟨account, found, owner, kind⟩ := stored key first there
    obtain ⟨account', found', owner', kind'⟩ := stored key' second there'
    exact shared.personal key account key' account' found found' (kind.mp type) (kind'.mp type')
      (owner.symm.trans (equal.trans owner'))
  · intro key changed there
    obtain ⟨account, found, owner, -⟩ := stored key changed there
    rw [owner]
    exact shared.granted key account found

theorem countP_filter_of (p q : AccountAssignment → Bool) (implied : ∀ a, p a = true → q a = true) :
    (members.filter q).countP p = members.countP p := by
  rw [List.countP_filter]
  refine List.countP_congr fun a _ => ?_
  simp only [Bool.and_eq_true]
  exact ⟨fun both => both.1, fun holds => ⟨holds, implied a holds⟩⟩

theorem deleted {id : Nat} (shared : Shared accounts members) :
    Shared (accounts.removeWhere fun key _ => decide (key = id))
      (members.filter fun a => decide (a.scopeId ≠ id)) := by
  have stored : ∀ key account, (accounts.removeWhere fun key _ => decide (key = id)).get? key = some account →
      key ≠ id ∧ accounts.get? key = some account := by
    intro key account there
    rw [← Table.mem_entries] at there
    obtain ⟨member, kept⟩ := List.mem_filter.mp there
    exact ⟨by simpa using kept, (Table.mem_entries _ _ _).mp member⟩
  refine ⟨?_, ?_, ?_, ?_, ?_⟩
  · intro key account there
    obtain ⟨other, found⟩ := stored key account there
    obtain ⟨one, belongs⟩ := shared.owner key account found
    refine ⟨?_, fun a member => belongs a (List.mem_filter.mp member).1⟩
    rw [countP_filter_of]
    · exact one
    · intro a owns
      simp only [ownerOf, Bool.and_eq_true, decide_eq_true_eq] at owns ⊢
      omega
  · intro user key
    exact le_trans (List.Sublist.countP_le List.filter_sublist) (shared.single user key)
  · intro key account there type a member
    exact shared.alone key account (stored key account there).2 type a (List.mem_filter.mp member).1
  · intro key account key' account' there there'
    exact shared.personal key account key' account' (stored key account there).2 (stored key' account' there').2
  · intro key account there a member
    exact shared.granted key account (stored key account there).2 a (List.mem_filter.mp member).1

theorem ended {id subject : Nat} (shared : Shared accounts members)
    (stored : accounts.get? id = some account) (other : subject ≠ account.ownerSubjectId) :
    Shared accounts (members.filter fun a => !memberOf subject id a) := by
  refine ⟨?_, ?_, ?_, shared.personal, ?_⟩
  · intro key found there
    obtain ⟨one, belongs⟩ := shared.owner key found there
    refine ⟨?_, fun a member => belongs a (List.mem_filter.mp member).1⟩
    rw [List.countP_filter, ← one]
    refine List.countP_congr fun a member => ?_
    simp only [Bool.and_eq_true, Bool.not_eq_true']
    refine ⟨fun both => both.1, fun owns => ⟨owns, ?_⟩⟩
    -- the owner's assignment is not among those that end
    by_contra ends
    simp only [memberOf, Bool.not_eq_false, Bool.and_eq_true, decide_eq_true_eq] at ends
    have here : key = id := by
      simp only [ownerOf, Bool.and_eq_true, decide_eq_true_eq] at owns
      omega
    subst here
    rw [stored] at there
    cases there
    exact other (ends.1.symm.trans (belongs a member owns))
  · intro user key
    exact le_trans (List.Sublist.countP_le List.filter_sublist) (shared.single user key)
  · intro key found there type a member
    exact shared.alone key found there type a (List.mem_filter.mp member).1
  · intro key found there a member
    exact shared.granted key found there a (List.mem_filter.mp member).1

/-- A member joins a shared account, whom it had not, with a role that its owner grants or that others may. -/
theorem joined {a : AccountAssignment} (shared : Shared accounts members)
    (stored : accounts.get? a.scopeId = some account) (kind : account.chargingAccountType ≠ .personal)
    (lower : a.role ≠ .owner)
    (grants : a.role = .admin ∨ a.role = .billingManager → a.grantedByUserId = account.ownerSubjectId)
    (alone : members.countP (memberOf a.userId a.scopeId) = 0) : Shared accounts (members ++ [a]) := by
  have notOwner : ∀ id, ownerOf id a = false := by
    intro id
    simp [ownerOf, lower]
  refine ⟨?_, ?_, ?_, shared.personal, ?_⟩
  · intro id found there
    obtain ⟨one, belongs⟩ := shared.owner id found there
    refine ⟨?_, ?_⟩
    · rw [countP_append_one, notOwner id]
      simpa using one
    · intro b member owns
      rcases List.mem_append.mp member with old | new
      · exact belongs b old owns
      · rw [List.mem_singleton.mp new, notOwner id] at owns
        cases owns
  · intro user id
    rw [countP_append_one]
    split
    · rename_i holds
      simp only [memberOf, Bool.and_eq_true, decide_eq_true_eq] at holds
      obtain ⟨rfl, rfl⟩ := holds
      omega
    · exact shared.single user id
  · intro id found there type b member scope
    rcases List.mem_append.mp member with old | new
    · exact shared.alone id found there type b old scope
    · rw [List.mem_singleton.mp new] at scope
      rw [scope, there] at stored
      cases stored
      exact absurd type kind
  · intro id found there b member scope high
    rcases List.mem_append.mp member with old | new
    · exact shared.granted id found there b old scope high
    · rw [List.mem_singleton.mp new] at scope high ⊢
      rw [scope, there] at stored
      cases stored
      exact grants high

end Shared
end VtsaCsms.Organizations
