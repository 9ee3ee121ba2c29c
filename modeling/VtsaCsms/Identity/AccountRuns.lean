import VtsaCsms.Identity.SharedAccounts

/-!
# Runs of the calls on charging accounts

The accounts stay shared as they should in every run, and an invitation is accepted once at most, by the one it is
addressed to, while its inviter may grant its role.
-/
namespace VtsaCsms.Identity
open Foundation Organizations Organizations.ChargingAccounts ChargingAccountInvitations

/-- What a call that goes through writes. -/
inductive Writes (around : Surroundings) (s : Accounts) : AccountCall → Accounts → Prop where
  | nothing (call : AccountCall) : Writes around s call s
  | made (call : AccountCall) (userId : Nat) (account : Organizations.Account) (made : Made s userId account) :
      Writes around s call { s with
        accounts := s.accounts.put s.drawn account
        drawn := s.drawn + 1
        assignments := s.assignments ++ [⟨userId, .owner, s.drawn, userId, none⟩] }
  | updated (call : AccountCall) (id : Nat) (f : Organizations.Account → Organizations.Account)
      (same : ∀ account, s.accounts.get? id = some account →
        (f account).ownerSubjectId = account.ownerSubjectId ∧
        (f account).personalSubjectId = account.personalSubjectId ∧
        ((f account).chargingAccountType = .personal ↔ account.chargingAccountType = .personal)) :
      Writes around s call { s with accounts := s.accounts.update id f }
  | deleted (call : AccountCall) (id : Nat) :
      Writes around s call { s with
        assignments := s.assignments.filter fun a => decide (a.scopeId ≠ id)
        accounts := s.accounts.removeWhere fun key _ => decide (key = id) }
  | ended (call : AccountCall) (id subject : Nat) (role : Option ChargingAccountRole)
      (account : Organizations.Account)
      (stored : s.accounts.get? id = some account) (shared : account.chargingAccountType ≠ .personal)
      (other : subject ≠ account.ownerSubjectId) (lower : role ≠ some .owner) :
      Writes around s call { s with
        assignments := expired around subject id s.assignments ++
          role.toList.map fun role => ⟨subject, role, id, account.ownerSubjectId, none⟩ }
  | joined (call : AccountCall) (userId inviter id : Nat) (role : ChargingAccountRole) (s' : Accounts)
      (written : join around userId inviter id role s = .ok s') : Writes around s call s'
  | accepted (actor id : Nat) (row : AccountInvitation) (s' : Accounts) (stored : s.invitations[id]? = some row)
      (own : addressed around actor row = true) (pending : row.acceptedAt = none)
      (authorized : Authorized around s row)
      (written : join around actor row.invitedByUserId row.organizationId row.role s = .ok s') :
      Writes around s (.accept actor id) { s' with
        invitations := s'.invitations.set id { row with acceptedAt := some around.now.toSecond }
        acceptances := s'.acceptances ++ [id] }
  | invited (call : AccountCall) (row : AccountInvitation) (pending : row.acceptedAt = none) :
      Writes around s call { s with invitations := s.invitations ++ [row] }
  | revoked (call : AccountCall) (id : Nat) (row : AccountInvitation) (revokedAt : Option Instant)
      (stored : s.invitations[id]? = some row) (pending : row.acceptedAt = none) :
      Writes around s call { s with invitations := s.invitations.set id { row with revokedAt } }

variable {around : Surroundings} {s s' : Accounts} {call : AccountCall}

theorem map_snd_ok {ε α β : Type} {x : Except ε (α × β)} {b : β} (ok : x.map Prod.snd = .ok b) :
    ∃ result, x = .ok result ∧ result.2 = b := by
  cases x with
  | error => cases ok
  | ok result =>
    cases ok
    exact ⟨result, rfl, rfl⟩

theorem result_writes (passed : call.result around s = .ok s') : Writes around s call s' := by
  cases call with
  | personal user =>
    obtain ⟨result, ok, same⟩ := map_snd_ok passed
    cases same
    rcases personal_ok ok with idle | ⟨account, made, written⟩
    · rw [idle]
      exact .nothing _
    · rw [written]
      exact .made _ user account made
  | create user =>
    obtain ⟨result, ok, same⟩ := map_snd_ok passed
    cases same
    rcases create_ok ok with idle | ⟨account, made, written⟩
    · rw [idle]
      exact .nothing _
    · rw [written]
      exact .made _ user account made
  | update _ id =>
    obtain ⟨account, kind, stored, shared, other, rfl⟩ := update_ok passed
    refine .updated _ id _ fun found there => ?_
    rw [stored] at there
    cases there
    exact ⟨rfl, rfl, iff_of_false other shared⟩
  | deleteUnused _ id =>
    rw [deleteUnused_ok passed]
    exact .deleted _ id
  | member _ id subject role =>
    obtain ⟨account, stored, own, shared, other, lower, rfl⟩ := member_ok passed
    rw [← own]
    exact .ended _ id subject role account stored shared other lower
  | join user inviter id role => exact .joined _ user inviter id role s' passed
  | invite =>
    obtain ⟨row, pending, rfl⟩ := invite_ok passed
    exact .invited _ row pending
  | accept actor id =>
    obtain ⟨row, joined, stored, own, pending, authorized, written, rfl⟩ := accept_ok passed
    refine .accepted actor id row joined stored own ?_ authorized written
    simp only [ChargingAccountInvitations.canBeAccepted, Bool.and_eq_true, Option.isNone_iff_eq_none] at pending
    exact pending.1.1
  | revoke _ _ id =>
    obtain ⟨row, stored, pending, rfl⟩ := revoke_ok passed
    exact .revoked _ id row _ stored pending
  | activated id =>
    cases passed
    exact .updated _ id _ fun _ _ => ⟨rfl, rfl, Iff.rfl⟩

/-! ### What every call keeps -/

def members (s : Accounts) : List AccountAssignment := s.assignments.filter (active s.clock)

/-- What the rows tell of one another: an expiry is a time that has come, and an account has a personal subject
where it is personal. -/
structure Kept (s : Accounts) : Prop where
  past : ∀ a ∈ s.assignments, ∀ t ∈ a.expiresAt, t ≤ s.clock
  below : ∀ a ∈ s.assignments, a.scopeId < s.drawn
  fresh : ∀ id account, s.accounts.get? id = some account → id < s.drawn
  subject : ∀ id account, s.accounts.get? id = some account → account.chargingAccountType = .personal →
    account.personalSubjectId = some account.ownerSubjectId
  accepted : ∀ i ∈ s.acceptances, ∃ row, s.invitations[i]? = some row ∧ row.acceptedAt ≠ none

def later (now : Instant) (s : Accounts) : Accounts := { s with clock := now }

theorem active_now {now : Instant} {a : AccountAssignment} (past : ∀ t ∈ a.expiresAt, t ≤ s.clock)
    (elapsed : s.clock ≤ now) :
    active now a = active s.clock a := by
  unfold active unexpired
  cases expiry : a.expiresAt with
  | none => rfl
  | some t =>
    have ended := past t expiry
    simp only [Option.all_some, decide_eq_decide]
    constructor
    · intro running
      exact absurd (le_trans ended elapsed) (not_le.mpr running)
    · intro running
      exact absurd ended (not_le.mpr running)

theorem filter_active {now : Instant} (past : ∀ a ∈ s.assignments, ∀ t ∈ a.expiresAt, t ≤ s.clock)
    (elapsed : s.clock ≤ now) : s.assignments.filter (active now) = members s :=
  List.filter_congr fun a there => active_now (past a there) elapsed

theorem toSecond_le (t : Instant) : t.toSecond ≤ t := by
  change t / 1000000 * 1000000 ≤ t
  exact Int.ediv_mul_le t (by decide)

theorem expired_active (around : Surroundings) (subject id : Nat) (all : List AccountAssignment) :
    (expired around subject id all).filter (active around.now) =
      (all.filter (active around.now)).filter fun a => !memberOf subject id a := by
  unfold expired
  induction all with
  | nil => rfl
  | cons a _ ih =>
    rw [List.map_cons]
    by_cases ends : assignments around subject id a = true
    · have fields : memberOf subject id a = true ∧ active around.now a = true := by
        simpa [assignments, memberOf] using ends
      have ended : active around.now { a with expiresAt := some around.now.toSecond } = false := by
        simpa [active, unexpired] using toSecond_le around.now
      rw [if_pos ends, List.filter_cons, ended, List.filter_cons, if_pos fields.2, List.filter_cons, fields.1]
      simpa using ih
    · rw [if_neg ends, List.filter_cons, List.filter_cons]
      by_cases running : active around.now a = true
      · have stays : memberOf subject id a = false := by
          cases own : memberOf subject id a with
          | false => rfl
          | true =>
            exact absurd (by simpa [assignments, memberOf, running] using own) ends
        rw [if_pos running, if_pos running, List.filter_cons, stays]
        simpa using ih
      · rw [if_neg running, if_neg running]
        exact ih

theorem filter_new (now : Instant) (all : List AccountAssignment) {a : AccountAssignment} (standing : a.expiresAt = none) :
    (all ++ [a]).filter (active now) = all.filter (active now) ++ [a] := by
  have running : active now a = true := by
    unfold active unexpired
    rw [standing]
    rfl
  rw [List.filter_append, List.filter_cons, if_pos running, List.filter_nil]

section Steps
variable (kept : Kept s) (elapsed : s.clock ≤ around.now)
include kept elapsed

theorem joined_shared {userId inviter id : Nat} {role : ChargingAccountRole}
    (written : join around userId inviter id role s = .ok s') (shared : Shared s.accounts (members s)) :
    Shared s'.accounts (s'.assignments.filter (active around.now)) := by
  obtain ⟨account, stored, kind, lower, granted, alone, rfl⟩ := join_ok written
  rw [filter_new around.now s.assignments rfl, filter_active kept.past elapsed]
  refine shared.joined stored kind lower (fun high => ?_) ?_
  · simp only [grants, Bool.or_eq_true, decide_eq_true_eq] at granted
    rcases granted with owner | low
    · exact owner.symm
    · have notLow : role ∉ [ChargingAccountRole.driver, .fleetManager] := by
        have high' : role = .admin ∨ role = .billingManager := high
        rcases high' with rfl | rfl <;> decide
      exact absurd low notLow
  · rw [← filter_active kept.past elapsed, List.countP_eq_zero]
    intro a member holds
    obtain ⟨there, running⟩ := List.mem_filter.mp member
    have absent := List.any_eq_false.mp alone a there
    apply absent
    simp only [memberOf, Bool.and_eq_true] at holds
    simp only [assignments, Bool.and_eq_true]
    exact ⟨holds, running⟩

theorem Writes.shared (writes : Writes around s call s') (shared : Shared s.accounts (members s)) :
    Shared s'.accounts (s'.assignments.filter (active around.now)) := by
  have same := filter_active kept.past elapsed
  cases writes with
  | made _ _ _ made =>
    rw [filter_new around.now s.assignments rfl, same]
    refine shared.made (fun a member => kept.below a (List.mem_filter.mp member).1) kept.fresh made.own ?_
    intro type id other there type' own
    exact made.new type id other there (own ▸ kept.subject id other there type')
  | updated _ _ _ unchanged =>
    rw [same]
    exact shared.update fun account stored => ⟨(unchanged account stored).1, (unchanged account stored).2.2⟩
  | deleted =>
    rw [List.filter_comm, same]
    exact shared.deleted
  | ended _ id subject role account stored kind other lower =>
    have without := shared.ended stored other
    have left := (expired_active around subject id s.assignments).trans (congrArg (List.filter _) same)
    cases role with
    | none =>
      rw [← left] at without
      simpa using without
    | some role =>
      have new := filter_new around.now (expired around subject id s.assignments)
        (a := ⟨subject, role, id, account.ownerSubjectId, none⟩) rfl
      refine cast (congrArg (Shared s.accounts) (new.trans (congrArg (· ++ _) left)).symm) ?_
      refine without.joined stored kind (fun owner => lower (congrArg some owner)) (fun _ => rfl) ?_
      rw [List.countP_eq_zero]
      intro a member holds
      have apart := (List.mem_filter.mp member).2
      rw [holds] at apart
      cases apart
  | joined _ _ _ _ _ _ written => exact joined_shared kept elapsed written shared
  | accepted _ _ _ _ _ _ _ _ written =>
    have joined := joined_shared kept elapsed written shared
    exact joined
  | _ =>
    rw [same]
    exact shared

theorem Writes.past (writes : Writes around s call s') : ∀ a ∈ s'.assignments, ∀ t ∈ a.expiresAt, t ≤ around.now := by
  have before : ∀ a ∈ s.assignments, ∀ t ∈ a.expiresAt, t ≤ around.now :=
    fun a member t expiry => le_trans (kept.past a member t expiry) elapsed
  have after : ∀ a, a.expiresAt = none → ∀ a' ∈ s.assignments ++ [a], ∀ t ∈ a'.expiresAt, t ≤ around.now := by
    intro a standing a' member t expiry
    rcases List.mem_append.mp member with old | new
    · exact before a' old t expiry
    · rw [List.mem_singleton.mp new, standing] at expiry
      cases expiry
  cases writes with
  | made => exact after _ rfl
  | deleted => exact fun a member => before a (List.mem_filter.mp member).1
  | ended =>
    intro a member t expiry
    rcases List.mem_append.mp member with old | new
    · obtain ⟨b, there, rfl⟩ := List.mem_map.mp old
      split at expiry
      · cases expiry
        exact toSecond_le around.now
      · exact before b there t expiry
    · obtain ⟨given, -, rfl⟩ := List.mem_map.mp new
      cases expiry
  | joined _ _ _ _ _ _ written =>
    obtain ⟨-, -, -, -, -, -, rfl⟩ := join_ok written
    exact after _ rfl
  | accepted _ _ _ _ _ _ _ _ written =>
    obtain ⟨-, -, -, -, -, -, rfl⟩ := join_ok written
    exact after _ rfl
  | _ => exact before

omit elapsed

theorem Writes.below (writes : Writes around s call s') : ∀ a ∈ s'.assignments, a.scopeId < s'.drawn := by
  have after : ∀ a : AccountAssignment, a.scopeId < s.drawn → ∀ a' ∈ s.assignments ++ [a], a'.scopeId < s.drawn := by
    intro a inside a' member
    rcases List.mem_append.mp member with old | new
    · exact kept.below a' old
    · rw [List.mem_singleton.mp new]
      exact inside
  cases writes with
  | made =>
    intro a member
    rcases List.mem_append.mp member with old | new
    · exact Nat.lt_succ_of_lt (kept.below a old)
    · rw [List.mem_singleton.mp new]
      exact Nat.lt_succ_self s.drawn
  | deleted => exact fun a member => kept.below a (List.mem_filter.mp member).1
  | ended _ id _ _ account stored =>
    intro a member
    rcases List.mem_append.mp member with old | new
    · obtain ⟨b, there, rfl⟩ := List.mem_map.mp old
      split
      · exact kept.below b there
      · exact kept.below b there
    · obtain ⟨given, -, rfl⟩ := List.mem_map.mp new
      exact kept.fresh id account stored
  | joined _ _ _ id _ _ written =>
    obtain ⟨account, stored, -, -, -, -, rfl⟩ := join_ok written
    exact after _ (kept.fresh id account stored)
  | accepted _ _ _ _ _ _ _ _ written =>
    obtain ⟨account, there, -, -, -, -, rfl⟩ := join_ok written
    exact after _ (kept.fresh _ account there)
  | _ => exact kept.below

theorem Writes.accounts (writes : Writes around s call s') (id : Nat) (account : Organizations.Account)
    (there : s'.accounts.get? id = some account) :
    id < s'.drawn ∧
      (account.chargingAccountType = .personal → account.personalSubjectId = some account.ownerSubjectId) := by
  have before : ∀ account, s.accounts.get? id = some account → id < s.drawn ∧
      (account.chargingAccountType = .personal → account.personalSubjectId = some account.ownerSubjectId) :=
    fun account there => ⟨kept.fresh id account there, kept.subject id account there⟩
  cases writes with
  | made _ userId new made =>
    change (s.accounts.put s.drawn new).get? id = some account at there
    rw [Table.get?_put] at there
    split at there
    · rename_i same
      cases there
      refine ⟨same ▸ Nat.lt_succ_self s.drawn, fun personal => ?_⟩
      rw [made.subject, if_pos personal, made.own]
    · obtain ⟨inside, subject⟩ := before account there
      exact ⟨Nat.lt_succ_of_lt inside, subject⟩
  | updated _ key f unchanged =>
    change (s.accounts.update key f).get? id = some account at there
    rw [Table.get?_update] at there
    split at there
    · rename_i same
      obtain ⟨old, found, rfl⟩ := Option.map_eq_some_iff.mp there
      obtain ⟨owner, subject, kind⟩ := unchanged old (same ▸ found)
      obtain ⟨inside, personal⟩ := before old found
      exact ⟨inside, fun type => (subject.trans (personal (kind.mp type))).trans (congrArg some owner.symm)⟩
    · exact before account there
  | deleted => exact before account (Table.get?_removeWhere_some there)
  | joined _ _ _ _ _ _ written =>
    obtain ⟨-, -, -, -, -, -, rfl⟩ := join_ok written
    exact before account there
  | accepted _ _ _ _ _ _ _ _ written =>
    obtain ⟨-, -, -, -, -, -, rfl⟩ := join_ok written
    exact before account there
  | _ => exact before account there

end Steps

/-! ### Acceptances -/

/-- An invitation of after that is accepted was accepted before, or is by this call, rightfully. -/
theorem Writes.accepts (writes : Writes around s call s') {i : Nat} {row' : AccountInvitation}
    (stored' : s'.invitations[i]? = some row') (accepted : row'.acceptedAt ≠ none) :
    (∃ row, s.invitations[i]? = some row ∧ row.acceptedAt ≠ none) ∨
      ∃ actor row, call = .accept actor i ∧ s.invitations[i]? = some row ∧ addressed around actor row = true ∧
        Authorized around s row := by
  cases writes with
  | joined _ _ _ _ _ _ written =>
    obtain ⟨-, -, -, -, -, -, rfl⟩ := join_ok written
    exact Or.inl ⟨row', stored', accepted⟩
  | accepted actor id row _ stored own _ authorized written =>
    obtain ⟨-, -, -, -, -, -, rfl⟩ := join_ok written
    by_cases here : id = i
    · subst here
      exact Or.inr ⟨actor, row, rfl, stored, own, authorized⟩
    · rw [List.getElem?_set_ne here] at stored'
      exact Or.inl ⟨row', stored', accepted⟩
  | invited _ _ pending =>
    rw [List.getElem?_append] at stored'
    split at stored'
    · exact Or.inl ⟨row', stored', accepted⟩
    · rw [List.mem_singleton.mp (List.mem_of_getElem? stored')] at accepted
      exact absurd pending accepted
  | revoked _ id _ _ stored pending =>
    by_cases here : id = i
    · subst here
      rw [List.getElem?_set_self (List.getElem?_eq_some_iff.mp stored).1] at stored'
      cases stored'
      exact absurd pending accepted
    · rw [List.getElem?_set_ne here] at stored'
      exact Or.inl ⟨row', stored', accepted⟩
  | _ => exact Or.inl ⟨row', stored', accepted⟩

theorem Writes.stays (writes : Writes around s call s') {i : Nat} {row : AccountInvitation}
    (stored : s.invitations[i]? = some row) (accepted : row.acceptedAt ≠ none) :
    ∃ row', s'.invitations[i]? = some row' ∧ row'.acceptedAt ≠ none := by
  have inside : i < s.invitations.length := (List.getElem?_eq_some_iff.mp stored).1
  cases writes with
  | joined _ _ _ _ _ _ written =>
    obtain ⟨-, -, -, -, -, -, rfl⟩ := join_ok written
    exact ⟨row, stored, accepted⟩
  | accepted _ id _ _ _ _ _ _ written =>
    obtain ⟨-, -, -, -, -, -, rfl⟩ := join_ok written
    by_cases here : id = i
    · subst here
      exact ⟨_, List.getElem?_set_self inside, Option.some_ne_none _⟩
    · exact ⟨row, (List.getElem?_set_ne here).trans stored, accepted⟩
  | invited => exact ⟨row, (List.getElem?_append_left inside).trans stored, accepted⟩
  | revoked _ id _ _ there pending =>
    by_cases here : id = i
    · subst here
      rw [stored] at there
      cases there
      exact absurd pending accepted
    · exact ⟨row, (List.getElem?_set_ne here).trans stored, accepted⟩
  | _ => exact ⟨row, stored, accepted⟩

theorem Writes.acceptances (writes : Writes around s call s') (kept : Kept s) (once : s.acceptances.Nodup) :
    s'.acceptances.Nodup ∧ ∀ i ∈ s'.acceptances, ∃ row, s'.invitations[i]? = some row ∧ row.acceptedAt ≠ none := by
  have before : ∀ i ∈ s.acceptances, ∃ row', s'.invitations[i]? = some row' ∧ row'.acceptedAt ≠ none := by
    intro i member
    obtain ⟨row, stored, accepted⟩ := kept.accepted i member
    exact writes.stays stored accepted
  cases writes with
  | joined _ _ _ _ _ _ written =>
    obtain ⟨-, -, -, -, -, -, rfl⟩ := join_ok written
    exact ⟨once, before⟩
  | accepted _ id _ _ stored _ pending _ written =>
    obtain ⟨-, -, -, -, -, -, rfl⟩ := join_ok written
    have new : id ∉ s.acceptances := by
      intro member
      obtain ⟨row', stored', accepted⟩ := kept.accepted id member
      rw [stored] at stored'
      cases stored'
      exact accepted pending
    constructor
    · exact List.nodup_append.mpr ⟨once, List.nodup_singleton id, fun i member j new' same =>
        new (List.mem_singleton.mp new' ▸ same ▸ member)⟩
    · intro i member
      rcases List.mem_append.mp member with old | own'
      · exact before i old
      · rw [List.mem_singleton.mp own']
        exact ⟨_, List.getElem?_set_self (List.getElem?_eq_some_iff.mp stored).1, Option.some_ne_none _⟩
  | _ => exact ⟨once, before⟩

/-! ### Runs -/

/-- The accounts are shared as they should be, and no invitation has been accepted twice. -/
structure SoundAccounts (s : Accounts) : Prop where
  shared : Shared s.accounts (members s)
  once : s.acceptances.Nodup

/-- An invitation that the request accepts is one its user has verified the address of, and its inviter may grant the
role. -/
def Rightful (request : AccountRequest) (s : Accounts) : Prop :=
  ∀ i row', (nextAccounts request s).invitations[i]? = some row' → row'.acceptedAt ≠ none →
    (∃ row, s.invitations[i]? = some row ∧ row.acceptedAt ≠ none) ∨
      ∃ actor row, request.call = .accept actor i ∧ s.invitations[i]? = some row ∧
        addressed (request.around s) actor row = true ∧ Authorized (request.around s) s row

theorem request_writes (request : AccountRequest) (s : Accounts) :
    ∃ s', Writes (request.around s) s request.call s' ∧ nextAccounts request s = later (request.around s).now s' := by
  unfold nextAccounts
  cases result : request.call.result (request.around s) s with
  | error => exact ⟨s, .nothing _, rfl⟩
  | ok s' => exact ⟨s', result_writes result, rfl⟩

theorem elapsed_le (request : AccountRequest) (s : Accounts) : s.clock ≤ (request.around s).now :=
  Int.le_add_of_nonneg_right (Int.natCast_nonneg request.elapsed)

theorem next_sound (request : AccountRequest) (s : Accounts) (both : Kept s ∧ SoundAccounts s) :
    Kept (nextAccounts request s) ∧ SoundAccounts (nextAccounts request s) := by
  obtain ⟨kept, sound⟩ := both
  obtain ⟨s', writes, same⟩ := request_writes request s
  have elapsed := elapsed_le request s
  obtain ⟨once, accepted⟩ := writes.acceptances kept sound.once
  have shared := writes.shared kept elapsed sound.shared
  have past := writes.past kept elapsed
  have below := writes.below kept
  have accounts := writes.accounts kept
  rw [same]
  exact ⟨⟨past, below, fun id account there => (accounts id account there).1,
    fun id account there => (accounts id account there).2, accepted⟩, shared, once⟩

theorem next_rightful (request : AccountRequest) (s : Accounts) : Rightful request s := by
  intro i row' stored' accepted
  obtain ⟨s', writes, same⟩ := request_writes request s
  rw [same] at stored'
  exact writes.accepts stored' accepted

theorem empty_sound : Kept .empty ∧ SoundAccounts .empty := by
  refine ⟨⟨?_, ?_, ?_, ?_, ?_⟩, ⟨?_, fun _ _ => Nat.zero_le _, ?_, ?_, ?_⟩, List.nodup_nil⟩
  · exact fun _ there => (by cases there)
  · exact fun _ there => (by cases there)
  · exact fun _ _ there => (by cases there)
  · exact fun _ _ there => (by cases there)
  · exact fun _ there => (by cases there)
  · exact fun _ _ there => (by cases there)
  · exact fun _ _ there => (by cases there)
  · exact fun _ _ _ _ there => (by cases there)
  · exact fun _ _ there => (by cases there)

/-- In every run the accounts are shared as they should be, no invitation is accepted twice, and each is accepted
rightfully. -/
theorem accounts_shared (requests : List AccountRequest) :
    Runs.Throughout nextAccounts SoundAccounts requests .empty ∧ Runs.Met nextAccounts Rightful requests .empty :=
  ⟨Runs.throughout_of_kept next_sound (fun _ both => both.2) requests Accounts.empty empty_sound,
    Runs.met_of_kept (Q := fun _ => True) (fun _ _ _ => trivial) (fun request s _ => next_rightful request s)
      requests .empty trivial⟩

end VtsaCsms.Identity
