import VtsaCsms.Foundation.Follows
import VtsaCsms.Foundation.Runs

/-!
# Mobile numbers

`MobileVerificationService.php` and its controller. A call finds the rows of its user and of its challenge when it
starts. What a challenge was made for is kept beside the rows, which hold digests of it only, and so is every
comparison of a code. The sender and the audit change none of these rows, also where they throw.
-/
namespace VtsaCsms.Identity
open Foundation Foundation.Action

structure MobileUser where
  mobileNumber : Option String := none
  mobileNumberHash : Option String := none
  mobileVerifiedAt : Option Instant := none
  deriving DecidableEq

def sameNumber (a b : MobileUser) : Bool :=
  a.mobileNumberHash.isSome && decide (a.mobileNumberHash = b.mobileNumberHash)

structure MobileVerificationChallenge where
  userId : Nat
  mobileNumberHash : String
  codeHash : String
  attempts : Nat := 0
  expiresAt : Instant
  consumedAt : Option Instant := none

/-- The number and the code of a challenge, as the sender is handed them. -/
structure Message where
  challengeId : Nat
  number : String
  code : String

/-- A code compared with the one of a challenge. -/
structure Comparison where
  challengeId : Nat
  code : String
  comparedAt : Instant

structure MobileVerifications where
  users : Indexed Nat MobileUser sameNumber
  challenges : Table Nat MobileVerificationChallenge := Table.empty
  messages : List Message := []
  comparisons : List Comparison := []

abbrev MobileAction (α : Type) := Action MobileVerifications Throwable α

namespace MobileVerificationService

/-- What `\s` matches. -/
def isSpace (c : Char) : Bool := c ∈ [' ', '\t', '\n', Char.ofNat 11, Char.ofNat 12, '\r']

/-- `preg_replace('/\s+/', '', $mobileNumber)`. -/
def normalized (mobileNumber : String) : String :=
  String.ofList (mobileNumber.toList.filter fun c => !isSpace c)

/-- The code of a challenge; `drawn` is the random number. -/
def codeOf (testing : Bool) (drawn : Nat) : String := if testing then "000000" else keyText drawn

def updateUser (userId : Nat) (f : MobileUser → MobileUser) : MobileAction Unit :=
  focus MobileVerifications.users (fun s users => { s with users })
    (Indexed.update "users_mobile_number_hash_unique" userId f)

def start (sha256 : String → String) (now : Instant) (userId : Nat) (mobileNumber : String) (testing : Bool)
    (drawn : Nat) : MobileAction Unit := do
  let number := normalized mobileNumber
  let mobileHash := sha256 number
  let code := codeOf testing drawn
  updateUser userId fun user => { user with
    mobileNumber := some number
    mobileNumberHash := some mobileHash
    mobileVerifiedAt := none }
  write fun s => { s with
    challenges := s.challenges.create
      { userId, mobileNumberHash := mobileHash, codeHash := sha256 code,
        expiresAt := (now.addSeconds 600).toSecond }
    messages := s.messages ++ [⟨s.challenges.nextId, number, code⟩] }

/-- The first check of `verify`. -/
def Invalid (now : Instant) (userId : Nat) (challenge : MobileVerificationChallenge) : Prop :=
  challenge.userId ≠ userId ∨ challenge.consumedAt ≠ none ∨ challenge.expiresAt < now ∨ 5 ≤ challenge.attempts

instance (now : Instant) (userId : Nat) (challenge : MobileVerificationChallenge) :
    Decidable (Invalid now userId challenge) :=
  inferInstanceAs (Decidable (_ ∨ _ ∨ _ ∨ _))

def verify (sha256 : String → String) (now : Instant) (userId challengeId : Nat) (code : String) :
    MobileAction Unit := do
  let found ← read fun s => s.challenges.get? challengeId
  let challenge ← orThrow found (.modelNotFound "MobileVerificationChallenge")
  throwIf (Invalid now userId challenge) (.validation "The verification challenge is invalid.")
  write fun s => { s with
    challenges := s.challenges.update challengeId fun row => { row with attempts := row.attempts + 1 }
    comparisons := s.comparisons ++ [⟨challengeId, code, now⟩] }
  throwIf (challenge.codeHash ≠ sha256 code) (.validation "The verification code is invalid.")
  write fun s => { s with
    challenges := s.challenges.update challengeId fun row => { row with consumedAt := some now.toSecond } }
  updateUser userId fun user => { user with mobileVerifiedAt := some now.toSecond }

end MobileVerificationService
open MobileVerificationService

inductive MobileCall where
  | start (now : Instant) (userId : Nat) (mobileNumber : String) (testing : Bool) (drawn : Nat)
  | verify (now : Instant) (userId challengeId : Nat) (code : String)

namespace MobileCall

def perform (sha256 : String → String) : MobileCall → MobileAction Unit
  | start now userId mobileNumber testing drawn =>
    MobileVerificationService.start sha256 now userId mobileNumber testing drawn
  | verify now userId challengeId code => MobileVerificationService.verify sha256 now userId challengeId code

def next (sha256 : String → String) (call : MobileCall) (s : MobileVerifications) : MobileVerifications :=
  after (call.perform sha256) s

end MobileCall

namespace MobileVerifications

/-- The number belongs to a challenge of the user whose own code was presented before it expired. -/
def Received (s : MobileVerifications) (userId : Nat) (number : String) : Prop :=
  ∃ id challenge m c, s.challenges.get? id = some challenge ∧ challenge.userId = userId ∧
    m ∈ s.messages ∧ m.challengeId = id ∧ m.number = number ∧
    c ∈ s.comparisons ∧ c.challengeId = id ∧ c.code = m.code ∧ c.comparedAt ≤ challenge.expiresAt

/-- Codes compared with the one of a challenge. -/
def compared (s : MobileVerifications) (id : Nat) : Nat := s.comparisons.countP fun c => decide (c.challengeId = id)

/-- Every number marked as verified received its code, and no challenge was tried more than five times. -/
def Sound (s : MobileVerifications) : Prop :=
  (∀ userId user, s.users.get? userId = some user → user.mobileVerifiedAt ≠ none →
    ∃ number, user.mobileNumber = some number ∧ s.Received userId number) ∧
  ∀ id, s.compared id ≤ 5

def numberOf (s : MobileVerifications) (id : Nat) : Option String :=
  (s.messages.find? fun m => decide (m.challengeId = id)).map Message.number

/-- A call of `verify` passes the checks of the challenge and of the code. -/
def Accepts (sha256 : String → String) (s : MobileVerifications) (now : Instant) (userId id : Nat)
    (code : String) : Prop :=
  ∃ challenge, s.challenges.get? id = some challenge ∧ ¬ Invalid now userId challenge ∧
    challenge.codeHash = sha256 code

/-- Nothing was started yet, and no number is marked as verified. -/
structure Begun (s : MobileVerifications) : Prop where
  users : ∀ userId user, s.users.get? userId = some user → user.mobileVerifiedAt = none
  challenges : ∀ id, s.challenges.get? id = none
  messages : s.messages = []
  comparisons : s.comparisons = []

end MobileVerifications

/-- An accepted challenge is one for the number its user has now, or that number received its code before. -/
def MobileCall.Current (sha256 : String → String) : MobileCall → MobileVerifications → Prop
  | start .., _ => True
  | verify now userId id code, s =>
    s.Accepts sha256 now userId id code → ∀ user, s.users.get? userId = some user →
      ∃ number, user.mobileNumber = some number ∧ (s.numberOf id = some number ∨ s.Received userId number)

/-! ### What is always kept -/

namespace MobileVerifications
variable {sha256 : String → String} {s s' : MobileVerifications} {now : Instant} {userId id : Nat} {code : String}

/-- The digests of a challenge are those of its only message, and its attempts are the comparisons. -/
structure Kept (sha256 : String → String) (s : MobileVerifications) : Prop where
  sent : ∀ id challenge, s.challenges.get? id = some challenge →
    ∃ m ∈ s.messages, m.challengeId = id ∧ challenge.codeHash = sha256 m.code
  stored : ∀ m ∈ s.messages, ∃ challenge, s.challenges.get? m.challengeId = some challenge
  single : ∀ m ∈ s.messages, ∀ m' ∈ s.messages, m.challengeId = m'.challengeId → m = m'
  counted : ∀ id challenge, s.challenges.get? id = some challenge →
    s.compared id = challenge.attempts ∧ challenge.attempts ≤ 5
  none_compared : ∀ id, s.challenges.get? id = none → s.compared id = 0

theorem Begun.kept (begun : Begun s) : Kept sha256 s where
  sent id challenge there := by rw [begun.challenges id] at there; cases there
  stored m member := by rw [begun.messages] at member; cases member
  single m member := by rw [begun.messages] at member; cases member
  counted id challenge there := by rw [begun.challenges id] at there; cases there
  none_compared id _ := by rw [compared, begun.comparisons]; rfl

theorem Begun.sound (begun : Begun s) : Sound s := by
  refine ⟨fun userId user there verified => absurd (begun.users userId user there) verified, fun id => ?_⟩
  rw [compared, begun.comparisons]
  exact Nat.zero_le 5

theorem Kept.compared_le (kept : Kept sha256 s) (id : Nat) : s.compared id ≤ 5 := by
  cases there : s.challenges.get? id with
  | none => rw [kept.none_compared id there]; exact Nat.zero_le 5
  | some challenge =>
    obtain ⟨same, few⟩ := kept.counted id challenge there
    omega

theorem Kept.numberOf_eq (kept : Kept sha256 s) {m : Message} (member : m ∈ s.messages) :
    s.numberOf m.challengeId = some m.number := by
  unfold numberOf
  cases found : s.messages.find? fun m' => decide (m'.challengeId = m.challengeId) with
  | none => simpa using List.find?_eq_none.mp found m member
  | some m' =>
    have same := List.find?_some found
    simp only [decide_eq_true_eq] at same
    rw [kept.single m' (List.mem_of_find?_eq_some found) m member same]
    rfl

theorem Received.mono {number : String} (received : s.Received userId number)
    (rows : ∀ id challenge, s.challenges.get? id = some challenge →
      ∃ challenge', s'.challenges.get? id = some challenge' ∧
        challenge'.userId = challenge.userId ∧ challenge'.expiresAt = challenge.expiresAt)
    (messages : ∀ m ∈ s.messages, m ∈ s'.messages) (comparisons : ∀ c ∈ s.comparisons, c ∈ s'.comparisons) :
    s'.Received userId number := by
  obtain ⟨id, challenge, m, c, there, owner, sent, ofId, named, made, onId, own, inTime⟩ := received
  obtain ⟨challenge', there', owner', expires'⟩ := rows id challenge there
  exact ⟨id, challenge', m, c, there', owner'.trans owner, messages m sent, ofId, named, comparisons c made, onId, own,
    expires'.symm ▸ inTime⟩

end MobileVerifications

/-! ### What a call does -/

namespace MobileVerificationService
open MobileVerifications
variable {sha256 : String → String} {s s' : MobileVerifications} {now : Instant} {userId id : Nat} {code : String}
  {f : MobileUser → MobileUser}

/-- A save of a user is refused by the index and changes nothing, or changes that user alone. -/
theorem updateUser_cases (userId : Nat) (f : MobileUser → MobileUser) (s : MobileVerifications) :
    (∃ e, Throws (updateUser userId f) s e s) ∨
      ∃ users, Indexed.Updated s.users users userId f ∧ Returns (updateUser userId f) s () { s with users } := by
  unfold updateUser
  rcases run : Indexed.update "users_mobile_number_hash_unique" userId f s.users with ⟨out, users⟩
  cases out with
  | error e =>
    have back : users = s.users := by
      have left := Indexed.atomic_update "users_mobile_number_hash_unique" userId f s.users e (by rw [run])
      rw [run] at left
      exact left
    subst back
    refine Or.inl ⟨e, ?_⟩
    have thrown : Throws (Indexed.update "users_mobile_number_hash_unique" userId f) s.users e s.users := run
    have lifted : Throws (focus MobileVerifications.users (fun s users => { s with users })
        (Indexed.update "users_mobile_number_hash_unique" userId f)) s e { s with users := s.users } := thrown.focus
    exact lifted
  | ok => exact Or.inr ⟨users, Indexed.update_returns run, Returns.focus run⟩

theorem updateUser_returns (userId : Nat) {f : MobileUser → MobileUser} (s : MobileVerifications)
    (same : ∀ user, (f user).mobileNumberHash = user.mobileNumberHash) :
    ∃ users, Indexed.Updated s.users users userId f ∧ Returns (updateUser userId f) s () { s with users } := by
  obtain ⟨users, success⟩ := Indexed.update_succeeds "users_mobile_number_hash_unique" userId (f := f) (t := s.users)
    fun user there => Indexed.clashes_of_weaker there fun x => by
      unfold sameNumber
      rw [same user]
      exact ⟨id, id⟩
  exact ⟨users, Indexed.update_returns success, Returns.focus success⟩

/-- What `start` leaves: nothing new, or the new number, unverified, and a challenge for it. -/
theorem start_after (sha256 : String → String) (now : Instant) (userId : Nat) (mobileNumber : String)
    (testing : Bool) (drawn : Nat) (s : MobileVerifications) :
    after (start sha256 now userId mobileNumber testing drawn) s = s ∨
      ∃ users, Indexed.Updated s.users users userId (fun user => { user with
          mobileNumber := some (normalized mobileNumber)
          mobileNumberHash := some (sha256 (normalized mobileNumber))
          mobileVerifiedAt := none }) ∧
        after (start sha256 now userId mobileNumber testing drawn) s =
          { users, challenges := s.challenges.create
              { userId, mobileNumberHash := sha256 (normalized mobileNumber),
                codeHash := sha256 (codeOf testing drawn), expiresAt := (now.addSeconds 600).toSecond }
            messages := s.messages ++ [⟨s.challenges.nextId, normalized mobileNumber, codeOf testing drawn⟩]
            comparisons := s.comparisons } := by
  unfold start
  rcases updateUser_cases userId (fun user => { user with
      mobileNumber := some (normalized mobileNumber)
      mobileNumberHash := some (sha256 (normalized mobileNumber))
      mobileVerifiedAt := none }) s with ⟨e, thrown⟩ | ⟨users, updated, saved⟩
  · left
    rw [after_bind_of_throws (by rw [thrown]), after, thrown]
  · right
    exact ⟨users, updated, by rw [after_bind_of_returns saved]; rfl⟩

/-- What a comparison changes of the challenges and of the logs. -/
structure Compares (now : Instant) (id : Nat) (code : String) (challenge : MobileVerificationChallenge)
    (s s' : MobileVerifications) : Prop where
  there : s.challenges.get? id = some challenge
  changed : ∃ challenge', (∀ k, s'.challenges.get? k = if k = id then some challenge' else s.challenges.get? k) ∧
    challenge'.userId = challenge.userId ∧ challenge'.codeHash = challenge.codeHash ∧
    challenge'.expiresAt = challenge.expiresAt ∧ challenge'.attempts = challenge.attempts + 1
  messages : s'.messages = s.messages
  comparisons : s'.comparisons = s.comparisons ++ [⟨id, code, now⟩]

/-- What `verify` leaves: nothing new where the challenge is missing or invalid, the comparison where the code is
wrong, and else also the user marked as verified. -/
theorem verify_after (sha256 : String → String) (now : Instant) (userId id : Nat) (code : String)
    (s : MobileVerifications) :
    after (verify sha256 now userId id code) s = s ∧ ¬ s.Accepts sha256 now userId id code ∨
    ∃ challenge, Compares now id code challenge s (after (verify sha256 now userId id code) s) ∧
      ¬ Invalid now userId challenge ∧
      (challenge.codeHash ≠ sha256 code ∧ (after (verify sha256 now userId id code) s).users = s.users ∨
      challenge.codeHash = sha256 code ∧
        Indexed.Updated s.users (after (verify sha256 now userId id code) s).users userId
          (fun user => { user with mobileVerifiedAt := some now.toSecond })) := by
  unfold verify
  rw [after_read]
  cases there : s.challenges.get? id with
  | none =>
    refine Or.inl ⟨rfl, ?_⟩
    rintro ⟨challenge, found, -⟩
    rw [there] at found
    cases found
  | some challenge =>
    have found : Returns (orThrow (some challenge) (Throwable.modelNotFound "MobileVerificationChallenge")) s
        challenge s := rfl
    rw [after_bind_of_returns found, after_throwIf]
    by_cases invalid : Invalid now userId challenge
    · rw [if_pos invalid]
      refine Or.inl ⟨rfl, ?_⟩
      rintro ⟨other, found, valid, -⟩
      rw [there] at found
      cases found
      exact valid invalid
    · rw [if_neg invalid, after_write, after_throwIf]
      refine Or.inr ⟨challenge, ?_⟩
      by_cases wrong : challenge.codeHash ≠ sha256 code
      · rw [if_pos wrong]
        refine ⟨⟨there, ⟨{ challenge with attempts := challenge.attempts + 1 }, fun k => ?_, rfl, rfl, rfl, rfl⟩, rfl,
          rfl⟩, invalid, Or.inl ⟨wrong, rfl⟩⟩
        rw [Table.get?_update]
        split
        · rename_i same
          rw [same, there]
          rfl
        · rfl
      · rw [if_neg wrong, after_write]
        obtain ⟨users, updated, saved⟩ := updateUser_returns userId
          (f := fun user => { user with mobileVerifiedAt := some now.toSecond })
          { s with
            challenges := (s.challenges.update id fun row => { row with attempts := row.attempts + 1 }).update id
              fun row => { row with consumedAt := some now.toSecond }
            comparisons := s.comparisons ++ [⟨id, code, now⟩] } fun _ => rfl
        rw [saved.after_eq]
        refine ⟨⟨there, ⟨{ challenge with attempts := challenge.attempts + 1, consumedAt := some now.toSecond },
          fun k => ?_, rfl, rfl, rfl, rfl⟩, rfl, rfl⟩, invalid, Or.inr ⟨not_not.mp wrong, updated⟩⟩
        rw [Table.get?_update, Table.get?_update]
        split
        · rename_i same
          rw [same, there]
          rfl
        · rfl

variable {challenge : MobileVerificationChallenge}

theorem Compares.compared (compares : Compares now id code challenge s s') (k : Nat) :
    s'.compared k = s.compared k + if k = id then 1 else 0 := by
  unfold MobileVerifications.compared
  rw [compares.comparisons, List.countP_append, List.countP_singleton]
  by_cases same : k = id
  · subst same
    simp
  · simp [same, Ne.symm same]

theorem Compares.kept (compares : Compares now id code challenge s s') (kept : Kept sha256 s)
    (few : challenge.attempts < 5) : Kept sha256 s' := by
  obtain ⟨challenge', rows, -, codeHash, -, attempts⟩ := compares.changed
  obtain ⟨same, -⟩ := kept.counted id challenge compares.there
  refine ⟨fun k row stored => ?_, fun m member => ?_, ?_, fun k row stored => ?_, fun k absent => ?_⟩
  · rw [compares.messages]
    rw [rows k] at stored
    split at stored
    · rename_i here
      cases stored
      obtain ⟨m, member, ofId, digest⟩ := kept.sent id challenge compares.there
      exact ⟨m, member, ofId.trans here.symm, codeHash.trans digest⟩
    · exact kept.sent k row stored
  · rw [compares.messages] at member
    rw [rows]
    split
    · exact ⟨challenge', rfl⟩
    · exact kept.stored m member
  · rw [compares.messages]
    exact kept.single
  · rw [compares.compared]
    rw [rows k] at stored
    split at stored
    · rename_i here
      cases stored
      rw [here, if_pos rfl]
      omega
    · rename_i other
      rw [if_neg other]
      exact kept.counted k row stored
  · rw [rows k] at absent
    split at absent
    · cases absent
    · rename_i other
      rw [compares.compared, if_neg other]
      exact kept.none_compared k absent

theorem Compares.received_mono (compares : Compares now id code challenge s s') {user : Nat} {number : String}
    (received : s.Received user number) : s'.Received user number := by
  obtain ⟨challenge', rows, owner, -, expires, -⟩ := compares.changed
  refine received.mono (fun k row stored => ?_) (fun m member => ?_) fun c member => ?_
  · rw [rows k]
    split
    · rename_i here
      rw [here, compares.there] at stored
      cases stored
      exact ⟨challenge', rfl, owner, expires⟩
    · exact ⟨row, stored, rfl, rfl⟩
  · rw [compares.messages]
    exact member
  · rw [compares.comparisons]
    exact List.mem_append_left _ member

/-- A number receives its code by a comparison if the challenge is for that number, and only then. -/
theorem Compares.received (compares : Compares now id code challenge s s') (kept : Kept sha256 s)
    {number : String} (received : s'.Received userId number) :
    s.numberOf id = some number ∨ s.Received userId number := by
  obtain ⟨challenge', rows, owner, -, expires, -⟩ := compares.changed
  obtain ⟨k, row, m, c, stored, ofUser, sent, ofId, named, made, onId, own, inTime⟩ := received
  rw [compares.messages] at sent
  rw [compares.comparisons, List.mem_append, List.mem_singleton] at made
  rcases made with old | rfl
  · right
    rw [rows k] at stored
    split at stored
    · rename_i here
      cases stored
      subst here
      exact ⟨k, challenge, m, c, compares.there, owner.symm.trans ofUser, sent, ofId, named, old, onId, own,
        expires ▸ inTime⟩
    · exact ⟨k, row, m, c, stored, ofUser, sent, ofId, named, old, onId, own, inTime⟩
  · left
    have onId : id = k := onId
    rw [onId, ← ofId, kept.numberOf_eq sent, named]

theorem Compares.receives (compares : Compares now id code challenge s s') (kept : Kept sha256 s)
    (collisionFree : ∀ a b, sha256 a = sha256 b → a = b) (valid : ¬ Invalid now userId challenge)
    (right : challenge.codeHash = sha256 code) {number : String} (ofId : s.numberOf id = some number) :
    s'.Received userId number := by
  obtain ⟨challenge', rows, owner, -, expires, -⟩ := compares.changed
  obtain ⟨m, sent, same, digest⟩ := kept.sent id challenge compares.there
  have named : m.number = number := by
    have here := kept.numberOf_eq sent
    rw [same, ofId] at here
    exact (Option.some.inj here).symm
  have own : code = m.code := collisionFree _ _ (right.symm.trans digest)
  unfold Invalid at valid
  push Not at valid
  obtain ⟨ofUser, -, inTime, -⟩ := valid
  refine ⟨id, challenge', m, ⟨id, code, now⟩, ?_, owner.trans ofUser, ?_, same, named, ?_, rfl, own, ?_⟩
  · rw [rows, if_pos rfl]
  · rwa [compares.messages]
  · rw [compares.comparisons]
    exact List.mem_append_right _ (List.mem_singleton_self _)
  · rwa [expires]

end MobileVerificationService

/-! ### Runs of calls -/

namespace MobileVerifications
variable {sha256 : String → String} {s s' : MobileVerifications}

theorem Kept.started (kept : Kept sha256 s) (challenge : MobileVerificationChallenge) (m : Message)
    (ofId : m.challengeId = s.challenges.nextId) (digest : challenge.codeHash = sha256 m.code)
    (fresh : challenge.attempts = 0) (users : Indexed Nat MobileUser sameNumber) :
    Kept sha256 { users, challenges := s.challenges.create challenge, messages := s.messages ++ [m],
                  comparisons := s.comparisons } := by
  have older : ∀ m' ∈ s.messages, m'.challengeId ≠ s.challenges.nextId := by
    intro m' member same
    obtain ⟨_, there⟩ := kept.stored m' member
    rw [same, Table.get?_nextId] at there
    cases there
  refine ⟨fun k row stored => ?_, fun m' member => ?_, fun m₁ first m₂ second same => ?_, fun k row stored => ?_,
    fun k absent => ?_⟩
  · rcases Table.get?_create_cases stored with ⟨rfl, rfl⟩ | old
    · exact ⟨m, List.mem_append_right _ (List.mem_singleton_self m), ofId, digest⟩
    · obtain ⟨m', member, rest⟩ := kept.sent k row old
      exact ⟨m', List.mem_append_left _ member, rest⟩
  · rcases List.mem_append.mp member with old | new
    · obtain ⟨row, there⟩ := kept.stored m' old
      exact ⟨row, Table.get?_create_of_some _ _ there⟩
    · rw [List.mem_singleton.mp new, ofId]
      exact ⟨challenge, Table.get?_create_self _ _⟩
  · rcases List.mem_append.mp first with old | new <;> rcases List.mem_append.mp second with old' | new'
    · exact kept.single m₁ old m₂ old' same
    · rw [List.mem_singleton.mp new', ofId] at same
      exact absurd same (older m₁ old)
    · rw [List.mem_singleton.mp new, ofId] at same
      exact absurd same.symm (older m₂ old')
    · exact (List.mem_singleton.mp new).trans (List.mem_singleton.mp new').symm
  · rcases Table.get?_create_cases stored with ⟨rfl, rfl⟩ | old
    · exact ⟨(kept.none_compared _ (Table.get?_nextId _)).trans fresh.symm, by omega⟩
    · exact kept.counted k row old
  · rw [Table.get?_create] at absent
    split at absent
    · cases absent
    · exact kept.none_compared k absent

/-- Marking a user whose number received its code, and no other, keeps the marks. -/
theorem sound_iff_marked {userId : Nat} {now : Instant} (kept : Kept sha256 s') (sound : Sound s)
    (updated : Indexed.Updated s.users s'.users userId fun user => { user with mobileVerifiedAt := some now.toSecond })
    (mono : ∀ user number, s.Received user number → s'.Received user number) :
    Sound s' ↔ ∀ user, s.users.get? userId = some user →
      ∃ number, user.mobileNumber = some number ∧ s'.Received userId number := by
  constructor
  · rintro ⟨marked, -⟩ user there
    refine marked userId { user with mobileVerifiedAt := some now.toSecond } ?_ (by simp)
    rw [updated userId, if_pos rfl, there]
    rfl
  · intro received
    refine ⟨fun k user there verified => ?_, kept.compared_le⟩
    rw [updated k] at there
    split at there
    · rename_i here
      subst here
      obtain ⟨before, found, rfl⟩ := Option.map_eq_some_iff.mp there
      exact received before found
    · obtain ⟨number, named, got⟩ := sound.1 k user there verified
      exact ⟨number, named, mono k number got⟩

end MobileVerifications

namespace MobileCall
open MobileVerifications
variable {sha256 : String → String}

/-- One call: what is kept, and when it leaves only numbers marked that received their code. -/
theorem next_sound_iff (collisionFree : ∀ a b, sha256 a = sha256 b → a = b) (call : MobileCall)
    (s : MobileVerifications) (kept : Kept sha256 s) (sound : Sound s) :
    Kept sha256 (call.next sha256 s) ∧ (Sound (call.next sha256 s) ↔ call.Current sha256 s) := by
  cases call with
  | start now userId mobileNumber testing drawn =>
    rcases start_after sha256 now userId mobileNumber testing drawn s with same | ⟨users, updated, left⟩
    · rw [next, perform, same]
      exact ⟨kept, iff_of_true sound trivial⟩
    · have kept' := kept.started
        { userId, mobileNumberHash := sha256 (normalized mobileNumber), codeHash := sha256 (codeOf testing drawn),
          expiresAt := (now.addSeconds 600).toSecond }
        ⟨s.challenges.nextId, normalized mobileNumber, codeOf testing drawn⟩ rfl rfl rfl users
      rw [next, perform, left]
      refine ⟨kept', iff_of_true ⟨fun k user there verified => ?_, kept'.compared_le⟩ trivial⟩
      rw [updated k] at there
      split at there
      · obtain ⟨_, -, rfl⟩ := Option.map_eq_some_iff.mp there
        exact absurd rfl verified
      · obtain ⟨number, named, received⟩ := sound.1 k user there verified
        refine ⟨number, named, received.mono (fun id challenge stored => ?_) (fun m member => ?_) fun c => id⟩
        · exact ⟨challenge, Table.get?_create_of_some _ _ stored, rfl, rfl⟩
        · exact List.mem_append_left _ member
  | verify now userId id code =>
    rcases verify_after sha256 now userId id code s with ⟨same, refused⟩ | ⟨challenge, compares, valid, outcome⟩
    · rw [next, perform, same]
      exact ⟨kept, iff_of_true sound fun accepts => absurd accepts refused⟩
    · have few : challenge.attempts < 5 := by
        unfold Invalid at valid
        omega
      have kept' := compares.kept kept few
      refine ⟨kept', ?_⟩
      rcases outcome with ⟨wrong, users⟩ | ⟨right, updated⟩
      · refine iff_of_true ⟨fun k user there verified => ?_, kept'.compared_le⟩ ?_
        · rw [next, perform, users] at there
          obtain ⟨number, named, received⟩ := sound.1 k user there verified
          exact ⟨number, named, compares.received_mono received⟩
        · rintro ⟨other, found, -, same⟩
          rw [compares.there] at found
          cases found
          exact absurd same wrong
      · have accepts : s.Accepts sha256 now userId id code := ⟨challenge, compares.there, valid, right⟩
        refine (sound_iff_marked kept' sound updated fun _ _ => compares.received_mono).trans ?_
        constructor
        · intro received _ user there
          obtain ⟨number, named, got⟩ := received user there
          exact ⟨number, named, compares.received kept got⟩
        · intro current user there
          obtain ⟨number, named, ofId | already⟩ := current accepts user there
          · exact ⟨number, named, compares.receives kept collisionFree valid right ofId⟩
          · exact ⟨number, named, compares.received_mono already⟩

end MobileCall

/-- In a run from users without a verified number, every number marked as verified received its code, and every
challenge was tried five times at most, exactly if every accepted challenge is for the number its user has then or
that number received its code before. -/
theorem verified_received_iff_current {sha256 : String → String} (collisionFree : ∀ a b, sha256 a = sha256 b → a = b)
    (calls : List MobileCall) (s : MobileVerifications) (begun : s.Begun) :
    Runs.Throughout (MobileCall.next sha256) MobileVerifications.Sound calls s ↔
      Runs.Met (MobileCall.next sha256) (MobileCall.Current sha256) calls s :=
  Runs.throughout_iff_met_of (MobileCall.next_sound_iff collisionFree) calls s begun.kept begun.sound

/-! ### One account -/

def knownDigests : List (String × String) :=
  [("+97317000001", "56f3fb29a67566589679c87bc7e619de5c94eb42f019bde2bedeb2b2e2bc6ab6"),
   ("+97317000002", "e620552d5dd8d356720b2e177185cdd77e839463be4f7bb3e1ee7fcf246de896"),
   ("123456", "8d969eef6ecad3c29a3a629280e686cf0c3f5d5a86aff3ca12020c923adc6c92"),
   ("654321", "481f6cc0511143ccdd7e2d1b1b94faf0a700a8b49cd13922a70b5ae28acaa8c5")]

def knownSha256 (text : String) : String := (knownDigests.lookup text).getD ("sha256:" ++ text)

theorem knownSha256_collisionFree (a b : String) (same : knownSha256 a = knownSha256 b) : a = b := by
  have digest : ∀ text d, knownDigests.lookup text = some d → (text, d) ∈ knownDigests := by
    intro text d found
    obtain ⟨before, rest, split, -⟩ := List.lookup_eq_some_iff.mp found
    rw [split]
    simp
  have hex : ∀ e ∈ knownDigests, e.2.toList.head? ≠ some 's' := by decide
  have apart : ∀ text text' d, knownDigests.lookup text = some d → d ≠ "sha256:" ++ text' := by
    rintro text text' d found rfl
    refine hex _ (digest text _ found) ?_
    simp
  have distinct : ∀ e ∈ knownDigests, ∀ e' ∈ knownDigests, e.2 = e'.2 → e.1 = e'.1 := by decide
  unfold knownSha256 at same
  cases first : knownDigests.lookup a with
  | none =>
    cases second : knownDigests.lookup b with
    | none =>
      rw [first, second] at same
      simpa using same
    | some d =>
      rw [first, second] at same
      exact absurd same.symm (apart b a d second)
  | some d =>
    cases second : knownDigests.lookup b with
    | none =>
      rw [first, second] at same
      exact absurd same (apart a b d first)
    | some d' =>
      rw [first, second] at same
      exact distinct (a, d) (digest a d first) (b, d') (digest b d' second) same

def oneAccount : Indexed Nat MobileUser sameNumber where
  table := Table.empty.put 1 {}
  unique k k' r r' stored _ clashing := by
    rw [Table.get?_put] at stored
    split at stored
    · cases stored
      cases clashing
    · cases stored

def newAccount : MobileVerifications := { users := oneAccount }

theorem newAccount_begun : newAccount.Begun where
  users userId user there := by
    have stored : (Table.empty.put 1 ({} : MobileUser)).get? userId = some user := there
    rw [Table.get?_put] at stored
    split at stored
    · cases stored
      rfl
    · cases stored
  challenges _ := rfl
  messages := rfl
  comparisons := rfl

/-- The number of the account receives its code and is verified. -/
theorem verified_firstNumber :
    Runs.Throughout (MobileCall.next knownSha256) MobileVerifications.Sound
      [.start 0 1 "+97317000001" false 123456, .verify 60000000 1 0 "123456"] newAccount := by
  refine (verified_received_iff_current knownSha256_collisionFree _ newAccount newAccount_begun).mpr ?_
  refine ⟨trivial, fun _ user there => ⟨"+97317000001", ?_, Or.inl (by decide)⟩, trivial⟩
  have row : (MobileCall.next knownSha256 (.start 0 1 "+97317000001" false 123456) newAccount).users.get? 1 =
      some ⟨some "+97317000001", some (knownSha256 "+97317000001"), none⟩ := by decide
  rw [there] at row
  rw [Option.some.inj row]

/-- The code of an earlier number marks the number that replaced it. -/
theorem earlierCode_verifies_laterNumber :
    newAccount.Begun ∧ ¬ Runs.Throughout (MobileCall.next knownSha256) MobileVerifications.Sound
      [.start 0 1 "+97317000001" false 123456, .start 60000000 1 "+97317000002" false 654321,
        .verify 120000000 1 0 "123456"] newAccount := by
  refine ⟨newAccount_begun, fun all => ?_⟩
  obtain ⟨marked, -⟩ := all.last
  obtain ⟨number, named, id, challenge, m, c, -, -, sent, ofId, ofNumber, made, onId, -⟩ := marked 1
    ⟨some "+97317000002", some (knownSha256 "+97317000002"), some 120000000⟩ (by decide) (by decide)
  have first : ∀ c ∈ (Runs.reached (MobileCall.next knownSha256)
      [.start 0 1 "+97317000001" false 123456, .start 60000000 1 "+97317000002" false 654321,
        .verify 120000000 1 0 "123456"] newAccount).comparisons, c.challengeId = 0 := by decide
  have other : ∀ m ∈ (Runs.reached (MobileCall.next knownSha256)
      [.start 0 1 "+97317000001" false 123456, .start 60000000 1 "+97317000002" false 654321,
        .verify 120000000 1 0 "123456"] newAccount).messages,
      m.challengeId = 0 → m.number ≠ "+97317000002" := by decide
  cases named
  exact other m sent (ofId.trans (onId.symm.trans (first c made))) ofNumber

end VtsaCsms.Identity
