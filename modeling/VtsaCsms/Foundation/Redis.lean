import Mathlib.Data.Rat.Floor
import Mathlib.Logic.Function.Basic
import Mathlib.Tactic.Linarith
import VtsaCsms.Foundation.Action

/-!
# Redis keys that expire

The commands a client of a Redis server sends, with the meaning their documentation gives
them: a command runs alone, at one time of the server's clock, and a key is gone from the
instant its time to live has elapsed. Times are seconds since the epoch.
-/
namespace VtsaCsms.Foundation.Redis

structure Entry (ν : Type) where
  value : ν
  expiresAt : Option ℚ
  deriving DecidableEq

inductive Error where
  /-- The value under the key is not what the command works on. -/
  | wrongValue
  | invalidExpireTime
  | outOfRange
  deriving DecidableEq, Repr

abbrev Keyspace (κ ν : Type) : Type := κ → Option (Entry ν)

def longLongMax : Int := 2 ^ 63 - 1

/-- The times to live whose end the server can represent, in milliseconds. -/
def fits (now : ℚ) (seconds : Int) : Prop :=
  -(longLongMax / 1000) ≤ seconds ∧ seconds ≤ longLongMax / 1000 ∧
    seconds * 1000 + ⌊now * 1000⌋ ≤ longLongMax

instance (now : ℚ) (seconds : Int) : Decidable (fits now seconds) :=
  inferInstanceAs (Decidable (_ ∧ _ ∧ _))

theorem fits_earlier {now later : ℚ} {seconds : Int} (order : now ≤ later) (fit : fits later seconds) :
    fits now seconds := by
  obtain ⟨lower, upper, ends⟩ := fit
  have scaled : now * 1000 ≤ later * 1000 := by linarith
  have floors : ⌊now * 1000⌋ ≤ ⌊later * 1000⌋ := Int.floor_le_floor scaled
  exact ⟨lower, upper, by omega⟩

/-- The times to live that `SET … EX` accepts. -/
def accepts (now : ℚ) (seconds : Int) : Prop := 0 < seconds ∧ fits now seconds

instance (now : ℚ) (seconds : Int) : Decidable (accepts now seconds) :=
  inferInstanceAs (Decidable (_ ∧ _))

namespace Entry
variable {ν : Type}

def live (now : ℚ) (e : Entry ν) : Bool :=
  match e.expiresAt with
  | none => true
  | some t => now < t

theorem live_earlier {now later : ℚ} {e : Entry ν} (order : now ≤ later) (alive : e.live later = true) :
    e.live now = true := by
  unfold live at alive ⊢
  split
  · rfl
  · rename_i t found
    rw [found] at alive
    simp only [decide_eq_true_eq] at alive ⊢
    exact lt_of_le_of_lt order alive

end Entry

section Commands
variable {κ ν : Type} [DecidableEq κ]

/-- What a command finds under a key. -/
def find (now : ℚ) (rows : Keyspace κ ν) (k : κ) : Option (Entry ν) := (rows k).filter (Entry.live now)

def value (now : ℚ) (rows : Keyspace κ ν) (k : κ) : Option ν := (find now rows k).map Entry.value

def put (rows : Keyspace κ ν) (k : κ) (e : Entry ν) : Keyspace κ ν := Function.update rows k (some e)

def remove (rows : Keyspace κ ν) (k : κ) : Keyspace κ ν := Function.update rows k none

/-- `GET key`. -/
def get (now : ℚ) (k : κ) : Action (Keyspace κ ν) Error (Option ν) := Action.read fun rows => value now rows k

/-- `SET key value EX seconds GET`: what was there before. -/
def set (now : ℚ) (k : κ) (v : ν) (seconds : Int) : Action (Keyspace κ ν) Error (Option ν) := fun rows =>
  if accepts now seconds then (.ok (value now rows k), put rows k ⟨v, some (now + seconds)⟩)
  else (.error .invalidExpireTime, rows)

/-- `SET key value EX seconds NX`: the time to live is checked before the key is looked at. -/
def setIfAbsent (now : ℚ) (k : κ) (v : ν) (seconds : Int) : Action (Keyspace κ ν) Error Bool := fun rows =>
  if accepts now seconds then
    match find now rows k with
    | some _ => (.ok false, rows)
    | none => (.ok true, put rows k ⟨v, some (now + seconds)⟩)
  else (.error .invalidExpireTime, rows)

/-- `EXPIRE key seconds`: a time that is not in the future deletes the key. -/
def expire (now : ℚ) (k : κ) (seconds : Int) : Action (Keyspace κ ν) Error Bool := fun rows =>
  if fits now seconds then
    match find now rows k with
    | none => (.ok false, rows)
    | some e =>
      if seconds ≤ 0 then (.ok true, remove rows k)
      else (.ok true, put rows k { e with expiresAt := some (now + seconds) })
  else (.error .invalidExpireTime, rows)

/-- `DEL key`. -/
def del (now : ℚ) (k : κ) : Action (Keyspace κ ν) Error Bool := fun rows =>
  (.ok (find now rows k).isSome, remove rows k)

/-- `INCR key`: a missing key counts from zero and gets no expiry; an expiry there is stays. -/
def incr (number : ν → Option Int) (text : Int → ν) (now : ℚ) (k : κ) :
    Action (Keyspace κ ν) Error Int := fun rows =>
  match find now rows k with
  | none => (.ok 1, put rows k ⟨text 1, none⟩)
  | some e =>
    match number e.value with
    | none => (.error .wrongValue, rows)
    | some n =>
      if n < longLongMax then (.ok (n + 1), put rows k { e with value := text (n + 1) })
      else (.error .outOfRange, rows)

/-! ### What a command finds -/

variable {rows : Keyspace κ ν} {now later : ℚ} {k k' : κ} {e : Entry ν}

omit [DecidableEq κ] in
theorem find_some : find now rows k = some e ↔ rows k = some e ∧ e.live now = true := by
  unfold find
  rw [Option.filter_eq_some_iff]

omit [DecidableEq κ] in
theorem find_earlier (order : now ≤ later) (found : find later rows k = some e) : find now rows k = some e := by
  obtain ⟨stored, alive⟩ := find_some.mp found
  exact find_some.mpr ⟨stored, Entry.live_earlier order alive⟩

omit [DecidableEq κ] in
theorem find_later (order : now ≤ later) (rows : Keyspace κ ν) (k : κ) :
    find later rows k = (find now rows k).filter (Entry.live later) := by
  apply Option.ext
  intro e
  rw [find_some, Option.filter_eq_some_iff, find_some]
  constructor
  · rintro ⟨stored, alive⟩
    exact ⟨⟨stored, Entry.live_earlier order alive⟩, alive⟩
  · rintro ⟨⟨stored, -⟩, alive⟩
    exact ⟨stored, alive⟩

omit [DecidableEq κ] in
theorem find_congr {rows' : Keyspace κ ν} (same : rows' k = rows k) : find now rows' k = find now rows k := by
  unfold find
  rw [same]

theorem find_put (now : ℚ) (rows : Keyspace κ ν) (k k' : κ) (e : Entry ν) :
    find now (put rows k e) k' = if k' = k then (some e).filter (Entry.live now) else find now rows k' := by
  unfold find put
  rw [Function.update_apply]
  split <;> rfl

theorem put_of_ne (other : k' ≠ k) : put rows k e k' = rows k' := Function.update_of_ne other _ _

theorem remove_of_ne (other : k' ≠ k) : remove rows k k' = rows k' := Function.update_of_ne other _ _

theorem find_put_of_ne (other : k' ≠ k) : find now (put rows k e) k' = find now rows k' := by
  rw [find_put, if_neg other]

theorem find_put_self (alive : e.live now = true) : find now (put rows k e) k = some e := by
  rw [find_put, if_pos rfl]
  exact Option.filter_eq_some_iff.mpr ⟨rfl, alive⟩

theorem find_remove (now : ℚ) (rows : Keyspace κ ν) (k k' : κ) :
    find now (remove rows k) k' = if k' = k then none else find now rows k' := by
  unfold find remove
  rw [Function.update_apply]
  split <;> rfl

theorem find_remove_self : find now (remove rows k) k = none := by
  rw [find_remove, if_pos rfl]

/-! ### What a command does -/

omit [DecidableEq κ] in
theorem returns_get (found : find now rows k = some e) :
    Action.Returns (get now k : Action (Keyspace κ ν) Error (Option ν)) rows (some e.value) rows := by
  refine (Action.returns_read ..).mpr ⟨?_, rfl⟩
  rw [value, found]
  rfl

omit [DecidableEq κ] in
theorem returns_get_none (missing : find now rows k = none) :
    Action.Returns (get now k : Action (Keyspace κ ν) Error (Option ν)) rows none rows := by
  refine (Action.returns_read ..).mpr ⟨?_, rfl⟩
  rw [value, missing]
  rfl

variable {seconds : Int}

theorem expire_missing (fit : fits now seconds) (missing : find now rows k = none) :
    expire now k seconds rows = (.ok false, rows) := by
  simp only [expire, if_pos fit, missing]

theorem expire_unfit (unfit : ¬ fits now seconds) (rows : Keyspace κ ν) :
    expire now k seconds rows = (.error .invalidExpireTime, rows) := by
  simp only [expire, if_neg unfit]

theorem expire_found (fit : fits now seconds) (found : find now rows k = some e) :
    expire now k seconds rows = (.ok true, if seconds ≤ 0 then remove rows k
      else put rows k { e with expiresAt := some (now + seconds) }) := by
  simp only [expire, if_pos fit, found]
  split <;> rfl

theorem returns_expire (fit : fits now seconds) (rows : Keyspace κ ν) (k : κ) :
    ∃ held, Action.Returns (expire now k seconds) rows held (Action.after (expire now k seconds) rows) := by
  cases found : find now rows k with
  | none =>
    refine ⟨false, ?_⟩
    rw [Action.Returns, Action.after, expire_missing fit found]
  | some =>
    refine ⟨true, ?_⟩
    rw [Action.Returns, Action.after, expire_found fit found]

/-- A renewal leaves what was stored, whatever becomes of its deadline. -/
theorem expire_stored (positive : 0 < seconds) (stored : rows k = some e) :
    ∃ t, Action.after (expire now k seconds) rows k = some ⟨e.value, t⟩ := by
  by_cases fit : fits now seconds
  · cases found : find now rows k with
    | none =>
      rw [Action.after, expire_missing fit found]
      exact ⟨e.expiresAt, stored⟩
    | some e' =>
      obtain rfl : e = e' := Option.some.inj (stored.symm.trans (find_some.mp found).1)
      rw [Action.after, expire_found fit found, if_neg (not_le.mpr positive)]
      exact ⟨some (now + seconds), Function.update_self ..⟩
  · rw [Action.after, expire_unfit fit]
    exact ⟨e.expiresAt, stored⟩

end Commands

end VtsaCsms.Foundation.Redis
