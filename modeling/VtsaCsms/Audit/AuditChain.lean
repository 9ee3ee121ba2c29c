import VtsaCsms.Audit.AuditRecorder
import VtsaCsms.Foundation.Runs

/-!
# When the chain verifies

An event that is stored hashes to its content hash as the verifier reads it back. The verifier follows the order of
times and ids, so the chain verifies exactly when every event came after all events before it in that order.
-/
namespace VtsaCsms.Audit
open Foundation

variable {php : Php}

/-! ### What is read back -/

theorem column_sorted {values : Values} {json : Json} (written : column php values = some json) :
    ((Mixed.decode json).sortRecursively php.keyLe).encode php.plain =
      ((Mixed.array values).sortRecursively php.keyLe).encode php.plain :=
  Mixed.encode_sorted_decode _ json written

theorem nullableColumn_sorted {values : Option Values} {json : Option Json}
    (written : nullableColumn php values = some json) :
    ((readNullable json).sortRecursively php.keyLe).encode php.plain =
      (((values.map Mixed.array).getD .null).sortRecursively php.keyLe).encode php.plain := by
  cases values with
  | none =>
    cases written
    rfl
  | some =>
    obtain ⟨json, column, rfl⟩ := Option.map_eq_some_iff.mp written
    exact column_sorted column

theorem hash_congr (previousHash : Option String) {a b : Payload}
    (same : { a with changes := b.changes, before := b.before, after := b.after, metadata := b.metadata } = b)
    (changes : (a.changes.sortRecursively php.keyLe).encode php.plain =
      (b.changes.sortRecursively php.keyLe).encode php.plain)
    (before : (a.before.sortRecursively php.keyLe).encode php.plain =
      (b.before.sortRecursively php.keyLe).encode php.plain)
    (after : (a.after.sortRecursively php.keyLe).encode php.plain =
      (b.after.sortRecursively php.keyLe).encode php.plain)
    (metadata : (a.metadata.sortRecursively php.keyLe).encode php.plain =
      (b.metadata.sortRecursively php.keyLe).encode php.plain) :
    hash php previousHash (a.toMixed php) = hash php previousHash (b.toMixed php) := by
  have alike : ∀ entries entries' : Values,
      List.Forall₂ (Mixed.Alike php.plain) (Mixed.sortEntries php.keyLe entries) (Mixed.sortEntries php.keyLe entries') →
      hash php previousHash (.array entries) = hash php previousHash (.array entries') := by
    intro entries entries' alike
    unfold hash
    rw [Mixed.sortRecursively, Mixed.sortRecursively, Mixed.encode_array_alike (Mixed.arrange_alike alike)]
  rw [← same]
  refine alike _ _ ?_
  simp only [Mixed.sortEntries, Mixed.sortEntry]
  simp only [List.forall₂_cons, List.forall₂_nil_left_iff, Mixed.Alike, changes, before, after, metadata, and_self]

theorem row_hash {call : Call} {previousHash : Option String} {event : AuditEvent}
    (made : row php call previousHash = some event) :
    event.previousHash = previousHash ∧ event.id = call.id ∧ event.occurredAt = call.occurredAt ∧
      hash php event.previousHash (event.payload.toMixed php) = some event.contentHash := by
  unfold row at made
  simp only [Option.bind_eq_bind, Option.bind_eq_some_iff, Option.some.injEq] at made
  obtain ⟨contentHash, hashed, changes, isChanges, before, isBefore, after, isAfter, metadata, isMetadata, rfl⟩ := made
  refine ⟨rfl, rfl, rfl, (hash_congr previousHash ?_ ?_ ?_ ?_ ?_).trans hashed⟩
  · rfl
  · exact column_sorted isChanges
  · exact nullableColumn_sorted isBefore
  · exact nullableColumn_sorted isAfter
  · exact column_sorted isMetadata

/-! ### Links -/

/-- Every event names the content hash of the one before it. -/
def Linked (previousHash : Option String) : List AuditEvent → Prop
  | [] => True
  | event :: rest => event.previousHash = previousHash ∧ Linked (some event.contentHash) rest

def Hashed (php : Php) (event : AuditEvent) : Prop :=
  hash php event.previousHash (event.payload.toMixed php) = some event.contentHash

theorem verifyFrom_iff_linked (previousHash : Option String) (events : List AuditEvent)
    (hashed : ∀ e ∈ events, Hashed php e) : verifyFrom php previousHash events = true ↔ Linked previousHash events := by
  induction events generalizing previousHash with
  | nil => exact ⟨fun _ => trivial, fun _ => rfl⟩
  | cons event _ ih =>
    have own := hashed event List.mem_cons_self
    have later := ih (some event.contentHash) fun e there => hashed e (List.mem_cons_of_mem event there)
    rw [verifyFrom, Linked]
    by_cases linked : event.previousHash = previousHash
    · have rehashed : hash php previousHash (event.payload.toMixed php) = some event.contentHash := linked ▸ own
      rw [if_neg (not_not.mpr linked), if_neg (not_not.mpr rehashed), later]
      exact ⟨fun holds => ⟨linked, holds⟩, fun holds => holds.2⟩
    · rw [if_pos linked]
      exact ⟨fun holds => (by cases holds), fun holds => absurd holds.1 linked⟩

def lastHash (previousHash : Option String) (events : List AuditEvent) : Option String :=
  (events.getLast?.map AuditEvent.contentHash) <|> previousHash

theorem linked_append (previousHash : Option String) (events rest : List AuditEvent) :
    Linked previousHash (events ++ rest) ↔ Linked previousHash events ∧ Linked (lastHash previousHash events) rest := by
  induction events generalizing previousHash with
  | nil => exact ⟨fun holds => ⟨trivial, holds⟩, fun holds => holds.2⟩
  | cons event events ih =>
    have last : lastHash (some event.contentHash) events = lastHash previousHash (event :: events) := by
      unfold lastHash
      cases events with
      | nil => rfl
      | cons next more =>
        rw [List.getLast?_cons_cons]
        cases found : (next :: more).getLast? with
        | none => simp at found
        | some => rfl
    rw [List.cons_append, Linked, Linked, ih, last, and_assoc]

/-! ### The order of the table -/

/-- Before the call's event, in seconds or, in one second, in ids. -/
def Earlier (event : AuditEvent) (call : Call) : Prop :=
  event.occurredAt < call.occurredAt ∨ event.occurredAt = call.occurredAt ∧ event.id < call.id

instance (event : AuditEvent) (call : Call) : Decidable (Earlier event call) :=
  inferInstanceAs (Decidable
    (event.occurredAt < call.occurredAt ∨ event.occurredAt = call.occurredAt ∧ event.id < call.id))

theorem lex_not_le (a b : Int) (i j : Nat) : ¬ (b < a ∨ b = a ∧ j ≤ i) ↔ a < b ∨ a = b ∧ i < j := by
  omega

theorem orderedInsert_cases (e : AuditEvent) (events : List AuditEvent) :
    (∀ x ∈ events, ¬ NotLater e x) ∧ events.orderedInsert NotLater e = events ++ [e] ∨
      ∃ before x after, events = before ++ x :: after ∧ NotLater e x ∧
        events.orderedInsert NotLater e = before ++ e :: x :: after := by
  induction events with
  | nil => exact Or.inl ⟨fun _ there => (by cases there), rfl⟩
  | cons x rest ih =>
    rw [List.orderedInsert_cons]
    by_cases later : NotLater e x
    · rw [if_pos later]
      exact Or.inr ⟨[], x, rest, rfl, later, rfl⟩
    · rw [if_neg later]
      rcases ih with ⟨all, last⟩ | ⟨before, y, after, rfl, notLater, placed⟩
      · refine Or.inl ⟨fun y there => ?_, by rw [last]; rfl⟩
        rcases List.mem_cons.mp there with rfl | there
        · exact later
        · exact all y there
      · exact Or.inr ⟨x :: before, y, after, rfl, notLater, by rw [placed]; rfl⟩

/-! ### One call -/

/-- What every table is that calls of `record` have made. -/
structure Recorded (php : Php) (events : List AuditEvent) : Prop where
  hashed : ∀ e ∈ events, Hashed php e
  ids : events.Pairwise fun a b => a.id ≠ b.id
  hashes : events.Pairwise fun a b => a.contentHash ≠ b.contentHash

/-- The call's event comes after all events in the table, if the call stores one. -/
def InOrder (php : Php) (call : Call) (events : List AuditEvent) : Prop :=
  record php call events = events ∨ ∀ e ∈ events, Earlier e call

theorem record_cases (php : Php) (call : Call) (events : List AuditEvent) :
    record php call events = events ∨
      ∃ event, row php call ((latest events).map AuditEvent.contentHash) = some event ∧
        (∀ e ∈ events, e.id ≠ event.id ∧ e.contentHash ≠ event.contentHash) ∧
        record php call events = event :: events := by
  unfold record
  split
  · exact Or.inl rfl
  · rename_i event made
    split
    · exact Or.inl rfl
    · rename_i new
      refine Or.inr ⟨event, made, fun e there => ?_, rfl⟩
      rw [Bool.not_eq_true, List.any_eq_false] at new
      have other := new e there
      rw [decide_eq_true_eq, not_or] at other
      exact other

variable {events : List AuditEvent}

theorem Recorded.record (recorded : Recorded php events) (call : Call) :
    Recorded php (record php call events) := by
  rcases record_cases php call events with same | ⟨event, made, new, stored⟩
  · rwa [same]
  · rw [stored]
    refine ⟨fun e there => ?_, List.pairwise_cons.mpr ⟨fun e there => (new e there).1.symm, recorded.ids⟩,
      List.pairwise_cons.mpr ⟨fun e there => (new e there).2.symm, recorded.hashes⟩⟩
    rcases List.mem_cons.mp there with rfl | old
    · exact (row_hash made).2.2.2
    · exact recorded.hashed e old

theorem mem_oldest {e : AuditEvent} : e ∈ oldest events ↔ e ∈ events :=
  (List.perm_insertionSort NotLater events).mem_iff

theorem Recorded.verify_iff (recorded : Recorded php events) :
    verify php events = true ↔ Linked none (oldest events) :=
  verifyFrom_iff_linked none _ fun e there => recorded.hashed e (mem_oldest.mp there)

theorem not_linked_before {before after : List AuditEvent} {e x : AuditEvent}
    (unique : (before ++ x :: after).Pairwise fun a b => a.contentHash ≠ b.contentHash)
    (named : e.previousHash = (before ++ x :: after).getLast?.map AuditEvent.contentHash) :
    ¬ Linked none (before ++ e :: x :: after) := by
  intro linked
  have own : e.previousHash = lastHash none before := ((linked_append none before _).mp linked).2.1
  obtain ⟨m, last⟩ : ∃ m, (x :: after).getLast? = some m := ⟨_, List.getLast?_eq_some_getLast (List.cons_ne_nil x after)⟩
  have there : m ∈ x :: after := List.mem_of_getLast? last
  rw [List.getLast?_append, last] at named
  cases found : before.getLast? with
  | none =>
    rw [named] at own
    simp [lastHash, found] at own
  | some a =>
    have same : m.contentHash = a.contentHash := by
      rw [named] at own
      simpa [lastHash, found] using own
    exact (List.pairwise_append.mp unique).2.2 a (List.mem_of_getLast? found) m there same.symm

/-- A call leaves a chain that verifies exactly where the chain verified before and the event is in order. -/
theorem verify_record (recorded : Recorded php events) (call : Call) :
    verify php (record php call events) = true ↔ verify php events = true ∧ InOrder php call events := by
  rcases record_cases php call events with same | ⟨event, made, new, stored⟩
  · rw [same]
    exact ⟨fun holds => ⟨holds, Or.inl same⟩, fun holds => holds.1⟩
  · have after := recorded.record call
    rw [after.verify_iff, recorded.verify_iff, stored]
    obtain ⟨previous, id, time, -⟩ := row_hash made
    have earlier : ∀ x, ¬ NotLater event x ↔ Earlier x call := by
      intro x
      unfold NotLater Earlier
      rw [id, time]
      exact lex_not_le x.occurredAt call.occurredAt x.id call.id
    have unique : (oldest events).Pairwise fun a b => a.contentHash ≠ b.contentHash :=
      ((List.perm_insertionSort NotLater events).pairwise_iff fun different => different.symm).mpr recorded.hashes
    have sorted : oldest (event :: events) = (oldest events).orderedInsert NotLater event := rfl
    rw [sorted]
    rcases orderedInsert_cases event (oldest events) with ⟨all, placed⟩ | ⟨before, x, rest, split, notLater, placed⟩
    · have inOrder : InOrder php call events := Or.inr fun x there => (earlier x).mp (all x (mem_oldest.mpr there))
      have last : Linked (lastHash none (oldest events)) [event] := by
        refine ⟨?_, trivial⟩
        rw [previous]
        unfold latest lastHash
        cases (oldest events).getLast? <;> rfl
      rw [placed, linked_append]
      exact ⟨fun holds => ⟨holds.1, inOrder⟩, fun holds => ⟨holds.1, last⟩⟩
    · have broken : ¬ Linked none (before ++ event :: x :: rest) :=
        not_linked_before (split ▸ unique) (by rw [previous, ← split]; rfl)
      have outOfOrder : ¬ InOrder php call events := by
        rintro (same | all)
        · rw [stored] at same
          exact absurd (congrArg List.length same) (Nat.succ_ne_self _)
        · have there : x ∈ events := mem_oldest.mp (by rw [split]; simp)
          exact (earlier x).mpr (all x there) notLater
      rw [placed]
      exact ⟨fun holds => absurd holds broken, fun holds => absurd holds.2 outOfOrder⟩

/-- Whatever the entries and the clocks: the chain verifies exactly when every event came after all events before
it. -/
theorem verify_iff_inOrder (php : Php) (calls : List Call) :
    verify php (Runs.reached (record php) calls []) = true ↔ Runs.Met (record php) (InOrder php) calls [] := by
  have run := Runs.reached_iff_met (P := fun events => verify php events = true)
    (fun call events (recorded : Recorded php events) => ⟨recorded.record call, verify_record recorded call⟩) calls []
    ⟨fun _ there => (by cases there), List.Pairwise.nil, List.Pairwise.nil⟩
  exact run.trans ⟨fun holds => holds.2, fun met => ⟨rfl, met⟩⟩

/-- The newest row first: each was recorded over the rows after it, and names the last of them in the order of the
table. -/
def Grown (php : Php) : List AuditEvent → Prop
  | [] => True
  | event :: earlier => event.previousHash = (latest earlier).map AuditEvent.contentHash ∧ Hashed php event ∧
      (∀ e ∈ earlier, e.id ≠ event.id ∧ e.contentHash ≠ event.contentHash) ∧ Grown php earlier

/-- Rows are only added, whatever the clocks show. -/
theorem rows_grow (php : Php) (before later : List Call) :
    Grown php (Runs.reached (record php) (before ++ later) []) ∧
      Runs.reached (record php) before [] <:+ Runs.reached (record php) (before ++ later) [] := by
  have step : ∀ call events, Grown php events →
      Grown php (record php call events) ∧ events <:+ record php call events := by
    intro call events grown
    rcases record_cases php call events with same | ⟨event, made, new, stored⟩
    · rw [same]
      exact ⟨grown, List.suffix_refl _⟩
    · obtain ⟨previous, -, -, hashed⟩ := row_hash made
      rw [stored]
      exact ⟨⟨previous, hashed, new, grown⟩, List.suffix_cons event events⟩
  have first := Runs.reached_related (R := List.IsSuffix) List.suffix_refl List.IsSuffix.trans step before [] trivial
  rw [Runs.reached_append]
  exact Runs.reached_related List.suffix_refl List.IsSuffix.trans step later _ first.1

def callAt (now : Instant) : Call where
  context := ⟨"01J0TENANT", .human, none, "01J0CORRELATION"⟩
  entry := ⟨"settings.updated", "setting", none, .succeeded, none, [("limit", .int 5)], [], none, none, none, none⟩
  request := ⟨some "10.0.0.1", none⟩
  now := now
  ulidNow := now
  random := 0

/-- A server whose clock is a second behind records after another: the honest chain does not verify. -/
theorem verify_clock_behind :
    verify ⟨fun _ => true, fun a b => decide (a ≤ b), fun previous _ => previous ++ "#", fun _ => "", id⟩
      (Runs.reached
        (record ⟨fun _ => true, fun a b => decide (a ≤ b), fun previous _ => previous ++ "#", fun _ => "", id⟩)
        [callAt 1000000000, callAt 2000000000, callAt 1999000000] []) = false := by
  decide +kernel

end VtsaCsms.Audit
