import VtsaCsms.Notifications.NoticePush

/-!
# A notice is pushed once

What holds in every run of any number of workers: a message follows another only after an answer that it was not
accepted. Five messages are the most where no worker claims what another has attempted in between. An installation
that signs in under another token loses the notice while its delivery waits.
-/
namespace VtsaCsms.Notifications
open Foundation

namespace Push
variable {s s' : Push} {w : Nat} (sha256 : String → String)

/-! ### One message at a time -/

/-- Nothing was sent, or the last message was refused. -/
def Ready (history : List PushEvent) : Prop := ∀ e ∈ history.getLast?, e.refused = true

theorem history_own {e : PushEvent} {key : DeliveryKey} (log : s'.log = s.log ++ [e]) (own : e.key = key) :
    s'.history key = s.history key ++ [e] := by
  have kept : [e].filter (fun e => decide (e.key = key)) = [e] :=
    List.filter_cons_of_pos (p := fun e : PushEvent => decide (e.key = key)) (decide_eq_true own)
  rw [history, log, List.filter_append, kept, history]

theorem history_other {e : PushEvent} {key : DeliveryKey} (log : s'.log = s.log ++ [e]) (other : e.key ≠ key) :
    s'.history key = s.history key := by
  rw [history, log, List.filter_append, history, List.filter_cons_of_neg (by simpa using other), List.filter_nil,
    List.append_nil]

theorem history_quiet (log : s'.log = s.log) (key : DeliveryKey) : s'.history key = s.history key := by
  rw [history, log, history]

/-- One worker holds a delivery at most, and then it is not pending; what is pending, or held and not sent, may be
sent. -/
structure Kept (s : Push) : Prop where
  alone : ∀ w w' worker worker' key, s.workers w = some worker → s.workers w' = some worker' →
    worker.stage.key = some key → worker'.stage.key = some key → w = w'
  held : ∀ w worker key, s.workers w = some worker → worker.stage.key = some key →
    ∃ row, s.deliveries.get? key = some row ∧ row.status ≠ .pending
  unsent : ∀ w worker key, s.workers w = some worker → worker.stage.key = some key → worker.stage.unsent = true →
    Ready (s.history key)
  waits : ∀ key row, s.deliveries.get? key = some row → row.status = .pending → Ready (s.history key)
  silent : ∀ key, s.deliveries.get? key = none → s.history key = []
  orderly : s.SentAfterRefusal

theorem Kept.quiet (kept : Kept s) (quiet : Quiet s s') : Kept s' where
  alone := by
    intro w w' worker worker' key here here' key1 key2
    obtain ⟨before, known, holds, -⟩ := quiet.claimed w worker key here key1
    obtain ⟨before', known', holds', -⟩ := quiet.claimed w' worker' key here' key2
    exact kept.alone w w' before before' key known known' holds holds'
  held := by
    intro w worker key here holds
    obtain ⟨before, known, holds', -⟩ := quiet.claimed w worker key here holds
    obtain ⟨row, stored, other⟩ := kept.held w before key known holds'
    obtain ⟨row', stored'⟩ : ∃ row', s'.deliveries.get? key = some row' := by
      refine Option.ne_none_iff_exists'.mp fun absent => ?_
      rw [quiet.stays key absent] at stored
      cases stored
    refine ⟨row', stored', fun pending => ?_⟩
    obtain ⟨row'', stored'', same⟩ | ⟨absent, -⟩ := quiet.rows key row' stored'
    · cases stored.symm.trans stored''
      exact other (same.pending pending)
    · rw [absent] at stored
      cases stored
  unsent := by
    intro w worker key here holds away
    obtain ⟨before, known, holds', away', -⟩ := quiet.claimed w worker key here holds
    rw [history_quiet quiet.log]
    exact kept.unsent w before key known holds' (away' away)
  waits := by
    intro key row' stored' pending
    rw [history_quiet quiet.log]
    obtain ⟨row, stored, same⟩ | ⟨absent, -⟩ := quiet.rows key row' stored'
    · exact kept.waits key row stored (same.pending pending)
    · rw [kept.silent key absent]
      exact fun _ last => nomatch last
  silent := by
    intro key absent
    rw [history_quiet quiet.log]
    exact kept.silent key (quiet.stays key absent)
  orderly := by
    intro key
    rw [history_quiet quiet.log]
    exact kept.orderly key

theorem Kept.unheld {key : DeliveryKey} {row : NoticePushDelivery} (kept : Kept s)
    (stored : s.deliveries.get? key = some row) (pending : row.status = .pending) (w : Nat) (worker : Worker)
    (here : s.workers w = some worker) : worker.stage.key ≠ some key := by
  intro holds
  obtain ⟨row', stored', other⟩ := kept.held w worker key here holds
  cases stored.symm.trans stored'
  exact other pending

theorem Goes.cases {worker worker' : Worker} {w' : Nat} (goes : Goes s s' w worker)
    (here : s'.workers w' = some worker') : w' = w ∧ worker' = worker ∨ w' ≠ w ∧ s.workers w' = some worker' := by
  rw [goes] at here
  by_cases same : w' = w
  · subst same
    rw [Function.update_self] at here
    exact .inl ⟨rfl, (Option.some.inj here).symm⟩
  · rw [Function.update_of_ne same] at here
    exact .inr ⟨same, here⟩

theorem Goes.of_free {worker worker' : Worker} {w' : Nat} {key : DeliveryKey} (goes : Goes s s' w worker)
    (free : worker.stage.key = none) (here : s'.workers w' = some worker') (holds : worker'.stage.key = some key) :
    w' ≠ w ∧ s.workers w' = some worker' := by
  obtain ⟨-, rfl⟩ | other := goes.cases here
  · cases free.symm.trans holds
  · exact other

theorem Kept.otherKey {worker worker' : Worker} {w' : Nat} {key key' : DeliveryKey} (kept : Kept s)
    (here : s.workers w = some worker) (mine : worker.stage.key = some key) (here' : s.workers w' = some worker')
    (holds : worker'.stage.key = some key') (differs : w' ≠ w) : key ≠ key' :=
  fun same => differs (kept.alone w' w worker' worker key' here' here holds (same ▸ mine))

theorem absent_of_update {deliveries : Table DeliveryKey NoticePushDelivery} {key key' : DeliveryKey}
    {f : NoticePushDelivery → NoticePushDelivery} (absent : (deliveries.update key f).get? key' = none) :
    deliveries.get? key' = none := by
  rw [Table.update, Table.get?_updateWhere] at absent
  exact Option.map_eq_none_iff.mp absent

theorem recorded_pending {moment : Moment} {attempt : Attempt} {result : SendResult} {row : NoticePushDelivery}
    (pending : (recorded moment attempt result row).status = .pending) :
    result.status = .pending ∧ attempt.attempts < 5 := by
  simp only [recorded] at pending
  split at pending
  · cases pending
  next open' =>
    refine ⟨pending, Nat.lt_of_not_le fun last => open' ⟨pending, last⟩⟩

section Moves
variable {step : PushStep} {worker : Worker} {due : List (DeliveryKey × Nat)}

theorem Kept.claims {key : DeliveryKey} {row : NoticePushDelivery} {claim : NoticePushDelivery → NoticePushDelivery}
    (kept : Kept s) (stored : s.deliveries.get? key = some row) (pending : row.status = .pending)
    (taken : ∀ row, (claim row).status = .sending) (goes : Goes s s' w { worker with stage := .claimed key due })
    (deliveries : s'.deliveries = s.deliveries.update key claim) (log : s'.log = s.log) : Kept s' := by
  have none_holds := kept.unheld stored pending
  refine ⟨?_, ?_, ?_, ?_, ?_, ?_⟩
  · intro w1 w2 worker1 worker2 key' here1 here2 holds1 holds2
    obtain ⟨rfl, rfl⟩ | ⟨-, known1⟩ := goes.cases here1
    · obtain ⟨rfl, -⟩ | ⟨-, known2⟩ := goes.cases here2
      · rfl
      · cases holds1
        exact absurd holds2 (none_holds w2 worker2 known2)
    · obtain ⟨rfl, rfl⟩ | ⟨-, known2⟩ := goes.cases here2
      · cases holds2
        exact absurd holds1 (none_holds w1 worker1 known1)
      · exact kept.alone w1 w2 worker1 worker2 key' known1 known2 holds1 holds2
  · intro w' worker' key' here' holds
    rw [deliveries]
    by_cases same : key' = key
    · subst same
      refine ⟨claim row, ?_, by rw [taken row]; exact nofun⟩
      rw [Table.get?_update_self, stored, Option.map_some]
    · obtain ⟨-, rfl⟩ | ⟨-, known⟩ := goes.cases here'
      · cases holds
        exact absurd rfl same
      · obtain ⟨row', stored', other⟩ := kept.held w' worker' key' known holds
        exact ⟨row', (Table.get?_update_of_ne _ _ same).trans stored', other⟩
  · intro w' worker' key' here' holds away
    rw [history_quiet log]
    obtain ⟨-, rfl⟩ | ⟨-, known⟩ := goes.cases here'
    · cases holds
      exact kept.waits key row stored pending
    · exact kept.unsent w' worker' key' known holds away
  · intro key' row' stored' waiting
    rw [history_quiet log]
    rw [deliveries] at stored'
    obtain ⟨rfl, old, -, rfl⟩ | ⟨other, stored'⟩ := Table.get?_update_cases stored'
    · rw [taken old] at waiting
      cases waiting
    · exact kept.waits key' row' stored' waiting
  · intro key' absent
    rw [history_quiet log]
    rw [deliveries] at absent
    exact kept.silent key' (absent_of_update absent)
  · intro key'
    rw [history_quiet log]
    exact kept.orderly key'

theorem Kept.sends {attempt : Attempt} (kept : Kept s) (here : s.workers w = some worker)
    (stage : worker.stage = .ready attempt due) (goes : Goes s s' w { worker with stage := .waiting attempt due })
    (deliveries : s'.deliveries = s.deliveries)
    (log : s'.log = s.log ++ [.sent attempt.key attempt.installation]) : Kept s' := by
  have mine : worker.stage.key = some attempt.key := by rw [stage]; rfl
  obtain ⟨row, stored, other⟩ := kept.held w worker attempt.key here mine
  have before {w' : Nat} {worker' : Worker} {key' : DeliveryKey} (here' : s'.workers w' = some worker')
      (holds : worker'.stage.key = some key') : ∃ old, s.workers w' = some old ∧ old.stage.key = some key' := by
    obtain ⟨rfl, rfl⟩ | ⟨-, known⟩ := goes.cases here'
    · exact ⟨worker, here, mine.trans holds⟩
    · exact ⟨worker', known, holds⟩
  refine ⟨?_, ?_, ?_, ?_, ?_, ?_⟩
  · intro w1 w2 worker1 worker2 key' here1 here2 holds1 holds2
    obtain ⟨old1, known1, held1⟩ := before here1 holds1
    obtain ⟨old2, known2, held2⟩ := before here2 holds2
    exact kept.alone w1 w2 old1 old2 key' known1 known2 held1 held2
  · intro w' worker' key' here' holds
    obtain ⟨old, known, held⟩ := before here' holds
    rw [deliveries]
    exact kept.held w' old key' known held
  · intro w' worker' key' here' holds away
    obtain ⟨-, rfl⟩ | ⟨differs, known⟩ := goes.cases here'
    · cases away
    · rw [history_other log (kept.otherKey here mine known holds differs)]
      exact kept.unsent w' worker' key' known holds away
  · intro key' row' stored' waiting
    rw [deliveries] at stored'
    have otherKey : attempt.key ≠ key' := by
      rintro rfl
      cases stored.symm.trans stored'
      exact other waiting
    rw [history_other log otherKey]
    exact kept.waits key' row' stored' waiting
  · intro key' absent
    rw [deliveries] at absent
    have otherKey : attempt.key ≠ key' := by
      rintro rfl
      cases stored.symm.trans absent
    rw [history_other log otherKey]
    exact kept.silent key' absent
  · intro key'
    by_cases same : attempt.key = key'
    · have ready := kept.unsent w worker key' here (same ▸ mine) (by rw [stage]; rfl)
      rw [history_own log same]
      refine List.isChain_append.mpr ⟨kept.orderly key', List.isChain_singleton _, fun last stands e single => ?_⟩
      exact fun _ => ready last stands
    · rw [history_other log same]
      exact kept.orderly key'

theorem Kept.answered {attempt : Attempt} {result : SendResult} {stage' : Stage} {moment : Moment} (kept : Kept s)
    (here : s.workers w = some worker) (stage : worker.stage = .waiting attempt due) (free : stage'.key = none)
    (goes : Goes s s' w { worker with stage := stage' })
    (deliveries : s'.deliveries = s.deliveries.update attempt.key (recorded moment attempt result))
    (log : s'.log = s.log ++ [.told attempt.key result.status]) : Kept s' := by
  have mine : worker.stage.key = some attempt.key := by rw [stage]; rfl
  obtain ⟨row, stored, -⟩ := kept.held w worker attempt.key here mine
  have others {w' : Nat} {worker' : Worker} {key' : DeliveryKey} (here' : s'.workers w' = some worker')
      (holds : worker'.stage.key = some key') : s.workers w' = some worker' ∧ attempt.key ≠ key' := by
    obtain ⟨differs, known⟩ := goes.of_free free here' holds
    exact ⟨known, kept.otherKey here mine known holds differs⟩
  refine ⟨?_, ?_, ?_, ?_, ?_, ?_⟩
  · intro w1 w2 worker1 worker2 key' here1 here2 holds1 holds2
    exact kept.alone w1 w2 worker1 worker2 key' (others here1 holds1).1 (others here2 holds2).1 holds1 holds2
  · intro w' worker' key' here' holds
    obtain ⟨known, otherKey⟩ := others here' holds
    obtain ⟨row', stored', settled⟩ := kept.held w' worker' key' known holds
    rw [deliveries]
    exact ⟨row', (Table.get?_update_of_ne _ _ otherKey.symm).trans stored', settled⟩
  · intro w' worker' key' here' holds away
    obtain ⟨known, otherKey⟩ := others here' holds
    rw [history_other log otherKey]
    exact kept.unsent w' worker' key' known holds away
  · intro key' row' stored' waiting
    rw [deliveries] at stored'
    obtain ⟨rfl, old, -, rfl⟩ | ⟨otherKey, stored'⟩ := Table.get?_update_cases stored'
    · have said : s'.history attempt.key = s.history attempt.key ++ [.told attempt.key result.status] :=
        history_own log rfl
      rw [said]
      intro last stands
      rw [List.getLast?_concat] at stands
      cases stands
      exact decide_eq_true (recorded_pending waiting).1
    · rw [history_other log otherKey.symm]
      exact kept.waits key' row' stored' waiting
  · intro key' absent
    rw [deliveries] at absent
    have absent' := absent_of_update absent
    have otherKey : attempt.key ≠ key' := by
      rintro rfl
      cases stored.symm.trans absent'
    rw [history_other log otherKey]
    exact kept.silent key' absent'
  · intro key'
    by_cases same : attempt.key = key'
    · rw [history_own log same]
      refine List.isChain_append.mpr ⟨kept.orderly key', List.isChain_singleton _, fun last stands e single => ?_⟩
      cases single
      exact nofun
    · rw [history_other log same]
      exact kept.orderly key'

theorem kept_move (kept : Kept s) (move : Move step s s') : Kept s' := by
  cases move with
  | quiet quiet => exact kept.quiet quiet
  | claims claim _ _ _ stored pending taken goes deliveries log =>
    exact kept.claims stored pending (fun row => (taken row).1) goes deliveries log
  | sends here stage goes deliveries log => exact kept.sends here stage goes deliveries log
  | answered here stage free goes deliveries log => exact kept.answered here stage free goes deliveries log

end Moves

theorem kept_empty : Kept empty where
  alone := fun _ _ _ _ _ here => nomatch here
  held := fun _ _ _ here => nomatch here
  unsent := fun _ _ _ here => nomatch here
  waits := fun _ _ stored => nomatch stored
  silent := fun _ _ => rfl
  orderly := fun _ => List.isChain_nil

theorem kept_reached (run : List PushStep) : Kept (Runs.reached (next sha256) run empty) :=
  (Runs.throughout_of_kept (P := Kept) (fun step s kept => kept_move kept (move_next sha256 step s)) (fun _ => id) run
    empty kept_empty).last

/-- In every run a delivery is in one worker's hands at most, and is not pending then; what is pending was never sent,
or was last refused. -/
theorem delivery_held_alone (run : List PushStep) (key : DeliveryKey) :
    (∀ w w' worker worker', (Runs.reached (next sha256) run empty).workers w = some worker →
      (Runs.reached (next sha256) run empty).workers w' = some worker' →
      worker.stage.key = some key → worker'.stage.key = some key → w = w') ∧
    ∀ row, (Runs.reached (next sha256) run empty).deliveries.get? key = some row → row.status = .pending →
      Ready ((Runs.reached (next sha256) run empty).history key) ∧
        ∀ w worker, (Runs.reached (next sha256) run empty).workers w = some worker → worker.stage.key ≠ some key := by
  have kept := kept_reached sha256 run
  refine ⟨fun w w' worker worker' here here' => kept.alone w w' worker worker' key here here', ?_⟩
  intro row stored pending
  refine ⟨kept.waits key row stored pending, fun w worker here holds => ?_⟩
  obtain ⟨row', stored', other⟩ := kept.held w worker key here holds
  cases stored.symm.trans stored'
  exact other pending

/-! ### Five messages at most -/

theorem sentCount_of_same {key : DeliveryKey} (same : s'.history key = s.history key) :
    s'.sentCount key = s.sentCount key := by
  rw [sentCount, same, sentCount]

theorem sentCount_sent {key : DeliveryKey} {installation : String}
    (log : s'.log = s.log ++ [.sent key installation]) : s'.sentCount key = s.sentCount key + 1 := by
  have said : s'.history key = s.history key ++ [.sent key installation] := history_own log rfl
  rw [sentCount, said, List.countP_append, sentCount]
  rfl

theorem sentCount_told {key : DeliveryKey} {status : DeliveryStatus}
    (log : s'.log = s.log ++ [.told key status]) (key' : DeliveryKey) : s'.sentCount key' = s.sentCount key' := by
  by_cases same : key = key'
  · rw [sentCount, history_own log same, List.countP_append, sentCount]
    rfl
  · exact sentCount_of_same (history_other log same)

/-- No more was sent than was attempted; a fifth attempt is not followed by another. -/
structure Counted (s : Push) : Prop where
  rows : ∀ key row, s.deliveries.get? key = some row →
    s.sentCount key ≤ row.attempts ∧ row.attempts ≤ 5 ∧ (row.status = .pending → row.attempts < 5)
  unsent : ∀ w worker key row, s.workers w = some worker → worker.stage.key = some key →
    worker.stage.unsent = true → s.deliveries.get? key = some row → s.sentCount key < row.attempts
  read : ∀ w worker key n row, s.workers w = some worker → worker.stage.key = some key →
    worker.stage.read = some n → s.deliveries.get? key = some row → row.attempts = n

theorem Counted.atMostFive (counted : Counted s) (kept : Kept s) : s.AtMostFive := by
  intro key
  cases stored : s.deliveries.get? key with
  | none =>
    rw [sentCount, kept.silent key stored]
    exact Nat.zero_le 5
  | some row =>
    obtain ⟨sent, bound, -⟩ := counted.rows key row stored
    exact sent.trans bound

theorem Counted.quiet (counted : Counted s) (kept : Kept s) (quiet : Quiet s s') : Counted s' := by
  have same (key : DeliveryKey) : s'.sentCount key = s.sentCount key := sentCount_of_same (history_quiet quiet.log key)
  -- whoever holds a delivery held it before, and its row has as many attempts
  have before {w : Nat} {worker : Worker} {key : DeliveryKey} {row' : NoticePushDelivery}
      (here : s'.workers w = some worker) (holds : worker.stage.key = some key)
      (stored' : s'.deliveries.get? key = some row') :
      ∃ old row, s.workers w = some old ∧ old.stage.key = some key ∧ s.deliveries.get? key = some row ∧
        row'.attempts = row.attempts ∧ (worker.stage.unsent = true → old.stage.unsent = true) ∧
        ∀ n, worker.stage.read = some n → old.stage.read = some n ∨ row.attempts = n := by
    obtain ⟨old, known, held, unsent, reads⟩ := quiet.claimed w worker key here holds
    obtain ⟨row, stored, -⟩ := kept.held w old key known held
    obtain ⟨row₀, stored₀, alike⟩ | ⟨absent, -⟩ := quiet.rows key row' stored'
    · cases stored.symm.trans stored₀
      refine ⟨old, row, known, held, stored, alike.attempts, unsent, fun n read => ?_⟩
      obtain still | ⟨row₀, -, stored₀, attempts, -⟩ := reads n read
      · exact .inl still
      · cases stored.symm.trans stored₀
        exact .inr attempts
    · cases stored.symm.trans absent
  refine ⟨?_, ?_, ?_⟩
  · intro key row' stored'
    rw [same]
    obtain ⟨row, stored, alike⟩ | ⟨absent, attempts⟩ := quiet.rows key row' stored'
    · obtain ⟨sent, bound, open'⟩ := counted.rows key row stored
      rw [alike.attempts]
      exact ⟨sent, bound, fun pending => open' (alike.pending pending)⟩
    · have silent : s.sentCount key = 0 := by
        rw [sentCount, kept.silent key absent]
        rfl
      omega
  · intro w worker key row' here holds away stored'
    obtain ⟨old, row, known, held, stored, attempts, unsent, -⟩ := before here holds stored'
    rw [same, attempts]
    exact counted.unsent w old key row known held (unsent away) stored
  · intro w worker key n row' here holds read stored'
    obtain ⟨old, row, known, held, stored, attempts, -, reads⟩ := before here holds stored'
    rw [attempts]
    obtain still | now := reads n read
    · exact counted.read w old key n row known held still stored
    · exact now

section Moves
variable {step : PushStep} {worker : Worker} {due : List (DeliveryKey × Nat)}

theorem Counted.claims {key : DeliveryKey} {row : NoticePushDelivery} {claim : NoticePushDelivery → NoticePushDelivery}
    (counted : Counted s) (kept : Kept s) (stored : s.deliveries.get? key = some row) (pending : row.status = .pending)
    (taken : ∀ row', (claim row').status = .sending ∧ (claim row').attempts = row.attempts + 1)
    (goes : Goes s s' w { worker with stage := .claimed key due })
    (deliveries : s'.deliveries = s.deliveries.update key claim) (log : s'.log = s.log) : Counted s' := by
  have same (key : DeliveryKey) : s'.sentCount key = s.sentCount key := sentCount_of_same (history_quiet log key)
  obtain ⟨sent, -, open'⟩ := counted.rows key row stored
  have room := open' pending
  have none_holds := kept.unheld stored pending
  -- a row is the one that is claimed, with one attempt more, or another and as before
  have rows {key' : DeliveryKey} {row' : NoticePushDelivery} (stored' : s'.deliveries.get? key' = some row') :
      key' = key ∧ row'.status = .sending ∧ row'.attempts = row.attempts + 1 ∨
        key' ≠ key ∧ s.deliveries.get? key' = some row' := by
    rw [deliveries] at stored'
    obtain ⟨rfl, old, -, rfl⟩ | other := Table.get?_update_cases stored'
    · exact .inl ⟨rfl, taken old⟩
    · exact .inr other
  refine ⟨?_, ?_, ?_⟩
  · intro key' row' stored'
    rw [same]
    obtain ⟨rfl, status, attempts⟩ | ⟨-, stored'⟩ := rows stored'
    · exact ⟨by omega, by omega, fun pending => nomatch status.symm.trans pending⟩
    · exact counted.rows key' row' stored'
  · intro w' worker' key' row' here' holds away stored'
    rw [same]
    obtain ⟨rfl, -, attempts⟩ | ⟨other, stored'⟩ := rows stored'
    · omega
    · obtain ⟨-, rfl⟩ | ⟨-, known⟩ := goes.cases here'
      · cases holds
        exact absurd rfl other
      · exact counted.unsent w' worker' key' row' known holds away stored'
  · intro w' worker' key' n row' here' holds read stored'
    obtain ⟨-, rfl⟩ | ⟨-, known⟩ := goes.cases here'
    · cases read
    · obtain ⟨rfl, -, -⟩ | ⟨-, stored'⟩ := rows stored'
      · exact absurd holds (none_holds w' worker' known)
      · exact counted.read w' worker' key' n row' known holds read stored'

theorem Counted.sends {attempt : Attempt} (counted : Counted s) (kept : Kept s) (here : s.workers w = some worker)
    (stage : worker.stage = .ready attempt due) (goes : Goes s s' w { worker with stage := .waiting attempt due })
    (deliveries : s'.deliveries = s.deliveries)
    (log : s'.log = s.log ++ [.sent attempt.key attempt.installation]) : Counted s' := by
  have mine : worker.stage.key = some attempt.key := by rw [stage]; rfl
  have away : worker.stage.unsent = true := by rw [stage]; rfl
  have others {key' : DeliveryKey} (other : attempt.key ≠ key') : s'.sentCount key' = s.sentCount key' :=
    sentCount_of_same (history_other log other)
  refine ⟨?_, ?_, ?_⟩
  · intro key' row' stored'
    rw [deliveries] at stored'
    obtain ⟨sent, rest⟩ := counted.rows key' row' stored'
    refine ⟨?_, rest⟩
    by_cases same : attempt.key = key'
    · subst same
      rw [sentCount_sent log]
      exact counted.unsent w worker attempt.key row' here mine away stored'
    · rw [others same]
      exact sent
  · intro w' worker' key' row' here' holds away' stored'
    rw [deliveries] at stored'
    obtain ⟨-, rfl⟩ | ⟨differs, known⟩ := goes.cases here'
    · cases away'
    · rw [others (kept.otherKey here mine known holds differs)]
      exact counted.unsent w' worker' key' row' known holds away' stored'
  · intro w' worker' key' n row' here' holds read stored'
    rw [deliveries] at stored'
    obtain ⟨-, rfl⟩ | ⟨-, known⟩ := goes.cases here'
    · exact counted.read w worker key' n row' here (mine.trans holds) (by rw [stage]; exact read) stored'
    · exact counted.read w' worker' key' n row' known holds read stored'

theorem Counted.answered {attempt : Attempt} {result : SendResult} {stage' : Stage} {moment : Moment}
    (counted : Counted s) (here : s.workers w = some worker)
    (stage : worker.stage = .waiting attempt due) (free : stage'.key = none)
    (goes : Goes s s' w { worker with stage := stage' })
    (deliveries : s'.deliveries = s.deliveries.update attempt.key (recorded moment attempt result))
    (log : s'.log = s.log ++ [.told attempt.key result.status]) : Counted s' := by
  have mine : worker.stage.key = some attempt.key := by rw [stage]; rfl
  have count := sentCount_told log
  -- a row has as many attempts as before
  have before {key' : DeliveryKey} {row' : NoticePushDelivery} (stored' : s'.deliveries.get? key' = some row') :
      ∃ row, s.deliveries.get? key' = some row ∧ row'.attempts = row.attempts ∧
        (row'.status = .pending → row.status = .pending ∨ row.attempts < 5) := by
    rw [deliveries] at stored'
    obtain ⟨rfl, row, stored, rfl⟩ | ⟨-, stored'⟩ := Table.get?_update_cases stored'
    · have known := counted.read w worker attempt.key attempt.attempts row here mine (by rw [stage]; rfl) stored
      refine ⟨row, stored, rfl, fun pending => .inr ?_⟩
      rw [known]
      exact (recorded_pending pending).2
    · exact ⟨row', stored', rfl, .inl⟩
  refine ⟨?_, ?_, ?_⟩
  · intro key' row' stored'
    obtain ⟨row, stored, attempts, open'⟩ := before stored'
    obtain ⟨sent, bound, room⟩ := counted.rows key' row stored
    rw [count, attempts]
    exact ⟨sent, bound, fun pending => (open' pending).elim room id⟩
  · intro w' worker' key' row' here' holds away stored'
    obtain ⟨row, stored, attempts, -⟩ := before stored'
    rw [count, attempts]
    exact counted.unsent w' worker' key' row (goes.of_free free here' holds).2 holds away stored
  · intro w' worker' key' n row' here' holds read stored'
    obtain ⟨row, stored, attempts, -⟩ := before stored'
    rw [attempts]
    exact counted.read w' worker' key' n row (goes.of_free free here' holds).2 holds read stored

theorem counted_move (counted : Counted s) (kept : Kept s) (fresh : ClaimsFresh step s) (move : Move step s s') :
    Counted s' := by
  cases move with
  | quiet quiet => exact counted.quiet kept quiet
  | claims claim act here stage stored pending taken goes deliveries log =>
    rename_i w worker key attempts due row
    have known : attempts = row.attempts := by
      refine fresh w worker.tenantId key attempts due row act ?_ stored pending
      rw [here, ← stage]
    have taken' (row' : NoticePushDelivery) :
        (claim row').status = .sending ∧ (claim row').attempts = row.attempts + 1 := by
      rw [← known]
      exact ⟨(taken row').1, (taken row').2.1⟩
    exact counted.claims kept stored pending taken' goes deliveries log
  | sends here stage goes deliveries log => exact counted.sends kept here stage goes deliveries log
  | answered here stage free goes deliveries log => exact counted.answered here stage free goes deliveries log

end Moves

theorem counted_empty : Counted empty where
  rows := fun _ _ stored => nomatch stored
  unsent := fun _ _ _ _ here => nomatch here
  read := fun _ _ _ _ _ here => nomatch here

/-! ### Identifiers of devices -/

end Push

/-- The devices that a worker has read. -/
def Stage.ids : Stage → List Nat
  | .enrolling _ page => page.map Prod.fst
  | _ => []

namespace Push
variable {s s' : Push} {w : Nat} (sha256 : String → String)

/-- Every device that is stored, read or pointed at has been given its identifier before. -/
structure Numbered (s : Push) : Prop where
  devices : ∀ id d, s.devices.get? id = some d → id < s.nextDevice
  rows : ∀ key row, s.deliveries.get? key = some row → row.deviceId < s.nextDevice
  read : ∀ w worker, s.workers w = some worker → ∀ id ∈ worker.stage.ids, id < s.nextDevice

theorem Numbered.goOn (numbered : Numbered s) {worker : Worker} (known : ∀ id ∈ worker.stage.ids, id < s.nextDevice) :
    Numbered (s.goOn w worker) where
  devices := numbered.devices
  rows := numbered.rows
  read := by
    intro w' worker' here
    by_cases same : w' = w
    · subst same
      rw [goOn_self] at here
      cases here
      exact known
    · rw [goOn_other worker same] at here
      exact numbered.read w' worker' here

theorem Numbered.rest (numbered : Numbered s) {worker : Worker} (none' : worker.stage.ids = []) :
    Numbered (s.goOn w worker) :=
  numbered.goOn fun id read => by
    rw [none'] at read
    cases read

theorem Numbered.updateWhere (numbered : Numbered s) (p : DeliveryKey → NoticePushDelivery → Bool)
    {f : NoticePushDelivery → NoticePushDelivery} (device : ∀ row, (f row).deviceId = row.deviceId) :
    Numbered { s with deliveries := s.deliveries.updateWhere p f } where
  devices := numbered.devices
  rows := by
    intro key row' stored'
    rw [Table.get?_updateWhere] at stored'
    obtain ⟨row, stored, rfl⟩ := Option.map_eq_some_iff.mp stored'
    split
    · rw [device]
      exact numbered.rows key row stored
    · exact numbered.rows key row stored
  read := numbered.read

theorem Numbered.enrolled (numbered : Numbered s) (moment : Moment) (key : DeliveryKey) {id : Nat}
    (known : id < s.nextDevice) : Numbered { s with deliveries := s.enrolled moment key id } where
  devices := numbered.devices
  rows := by
    intro key' row' stored'
    dsimp only [Push.enrolled] at stored'
    split at stored'
    · exact numbered.rows key' row' stored'
    · rw [Table.get?_put] at stored'
      split at stored'
      · cases stored'
        exact known
      · exact numbered.rows key' row' stored'
  read := numbered.read

theorem Numbered.removeWhere (numbered : Numbered s) (p : Nat → NotificationDevice → Bool) :
    Numbered { s with devices := s.devices.removeWhere p } where
  devices := fun id d stored => numbered.devices id d (Table.get?_removeWhere_some stored)
  rows := numbered.rows
  read := numbered.read

theorem numbered_work (numbered : Numbered s) {worker : Worker} (here : s.workers w = some worker) (moment : Moment)
    (act : WorkerAct) : Numbered (s.work moment w worker act) := by
  have seen := numbered.read w worker here
  unfold work
  dsimp only
  split
  · exact numbered.rest rfl
  next notice notices ids stage =>
    refine numbered.goOn fun id read => ?_
    obtain ⟨⟨id', d⟩, paged, rfl⟩ := List.mem_map.mp read
    obtain ⟨id, -, found⟩ := List.mem_filterMap.mp paged
    obtain ⟨device, stored, found⟩ := Option.bind_eq_some_iff.mp found
    split at found
    · cases found
      exact numbered.devices _ _ stored
    · cases found
  · exact numbered.rest rfl
  next notice notices id d page stage =>
    rw [stage] at seen
    have enrolled := numbered.enrolled moment ⟨worker.tenantId, notice, d.installationHash⟩
      (seen id (List.mem_cons_self ..))
    refine Numbered.goOn ?_ fun id' read => seen id' (List.mem_cons_of_mem _ read)
    split
    · exact enrolled
    · exact numbered
  · refine Numbered.rest ?_ rfl
    exact numbered.updateWhere _ fun _ => rfl
  · exact numbered.rest rfl
  next key attempts due stage =>
    split
    · refine Numbered.rest ?_ rfl
      exact numbered.updateWhere _ fun _ => rfl
    · exact numbered.rest rfl
  next key due stage =>
    split
    next attempt _ => exact numbered.rest rfl
    next =>
      refine Numbered.rest ?_ rfl
      exact numbered.updateWhere _ fun _ => rfl
  · refine Numbered.rest ?_ rfl
    exact ⟨numbered.devices, numbered.rows, numbered.read⟩
  next reply attempt due stage =>
    have recorded := numbered.updateWhere (f := recorded moment attempt (sendResult reply))
      (fun key _ => decide (key = attempt.key)) fun _ => rfl
    refine Numbered.rest ?_ ?_
    · exact ⟨numbered.devices, recorded.rows, numbered.read⟩
    · dsimp only
      split <;> rfl
  · exact (numbered.removeWhere _).rest rfl
  · exact numbered

theorem numbered_next (numbered : Numbered s) (step : PushStep) : Numbered (next sha256 step s) := by
  unfold next
  split
  next token installationId platform act =>
    unfold register
    dsimp only
    split
    next id d found =>
      refine ⟨fun id' d' stored => ?_, numbered.rows, numbered.read⟩
      obtain ⟨rfl, d, old, -⟩ | ⟨-, old⟩ := Table.get?_update_cases stored
      · exact numbered.devices _ d (Table.get?_removeWhere_some old)
      · exact numbered.devices _ d' (Table.get?_removeWhere_some old)
    next absent =>
      have before {id : Nat} (known : id < s.nextDevice) : id < s.nextDevice + 1 := Nat.lt_succ_of_lt known
      refine ⟨fun id d stored => ?_, fun key row stored => before (numbered.rows key row stored),
        fun w worker here id read => before (numbered.read w worker here id read)⟩
      rw [Table.get?_put] at stored
      split at stored
      next same => exact same ▸ Nat.lt_succ_self _
      next => exact before (numbered.devices id d (Table.get?_removeWhere_some stored))
  · exact numbered.removeWhere _
  · split
    · exact numbered.rest rfl
    · exact numbered
  next w act =>
    refine ⟨numbered.devices, numbered.rows, fun w' worker here => ?_⟩
    dsimp only at here
    by_cases same : w' = w
    · subst same
      rw [Function.update_self] at here
      cases here
    · rw [Function.update_of_ne same] at here
      exact numbered.read w' worker here
  · split
    · exact numbered
    next worker here => exact numbered_work numbered here ..

theorem numbered_empty : Numbered empty where
  devices := fun _ _ stored => nomatch stored
  rows := fun _ _ stored => nomatch stored
  read := fun _ _ here => nomatch here

/-! ### What is not delivered any more -/

/-- The delivery points at a device that is gone, or that is another installation by now, and nobody has read it
before. -/
structure Lost (s : Push) (key : DeliveryKey) : Prop where
  row : ∃ row, s.deliveries.get? key = some row ∧
    ∀ d, s.devices.get? row.deviceId = some d → d.installationHash ≠ key.installationHash
  unread : ∀ w worker n, s.workers w = some worker → worker.stage.key = some key → worker.stage.read ≠ some n

theorem lost_of_signsInAnew {key : DeliveryKey} {step : PushStep} (kept : Kept s) (numbered : Numbered s)
    (signsIn : SignsInAnew sha256 key step s) : Lost (next sha256 step s) key := by
  obtain ⟨token, installationId, platform, act, -, hash, row, stored, pending, -, older⟩ := signsIn
  -- what is left of the older devices is not for this installation
  have gone {d : NotificationDevice} (left : (s.devices.removeWhere fun _ d =>
      decide (d.installationHash = sha256 installationId ∧ d.authTokenId ≠ token.id)).get? row.deviceId = some d) :
      d.authTokenId ≠ token.id ∧ d.installationHash ≠ key.installationHash := by
    have another := older d (Table.get?_removeWhere_some left)
    refine ⟨another, fun same => ?_⟩
    rw [← Table.mem_entries] at left
    have kept := (List.mem_filter.mp left).2
    rw [hash] at same
    simp [same, another] at kept
  have unheld (w : Nat) (worker : Worker) (n : Nat) (here : s.workers w = some worker)
      (holds : worker.stage.key = some key) : worker.stage.read ≠ some n :=
    absurd holds (kept.unheld stored pending w worker here)
  unfold next
  rw [act]
  dsimp only [register]
  split
  next id d found =>
    refine ⟨⟨row, stored, fun d' left => ?_⟩, unheld⟩
    obtain ⟨same, -⟩ | ⟨-, old⟩ := Table.get?_update_cases left
    · obtain ⟨left, own⟩ := Table.first?_some found
      rw [← same] at left
      exact absurd (of_decide_eq_true own).2 (gone left).1
    · exact (gone old).2
  next absent =>
    refine ⟨⟨row, stored, fun d' left => ?_⟩, unheld⟩
    rw [Table.get?_put, if_neg (Nat.ne_of_lt (numbered.rows key row stored))] at left
    exact (gone left).2

theorem devices_work {moment : Moment} {worker : Worker} {act : WorkerAct} {id : Nat} {d : NotificationDevice}
    (stored : (s.work moment w worker act).devices.get? id = some d) : s.devices.get? id = some d := by
  unfold work at stored
  dsimp only at stored
  split at stored
  case h_7 => split at stored <;> exact stored
  case h_8 => split at stored <;> exact stored
  case h_11 => exact Table.get?_removeWhere_some stored
  all_goals exact stored

theorem devices_next {step : PushStep} (delivers : step.act.delivers = true) {id : Nat} {d : NotificationDevice}
    (stored : (next sha256 step s).devices.get? id = some d) : s.devices.get? id = some d := by
  unfold next at stored
  split at stored
  next act =>
    rw [act] at delivers
    cases delivers
  next act =>
    rw [act] at delivers
    cases delivers
  · split at stored <;> exact stored
  · exact stored
  · split at stored
    · exact stored
    · exact devices_work stored

theorem row_updated {deliveries : Table DeliveryKey NoticePushDelivery} {key : DeliveryKey}
    {f : NoticePushDelivery → NoticePushDelivery} {row : NoticePushDelivery}
    (device : ∀ row, (f row).deviceId = row.deviceId) (stored : deliveries.get? key = some row) (key' : DeliveryKey) :
    ∃ row', (deliveries.update key' f).get? key = some row' ∧ row'.deviceId = row.deviceId := by
  rw [Table.get?_update, stored]
  split
  · exact ⟨f row, rfl, device row⟩
  · exact ⟨row, rfl, rfl⟩

theorem Lost.move {key : DeliveryKey} {step : PushStep} (lost : Lost s key) (move : Move step s s')
    (devices : ∀ id d, s'.devices.get? id = some d → s.devices.get? id = some d) :
    Lost s' key ∧ s'.sentCount key = s.sentCount key := by
  obtain ⟨⟨row, stored, other⟩, unread⟩ := lost
  have gone (d : NotificationDevice) (left : s'.devices.get? row.deviceId = some d) :
      d.installationHash ≠ key.installationHash := other d (devices _ d left)
  cases move with
  | quiet quiet =>
    refine ⟨⟨?_, ?_⟩, sentCount_of_same (history_quiet quiet.log key)⟩
    · obtain ⟨row', stored'⟩ : ∃ row', s'.deliveries.get? key = some row' :=
        Option.ne_none_iff_exists'.mp fun absent => nomatch stored.symm.trans (quiet.stays key absent)
      obtain ⟨row₀, stored₀, same⟩ | ⟨absent, -⟩ := quiet.rows key row' stored'
      · cases stored.symm.trans stored₀
        exact ⟨row', stored', by rwa [same.device]⟩
      · cases stored.symm.trans absent
    · intro w worker n here holds read
      obtain ⟨old, known, held, -, reads⟩ := quiet.claimed w worker key here holds
      obtain still | ⟨row₀, d, stored₀, -, known, hash⟩ := reads n read
      · exact unread w old n known held still
      · cases stored.symm.trans stored₀
        exact other d known hash
  | claims claim _ _ _ _ _ taken goes deliveries log =>
    obtain ⟨row', stored', device⟩ := row_updated (fun row => (taken row).2.2) stored _
    rw [← deliveries] at stored'
    refine ⟨⟨⟨row', stored', by rwa [device]⟩, ?_⟩, sentCount_of_same (history_quiet log key)⟩
    intro w worker n here' holds
    obtain ⟨-, rfl⟩ | ⟨-, known⟩ := goes.cases here'
    · exact nofun
    · exact unread w worker n known holds
  | sends here stage goes deliveries log =>
    rename_i w worker attempt due
    have otherKey : attempt.key ≠ key := fun same =>
      unread w worker attempt.attempts here (by rw [stage]; exact congrArg some same) (by rw [stage]; rfl)
    refine ⟨⟨⟨row, by rwa [deliveries], gone⟩, ?_⟩, sentCount_of_same (history_other log otherKey)⟩
    intro w' worker' n here' holds
    obtain ⟨-, rfl⟩ | ⟨-, known⟩ := goes.cases here'
    · exact absurd (Option.some.inj holds) otherKey
    · exact unread w' worker' n known holds
  | answered _ _ free goes deliveries log =>
    rename_i attempt _ result _ _ _
    obtain ⟨row', stored', device⟩ := row_updated (f := recorded step.moment attempt result) (fun _ => rfl) stored
      attempt.key
    rw [← deliveries] at stored'
    refine ⟨⟨⟨row', stored', by rwa [device]⟩, ?_⟩, sentCount_told log key⟩
    intro w' worker' n here' holds
    exact unread w' worker' n (goes.of_free free here' holds).2 holds

theorem Lost.deliver {key : DeliveryKey} (more : List PushStep) (delivers : ∀ step ∈ more, step.act.delivers = true)
    (s : Push) (lost : Lost s key) : (Runs.reached (next sha256) more s).sentCount key = s.sentCount key := by
  induction more generalizing s with
  | nil => rfl
  | cons step more ih =>
    have devices (id : Nat) (d : NotificationDevice) (stored : (next sha256 step s).devices.get? id = some d) :=
      devices_next sha256 (delivers step (List.mem_cons_self ..)) stored
    obtain ⟨lost', same⟩ := lost.move (move_next sha256 step s) devices
    exact (ih (fun step' member => delivers step' (List.mem_cons_of_mem _ member)) _ lost').trans same

/-- Whoever signs in anew is not sent the notice any more, so that all are reached exactly if none does. -/
theorem stillReached_iff (run : List PushStep) :
    StillReached sha256 run ↔ Runs.Met (next sha256) (NoneSignsInAnew sha256) run empty := by
  have numbered (before : List PushStep) : Numbered (Runs.reached (next sha256) before empty) :=
    (Runs.throughout_of_kept (P := Numbered) (fun step s numbered => numbered_next sha256 numbered step) (fun _ => id)
      before empty numbered_empty).last
  rw [Runs.met_iff_split]
  constructor
  · intro reached before step later split' key signsIn
    obtain ⟨more, delivers, sent⟩ := reached before step later split' key signsIn
    have lost := lost_of_signsInAnew sha256 (kept_reached sha256 before) (numbered before) signsIn
    have same := lost.deliver sha256 more delivers
    simp only [Runs.reached, List.foldl_append, List.foldl_cons, List.foldl_nil] at sent same
    omega
  · intro none' before step later split' key signsIn
    exact absurd signsIn (none' before step later split' key)

/-- In every run a message follows another only after a refusal; where claims are fresh there are five at most, and
those who sign in anew are all still reached exactly if none signs in anew. -/
theorem notice_pushed (run : List PushStep) :
    Runs.Throughout (next sha256) SentAfterRefusal run empty ∧
      (Runs.Met (next sha256) ClaimsFresh run empty → Runs.Throughout (next sha256) AtMostFive run empty) ∧
      (StillReached sha256 run ↔ Runs.Met (next sha256) (NoneSignsInAnew sha256) run empty) := by
  refine ⟨?_, fun fresh => ?_, stillReached_iff sha256 run⟩
  · exact Runs.throughout_of_kept (Q := Kept) (fun step s kept => kept_move kept (move_next sha256 step s))
      (fun _ => Kept.orderly) run empty kept_empty
  · have both : Runs.Throughout (next sha256) (fun s => Kept s ∧ Counted s) run empty := by
      refine Runs.throughout_of_met (fun step s ⟨kept, counted⟩ fresh => ?_) run empty ⟨kept_empty, counted_empty⟩ fresh
      have move := move_next sha256 step s
      exact ⟨kept_move kept move, counted_move counted kept fresh move⟩
    exact fun before shorter => (both before shorter).2.atMostFive (both before shorter).1

/-! ### A phone that signs in again, and two workers at once -/

def atSecond (seconds : Int) (acts : List Act) : List PushStep :=
  acts.map fun act => ⟨⟨seconds * 1000000, fun _ _ => true, fun _ _ => true⟩, act⟩

def enrolling : List PushStep :=
  atSecond 0 [.register ⟨"first sign-in", "tenant", 7⟩ "phone" "android", .start 0 "tenant",
    .work 0 (.notices ["notice"]), .work 0 (.load [0]), .work 0 .enroll, .work 0 .nextNotice]

/-- The phone signs in under another token before a worker has claimed the delivery. -/
def signingIn : List PushStep :=
  enrolling ++ atSecond 1 [.register ⟨"second sign-in", "tenant", 7⟩ "phone" "android"]

def attempt (w : Nat) : List Act :=
  [.work w .claim, .work w .look, .work w .send, .work w (.receive (.response 503 false 0))]

/-- Two workers have read the delivery before one of them claims it. -/
def together : List Act :=
  [.work 0 .expire, .work 0 (.fetch 50), .start 1 "tenant", .work 1 .expire, .work 1 (.fetch 50)] ++ attempt 0 ++
    attempt 1

def retry : List Act := [.leave 0, .start 0 "tenant", .work 0 .expire, .work 0 (.fetch 50)] ++ attempt 0

def overlapping : List PushStep :=
  enrolling ++ atSecond 0 together ++ atSecond 60 retry ++ atSecond 120 retry ++ atSecond 180 retry ++
    atSecond 240 retry

/-- The notice is not sent to the phone after it signed in again, and six messages follow where two workers overlap. -/
theorem phone_missed_and_repeated :
    ¬ StillReached id signingIn ∧ ¬ Runs.Throughout (next id) AtMostFive overlapping empty := by
  constructor
  · rw [stillReached_iff, Runs.met_iff_split]
    intro none'
    refine none' enrolling _ [] rfl ⟨"tenant", "notice", "phone"⟩ ⟨_, _, _, rfl, rfl, rfl, _, rfl, rfl, rfl, ?_⟩
    rintro device ⟨⟩
    decide
  · intro five
    have six : (Runs.reached (next id) overlapping empty).sentCount ⟨"tenant", "notice", "phone"⟩ = 6 := by
      decide +kernel
    have bound := five.last ⟨"tenant", "notice", "phone"⟩
    omega

def isClaim : Act → Bool
  | .work _ .claim => true
  | _ => false

theorem claimsFresh_other {step : PushStep} (other : isClaim step.act = false) (s : Push) : ClaimsFresh step s := by
  intro w _ _ _ _ _ claims
  rw [claims] at other
  cases other

def alone : List PushStep := enrolling ++ atSecond 0 ([.work 0 .expire, .work 0 (.fetch 50)] ++ attempt 0)

theorem alone_pushed :
    Runs.Met (next id) ClaimsFresh alone empty ∧ Runs.Throughout (next id) AtMostFive alone empty := by
  have fresh : Runs.Met (next id) ClaimsFresh alone empty := by
    iterate 8 refine ⟨claimsFresh_other rfl _, ?_⟩
    refine ⟨?_, claimsFresh_other rfl _, claimsFresh_other rfl _, claimsFresh_other rfl _, trivial⟩
    intro w tenantId key attempts due row claims here stored _
    obtain rfl : w = 0 := by
      cases claims
      rfl
    obtain ⟨rfl, rfl⟩ : key = ⟨"tenant", "notice", "phone"⟩ ∧ attempts = 0 := by
      cases here
      exact ⟨rfl, rfl⟩
    cases stored
    rfl
  exact ⟨fresh, (notice_pushed id alone).2.1 fresh⟩

end Push
end VtsaCsms.Notifications
