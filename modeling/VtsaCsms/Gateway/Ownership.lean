import VtsaCsms.Gateway.LeaseInvariants

/-!
# Who owns a charge point

A lease changes hands by a claim alone: a renewal and a release find their own connection's lease
or change nothing, and an entry gives way to a later claim alone. `get` answers from the lease as
its renewal found it, which a claim may have taken since.
-/
namespace VtsaCsms.Gateway
open Foundation Foundation.Action
open Runs (reached)

/-! ### What a command does to the leases -/

/-- A connection renews or drops leases of its own and leaves the other rows alone. -/
def OwnOnly (now : ℚ) (connectionId : String) (rows rows' : RedisRows) : Prop :=
  ∀ k, rows' k = rows k ∨ ∃ nodeId expiresAt,
    Redis.find now rows k = some ⟨.lease nodeId connectionId, expiresAt⟩ ∧
      (rows' k = none ∨ ∃ renewed, rows' k = some ⟨.lease nodeId connectionId, renewed⟩)

section Commands
variable {store : RedisGatewayStore} {now : ℚ} {rows : RedisRows} {cp nodeId connectionId key : String}
  {ttlSeconds : Int}

theorem connectionIdOf_ok {value : RedisValue} {owner : String}
    (eq : RedisGatewayStore.connectionIdOf value = .ok owner) : ∃ node, value = .lease node owner := by
  cases value with
  | lease node =>
    obtain rfl := Except.ok.inj eq
    exact ⟨node, rfl⟩
  | text => cases eq
  | number => cases eq

theorem onOwnLease_cases (now : ℚ) (key connectionId : String) (command : Action RedisRows Redis.Error Bool)
    (rows : RedisRows) :
    (∃ node expiresAt, Redis.find now rows key = some ⟨.lease node connectionId, expiresAt⟩ ∧
      RedisGatewayStore.onOwnLease now key connectionId command rows = (command >>= fun _ => pure true) rows) ∨
    ∃ answer, answer ≠ .ok true ∧ RedisGatewayStore.onOwnLease now key connectionId command rows = (answer, rows) := by
  cases found : Redis.find now rows key with
  | none => exact Or.inr ⟨.ok false, nofun, RedisGatewayStore.onOwnLease_absent found⟩
  | some e =>
    obtain ⟨value, expiresAt⟩ := e
    cases named : RedisGatewayStore.connectionIdOf value with
    | error e =>
      refine Or.inr ⟨.error e, nofun, ?_⟩
      rw [RedisGatewayStore.onOwnLease, Returns.bind_eq (Redis.returns_get found)]
      simp only [named, lift, Bind.bind]
    | ok owner =>
      obtain ⟨node, rfl⟩ := connectionIdOf_ok named
      by_cases own : owner = connectionId
      · subst own
        exact Or.inl ⟨node, expiresAt, rfl, RedisGatewayStore.onOwnLease_own found⟩
      · exact Or.inr ⟨.ok false, nofun, RedisGatewayStore.onOwnLease_other own found⟩

theorem renewConnection_cases (store : RedisGatewayStore) (now : ℚ) (cp connectionId : String)
    (positive : 0 < ttlSeconds) (rows : RedisRows) :
    (∃ node expiresAt, Redis.find now rows (store.connectionKey cp) = some ⟨.lease node connectionId, expiresAt⟩ ∧
      store.renewConnection now cp connectionId ttlSeconds rows = (.ok true, Redis.put rows (store.connectionKey cp)
        ⟨.lease node connectionId, some (now + ttlSeconds)⟩)) ∨
    ∃ answer, answer ≠ .ok true ∧ store.renewConnection now cp connectionId ttlSeconds rows = (answer, rows) := by
  rcases onOwnLease_cases now (store.connectionKey cp) connectionId
    (Redis.expire now (store.connectionKey cp) ttlSeconds) rows with ⟨node, expiresAt, held, -⟩ | other
  · by_cases fit : Redis.fits now ttlSeconds
    · left
      refine ⟨node, expiresAt, held, ?_⟩
      rw [RedisGatewayStore.renewConnection_own fit held, if_neg (not_le.mpr positive)]
    · exact Or.inr ⟨.error .invalidExpireTime, nofun, RedisGatewayStore.renewConnection_unfit fit held⟩
  · exact Or.inr other

theorem renewConnection_own_only (store : RedisGatewayStore) (now : ℚ) (cp connectionId : String)
    (positive : 0 < ttlSeconds) (rows : RedisRows) :
    OwnOnly now connectionId rows (store.renewConnection now cp connectionId ttlSeconds rows).2 := by
  intro k
  rcases renewConnection_cases store now cp connectionId positive rows with
    ⟨node, expiresAt, held, eq⟩ | ⟨answer, -, eq⟩
  · rw [eq]
    by_cases here : k = store.connectionKey cp
    · subst here
      exact Or.inr ⟨node, expiresAt, held, Or.inr ⟨_, Function.update_self ..⟩⟩
    · exact Or.inl (Redis.put_of_ne here)
  · rw [eq]
    exact Or.inl rfl

theorem releaseConnection_own_only (store : RedisGatewayStore) (now : ℚ) (cp connectionId : String)
    (rows : RedisRows) : OwnOnly now connectionId rows (store.releaseConnection now cp connectionId rows).2 := by
  intro k
  rcases onOwnLease_cases now (store.connectionKey cp) connectionId
    (Redis.del now (store.connectionKey cp)) rows with ⟨node, expiresAt, held, -⟩ | ⟨answer, -, eq⟩
  · rw [RedisGatewayStore.releaseConnection_own held]
    by_cases here : k = store.connectionKey cp
    · subst here
      exact Or.inr ⟨node, expiresAt, held, Or.inl (Function.update_self ..)⟩
    · exact Or.inl (Redis.remove_of_ne here)
  · rw [RedisGatewayStore.releaseConnection, RedisGatewayStore.releaseScript, eq]
    exact Or.inl rfl

theorem claimConnection_writes (store : RedisGatewayStore) (now : ℚ) (cp nodeId connectionId : String)
    (ttlSeconds : Int) (rows : RedisRows) (k : String) :
    (store.claimConnection now cp nodeId connectionId ttlSeconds rows).2 k = rows k ∨
      ∃ expiresAt, (store.claimConnection now cp nodeId connectionId ttlSeconds rows).2 k =
        some ⟨.lease nodeId connectionId, expiresAt⟩ := by
  by_cases accepted : Redis.accepts now ttlSeconds
  · have wrote : (store.claimConnection now cp nodeId connectionId ttlSeconds rows).2 =
        Redis.put rows (store.connectionKey cp) ⟨.lease nodeId connectionId, some (now + ttlSeconds)⟩ := by
      simp only [RedisGatewayStore.claimConnection, Bind.bind, Redis.set, if_pos accepted]
      cases Redis.value now rows (store.connectionKey cp) with
      | none => rfl
      | some value =>
        cases named : RedisGatewayStore.connectionIdOf value with
        | error => simp only [named, lift]
        | ok =>
          simp only [named, lift]
          rfl
    rw [wrote]
    by_cases here : k = store.connectionKey cp
    · subst here
      exact Or.inr ⟨_, Function.update_self ..⟩
    · exact Or.inl (Redis.put_of_ne here)
  · rw [RedisGatewayStore.claimConnection_refused accepted]
    exact Or.inl rfl

end Commands

/-! ### What a move does to the leases -/

section Moves
variable {N : Type} {store : RedisGatewayStore} {settings : N → LeaseSettings} {g : Cluster N} {t : Nat}

/-- What the command of a task does to a row: it writes the lease of a connection that had not claimed
yet, or it finds the lease of its own connection there. -/
def Writes (g g' : Cluster N) (connectionId k : String) : Prop :=
  (connectionId ∉ g.claimed ∧ ∃ nodeId expiresAt, g'.rows k = some ⟨.lease nodeId connectionId, expiresAt⟩) ∨
    ∃ nodeId expiresAt, Redis.find g.now g.rows k = some ⟨.lease nodeId connectionId, expiresAt⟩ ∧
      (g'.rows k = none ∨ ∃ renewed, g'.rows k = some ⟨.lease nodeId connectionId, renewed⟩)

/-- Every row that changes is written for the connection. -/
def WritesOnly (g g' : Cluster N) (connectionId : String) : Prop :=
  ∀ k, g'.rows k = g.rows k ∨ Writes g g' connectionId k

variable {g' : Cluster N} {node : N} {task : Task} {c : RegisteredConnection} {ttlSeconds : Int} {move : Move N}
  {x y : String}

theorem writes_own {connectionId : String} (own : OwnOnly g.now connectionId g.rows g'.rows) :
    WritesOnly g g' connectionId :=
  fun k => (own k).imp_right Or.inr

theorem writes_claim {cp nodeId : String} (sound : Sound g) (found : g.tasks t = some (node, task))
    (claiming : task.claiming? = some c.connectionId)
    (rows : g'.rows = (store.claimConnection g.now cp nodeId c.connectionId ttlSeconds g.rows).2) :
    WritesOnly g g' c.connectionId := by
  obtain ⟨-, unclaimed⟩ := sound.fresh t node task _ found claiming
  intro k
  rw [Writes, rows]
  rcases claimConnection_writes store g.now cp nodeId c.connectionId ttlSeconds g.rows k with same | ⟨expiresAt, wrote⟩
  · exact Or.inl same
  · exact Or.inr (Or.inl ⟨unclaimed, nodeId, expiresAt, wrote⟩)

theorem writes_release {cp connectionId : String}
    (rows : g'.rows = (store.releaseConnection g.now cp connectionId g.rows).2) : WritesOnly g g' connectionId := by
  apply writes_own
  rw [rows]
  exact releaseConnection_own_only store g.now cp connectionId g.rows

theorem writes_renew {cp connectionId : String} (positive : 0 < ttlSeconds)
    (rows : g'.rows = (store.renewConnection g.now cp connectionId ttlSeconds g.rows).2) :
    WritesOnly g g' connectionId := by
  apply writes_own
  rw [rows]
  exact renewConnection_own_only store g.now cp connectionId positive g.rows

variable [DecidableEq N]

@[simp] theorem cancel_rows (t : Nat) (g : Cluster N) : (g.cancel t).rows = g.rows := by
  unfold Cluster.cancel
  split
  · exact g.finish_rows t _ _
  · rfl

@[simp] theorem resume_rows (settings : N → LeaseSettings) (t : Nat) (g : Cluster N) :
    (g.resume settings t).rows = g.rows := by
  unfold Cluster.resume
  split <;> (try split) <;> (try split) <;> simp

@[simp] theorem fail_rows (t : Nat) (g : Cluster N) : (g.fail t).rows = g.rows := by
  unfold Cluster.fail
  split <;> simp

theorem lease_positive (s : LeaseSettings) : 0 < s.connectionLeaseSeconds := by
  have := s.least
  omega

theorem carry_writes (store : RedisGatewayStore) (settings : N → LeaseSettings)
    (sound : Sound g) (found : g.tasks t = some (node, task)) :
    (g.carry store settings t).rows = g.rows ∨ ∃ connectionId, task.connectionId? = some connectionId ∧
      WritesOnly g (g.carry store settings t) connectionId := by
  cases task with
  | claims c =>
    have rows : (g.carry store settings t).rows = (store.claimConnection g.now c.chargePointIdentity
        (settings node).nodeId c.connectionId (settings node).connectionLeaseSeconds g.rows).2 := by
      simp only [Cluster.carry, found]
      split <;> rename_i eq <;> simp [eq]
    exact Or.inr ⟨c.connectionId, rfl, writes_claim sound found rfl rows⟩
  | claimLeft c =>
    have rows : (g.carry store settings t).rows = (store.claimConnection g.now c.chargePointIdentity
        (settings node).nodeId c.connectionId (settings node).connectionLeaseSeconds g.rows).2 := by
      simp only [Cluster.carry, found]
      split <;> rename_i eq <;> simp [eq]
    exact Or.inr ⟨c.connectionId, rfl, writes_claim sound found rfl rows⟩
  | releases cp id =>
    have rows : (g.carry store settings t).rows = (store.releaseConnection g.now cp id g.rows).2 := by
      simp only [Cluster.carry, found, Cluster.setTask_rows, Cluster.setRows_rows]
    exact Or.inr ⟨id, rfl, writes_release rows⟩
  | releaseLeft cp id =>
    have rows : (g.carry store settings t).rows = (store.releaseConnection g.now cp id g.rows).2 := by
      simp only [Cluster.carry, found, Cluster.setTask_rows, Cluster.setRows_rows]
    exact Or.inr ⟨id, rfl, writes_release rows⟩
  | getRenews c =>
    have rows : (g.carry store settings t).rows = (store.renewConnection g.now c.chargePointIdentity c.connectionId
        (settings node).connectionLeaseSeconds g.rows).2 := by
      simp only [Cluster.carry, found]
      split <;> rename_i eq <;> simp [eq]
    exact Or.inr ⟨c.connectionId, rfl, writes_renew (lease_positive _) rows⟩
  | leaseRenews c =>
    have rows : (g.carry store settings t).rows = (store.renewConnection g.now c.chargePointIdentity c.connectionId
        (settings node).connectionLeaseSeconds g.rows).2 := by
      simp only [Cluster.carry, found]
      split <;> rename_i eq <;> simp [eq]
    exact Or.inr ⟨c.connectionId, rfl, writes_renew (lease_positive _) rows⟩
  | renewLeft c =>
    have rows : (g.carry store settings t).rows = (store.renewConnection g.now c.chargePointIdentity c.connectionId
        (settings node).connectionLeaseSeconds g.rows).2 := by
      simp only [Cluster.carry, found, Cluster.setTask_rows, Cluster.setRows_rows]
    exact Or.inr ⟨c.connectionId, rfl, writes_renew (lease_positive _) rows⟩
  | _ =>
    left
    simp only [Cluster.carry, found]

/-- A row changes by the command of a task alone, which works for one connection. -/
theorem next_writes (store : RedisGatewayStore) (settings : N → LeaseSettings) (sound : Sound g) (move : Move N) :
    (g.next store settings move).rows = g.rows ∨ ∃ connectionId, g.ActsFor move connectionId ∧
      WritesOnly g (g.next store settings move) connectionId := by
  cases move with
  | wait => exact Or.inl rfl
  | register =>
    left
    unfold Cluster.next
    simp only
    split <;> rfl
  | unregister => exact Or.inl rfl
  | get => exact Or.inl rfl
  | carry t =>
    cases found : g.tasks t with
    | none =>
      left
      simp only [Cluster.next, Cluster.carry, found]
    | some pair =>
      obtain ⟨node, task⟩ := pair
      rcases carry_writes store settings sound found with same | ⟨id, own, writes⟩
      · exact Or.inl same
      · exact Or.inr ⟨id, ⟨t, node, task, found, own, Or.inl rfl⟩, writes⟩
  | resume t => exact Or.inl (resume_rows settings t g)
  | fail t => exact Or.inl (fail_rows t g)
  | cancel t => exact Or.inl (cancel_rows t g)
  | stop => exact Or.inl rfl

/-! ### What a move does to the entries and to a `get` -/

/-- An entry goes with its node, for its own connection or for one that was claimed later. -/
theorem next_entry (store : RedisGatewayStore) (settings : N → LeaseSettings) (sound : Sound g) (move : Move N)
    {cp : String} {e : Registered} (held : g.registry node cp = some e) :
    (g.next store settings move).registry node cp = some e ∨ move = .stop node ∨
      ∃ connectionId, g.ActsFor move connectionId ∧
        (e.connection.connectionId = connectionId ∨
          [connectionId, e.connection.connectionId].Sublist g.claimed) := by
  cases move with
  | wait => exact Or.inl held
  | register =>
    left
    unfold Cluster.next
    simp only
    split <;> exact held
  | unregister => exact Or.inl held
  | get => exact Or.inl held
  | carry =>
    left
    simp only [Cluster.next, Cluster.carry]
    split <;> (try split) <;> simp [Cluster.setTask, Cluster.setRows, held]
  | resume t =>
    simp only [Cluster.next, Cluster.resume]
    split
    · left
      split <;> exact held
    · rename_i node' c found
      simp only [Cluster.finish_registry, Cluster.spawn, Cluster.setTask, Cluster.setEntry, Function.update_apply]
      split
      · rename_i here
        simp only [Function.update_apply]
        split
        · rename_i same
          subst here same
          exact Or.inr (Or.inr ⟨c.connectionId, ⟨t, node, _, found, rfl, Or.inr (Or.inl rfl)⟩,
            (sound.entering t node c found).2 e held⟩)
        · rw [← here]
          exact Or.inl held
      · exact Or.inl held
    · rename_i node' cp' id found
      split
      · split
        · rename_i e' popped
          simp only [Cluster.setTask, Cluster.setEntry, Function.update_apply]
          split
          · rename_i here
            simp only [Function.update_apply]
            split
            · rename_i same
              subst here same
              simp only [Cluster.popped, held, Option.filter_some] at popped
              split at popped
              · rename_i own
                exact Or.inr (Or.inr ⟨id, ⟨t, node, _, found, rfl, Or.inr (Or.inl rfl)⟩,
                  Or.inl (of_decide_eq_true own)⟩)
              · cases popped
            · rw [← here]
              exact Or.inl held
          · exact Or.inl held
        · exact Or.inl held
      · exact Or.inl held
    · left
      split
      · simp only [Cluster.setTask, Cluster.cancel]
        split <;> simp [held]
      · exact held
    all_goals
      left
      (try split) <;> (try split) <;> exact held
  | fail =>
    left
    simp only [Cluster.next, Cluster.fail]
    split <;> simp [Cluster.spawn, Cluster.setTask, held]
  | cancel =>
    left
    simp only [Cluster.next, Cluster.cancel]
    split <;> simp [held]
  | stop node' =>
    by_cases here : node = node'
    · rw [here]
      exact Or.inr (Or.inl rfl)
    · left
      simp only [Cluster.next, Cluster.stop, Function.update_of_ne here]
      exact held

theorem left_not_renewed {retained : Bool} :
    task.left ≠ some (.getRenewed c retained) := by
  cases task <;> simp [Task.left]

omit [DecidableEq N] in
theorem names_of_renewed (positive : 0 < ttlSeconds)
    (now : g'.now = g.now) {rows : RedisRows} (same : g'.rows = rows)
    (renewed : store.renewConnection g.now c.chargePointIdentity c.connectionId ttlSeconds g.rows = (.ok true, rows)) :
    g.Names store c ∧ g'.Names store c := by
  rcases renewConnection_cases store g.now c.chargePointIdentity c.connectionId positive g.rows with
    ⟨node, expiresAt, held, eq⟩ | ⟨answer, refused, eq⟩
  · obtain ⟨-, rfl⟩ := Prod.mk.inj (renewed.symm.trans eq)
    refine ⟨⟨node, expiresAt, held⟩, node, some (g.now + ttlSeconds), ?_⟩
    rw [now, same]
    apply Redis.find_put_self
    have forward : (0 : ℚ) < ttlSeconds := by exact_mod_cast positive
    simp only [Redis.Entry.live, decide_eq_true_eq]
    linarith
  · exact absurd (Prod.mk.inj (renewed.symm.trans eq)).1.symm refused

omit [DecidableEq N] in
theorem returning_of_update {t t' : Nat} {task : Option (N × Task)}
    (other : ∀ node, task ≠ some (node, .getRenewed c true))
    (stands : Function.update g.tasks t' task t = some (node, .getRenewed c true)) : g.Returning t c := by
  rw [Function.update_apply] at stands
  split at stands
  · exact absurd stands (other node)
  · exact ⟨node, stands⟩

theorem returning_finish {t t' : Nat} {left : Option Task}
    (other : left ≠ some (.getRenewed c true)) (returning : (g.finish t' node left).Returning t c) :
    g.Returning t c := by
  obtain ⟨node', stands⟩ := returning
  rw [Cluster.finish_tasks] at stands
  refine returning_of_update ?_ stands
  intro node'' eq
  obtain ⟨task, same, pair⟩ := Option.map_eq_some_iff.mp eq
  obtain ⟨-, rfl⟩ := Prod.mk.inj pair
  exact other same

omit [DecidableEq N] in
theorem returning_spawn {t : Nat}
    (other : task ≠ .getRenewed c true) (returning : (g.spawn node task).Returning t c) : g.Returning t c := by
  obtain ⟨node', stands⟩ := returning
  refine returning_of_update ?_ stands
  intro node'' eq
  exact other (Prod.mk.inj (Option.some.inj eq)).2

omit [DecidableEq N] in
theorem returning_setTask {t t' : Nat} {now : Option (N × Task)}
    (other : ∀ node, now ≠ some (node, .getRenewed c true)) (returning : (g.setTask t' now).Returning t c) :
    g.Returning t c := by
  obtain ⟨node', stands⟩ := returning
  exact returning_of_update other stands

theorem returning_cancel {t t' : Nat} (returning : (g.cancel t').Returning t c) :
    g.Returning t c := by
  unfold Cluster.cancel at returning
  split at returning
  · exact returning_finish left_not_renewed returning
  · exact returning

theorem returning_fail {t t' : Nat} (returning : (g.fail t').Returning t c) :
    g.Returning t c := by
  unfold Cluster.fail at returning
  split at returning
  · exact returning_setTask (by simp) (returning_spawn (by simp) returning)
  · exact returning_setTask (by simp) (returning_spawn (by simp) returning)
  · exact returning_setTask (by simp) returning
  · exact returning_finish left_not_renewed returning
  · exact returning

theorem returning_resume {t t' : Nat}
    (returning : (g.resume settings t').Returning t c) : g.Returning t c := by
  unfold Cluster.resume at returning
  split at returning
  · split at returning
    · exact returning_setTask (g := g.setLock _ _) (by simp) returning
    · exact returning
  · exact returning_spawn (g := g.setEntry _ _ _) (by simp) (returning_finish (by simp) returning)
  · split at returning
    · split at returning
      · exact returning_setTask (g := g.setEntry _ _ _) (by simp) returning
      · exact returning_setTask (by simp) returning
    · exact returning
  · split at returning
    · exact returning_cancel (returning_setTask (by simp) returning)
    · exact returning_setTask (by simp) returning
  · split at returning
    · split at returning
      · exact returning_setTask (by simp) returning
      · exact returning_setTask (by simp) returning
    · exact returning
  · split at returning
    · exact returning_setTask (by simp) returning
    · exact returning_setTask (by simp) returning
  · split at returning
    · exact returning_setTask (by simp) returning
    · exact returning
  · split at returning
    · exact returning_setTask (by simp) returning
    · exact returning_setTask (by simp) returning
  · exact returning

theorem returning_stop {t : Nat} (returning : (g.stop node).Returning t c) :
    g.Returning t c := by
  obtain ⟨node', stands⟩ := returning
  obtain ⟨⟨node'', task⟩, found, remains⟩ := Option.bind_eq_some_iff.mp stands
  simp only at remains
  split at remains
  · obtain ⟨left, eq, pair⟩ := Option.map_eq_some_iff.mp remains
    obtain ⟨-, rfl⟩ := Prod.mk.inj pair
    exact absurd eq left_not_renewed
  · obtain ⟨rfl, rfl⟩ := Prod.mk.inj (Option.some.inj remains)
    exact ⟨node'', found⟩

theorem returning_carry {t t' : Nat} (returning : (g.carry store settings t').Returning t c) :
    g.Returning t c ∨ t' = t ∧ (∃ node, g.tasks t = some (node, .getRenews c)) ∧
      g.Names store c ∧ (g.carry store settings t').Names store c := by
  unfold Cluster.carry at returning
  split at returning
  · left
    split at returning
    · exact returning_setTask (g := g.setRows _) (by simp) returning
    · rename_i rows _
      exact returning_finish (g := g.setRows rows) (by simp) returning
  · left
    split at returning
    · exact returning_setTask (g := g.setRows _) (by simp) returning
    · exact returning_setTask (g := g.setRows _) (by simp) returning
  · exact Or.inl (returning_setTask (g := g.setRows _) (by simp) returning)
  · exact Or.inl (returning_setTask (g := g.setRows _) (by simp) returning)
  · rename_i node c' found
    split at returning
    · rename_i retained rows answered
      obtain ⟨node', stands⟩ := returning
      simp only [Cluster.setTask, Cluster.setRows, Function.update_apply] at stands
      split at stands
      · rename_i same
        subst same
        obtain ⟨-, eq⟩ := Prod.mk.inj (Option.some.inj stands)
        injection eq with eq yes
        subst eq yes
        refine Or.inr ⟨rfl, ⟨node, found⟩, names_of_renewed (lease_positive (settings node)) ?_ ?_ answered⟩
        · simp only [Cluster.carry, found, answered]
          rfl
        · simp only [Cluster.carry, found, answered]
          rfl
      · exact Or.inl ⟨node', stands⟩
    · rename_i rows _
      exact Or.inl (returning_finish (g := g.setRows rows) (by simp) returning)
  · left
    split at returning
    · exact returning_setTask (g := g.setRows _) (by simp) returning
    · exact returning_setTask (g := g.setRows _) (by simp) returning
  · exact Or.inl (returning_setTask (g := g.setRows _) (by simp) returning)
  · exact Or.inl returning

/-- A `get` is about to return a connection since the store renewed its lease. -/
theorem next_returning (move : Move N) (returning : (g.next store settings move).Returning t c) :
    g.Returning t c ∨ move = .carry t ∧ (∃ node, g.tasks t = some (node, .getRenews c)) ∧
      g.Names store c ∧ (g.next store settings move).Names store c := by
  cases move with
  | wait => exact Or.inl returning
  | register node' c' =>
    left
    unfold Cluster.next at returning
    simp only at returning
    split at returning
    · exact returning
    · exact returning_spawn (by simp) returning
  | unregister => exact Or.inl (returning_spawn (by simp) returning)
  | get => exact Or.inl (returning_spawn (by simp) returning)
  | carry =>
    refine (returning_carry returning).imp_right ?_
    rintro ⟨rfl, renews, before, after⟩
    exact ⟨rfl, renews, before, after⟩
  | resume => exact Or.inl (returning_resume returning)
  | fail => exact Or.inl (returning_fail returning)
  | cancel => exact Or.inl (returning_cancel returning)
  | stop => exact Or.inl (returning_stop returning)

omit [DecidableEq N] in
theorem actsFor_unique (acts : g.ActsFor move x) (acts' : g.ActsFor move y) :
    x = y := by
  obtain ⟨t, node, task, found, own, moves⟩ := acts
  obtain ⟨t', node', task', found', own', moves'⟩ := acts'
  have same : t = t' := by
    rcases moves with rfl | rfl | rfl | rfl <;> simpa using moves'
  subst same
  obtain ⟨-, rfl⟩ := Prod.mk.inj (Option.some.inj (found.symm.trans found'))
  exact Option.some.inj (own.symm.trans own')

theorem clock_next (store : RedisGatewayStore) (settings : N → LeaseSettings) (move : Move N) (g : Cluster N) :
    (g.next store settings move).now = g.now ∨ ∃ seconds forward, move = .wait seconds forward ∧
      (g.next store settings move).now = g.now + seconds := by
  cases move with
  | wait seconds forward => exact Or.inr ⟨seconds, forward, rfl, rfl⟩
  | register =>
    left
    unfold Cluster.next
    simp only
    split <;> rfl
  | unregister => exact Or.inl rfl
  | get => exact Or.inl rfl
  | carry =>
    left
    simp only [Cluster.next, Cluster.carry]
    split <;> (try split) <;> simp [Cluster.setTask, Cluster.setRows]
  | resume =>
    left
    simp only [Cluster.next, Cluster.resume, Cluster.cancel]
    split <;> (try split) <;> (try split) <;>
      simp [Cluster.setTask, Cluster.setLock, Cluster.setEntry, Cluster.spawn]
  | fail =>
    left
    simp only [Cluster.next, Cluster.fail]
    split <;> simp [Cluster.setTask, Cluster.spawn]
  | cancel =>
    left
    simp only [Cluster.next, Cluster.cancel]
    split <;> simp
  | stop => exact Or.inl rfl

theorem clock_le_next (store : RedisGatewayStore) (settings : N → LeaseSettings) (move : Move N) (g : Cluster N) :
    g.now ≤ (g.next store settings move).now := by
  rcases clock_next store settings move g with same | ⟨seconds, forward, -, later⟩
  · exact le_of_eq same.symm
  · rw [later]
    exact le_add_of_nonneg_right forward

theorem clock_of_acts (acts : g.ActsFor move x) : (g.next store settings move).now = g.now := by
  obtain ⟨t, node, task, -, -, moves⟩ := acts
  rcases clock_next store settings move g with same | ⟨seconds, forward, rfl, -⟩
  · exact same
  · rcases moves with eq | eq | eq | eq <;> cases eq

/-- A lease names a connection by the claim of that connection alone. -/
theorem next_names (sound : Sound g) (move : Move N)
    (claimed : c.connectionId ∈ g.claimed) (names : (g.next store settings move).Names store c) :
    g.Names store c := by
  obtain ⟨nodeId, expiresAt, found⟩ := names
  obtain ⟨stored, alive⟩ := Redis.find_some.mp (Redis.find_earlier (clock_le_next store settings move g) found)
  rcases next_writes store settings sound move with same | ⟨id, -, writes⟩
  · rw [same] at stored
    exact ⟨nodeId, expiresAt, Redis.find_some.mpr ⟨stored, alive⟩⟩
  · rcases writes (store.connectionKey c.chargePointIdentity) with same | ⟨new, node, e, wrote⟩ |
      ⟨node, e, held, gone | ⟨e', wrote⟩⟩
    · rw [same] at stored
      exact ⟨nodeId, expiresAt, Redis.find_some.mpr ⟨stored, alive⟩⟩
    · have eq := Option.some.inj (stored.symm.trans wrote)
      injection eq with eq
      injection eq with _ eq
      exact absurd (eq ▸ claimed) new
    · rw [gone] at stored
      cases stored
    · have eq := Option.some.inj (stored.symm.trans wrote)
      injection eq with eq
      injection eq with _ eq
      exact ⟨node, e, eq ▸ held⟩

theorem order_unique {α : Type} {x y : α} {l : List α} (distinct : l.Nodup) (one : [x, y].Sublist l)
    (two : [y, x].Sublist l) : x = y := by
  induction l with
  | nil => cases one
  | cons _ _ ih =>
    obtain ⟨absent, distinct'⟩ := List.nodup_cons.mp distinct
    rcases List.sublist_cons_iff.mp one with inner | ⟨r, eq, inner⟩ <;>
      rcases List.sublist_cons_iff.mp two with inner' | ⟨r', eq', inner'⟩
    · exact ih distinct' inner inner'
    · obtain ⟨rfl, rfl⟩ := List.cons.inj eq'
      exact absurd (inner.subset (List.mem_cons_of_mem _ List.mem_cons_self)) absent
    · obtain ⟨rfl, rfl⟩ := List.cons.inj eq
      exact absurd (inner'.subset (List.mem_cons_of_mem _ List.mem_cons_self)) absent
    · obtain ⟨rfl, rfl⟩ := List.cons.inj eq
      exact (List.cons.inj eq').1.symm

omit [DecidableEq N] in
theorem newer_ne (sound : Sound g) (newer : [y, x].Sublist g.claimed) : x ≠ y := by
  have pair := newer.nodup sound.distinct
  rintro rfl
  simp at pair

theorem spares_lease (sound : Sound g) {k nodeId : String} {expiresAt : Option ℚ}
    (acts : g.ActsFor move x) (newer : [y, x].Sublist g.claimed)
    (names : Redis.find g.now g.rows k = some ⟨.lease nodeId y, expiresAt⟩) :
    Redis.find (g.next store settings move).now (g.next store settings move).rows k =
      some ⟨.lease nodeId y, expiresAt⟩ := by
  have same : (g.next store settings move).rows k = g.rows k := by
    rcases next_writes store settings sound move with same | ⟨id, acts', writes⟩
    · rw [same]
    · obtain rfl := actsFor_unique acts acts'
      rcases writes k with same | ⟨new, -⟩ | ⟨node, e, held, -⟩
      · exact same
      · exact absurd (newer.subset (by simp)) new
      · have eq := Option.some.inj (names.symm.trans held)
        injection eq with eq
        injection eq with _ eq
        exact absurd eq.symm (newer_ne sound newer)
  rw [clock_of_acts acts, Redis.find_congr same]
  exact names

theorem spares_entry (sound : Sound g) {cp : String} {e : Registered}
    (acts : g.ActsFor move x) (newer : [y, x].Sublist g.claimed) (held : g.registry node cp = some e)
    (own : e.connection.connectionId = y) : (g.next store settings move).registry node cp = some e := by
  rcases next_entry store settings sound move held with same | rfl | ⟨id, acts', older⟩
  · exact same
  · obtain ⟨t, node', task, -, -, moves⟩ := acts
    rcases moves with eq | eq | eq | eq <;> cases eq
  · obtain rfl := actsFor_unique acts acts'
    rw [own] at older
    rcases older with same | before
    · exact absurd same.symm (newer_ne sound newer)
    · exact absurd (order_unique sound.distinct before newer) (newer_ne sound newer)

end Moves

/-! ### Runs -/

section Histories
variable {N : Type} [DecidableEq N] (store : RedisGatewayStore) (settings : N → LeaseSettings) (now : ℚ)

/-- The nodes after the moves, from the time at which the first of them starts. -/
def Cluster.run (moves : List (Move N)) : Cluster N :=
  reached (Cluster.next store settings) moves (Cluster.start now)

/-- The store carried the renewal of a `get` out, at a moment when the lease named the connection. -/
def Renewed (moves : List (Move N)) (t : Nat) (c : RegisteredConnection) : Prop :=
  ∃ before after, moves = before ++ .carry t :: after ∧
    (∃ node, (Cluster.run store settings now before).tasks t = some (node, .getRenews c)) ∧
    (Cluster.run store settings now before).Names store c ∧
    (Cluster.run store settings now (before ++ [.carry t])).Names store c

/-- A move for a connection leaves the leases and the entries of those that were claimed later. -/
def Spares (g : Cluster N) : Prop :=
  ∀ move x y, g.ActsFor move x → [y, x].Sublist g.claimed →
    (∀ k nodeId expiresAt, Redis.find g.now g.rows k = some ⟨.lease nodeId y, expiresAt⟩ →
      Redis.find (g.next store settings move).now (g.next store settings move).rows k =
        some ⟨.lease nodeId y, expiresAt⟩) ∧
    ∀ node cp e, g.registry node cp = some e → e.connection.connectionId = y →
      (g.next store settings move).registry node cp = some e

variable {store settings now}

theorem run_concat (moves : List (Move N)) (move : Move N) :
    Cluster.run store settings now (moves ++ [move]) =
      (Cluster.run store settings now moves).next store settings move := by
  rw [Cluster.run, Runs.reached, List.foldl_append]
  rfl

theorem Sound.reached {g : Cluster N} (sound : Sound g) (moves : List (Move N)) :
    Sound (reached (Cluster.next store settings) moves g) := by
  induction moves generalizing g with
  | nil => exact sound
  | cons move rest ih => exact ih (sound.next store settings move)

theorem claimed_next (move : Move N) (g : Cluster N) : g.claimed ⊆ (g.next store settings move).claimed := by
  cases move with
  | register =>
    unfold Cluster.next
    simp only
    split <;> exact List.Subset.refl _
  | carry =>
    simp only [Cluster.next, Cluster.carry]
    split <;> (try split) <;> simp [Cluster.setTask, Cluster.setRows]
  | resume =>
    simp only [Cluster.next, Cluster.resume, Cluster.cancel]
    split <;> (try split) <;> (try split) <;>
      simp [Cluster.setTask, Cluster.setLock, Cluster.setEntry, Cluster.spawn]
  | fail =>
    simp only [Cluster.next, Cluster.fail]
    split <;> simp [Cluster.setTask, Cluster.spawn]
  | cancel =>
    simp only [Cluster.next, Cluster.cancel]
    split <;> simp
  | _ => exact List.Subset.refl _

theorem renewed_of_returning (moves : List (Move N)) {t : Nat} {c : RegisteredConnection}
    (returning : (Cluster.run store settings now moves).Returning t c) :
    Renewed store settings now moves t c := by
  induction moves using List.reverseRecOn with
  | nil =>
    obtain ⟨node, stands⟩ := returning
    cases stands
  | append_singleton moves move ih =>
    rw [run_concat] at returning
    rcases next_returning move returning with earlier | ⟨rfl, renews, before, after⟩
    · obtain ⟨before, after, rfl, renews, named, named'⟩ := ih earlier
      exact ⟨before, after ++ [move], by simp, renews, named, named'⟩
    · refine ⟨moves, [], rfl, renews, before, ?_⟩
      rw [run_concat]
      exact after

theorem never_named {g : Cluster N} (sound : Sound g) {c : RegisteredConnection}
    (claimed : c.connectionId ∈ g.claimed) (lost : ¬ g.Names store c) (later : List (Move N)) :
    ¬ (Runs.reached (Cluster.next store settings) later g).Names store c := by
  induction later generalizing g with
  | nil => exact lost
  | cons move rest ih =>
    refine ih (sound.next store settings move) (claimed_next move g claimed) ?_
    exact fun names => lost (next_names sound move claimed names)

/-- A `get` returns the connection whose lease it found, a lease names one connection at a time, one
that is lost stays lost, and nothing that works for a connection touches a later one. -/
theorem connections_owned (store : RedisGatewayStore) (settings : N → LeaseSettings) (now : ℚ)
    (moves : List (Move N)) :
    (∀ t c, (Cluster.run store settings now moves).Returning t c → Renewed store settings now moves t c) ∧
      (∀ c c', (Cluster.run store settings now moves).Names store c →
        (Cluster.run store settings now moves).Names store c' →
        c.chargePointIdentity = c'.chargePointIdentity → c = c') ∧
      (∀ c, c.connectionId ∈ (Cluster.run store settings now moves).claimed →
        ¬ (Cluster.run store settings now moves).Names store c →
        ∀ later, ¬ (Cluster.run store settings now (moves ++ later)).Names store c) ∧
      Spares store settings (Cluster.run store settings now moves) := by
  have sound : Sound (Cluster.run store settings now moves) := (Sound.start now).reached moves
  refine ⟨fun t c => renewed_of_returning moves, ?_, ?_, ?_⟩
  · rintro ⟨cp, id⟩ ⟨cp', id'⟩ ⟨node, e, found⟩ ⟨node', e', found'⟩ same
    obtain rfl : cp = cp' := same
    have eq := Option.some.inj (found.symm.trans found')
    injection eq with eq
    injection eq with _ eq
    exact congrArg (RegisteredConnection.mk cp) eq
  · intro c claimed lost later
    rw [Cluster.run, Runs.reached, List.foldl_append]
    exact never_named sound claimed lost later
  · intro move x y acts newer
    exact ⟨fun k nodeId expiresAt => spares_lease sound acts newer,
      fun node cp e held own => spares_entry sound acts newer held own⟩

/-- One task of a node at a time has its registry, no connection is claimed twice, and what is entered next was claimed
after what is entered now. -/
theorem registry_turns (store : RedisGatewayStore) (settings : N → LeaseSettings) (now : ℚ) (moves : List (Move N)) :
    (Cluster.run store settings now moves).claimed.Nodup ∧
      ∀ node t task, (Cluster.run store settings now moves).tasks t = some (node, task) →
        (∀ t' task', (Cluster.run store settings now moves).tasks t' = some (node, task') → task.locks = true →
          task'.locks = true → t = t') ∧
        ∀ c e, task = .claimed c →
          (Cluster.run store settings now moves).registry node c.chargePointIdentity = some e →
          e.connection.connectionId = c.connectionId ∨
            [c.connectionId, e.connection.connectionId].Sublist (Cluster.run store settings now moves).claimed := by
  have sound : Sound (Cluster.run store settings now moves) := (Sound.start now).reached moves
  refine ⟨sound.distinct, fun node t task here => ⟨?_, ?_⟩⟩
  · intro t' task' here' locks locks'
    exact Option.some.inj ((sound.locked t node task here locks).symm.trans (sound.locked t' node task' here' locks'))
  · rintro c e rfl held
    exact (sound.entering t node c here).2 e held

/-- A claim carried out between the renewal of a `get` and its return. -/
theorem connections_owned_fails : ¬ ∀ (store : RedisGatewayStore) (settings : Bool → LeaseSettings) (now : ℚ)
    (moves : List (Move Bool)) (t : Nat) (c : RegisteredConnection),
    (Cluster.run store settings now moves).Returning t c → (Cluster.run store settings now moves).Names store c := by
  intro owned
  let moves : List (Move Bool) := [.register false ⟨"CP-1", "old"⟩, .resume 0, .carry 0, .resume 0, .get false "CP-1",
    .resume 2, .carry 2, .register true ⟨"CP-1", "new"⟩, .resume 3, .carry 3]
  let g := Cluster.run ⟨"vtsa"⟩ (fun node => ⟨if node then "B" else "A", 9, by decide⟩) 0 moves
  have returning : g.Returning 2 ⟨"CP-1", "old"⟩ := ⟨false, by decide +kernel⟩
  have lease : Redis.find g.now g.rows (RedisGatewayStore.connectionKey ⟨"vtsa"⟩ "CP-1") =
      some ⟨.lease "B" "new", some 9⟩ := by decide +kernel
  obtain ⟨nodeId, expiresAt, found⟩ := owned _ _ _ _ _ _ returning
  have eq := Option.some.inj (lease.symm.trans found)
  injection eq with eq
  injection eq with _ eq
  revert eq
  decide

end Histories
end VtsaCsms.Gateway
