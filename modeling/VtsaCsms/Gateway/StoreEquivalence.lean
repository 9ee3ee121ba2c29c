import VtsaCsms.Gateway.StoreAgreement

/-!
# The stores call by call

Each call of `store.py` on stores that agree: whether both give one result, and that they
agree again. From this the calls of any run.
-/
namespace VtsaCsms.Gateway
open Foundation Foundation.Action
variable {store : RedisGatewayStore} {p : StorePair}

/-! ### One call -/

/-- The call has the same result in both stores. -/
def Same (store : RedisGatewayStore) (call : StoreCall) (p : StorePair) : Prop :=
  (call.inMemory p.now p.memory).1 = (call.inRedis store p.now p.rows).1

/-- What is to be shown of a call: one result exactly under its condition, and then agreement again. -/
def Exact (store : RedisGatewayStore) (call : StoreCall) (p : StorePair) : Prop :=
  (Same store call p ↔ Alike store call p) ∧ (Alike store call p → Agreeing store (p.perform store call))

/-! #### Leases -/

section Leases
variable {cp node connection : String} {ttl : Int}

theorem LeasesAgree.write {p' : StorePair} (agree : LeasesAgree store p) (l : Option MemoryLease)
    (time : p'.now = p.now)
    (memory : p'.memory.connections = Function.update p.memory.connections cp l)
    (found : Redis.find p.now p'.rows (store.connectionKey cp) =
      (l.filter fun l => p.now < l.expiresAt).map MemoryLease.entry)
    (rows : ∀ k, k ≠ store.connectionKey cp → p'.rows k = p.rows k) : LeasesAgree store p' := by
  intro cp'
  unfold MemoryGatewayStore.lease
  rw [time, memory, Function.update_apply]
  by_cases here : cp' = cp
  · subst here
    rw [if_pos rfl]
    exact found
  · have other : store.connectionKey cp' ≠ store.connectionKey cp :=
      fun same => here (RedisGatewayStore.connectionKey_injective same)
    rw [if_neg here, Redis.find_congr (rows _ other)]
    exact agree cp'

theorem Agreeing.leased {call : StoreCall} (agree : Agreeing store p)
    (leases : LeasesAgree store (p.perform store call))
    (memory : (call.inMemory p.now p.memory).2.messageClaims = p.memory.messageClaims ∧
      (call.inMemory p.now p.memory).2.responses = p.memory.responses)
    (rows : ∀ k, k ≠ store.connectionKey cp → (call.inRedis store p.now p.rows).2 k = p.rows k)
    (last : StorePair.cachedLast store call p.lastCached = p.lastCached) :
    Agreeing store (p.perform store call) where
  leases := leases
  claims := by
    refine agree.claims.frame rfl memory.1 fun cp' unique => rows _ ?_
    exact fun same => RedisGatewayStore.connectionKey_ne_messageKey _ _ _ same.symm
  responses := by
    refine agree.responses.frame rfl ?_ (fun cp' unique => rows _ ?_) last
    · intro q
      unfold MemoryGatewayStore.response StorePair.perform
      rw [memory.2]
    · exact fun same => RedisGatewayStore.connectionKey_ne_responseKey _ _ _ same.symm

variable {ε : Type} {s : MemoryGatewayStore}

theorem MemoryGatewayStore.claimConnection_result (now : ℚ) (cp node connection : String) (ttl : Int)
    (s : MemoryGatewayStore) : (MemoryGatewayStore.claimConnection (ε := ε) now cp node connection ttl s).1 =
      .ok ((s.lease now cp).map MemoryLease.connectionId) := by
  unfold MemoryGatewayStore.claimConnection MemoryGatewayStore.lease
  cases s.connections cp with
  | none => rfl
  | some l =>
    by_cases alive : now < l.expiresAt
    · simp [Option.filter, alive, not_le.mpr alive]
    · simp [Option.filter, alive, not_lt.mp alive]

theorem claimConnection_exact (agree : Agreeing store p) :
    Exact store (.claimConnection cp node connection ttl) p := by
  have held := agree.leases cp
  have result := MemoryGatewayStore.claimConnection_result (ε := Empty) p.now cp node connection ttl p.memory
  by_cases accepted : Redis.accepts p.now ttl
  · have redis : store.claimConnection p.now cp node connection ttl p.rows =
        (.ok ((p.memory.lease p.now cp).map MemoryLease.connectionId),
          Redis.put p.rows (store.connectionKey cp) ⟨.lease node connection, some (p.now + ttl)⟩) := by
      cases lease : p.memory.lease p.now cp with
      | none =>
        rw [lease] at held
        exact RedisGatewayStore.claimConnection_first accepted held
      | some l =>
        rw [lease] at held
        exact RedisGatewayStore.claimConnection_next accepted held
    refine ⟨iff_of_true ?_ accepted, fun _ => ?_⟩
    · simp only [Same, StoreCall.inMemory, StoreCall.inRedis, StoreCall.perform, redis, result]
      rfl
    · have rows : (StoreCall.inRedis store p.now (.claimConnection cp node connection ttl) p.rows).2 =
          Redis.put p.rows (store.connectionKey cp) ⟨.lease node connection, some (p.now + ttl)⟩ := by
        simp only [StoreCall.inRedis, StoreCall.perform, redis]
      have alive : p.now < p.now + (ttl : ℚ) := by
        have positive : (0 : ℚ) < ttl := by exact_mod_cast accepted.1
        linarith
      have others : ∀ k, k ≠ store.connectionKey cp →
          (StoreCall.inRedis store p.now (.claimConnection cp node connection ttl) p.rows).2 k = p.rows k := by
        intro k other
        rw [rows]
        exact Redis.put_of_ne other
      refine agree.leased ?_ ⟨rfl, rfl⟩ others rfl
      refine agree.leases.write (some ⟨node, connection, p.now + ttl⟩) rfl rfl ?_ others
      simp only [StorePair.perform]
      rw [rows, Redis.find_put, if_pos rfl]
      simp [Option.filter, Redis.Entry.live, alive, MemoryLease.entry]
  · have refused : store.claimConnection p.now cp node connection ttl p.rows = (.error .invalidExpireTime, p.rows) :=
      RedisGatewayStore.claimConnection_refused accepted
    refine ⟨iff_of_false ?_ accepted, fun alike => absurd alike accepted⟩
    simp only [Same, StoreCall.inMemory, StoreCall.inRedis, StoreCall.perform, refused, result]
    intro same
    cases same

/-- Where the lease is not the connection's own, neither store finds it to be. -/
structure Foreign (store : RedisGatewayStore) (p : StorePair) (cp connection : String) : Prop where
  memory : ∀ l, p.memory.connections cp = some l → l.connectionId ≠ connection
  redis : ∀ command : Action RedisRows Redis.Error Bool,
    RedisGatewayStore.onOwnLease p.now (store.connectionKey cp) connection command p.rows = (.ok false, p.rows)

theorem LeasesAgree.cases (agree : LeasesAgree store p) (cp connection : String) :
    Foreign store p cp connection ∨
      (∃ l, p.memory.connections cp = some l ∧ l.connectionId = connection ∧ l.expiresAt ≤ p.now ∧
        Redis.find p.now p.rows (store.connectionKey cp) = none) ∨
      ∃ l, p.memory.connections cp = some l ∧ l.connectionId = connection ∧ p.now < l.expiresAt ∧
        Redis.find p.now p.rows (store.connectionKey cp) = some l.entry := by
  have held := agree cp
  unfold MemoryGatewayStore.lease at held
  cases lease : p.memory.connections cp with
  | none =>
    rw [lease] at held
    refine Or.inl ⟨?_, fun _ => RedisGatewayStore.onOwnLease_absent held⟩
    intro l stored
    rw [lease] at stored
    cases stored
  | some l =>
    rw [lease] at held
    by_cases own : l.connectionId = connection
    · refine Or.inr ?_
      by_cases alive : p.now < l.expiresAt
      · refine Or.inr ⟨l, rfl, own, alive, ?_⟩
        simpa [Option.filter, alive] using held
      · refine Or.inl ⟨l, rfl, own, not_lt.mp alive, ?_⟩
        simpa [Option.filter, alive] using held
    · refine Or.inl ⟨?_, fun command => ?_⟩
      · intro l' stored
        rw [lease] at stored
        obtain rfl := Option.some.inj stored
        exact own
      · by_cases alive : p.now < l.expiresAt
        · have other : Redis.find p.now p.rows (store.connectionKey cp) =
              some ⟨.lease l.nodeId l.connectionId, some l.expiresAt⟩ := by
            simpa [Option.filter, alive, MemoryLease.entry] using held
          exact RedisGatewayStore.onOwnLease_other own other
        · refine RedisGatewayStore.onOwnLease_absent ?_
          simpa [Option.filter, alive] using held

theorem Foreign.not_stale (foreign : Foreign store p cp connection) : ¬ p.memory.Stale p.now cp connection := by
  rintro ⟨l, stored, own, -⟩
  exact foreign.memory l stored own

theorem not_stale_of_alive {l : MemoryLease} (stored : p.memory.connections cp = some l) (alive : p.now < l.expiresAt) :
    ¬ p.memory.Stale p.now cp connection := by
  rintro ⟨l', stored', -, expired⟩
  rw [stored] at stored'
  obtain rfl := Option.some.inj stored'
  exact absurd alive (not_lt.mpr expired)

theorem Foreign.not_leases (foreign : Foreign store p cp connection) : ¬ p.memory.Leases p.now cp connection := by
  rintro ⟨l, stored, own, -⟩
  exact foreign.memory l stored own

theorem Agreeing.unchanged {call : StoreCall} (agree : Agreeing store p)
    (memory : (call.inMemory p.now p.memory).2 = p.memory)
    (rows : (call.inRedis store p.now p.rows).2 = p.rows)
    (last : StorePair.cachedLast store call p.lastCached = p.lastCached) :
    Agreeing store (p.perform store call) := by
  have same : p.perform store call = p := by
    unfold StorePair.perform
    rw [memory, rows, last]
  rw [same]
  exact agree

theorem MemoryGatewayStore.renewConnection_foreign (now : ℚ) (ttl : Int)
    (other : ∀ l, s.connections cp = some l → l.connectionId ≠ connection) :
    MemoryGatewayStore.renewConnection (ε := ε) now cp connection ttl s = (.ok false, s) := by
  unfold MemoryGatewayStore.renewConnection
  split
  · rfl
  · rename_i l stored
    rw [if_pos (other l stored)]

theorem MemoryGatewayStore.renewConnection_own (now : ℚ) (ttl : Int)
    {l : MemoryLease} (stored : s.connections cp = some l) :
    MemoryGatewayStore.renewConnection (ε := ε) now cp l.connectionId ttl s =
      (.ok true, s.setConnection cp (some ⟨l.nodeId, l.connectionId, now + ttl⟩)) := by
  unfold MemoryGatewayStore.renewConnection
  rw [stored]
  exact if_neg (not_not_intro rfl)

theorem renewConnection_exact (agree : Agreeing store p) : Exact store (.renewConnection cp connection ttl) p := by
  rcases agree.leases.cases cp connection with foreign | ⟨l, stored, rfl, expired, missing⟩ |
    ⟨l, stored, rfl, alive, found⟩
  · have memory := MemoryGatewayStore.renewConnection_foreign (ε := Empty) p.now ttl foreign.memory
    have redis : store.renewConnection p.now cp connection ttl p.rows = (.ok false, p.rows) := foreign.redis _
    have alike : Alike store (.renewConnection cp connection ttl) p :=
      ⟨foreign.not_stale, fun leases => absurd leases foreign.not_leases⟩
    refine ⟨iff_of_true ?_ alike, fun _ => agree.unchanged ?_ ?_ rfl⟩
    · simp only [Same, StoreCall.inMemory, StoreCall.inRedis, StoreCall.perform, memory, redis]
      rfl
    · simp only [StoreCall.inMemory, StoreCall.perform, memory]
    · simp only [StoreCall.inRedis, StoreCall.perform, redis]
  · have memory := MemoryGatewayStore.renewConnection_own (ε := Empty) p.now ttl stored
    have redis : store.renewConnection p.now cp l.connectionId ttl p.rows = (.ok false, p.rows) :=
      RedisGatewayStore.onOwnLease_absent missing
    have differs : ¬ Alike store (.renewConnection cp l.connectionId ttl) p :=
      fun alike => alike.1 ⟨l, stored, rfl, expired⟩
    refine ⟨iff_of_false ?_ differs, fun alike => absurd alike differs⟩
    simp only [Same, StoreCall.inMemory, StoreCall.inRedis, StoreCall.perform, memory, redis]
    intro same
    cases same
  · have memory := MemoryGatewayStore.renewConnection_own (ε := Empty) p.now ttl stored
    by_cases fit : Redis.fits p.now ttl
    · have redis := RedisGatewayStore.renewConnection_own fit found
      have alike : Alike store (.renewConnection cp l.connectionId ttl) p :=
        ⟨not_stale_of_alive stored alive, fun _ => fit⟩
      have others : ∀ k, k ≠ store.connectionKey cp →
          (StoreCall.inRedis store p.now (.renewConnection cp l.connectionId ttl) p.rows).2 k = p.rows k := by
        intro k other
        simp only [StoreCall.inRedis, StoreCall.perform, redis]
        split
        · exact Redis.remove_of_ne other
        · exact Redis.put_of_ne other
      refine ⟨iff_of_true ?_ alike, fun _ => agree.leased ?_ ?_ others rfl⟩
      · simp only [Same, StoreCall.inMemory, StoreCall.inRedis, StoreCall.perform, memory, redis]
        rfl
      · refine agree.leases.write (some ⟨l.nodeId, l.connectionId, p.now + ttl⟩) rfl ?_ ?_ others
        · simp only [StorePair.perform, StoreCall.inMemory, StoreCall.perform, memory]
          rfl
        · simp only [StorePair.perform, StoreCall.inRedis, StoreCall.perform, redis]
          -- a time that is not in the future leaves no key in Redis and an expired lease in the process
          by_cases past : ttl ≤ 0
          · have expired : ¬ p.now < p.now + (ttl : ℚ) := by
              have negative : (ttl : ℚ) ≤ 0 := by exact_mod_cast past
              linarith
            rw [if_pos past, Redis.find_remove_self]
            simp [Option.filter, expired]
          · have renewed : p.now < p.now + (ttl : ℚ) := by
              have positive : (0 : ℚ) < ttl := by exact_mod_cast not_le.mp past
              linarith
            rw [if_neg past, Redis.find_put_self (by simpa [Redis.Entry.live] using renewed)]
            simp [Option.filter, renewed, MemoryLease.entry]
      · simp only [StoreCall.inMemory, StoreCall.perform, memory]
        exact ⟨rfl, rfl⟩
    · have redis := RedisGatewayStore.renewConnection_unfit fit found
      have differs : ¬ Alike store (.renewConnection cp l.connectionId ttl) p :=
        fun alike => fit (alike.2 ⟨l, stored, rfl, alive⟩)
      refine ⟨iff_of_false ?_ differs, fun alike => absurd alike differs⟩
      simp only [Same, StoreCall.inMemory, StoreCall.inRedis, StoreCall.perform, memory, redis]
      intro same
      cases same

theorem MemoryGatewayStore.releaseConnection_foreign
    (other : ∀ l, s.connections cp = some l → l.connectionId ≠ connection) :
    MemoryGatewayStore.releaseConnection (ε := ε) cp connection s = (.ok false, s) := by
  unfold MemoryGatewayStore.releaseConnection
  split
  · rfl
  · rename_i l stored
    rw [if_pos (other l stored)]

theorem MemoryGatewayStore.releaseConnection_own {l : MemoryLease} (stored : s.connections cp = some l) :
    MemoryGatewayStore.releaseConnection (ε := ε) cp l.connectionId s = (.ok true, s.setConnection cp none) := by
  unfold MemoryGatewayStore.releaseConnection
  rw [stored]
  exact if_neg (not_not_intro rfl)

theorem releaseConnection_exact (agree : Agreeing store p) : Exact store (.releaseConnection cp connection) p := by
  rcases agree.leases.cases cp connection with foreign | ⟨l, stored, rfl, expired, missing⟩ |
    ⟨l, stored, rfl, alive, found⟩
  · have memory := MemoryGatewayStore.releaseConnection_foreign (ε := Empty) foreign.memory
    have redis : store.releaseConnection p.now cp connection p.rows = (.ok false, p.rows) := foreign.redis _
    refine ⟨iff_of_true ?_ foreign.not_stale, fun _ => agree.unchanged ?_ ?_ rfl⟩
    · simp only [Same, StoreCall.inMemory, StoreCall.inRedis, StoreCall.perform, memory, redis]
      rfl
    · simp only [StoreCall.inMemory, StoreCall.perform, memory]
    · simp only [StoreCall.inRedis, StoreCall.perform, redis]
  · have memory := MemoryGatewayStore.releaseConnection_own (ε := Empty) stored
    have redis : store.releaseConnection p.now cp l.connectionId p.rows = (.ok false, p.rows) :=
      RedisGatewayStore.onOwnLease_absent missing
    have differs : ¬ Alike store (.releaseConnection cp l.connectionId) p :=
      fun alike => alike ⟨l, stored, rfl, expired⟩
    refine ⟨iff_of_false ?_ differs, fun alike => absurd alike differs⟩
    simp only [Same, StoreCall.inMemory, StoreCall.inRedis, StoreCall.perform, memory, redis]
    intro same
    cases same
  · have memory := MemoryGatewayStore.releaseConnection_own (ε := Empty) stored
    have redis := RedisGatewayStore.releaseConnection_own found
    have alike : Alike store (.releaseConnection cp l.connectionId) p := not_stale_of_alive stored alive
    have others : ∀ k, k ≠ store.connectionKey cp →
        (StoreCall.inRedis store p.now (.releaseConnection cp l.connectionId) p.rows).2 k = p.rows k := by
      intro k other
      simp only [StoreCall.inRedis, StoreCall.perform, redis]
      exact Redis.remove_of_ne other
    refine ⟨iff_of_true ?_ alike, fun _ => agree.leased ?_ ?_ others rfl⟩
    · simp only [Same, StoreCall.inMemory, StoreCall.inRedis, StoreCall.perform, memory, redis]
      rfl
    · refine agree.leases.write none rfl ?_ ?_ others
      · simp only [StorePair.perform, StoreCall.inMemory, StoreCall.perform, memory]
        rfl
      · simp only [StorePair.perform, StoreCall.inRedis, StoreCall.perform, redis]
        exact Redis.find_remove_self
    · simp only [StoreCall.inMemory, StoreCall.perform, memory]
      exact ⟨rfl, rfl⟩

end Leases

/-! #### Messages -/

section Messages
variable {cp unique : String} {ttl : Int}
variable {ε : Type} {now t : ℚ}

theorem MemoryGatewayStore.claimMessage_held {s : MemoryGatewayStore} (ttl : Int)
    (held : s.claim now (cp, unique) = some t) :
    MemoryGatewayStore.claimMessage (ε := ε) now cp unique ttl s = (.ok false, s) := by
  unfold MemoryGatewayStore.claim at held
  obtain ⟨stored, alive⟩ := Option.filter_eq_some_iff.mp held
  unfold MemoryGatewayStore.claimMessage
  simp only [stored]
  rw [if_pos (of_decide_eq_true alive)]

theorem MemoryGatewayStore.claimMessage_free {s : MemoryGatewayStore} (ttl : Int)
    (free : s.claim now (cp, unique) = none) :
    MemoryGatewayStore.claimMessage (ε := ε) now cp unique ttl s =
      (.ok true, s.setClaim (cp, unique) (now + ttl)) := by
  unfold MemoryGatewayStore.claim at free
  unfold MemoryGatewayStore.claimMessage
  cases stored : s.messageClaims (cp, unique) with
  | none => simp only [stored]
  | some t =>
    rw [stored] at free
    have expired : ¬ now < t := by simpa [Option.filter] using free
    simp only [stored]
    rw [if_neg expired]

theorem MemoryGatewayStore.claim_setClaim (alive : now < t) (s : MemoryGatewayStore)
    (message q : String × String) :
    (s.setClaim message t).claim now q = if q = message then some t else s.claim now q := by
  unfold MemoryGatewayStore.claim MemoryGatewayStore.setClaim
  simp only [Function.update_apply]
  split
  · simp [Option.filter, alive]
  · rfl

theorem ClaimsAgree.write {p' : StorePair} (agree : ClaimsAgree store p) (alive : p.now < t)
    (nobody : ∀ cp' unique' t', store.messageKey cp' unique' = store.messageKey cp unique →
      p.memory.claim p.now (cp', unique') ≠ some t')
    (time : p'.now = p.now) (memory : p'.memory = p.memory.setClaim (cp, unique) t)
    (rows : p'.rows = Redis.put p.rows (store.messageKey cp unique) ⟨.text "processing", some t⟩) :
    ClaimsAgree store p' := by
  have claims : ∀ q, p'.memory.claim p'.now q = if q = (cp, unique) then some t else p.memory.claim p.now q := by
    intro q
    rw [time, memory]
    exact MemoryGatewayStore.claim_setClaim alive p.memory (cp, unique) q
  have older : ∀ cp' unique' t', store.messageKey cp' unique' = store.messageKey cp unique →
      p'.memory.claim p'.now (cp', unique') = some t' → (cp', unique') = (cp, unique) := by
    intro cp' unique' t' same held
    rw [claims] at held
    by_contra other
    rw [if_neg other] at held
    exact nobody cp' unique' t' same held
  constructor
  · intro cp' unique' t' held
    by_cases same : store.messageKey cp' unique' = store.messageKey cp unique
    · have own := older cp' unique' t' same held
      rw [claims, if_pos own] at held
      obtain rfl := Option.some.inj held
      rw [time, rows, same]
      exact Redis.find_put_self (by simpa [Redis.Entry.live] using alive)
    · have other : (cp', unique') ≠ (cp, unique) := by
        rintro ⟨⟩
        exact same rfl
      rw [claims, if_neg other] at held
      rw [time, rows, Redis.find_put_of_ne same]
      exact agree.found cp' unique' t' held
  · intro cp' unique' e found
    by_cases same : store.messageKey cp' unique' = store.messageKey cp unique
    · exact ⟨cp, unique, t, same.symm, by rw [claims, if_pos rfl]⟩
    · rw [time, rows, Redis.find_put_of_ne same] at found
      obtain ⟨cp₀, unique₀, t₀, same₀, held⟩ := agree.owned cp' unique' e found
      refine ⟨cp₀, unique₀, t₀, same₀, ?_⟩
      have other : (cp₀, unique₀) ≠ (cp, unique) := by
        rintro ⟨⟩
        exact same same₀.symm
      rw [claims, if_neg other]
      exact held
  · intro cp₁ unique₁ t₁ cp₂ unique₂ t₂ same held held'
    by_cases here : store.messageKey cp₁ unique₁ = store.messageKey cp unique
    · rw [older cp₁ unique₁ t₁ here held, older cp₂ unique₂ t₂ (same.trans here) held']
    · have other : (cp₁, unique₁) ≠ (cp, unique) := by
        rintro ⟨⟩
        exact here rfl
      have other' : (cp₂, unique₂) ≠ (cp, unique) := by
        rintro ⟨⟩
        exact here same.symm
      rw [claims, if_neg other] at held
      rw [claims, if_neg other'] at held'
      exact agree.single cp₁ unique₁ t₁ cp₂ unique₂ t₂ same held held'

theorem claimMessage_exact (agree : Agreeing store p) : Exact store (.claimMessage cp unique ttl) p := by
  by_cases accepted : Redis.accepts p.now ttl
  · cases held : p.memory.claim p.now (cp, unique) with
    | some t =>
      have memory := MemoryGatewayStore.claimMessage_held (ε := Empty) ttl held
      have redis := RedisGatewayStore.claimMessage_held accepted (agree.claims.found cp unique t held)
      have alike : Alike store (.claimMessage cp unique ttl) p :=
        ⟨accepted, fun cp' unique' t' same held' => agree.claims.single cp unique t cp' unique' t' same held held'⟩
      refine ⟨iff_of_true ?_ alike, fun _ => agree.unchanged ?_ ?_ rfl⟩
      · simp only [Same, StoreCall.inMemory, StoreCall.inRedis, StoreCall.perform, memory, redis]
        rfl
      · simp only [StoreCall.inMemory, StoreCall.perform, memory]
      · simp only [StoreCall.inRedis, StoreCall.perform, redis]
    | none =>
      have memory := MemoryGatewayStore.claimMessage_free (ε := Empty) ttl held
      cases found : Redis.find p.now p.rows (store.messageKey cp unique) with
      | some e =>
        -- the claim in Redis is another message's
        have redis := RedisGatewayStore.claimMessage_held accepted found
        have differs : ¬ Alike store (.claimMessage cp unique ttl) p := by
          rintro ⟨-, alone⟩
          obtain ⟨cp', unique', t, same, held'⟩ := agree.claims.owned cp unique e found
          rw [alone cp' unique' t same held', held] at held'
          cases held'
        refine ⟨iff_of_false ?_ differs, fun alike => absurd alike differs⟩
        simp only [Same, StoreCall.inMemory, StoreCall.inRedis, StoreCall.perform, memory, redis]
        intro same
        cases same
      | none =>
        have redis := RedisGatewayStore.claimMessage_free accepted found
        have nobody : ∀ cp' unique' t, store.messageKey cp' unique' = store.messageKey cp unique →
            p.memory.claim p.now (cp', unique') ≠ some t := by
          intro cp' unique' t same held'
          have found' := agree.claims.found cp' unique' t held'
          rw [same, found] at found'
          cases found'
        have alike : Alike store (.claimMessage cp unique ttl) p :=
          ⟨accepted, fun cp' unique' t same held' => absurd held' (nobody cp' unique' t same)⟩
        refine ⟨iff_of_true ?_ alike, fun _ => ?_⟩
        · simp only [Same, StoreCall.inMemory, StoreCall.inRedis, StoreCall.perform, memory, redis]
          rfl
        · have alive : p.now < p.now + (ttl : ℚ) := by
            have positive : (0 : ℚ) < ttl := by exact_mod_cast accepted.1
            linarith
          have left : (p.perform store (.claimMessage cp unique ttl)).rows =
              Redis.put p.rows (store.messageKey cp unique) ⟨.text "processing", some (p.now + ttl)⟩ := by
            simp only [StorePair.perform, StoreCall.inRedis, StoreCall.perform, redis]
          have left' : (p.perform store (.claimMessage cp unique ttl)).memory =
              p.memory.setClaim (cp, unique) (p.now + ttl) := by
            simp only [StorePair.perform, StoreCall.inMemory, StoreCall.perform, memory]
          constructor
          · refine agree.leases.frame rfl (by rw [left']; rfl) fun cp' => ?_
            rw [left]
            exact Redis.put_of_ne (RedisGatewayStore.connectionKey_ne_messageKey _ _ _)
          · exact agree.claims.write alive nobody rfl left' left
          · refine agree.responses.frame rfl (fun q => by rw [left']; rfl) (fun cp' unique' => ?_) rfl
            rw [left]
            exact Redis.put_of_ne fun same => RedisGatewayStore.messageKey_ne_responseKey _ _ _ _ same.symm
  · have refused : store.claimMessage p.now cp unique ttl p.rows = (.error .invalidExpireTime, p.rows) :=
      RedisGatewayStore.claimMessage_refused accepted
    refine ⟨iff_of_false ?_ fun alike => accepted alike.1, fun alike => absurd alike.1 accepted⟩
    simp only [Same, StoreCall.inMemory, StoreCall.inRedis, StoreCall.perform, refused]
    cases held : p.memory.claim p.now (cp, unique) with
    | some =>
      rw [MemoryGatewayStore.claimMessage_held ttl held]
      intro same
      cases same
    | none =>
      rw [MemoryGatewayStore.claimMessage_free ttl held]
      intro same
      cases same

theorem MemoryGatewayStore.response_setResponse (now : ℚ) (s : MemoryGatewayStore) (message q : String × String)
    (cached : Option (String × ℚ)) : (s.setResponse message cached).response now q =
      if q = message then cached.filter (fun cached => now < cached.2) else s.response now q := by
  unfold MemoryGatewayStore.response MemoryGatewayStore.setResponse
  simp only [Function.update_apply]
  split <;> rfl

theorem ResponsesAgree.write {p' : StorePair} {text : String} (agree : ResponsesAgree store p)
    (alive : p.now < t) (time : p'.now = p.now)
    (memory : p'.memory = p.memory.setResponse (cp, unique) (some (text, t)))
    (rows : p'.rows = Redis.put p.rows (store.responseKey cp unique) ⟨.text text, some t⟩)
    (last : p'.lastCached = Function.update p.lastCached (store.responseKey cp unique) (some (cp, unique))) :
    ResponsesAgree store p' := by
  have responses : ∀ q, p'.memory.response p'.now q =
      if q = (cp, unique) then some (text, t) else p.memory.response p.now q := by
    intro q
    rw [time, memory, MemoryGatewayStore.response_setResponse]
    simp [Option.filter, alive]
  constructor
  · intro cp' unique' nothing
    rw [last, Function.update_apply] at nothing
    split at nothing
    · cases nothing
    · rename_i other
      obtain ⟨missing, missing'⟩ := agree.none' cp' unique' nothing
      have different : (cp', unique') ≠ (cp, unique) := by
        rintro ⟨⟩
        exact other rfl
      rw [responses, if_neg different, time, rows, Redis.find_put_of_ne other]
      exact ⟨missing, missing'⟩
  · intro cp' unique' q latest
    rw [last, Function.update_apply] at latest
    split at latest
    · rename_i same
      obtain rfl := Option.some.inj latest
      refine ⟨same.symm, ?_⟩
      rw [responses, if_pos rfl, time, rows, same]
      exact Redis.find_put_self (by simpa [Redis.Entry.live] using alive)
    · rename_i other
      obtain ⟨same, found⟩ := agree.last cp' unique' q latest
      have different : q ≠ (cp, unique) := by
        rintro rfl
        exact other same.symm
      refine ⟨same, ?_⟩
      rw [responses, if_neg different, time, rows, Redis.find_put_of_ne other]
      exact found

theorem cacheResponse_exact (agree : Agreeing store p) (text : String) :
    Exact store (.cacheResponse cp unique text ttl) p := by
  by_cases accepted : Redis.accepts p.now ttl
  · have redis : store.cacheResponse p.now cp unique text ttl p.rows =
        (.ok (), Redis.put p.rows (store.responseKey cp unique) ⟨.text text, some (p.now + ttl)⟩) :=
      RedisGatewayStore.cacheResponse_accepted accepted
    refine ⟨iff_of_true ?_ accepted, fun _ => ?_⟩
    · simp only [Same, StoreCall.inMemory, StoreCall.inRedis, StoreCall.perform, redis]
      rfl
    · have alive : p.now < p.now + (ttl : ℚ) := by
        have positive : (0 : ℚ) < ttl := by exact_mod_cast accepted.1
        linarith
      have left : (p.perform store (.cacheResponse cp unique text ttl)).rows =
          Redis.put p.rows (store.responseKey cp unique) ⟨.text text, some (p.now + ttl)⟩ := by
        simp only [StorePair.perform, StoreCall.inRedis, StoreCall.perform, redis]
      constructor
      · refine agree.leases.frame rfl rfl fun cp' => ?_
        rw [left]
        exact Redis.put_of_ne (RedisGatewayStore.connectionKey_ne_responseKey _ _ _)
      · refine agree.claims.frame rfl rfl fun cp' unique' => ?_
        rw [left]
        exact Redis.put_of_ne (RedisGatewayStore.messageKey_ne_responseKey _ _ _ _)
      · exact agree.responses.write alive rfl rfl left rfl
  · have refused : store.cacheResponse p.now cp unique text ttl p.rows = (.error .invalidExpireTime, p.rows) :=
      RedisGatewayStore.cacheResponse_refused accepted
    refine ⟨iff_of_false ?_ accepted, fun alike => absurd alike accepted⟩
    simp only [Same, StoreCall.inMemory, StoreCall.inRedis, StoreCall.perform, refused]
    intro same
    cases same

theorem MemoryGatewayStore.cachedResponse_result (now : ℚ) (cp unique : String) (s : MemoryGatewayStore) :
    (MemoryGatewayStore.cachedResponse (ε := ε) now cp unique s).1 =
      .ok ((s.response now (cp, unique)).map Prod.fst) := by
  unfold MemoryGatewayStore.cachedResponse MemoryGatewayStore.response
  cases stored : s.responses (cp, unique) with
  | none => simp only [stored]; rfl
  | some cached =>
    by_cases alive : now < cached.2
    · simp [stored, Option.filter, alive, not_le.mpr alive]
    · simp [stored, Option.filter, alive, not_lt.mp alive]

theorem MemoryGatewayStore.cachedResponse_drops (now : ℚ) (cp unique : String) (s : MemoryGatewayStore) :
    (MemoryGatewayStore.cachedResponse (ε := ε) now cp unique s).2 = s ∨
      s.response now (cp, unique) = none ∧
        (MemoryGatewayStore.cachedResponse (ε := ε) now cp unique s).2 = s.setResponse (cp, unique) none := by
  unfold MemoryGatewayStore.cachedResponse MemoryGatewayStore.response
  cases stored : s.responses (cp, unique) with
  | none => exact Or.inr ⟨rfl, by simp only [stored]⟩
  | some cached =>
    by_cases alive : now < cached.2
    · exact Or.inl (by simp [stored, not_le.mpr alive])
    · exact Or.inr ⟨by simp [Option.filter, alive], by simp [stored, not_lt.mp alive]⟩

theorem cachedResponse_exact (agree : Agreeing store p) : Exact store (.cachedResponse cp unique) p := by
  have memory := MemoryGatewayStore.cachedResponse_result (ε := Empty) p.now cp unique p.memory
  have redis : store.cachedResponse p.now cp unique p.rows =
      (.ok ((p.lastCached (store.responseKey cp unique)).bind fun q =>
        (p.memory.response p.now q).map Prod.fst), p.rows) := by
    cases last : p.lastCached (store.responseKey cp unique) with
    | none => exact RedisGatewayStore.cachedResponse_none (agree.responses.none' cp unique last).1
    | some q =>
      have found := (agree.responses.last cp unique q last).2
      simp only [Option.bind_some]
      cases response : p.memory.response p.now q with
      | none =>
        rw [response] at found
        exact RedisGatewayStore.cachedResponse_none found
      | some =>
        rw [response] at found
        exact RedisGatewayStore.cachedResponse_some found
  constructor
  · simp only [Same, Alike, StoreCall.inMemory, StoreCall.inRedis, StoreCall.perform, redis, memory, StoreResult.of,
      StoreResult.text.injEq]
    cases last : p.lastCached (store.responseKey cp unique) with
    | none =>
      rw [(agree.responses.none' cp unique last).2]
      simp
    | some => simp [eq_comm]
  · intro _
    have unread : (StoreCall.inRedis store p.now (.cachedResponse cp unique) p.rows).2 = p.rows := by
      simp only [StoreCall.inRedis, StoreCall.perform, redis]
    rcases MemoryGatewayStore.cachedResponse_drops (ε := Empty) p.now cp unique p.memory with
      same | ⟨expired, dropped⟩
    · exact agree.unchanged same unread rfl
    · have left : (p.perform store (.cachedResponse cp unique)).memory = p.memory.setResponse (cp, unique) none :=
        dropped
      constructor
      · exact agree.leases.frame rfl (by rw [left]; rfl) fun cp' => congrFun unread _
      · exact agree.claims.frame rfl (by rw [left]; rfl) fun cp' unique' => congrFun unread _
      · refine agree.responses.frame rfl (fun q => ?_) (fun cp' unique' => congrFun unread _) rfl
        rw [left, MemoryGatewayStore.response_setResponse]
        split
        · rename_i here
          rw [here, expired]
          rfl
        · rfl

end Messages

/-! ### Every call, every run -/

theorem call_exact (call : StoreCall) (agree : Agreeing store p) : Exact store call p := by
  cases call with
  | claimConnection => exact claimConnection_exact agree
  | renewConnection => exact renewConnection_exact agree
  | releaseConnection => exact releaseConnection_exact agree
  | claimMessage => exact claimMessage_exact agree
  | cacheResponse _ _ text => exact cacheResponse_exact agree text
  | cachedResponse => exact cachedResponse_exact agree

theorem results_agree_iff_met (calls : List TimedCall) (agree : Agreeing store p) :
    memoryResults calls p.now p.memory = redisResults store calls p.now p.rows ↔
      Runs.Met (StorePair.next store) (TimedCall.Alike store) calls p := by
  induction calls generalizing p with
  | nil => exact iff_of_true rfl trivial
  | cons c _ ih =>
    obtain ⟨exact', kept⟩ := call_exact c.call (agree.wait c.forward)
    simp only [memoryResults, redisResults, List.cons.injEq]
    constructor
    · rintro ⟨same, later⟩
      have alike := exact'.mp same
      exact ⟨alike, (ih (kept alike)).mp later⟩
    · rintro ⟨alike, met⟩
      exact ⟨exact'.mpr alike, (ih (kept alike)).mpr met⟩

end VtsaCsms.Gateway
