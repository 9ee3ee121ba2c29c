import VtsaCsms.Gateway.Messages

/-!
# What deduplication promises

A claim stays in the store until it expires, so a unique id is handed on once in the time it was
claimed for. The cache knows a call by its unique id alone: what it answers is the response to an
earlier call with that id, whatever that call was.
-/
namespace VtsaCsms.Gateway
open Foundation Foundation.Action

namespace Phase

/-- The call a socket is busy with. -/
def call? : Phase → Option Call
  | receiving => none
  | looksUp call | claims call | waits call _ | sleeps call _ _ | handles call | answers call _ => some call

/-- The call of which the library has been given charge. -/
def handedOn? : Phase → Option Call
  | handles call | answers call _ => some call
  | _ => none

end Phase

variable {K : Type} {store : RedisGatewayStore} {settings : K → MessageSettings} {cp : String}
  {s : Traffic K} {k : K}

/-- The end of the time a call was claimed for. -/
def Handled.claimedUntil (settings : K → MessageSettings) (h : Handled K) : ℚ :=
  h.claimedAt + (settings h.socket).messageDeduplicationSeconds

/-- The invariant of the claims and the cache. -/
structure Deduplicated (store : RedisGatewayStore) (settings : K → MessageSettings) (cp : String)
    (s : Traffic K) : Prop where
  claimed : ∀ h ∈ s.handled, ∃ value expiresAt,
    s.rows (store.messageKey cp h.call.uniqueId) = some ⟨value, some expiresAt⟩ ∧
      h.claimedUntil settings ≤ expiresAt
  apart : s.handled.Pairwise fun earlier later =>
    earlier.call.uniqueId = later.call.uniqueId → earlier.claimedUntil settings ≤ later.claimedAt
  cached : ∀ uniqueId e, s.rows (store.responseKey cp uniqueId) = some e →
    ∃ call text, e.value = .text text ∧ call.uniqueId = uniqueId ∧ (call, text) ∈ s.responses
  answered : ∀ r ∈ s.responses, r.1 ∈ s.handled.map Handled.call
  handedOn : ∀ k call, (s.sockets k).handedOn? = some call → call ∈ s.handled.map Handled.call
  asked : ∀ k call, (s.sockets k).call? = some call → call ∈ s.received
  known : ∀ call ∈ s.handled.map Handled.call, call ∈ s.received
  replayed : ∀ d ∈ s.duplicates, d.1 ∈ s.received ∧ (d.2 = stillProcessing ∨
    ∃ call text, d.2 = .replayed text ∧ (call, text) ∈ s.responses ∧ call.uniqueId = d.1.uniqueId)

namespace Deduplicated

theorem start (store : RedisGatewayStore) (settings : K → MessageSettings) (cp : String) (now : ℚ) :
    Deduplicated store settings cp (Traffic.start now : Traffic K) := by
  refine ⟨?_, List.Pairwise.nil, ?_, ?_, ?_, ?_, ?_, ?_⟩
  · intro h member
    cases member
  · intro uniqueId e stored
    cases stored
  · intro r member
    cases member
  · intro k call had
    cases had
  · intro k call had
    cases had
  · intro call member
    cases member
  · intro d member
    cases member

theorem setPublished (dedup : Deduplicated store settings cp s) (published failed : List Call) :
    Deduplicated store settings cp { s with published, failed } :=
  ⟨dedup.claimed, dedup.apart, dedup.cached, dedup.answered, dedup.handedOn, dedup.asked, dedup.known,
    dedup.replayed⟩

theorem duplicate (dedup : Deduplicated store settings cp s) {call : Call} {reply : Duplicate}
    (received : call ∈ s.received)
    (replayed : reply = stillProcessing ∨ ∃ earlier text, reply = .replayed text ∧
      (earlier, text) ∈ s.responses ∧ earlier.uniqueId = call.uniqueId) :
    Deduplicated store settings cp { s with duplicates := s.duplicates ++ [(call, reply)] } := by
  refine ⟨dedup.claimed, dedup.apart, dedup.cached, dedup.answered, dedup.handedOn, dedup.asked, dedup.known, ?_⟩
  intro d member
  rcases List.mem_append.mp member with old | new
  · exact dedup.replayed d old
  · rw [List.mem_singleton.mp new]
    exact ⟨received, replayed⟩

theorem found (dedup : Deduplicated store settings cp s) {uniqueId text : String} {e : Redis.Entry RedisValue}
    (found : Redis.find s.now s.rows (store.responseKey cp uniqueId) = some e) (value : e.value = .text text) :
    ∃ call, (call, text) ∈ s.responses ∧ call.uniqueId = uniqueId := by
  obtain ⟨call, text', same, id, member⟩ := dedup.cached uniqueId e (Redis.find_some.mp found).1
  rw [value] at same
  injection same with same
  exact ⟨call, same ▸ member, id⟩

theorem expired (dedup : Deduplicated store settings cp s) {uniqueId : String}
    (free : Redis.find s.now s.rows (store.messageKey cp uniqueId) = none) {h : Handled K} (member : h ∈ s.handled)
    (same : h.call.uniqueId = uniqueId) : h.claimedUntil settings ≤ s.now := by
  obtain ⟨value, until', stored, covers⟩ := dedup.claimed h member
  rw [same] at stored
  refine covers.trans ?_
  by_contra alive
  have found := Redis.find_some.mpr ⟨stored, by simpa [Redis.Entry.live] using alive⟩
  rw [free] at found
  cases found

theorem claim (dedup : Deduplicated store settings cp s) {uniqueId : String} {expiresAt : ℚ}
    (free : Redis.find s.now s.rows (store.messageKey cp uniqueId) = none) (later : s.now ≤ expiresAt) :
    Deduplicated store settings cp
      (s.setRows (Redis.put s.rows (store.messageKey cp uniqueId) ⟨.text "processing", some expiresAt⟩)) := by
  refine ⟨?_, dedup.apart, ?_, dedup.answered, dedup.handedOn, dedup.asked, dedup.known, dedup.replayed⟩
  · intro h member
    obtain ⟨value, until', stored, covers⟩ := dedup.claimed h member
    simp only [Traffic.setRows]
    by_cases same : h.call.uniqueId = uniqueId
    · have past := dedup.expired free member same
      rw [same]
      exact ⟨_, expiresAt, Function.update_self .., past.trans later⟩
    · rw [Redis.put_of_ne fun keys => same (RedisGatewayStore.messageKey_injective keys)]
      exact ⟨value, until', stored, covers⟩
  · intro uniqueId' e stored
    simp only [Traffic.setRows] at stored
    rw [Redis.put_of_ne fun same => RedisGatewayStore.messageKey_ne_responseKey _ _ _ _ same.symm] at stored
    exact dedup.cached uniqueId' e stored

theorem cache (dedup : Deduplicated store settings cp s) {call : Call}
    (handled : call ∈ s.handled.map Handled.call) (message : String) (expiresAt : Option ℚ) :
    Deduplicated store settings cp
      { s.setRows (Redis.put s.rows (store.responseKey cp call.uniqueId) ⟨.text message, expiresAt⟩) with
        responses := s.responses ++ [(call, message)] } := by
  refine ⟨?_, dedup.apart, ?_, ?_, dedup.handedOn, dedup.asked, dedup.known, ?_⟩
  · intro h member
    simp only [Traffic.setRows]
    rw [Redis.put_of_ne (RedisGatewayStore.messageKey_ne_responseKey _ _ _ _)]
    exact dedup.claimed h member
  · intro uniqueId e stored
    simp only [Traffic.setRows] at stored
    by_cases same : uniqueId = call.uniqueId
    · subst same
      rw [Redis.put, Function.update_self] at stored
      obtain rfl := Option.some.inj stored
      exact ⟨call, message, rfl, rfl, List.mem_append_right _ (List.mem_singleton_self _)⟩
    · rw [Redis.put_of_ne fun keys => same (RedisGatewayStore.responseKey_injective keys)] at stored
      obtain ⟨call', text, value, id, member⟩ := dedup.cached uniqueId e stored
      exact ⟨call', text, value, id, List.mem_append_left _ member⟩
  · intro r member
    rcases List.mem_append.mp member with old | new
    · exact dedup.answered r old
    · rw [List.mem_singleton.mp new]
      exact handled
  · intro d member
    obtain ⟨received, replayed⟩ := dedup.replayed d member
    refine ⟨received, replayed.imp_right ?_⟩
    rintro ⟨call', text, reply, member', id⟩
    exact ⟨call', text, reply, List.mem_append_left _ member', id⟩

theorem receive (dedup : Deduplicated store settings cp s) (call : Call) :
    Deduplicated store settings cp { s with received := s.received ++ [call] } := by
  refine ⟨dedup.claimed, dedup.apart, dedup.cached, dedup.answered, dedup.handedOn, ?_, ?_, ?_⟩
  · exact fun k call' had => List.mem_append_left _ (dedup.asked k call' had)
  · exact fun call' member => List.mem_append_left _ (dedup.known call' member)
  · intro d member
    obtain ⟨received, replayed⟩ := dedup.replayed d member
    exact ⟨List.mem_append_left _ received, replayed⟩

section Sockets
variable [DecidableEq K]

theorem setSocket (dedup : Deduplicated store settings cp s) {phase : Phase}
    (asked : ∀ call, phase.call? = some call → call ∈ s.received)
    (handedOn : ∀ call, phase.handedOn? = some call → call ∈ s.handled.map Handled.call) :
    Deduplicated store settings cp (s.setSocket k phase) := by
  refine ⟨dedup.claimed, dedup.apart, dedup.cached, dedup.answered, ?_, ?_, dedup.known, dedup.replayed⟩
  · intro k' call had
    simp only [Traffic.setSocket, Function.update_apply] at had
    split at had
    · exact handedOn call had
    · exact dedup.handedOn k' call had
  · intro k' call had
    simp only [Traffic.setSocket, Function.update_apply] at had
    split at had
    · exact asked call had
    · exact dedup.asked k' call had

theorem closes (dedup : Deduplicated store settings cp s) (k : K) :
    Deduplicated store settings cp (s.setSocket k .receiving) := by
  refine dedup.setSocket ?_ ?_
  · intro call had
    cases had
  · intro call had
    cases had

theorem stays (dedup : Deduplicated store settings cp s) {call : Call} {phase : Phase}
    (busy : (s.sockets k).call? = some call) (same : phase.call? = some call) (waits : phase.handedOn? = none) :
    Deduplicated store settings cp (s.setSocket k phase) := by
  refine dedup.setSocket ?_ ?_
  · intro call' had
    obtain rfl : call = call' := Option.some.inj (same.symm.trans had)
    exact dedup.asked k call busy
  · intro call' had
    rw [waits] at had
    cases had

theorem answers (dedup : Deduplicated store settings cp s) {call : Call} (handles : s.sockets k = .handles call)
    (message : String) : Deduplicated store settings cp (s.setSocket k (.answers call message)) := by
  refine dedup.setSocket ?_ ?_
  · rintro call' ⟨⟩
    exact dedup.asked k call (by rw [handles]; rfl)
  · rintro call' ⟨⟩
    exact dedup.handedOn k call (by rw [handles]; rfl)

theorem grant (dedup : Deduplicated store settings cp s) {call : Call} (claims : s.sockets k = .claims call)
    (accepted : Redis.accepts s.now (settings k).messageDeduplicationSeconds)
    (free : Redis.find s.now s.rows (store.messageKey cp call.uniqueId) = none) :
    Deduplicated store settings cp
      { (s.setRows (Redis.put s.rows (store.messageKey cp call.uniqueId)
          ⟨.text "processing", some (s.now + (settings k).messageDeduplicationSeconds)⟩)).setSocket k (.handles call)
        with handled := s.handled ++ [⟨call, k, s.now⟩] } := by
  have received : call ∈ s.received := dedup.asked k call (by rw [claims]; rfl)
  have positive : (0 : ℚ) < (settings k).messageDeduplicationSeconds := by exact_mod_cast accepted.1
  have before := dedup.claim free (le_add_of_nonneg_right positive.le)
  have among : ∀ call', call' ∈ s.handled.map Handled.call →
      call' ∈ (s.handled ++ [(⟨call, k, s.now⟩ : Handled K)]).map Handled.call := by
    intro call' member
    rw [List.map_append]
    exact List.mem_append_left _ member
  have new : call ∈ (s.handled ++ [(⟨call, k, s.now⟩ : Handled K)]).map Handled.call := by
    rw [List.map_append]
    exact List.mem_append_right _ (List.mem_singleton_self _)
  refine ⟨?_, ?_, before.cached, ?_, ?_, ?_, ?_, dedup.replayed⟩
  · intro h member
    rcases List.mem_append.mp member with old | last
    · exact before.claimed h old
    · rw [List.mem_singleton.mp last]
      exact ⟨_, _, Function.update_self .., le_refl _⟩
  · refine List.pairwise_append.mpr ⟨dedup.apart, List.pairwise_singleton _ _, ?_⟩
    intro earlier member later last same
    rw [List.mem_singleton.mp last] at same ⊢
    exact dedup.expired free member same
  · exact fun r member => among _ (dedup.answered r member)
  · intro k' call' had
    simp only [Traffic.setSocket, Traffic.setRows, Function.update_apply] at had
    split at had
    · obtain rfl : call = call' := Option.some.inj had
      exact new
    · exact among _ (dedup.handedOn k' call' had)
  · intro k' call' had
    simp only [Traffic.setSocket, Traffic.setRows, Function.update_apply] at had
    split at had
    · obtain rfl : call = call' := Option.some.inj had
      exact received
    · exact dedup.asked k' call' had
  · intro call' member
    rw [List.map_append] at member
    rcases List.mem_append.mp member with old | last
    · exact dedup.known call' old
    · obtain rfl : call' = call := List.mem_singleton.mp last
      exact received

theorem step (dedup : Deduplicated store settings cp s) (k : K) :
    Deduplicated store settings cp (s.step store settings cp k) := by
  unfold Traffic.step
  split
  · exact dedup
  · rename_i call busy
    have received : call ∈ s.received := dedup.asked k call (by rw [busy]; rfl)
    rcases RedisGatewayStore.cachedResponse_cases store s.now cp call.uniqueId s.rows with ⟨-, eq⟩ |
      ⟨e, found, ⟨text, value, eq⟩ | eq⟩
    · rw [eq]
      exact dedup.stays (by rw [busy]; rfl) rfl rfl
    · rw [eq]
      obtain ⟨earlier, member, id⟩ := dedup.found found value
      exact (dedup.duplicate received (Or.inr ⟨earlier, text, rfl, member, id⟩)).closes k
    · rw [eq]
      exact dedup.closes k
  · rename_i call busy
    rcases RedisGatewayStore.claimMessage_cases store s.now cp call.uniqueId
      (settings k).messageDeduplicationSeconds s.rows with eq | eq | ⟨accepted, free, eq⟩
    · rw [eq]
      exact dedup.closes k
    · rw [eq]
      exact dedup.stays (by rw [busy]; rfl) rfl rfl
    · rw [eq]
      exact dedup.grant busy accepted free
  · rename_i call deadline busy
    have received : call ∈ s.received := dedup.asked k call (by rw [busy]; rfl)
    split
    · exact dedup.stays (by rw [busy]; rfl) rfl rfl
    · exact (dedup.duplicate received (Or.inl rfl)).closes k
  · rename_i call deadline wakesAt busy
    have received : call ∈ s.received := dedup.asked k call (by rw [busy]; rfl)
    split
    · rcases RedisGatewayStore.cachedResponse_cases store s.now cp call.uniqueId s.rows with ⟨-, eq⟩ |
        ⟨e, found, ⟨text, value, eq⟩ | eq⟩
      · rw [eq]
        exact dedup.stays (by rw [busy]; rfl) rfl rfl
      · rw [eq]
        obtain ⟨earlier, member, id⟩ := dedup.found found value
        exact (dedup.duplicate received (Or.inr ⟨earlier, text, rfl, member, id⟩)).closes k
      · rw [eq]
        exact dedup.closes k
    · exact dedup
  · exact dedup
  · rename_i call message busy
    have handled : call ∈ s.handled.map Handled.call := dedup.handedOn k call (by rw [busy]; rfl)
    rcases RedisGatewayStore.cacheResponse_cases store s.now cp call.uniqueId message
      (settings k).messageDeduplicationSeconds s.rows with eq | eq
    · rw [eq]
      exact dedup.closes k
    · rw [eq]
      exact (dedup.cache handled message _).closes k

theorem lose (dedup : Deduplicated store settings cp s) (k : K) (carried : Bool) :
    Deduplicated store settings cp (s.lose store settings cp k carried) := by
  unfold Traffic.lose
  split
  · exact dedup.closes k
  · exact dedup.closes k
  · rename_i call busy
    split
    · rcases RedisGatewayStore.claimMessage_cases store s.now cp call.uniqueId
        (settings k).messageDeduplicationSeconds s.rows with eq | eq | ⟨accepted, free, eq⟩
      · rw [eq]
        exact dedup.closes k
      · rw [eq]
        exact dedup.closes k
      · rw [eq]
        have positive : (0 : ℚ) < (settings k).messageDeduplicationSeconds := by exact_mod_cast accepted.1
        exact ((dedup.claim free (le_add_of_nonneg_right positive.le)).setPublished s.published
          (s.failed ++ [call])).closes k
    · exact dedup.closes k
  · rename_i call message busy
    have handled : call ∈ s.handled.map Handled.call := dedup.handedOn k call (by rw [busy]; rfl)
    split
    · rcases RedisGatewayStore.cacheResponse_cases store s.now cp call.uniqueId message
        (settings k).messageDeduplicationSeconds s.rows with eq | eq
      · rw [eq]
        exact dedup.closes k
      · rw [eq]
        exact (dedup.cache handled message _).closes k
    · exact dedup.closes k
  · exact dedup

theorem next (event : Event K) (dedup : Deduplicated store settings cp s) :
    Deduplicated store settings cp (s.next store settings cp event) := by
  cases event with
  | wait =>
    exact ⟨dedup.claimed, dedup.apart, dedup.cached, dedup.answered, dedup.handedOn, dedup.asked, dedup.known,
      dedup.replayed⟩
  | frame _ call =>
    unfold Traffic.next
    simp only
    split
    · refine (dedup.receive call).setSocket ?_ ?_
      · rintro call' ⟨⟩
        exact List.mem_append_right _ (List.mem_singleton_self _)
      · intro call' had
        cases had
    · exact dedup
  | step k => exact dedup.step k
  | lose k carried => exact dedup.lose k carried
  | drop k =>
    simp only [Traffic.next, Traffic.drop]
    split
    · rename_i call busy
      exact (dedup.setPublished s.published (s.failed ++ [call])).closes k
    · exact dedup.closes k
  | emit k message =>
    simp only [Traffic.next, Traffic.emit]
    split
    · rename_i call busy
      exact (dedup.answers busy message).setPublished (s.published ++ [call]) s.failed
    · exact dedup
  | raises k published message =>
    simp only [Traffic.next, Traffic.raises]
    split
    · rename_i call busy
      split
      · exact (dedup.answers busy message).setPublished (s.published ++ [call]) s.failed
      · exact (dedup.answers busy message).setPublished s.published (s.failed ++ [call])
    · exact dedup
  | refuses k message =>
    simp only [Traffic.next, Traffic.refuses]
    split
    · rename_i call busy
      exact dedup.answers busy message
    · exact dedup
  | ignores k =>
    simp only [Traffic.next, Traffic.ignores]
    split
    · exact dedup.closes k
    · exact dedup

theorem reached (events : List (Event K)) (dedup : Deduplicated store settings cp s) :
    Deduplicated store settings cp (Runs.reached (Traffic.next store settings cp) events s) := by
  induction events generalizing s with
  | nil => exact dedup
  | cons event rest ih => exact ih (dedup.next event)

end Sockets

end Deduplicated

/-! ### Every run -/

/-- The library has no two calls with one unique id within the time the first was claimed for. -/
def HandledOnce (settings : K → MessageSettings) (s : Traffic K) : Prop :=
  s.handled.Pairwise fun earlier later =>
    earlier.call.uniqueId = later.call.uniqueId → earlier.claimedUntil settings ≤ later.claimedAt

/-- What was answered without the library: that the call is still being processed, or the response to
an earlier call with its unique id, which is the call itself where no two calls share one. -/
def AnsweredFromEarlier (s : Traffic K) (d : Call × Duplicate) : Prop :=
  d.2 = stillProcessing ∨ ∃ call response, d.2 = .replayed response ∧ (call, response) ∈ s.responses ∧
    call ∈ s.handled.map Handled.call ∧ call.uniqueId = d.1.uniqueId ∧
    ((∀ c ∈ s.received, ∀ c' ∈ s.received, c.uniqueId = c'.uniqueId → c = c') →
      call.action = d.1.action ∧ call.payload = d.1.payload)

theorem Deduplicated.answeredFromEarlier (dedup : Deduplicated store settings cp s) {d : Call × Duplicate}
    (member : d ∈ s.duplicates) : AnsweredFromEarlier s d := by
  obtain ⟨received, replayed⟩ := dedup.replayed d member
  refine replayed.imp_right ?_
  rintro ⟨call, response, reply, cached, id⟩
  have handled := dedup.answered (call, response) cached
  refine ⟨call, response, reply, cached, handled, id, fun unique => ?_⟩
  have same := unique call (dedup.known call handled) d.1 received id
  rw [same]
  exact ⟨rfl, rfl⟩

section Histories
variable [DecidableEq K]

/-- Every unique id is handled once in the time it is claimed for, and what is not handled is
answered from an earlier call with its unique id. -/
theorem calls_deduplicated (store : RedisGatewayStore) (settings : K → MessageSettings) (cp : String) (now : ℚ)
    (events : List (Event K)) :
    HandledOnce settings (Traffic.run store settings cp now events) ∧
      ∀ d ∈ (Traffic.run store settings cp now events).duplicates,
        AnsweredFromEarlier (Traffic.run store settings cp now events) d := by
  have dedup : Deduplicated store settings cp (Traffic.run store settings cp now events) :=
    (Deduplicated.start store settings cp now).reached events
  exact ⟨dedup.apart, fun d => dedup.answeredFromEarlier⟩

end Histories

/-- A charge point that restarts its counter gets the response to a heartbeat for its start. -/
theorem calls_deduplicated_fails : ¬ ∀ (store : RedisGatewayStore) (settings : Nat → MessageSettings) (cp : String)
    (now : ℚ) (events : List (Event Nat)),
    HandledOnce settings (Traffic.run store settings cp now events) ∧
      ∀ d ∈ (Traffic.run store settings cp now events).duplicates, ∀ response, d.2 = .replayed response →
        ∃ call, (call, response) ∈ (Traffic.run store settings cp now events).responses ∧
          call.uniqueId = d.1.uniqueId ∧ call.action = d.1.action ∧ call.payload = d.1.payload := by
  intro faithful
  let heartbeat : Call := ⟨"1", "Heartbeat", "\x7b\x7d"⟩
  let start : Call := ⟨"1", "StartTransaction", "\x7b\"connectorId\":1\x7d"⟩
  let answer : String := "[3,\"1\",\x7b\x7d]"
  let events : List (Event Nat) :=
    [.frame 0 heartbeat, .step 0, .step 0, .emit 0 answer, .step 0, .frame 0 start, .step 0]
  let s := Traffic.run ⟨"vtsa"⟩ (fun _ => ⟨86400, 30⟩) "CP-1" 0 events
  have replay : (start, .replayed answer) ∈ s.duplicates := by decide +kernel
  have once : s.responses = [(heartbeat, answer)] := by decide +kernel
  obtain ⟨call, member, -, action, -⟩ := (faithful _ _ _ _ events).2 _ replay _ rfl
  rw [once] at member
  obtain ⟨rfl, -⟩ := Prod.mk.inj (List.mem_singleton.mp member)
  revert action
  decide

end VtsaCsms.Gateway
