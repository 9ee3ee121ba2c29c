import VtsaCsms.Gateway.Messages

/-!
# Calls whose event was lost

What becomes of the retransmission of a call whose handling ended without its event in the stream.
The claim of the handling stays until it expires, and so does the error it was answered with.
-/
namespace VtsaCsms.Gateway
open Foundation Foundation.Action

variable {K : Type}

namespace Phase

def awaits? : Phase → Option Call
  | waits call _ | sleeps call _ _ => some call
  | _ => none

end Phase

namespace Traffic

/-- A call that was claimed, whose event is not in the stream and which nobody handles. -/
def Lost (s : Traffic K) (call : Call) : Prop :=
  call ∈ s.failed ∧ call ∉ s.published ∧ ∀ k, s.sockets k ≠ .handles call

/-- The event leaves the call lost: it ends the only handling there is, without the event of the call. -/
def Loses (store : RedisGatewayStore) (settings : K → MessageSettings) (cp : String) (s : Traffic K)
    (event : Event K) (call : Call) : Prop :=
  call ∉ s.published ∧ ∃ k, (∀ k', k' ≠ k → s.sockets k' ≠ .handles call) ∧
    ((s.sockets k = .handles call ∧ (event = .drop k ∨ (∃ message, event = .raises k false message))) ∨
      (s.sockets k = .handles call ∧ call ∈ s.failed ∧
        ((∃ message, event = .refuses k message) ∨ event = .ignores k)) ∨
      (s.sockets k = .claims call ∧ event = .lose k true ∧
        Redis.accepts s.now (settings k).messageDeduplicationSeconds ∧
        Redis.find s.now s.rows (store.messageKey cp call.uniqueId) = none))

end Traffic

/-- The socket an event is about. -/
def Event.socket? : Event K → Option K
  | .wait _ _ => none
  | .frame k _ | .step k | .lose k _ | .drop k | .emit k _ | .raises k _ _ | .refuses k _ | .ignores k => some k

section Moves
variable [DecidableEq K] {store : RedisGatewayStore} {settings : K → MessageSettings} {cp : String} {s : Traffic K}
  {call : Call}

open Traffic

/-! ### What an event does to the sockets and the calls -/

variable {k : K}

omit [DecidableEq K] in
theorem socket_ne {k' : K} (other : some k' ≠ some k) : k ≠ k' := fun same => other (congrArg some same.symm)

theorem setSocket_other (s : Traffic K) {k' : K} (phase : Phase) (other : k' ≠ k) :
    (s.setSocket k phase).sockets k' = s.sockets k' :=
  Function.update_of_ne other _ _

theorem sockets_other (event : Event K) (other : event.socket? ≠ some k) :
    (s.next store settings cp event).sockets k = s.sockets k := by
  cases event with
  | wait => rfl
  | frame =>
    unfold Traffic.next
    simp only
    split
    · exact setSocket_other s _ (socket_ne other)
    · rfl
  | step =>
    simp only [Traffic.next, Traffic.step]
    split <;> (try split) <;> (try split) <;> first | rfl | exact setSocket_other _ _ (socket_ne other)
  | lose =>
    simp only [Traffic.next, Traffic.lose]
    split <;> (try split) <;> (try split) <;> first | rfl | exact setSocket_other _ _ (socket_ne other)
  | drop =>
    simp only [Traffic.next, Traffic.drop]
    split <;> exact setSocket_other s _ (socket_ne other)
  | emit =>
    simp only [Traffic.next, Traffic.emit]
    split <;> first | rfl | exact setSocket_other s _ (socket_ne other)
  | raises =>
    simp only [Traffic.next, Traffic.raises]
    split <;> (try split) <;> first | rfl | exact setSocket_other s _ (socket_ne other)
  | refuses =>
    simp only [Traffic.next, Traffic.refuses]
    split <;> first | rfl | exact setSocket_other s _ (socket_ne other)
  | ignores =>
    simp only [Traffic.next, Traffic.ignores]
    split <;> first | rfl | exact setSocket_other s _ (socket_ne other)

/-- The events that may end a handling. -/
def Event.Ends (event : Event K) (k : K) : Prop :=
  event = .drop k ∨ (∃ message, event = .emit k message) ∨
    (∃ published message, event = .raises k published message) ∨
    (∃ message, event = .refuses k message) ∨ event = .ignores k

theorem handles_next (event : Event K) (handles : s.sockets k = .handles call) :
    (s.next store settings cp event).sockets k = .handles call ∨ event.Ends k := by
  by_cases here : event.socket? = some k
  · cases event with
    | wait => cases here
    | frame k' =>
      obtain rfl : k' = k := Option.some.inj here
      left
      simp only [Traffic.next, handles, reduceCtorEq, if_false]
    | step k' =>
      obtain rfl : k' = k := Option.some.inj here
      left
      simp only [Traffic.next, Traffic.step, handles]
    | lose k' =>
      obtain rfl : k' = k := Option.some.inj here
      left
      simp only [Traffic.next, Traffic.lose, handles]
    | drop k' =>
      obtain rfl : k' = k := Option.some.inj here
      exact Or.inr (Or.inl rfl)
    | emit k' message =>
      obtain rfl : k' = k := Option.some.inj here
      exact Or.inr (Or.inr (Or.inl ⟨message, rfl⟩))
    | raises k' published message =>
      obtain rfl : k' = k := Option.some.inj here
      exact Or.inr (Or.inr (Or.inr (Or.inl ⟨published, message, rfl⟩)))
    | refuses k' message =>
      obtain rfl : k' = k := Option.some.inj here
      exact Or.inr (Or.inr (Or.inr (Or.inr (Or.inl ⟨message, rfl⟩))))
    | ignores k' =>
      obtain rfl : k' = k := Option.some.inj here
      exact Or.inr (Or.inr (Or.inr (Or.inr (Or.inr rfl))))
  · left
    rw [sockets_other event here]
    exact handles

theorem published_next (event : Event K) : s.published ⊆ (s.next store settings cp event).published := by
  cases event with
  | wait => exact List.Subset.refl _
  | frame =>
    unfold Traffic.next
    simp only
    split <;> exact List.Subset.refl _
  | step =>
    simp only [Traffic.next, Traffic.step]
    split <;> (try split) <;> (try split) <;> exact List.Subset.refl _
  | lose =>
    simp only [Traffic.next, Traffic.lose]
    split <;> (try split) <;> (try split) <;> exact List.Subset.refl _
  | drop =>
    simp only [Traffic.next, Traffic.drop]
    split <;> exact List.Subset.refl _
  | emit =>
    simp only [Traffic.next, Traffic.emit]
    split
    · exact List.subset_append_left _ _
    · exact List.Subset.refl _
  | raises =>
    simp only [Traffic.next, Traffic.raises]
    split
    · split
      · exact List.subset_append_left _ _
      · exact List.Subset.refl _
    · exact List.Subset.refl _
  | refuses =>
    simp only [Traffic.next, Traffic.refuses]
    split <;> exact List.Subset.refl _
  | ignores =>
    simp only [Traffic.next, Traffic.ignores]
    split <;> exact List.Subset.refl _

/-- A call fails by a handling that ends before its event, or by a claim that nobody learns of. -/
theorem failed_next (event : Event K) (failed : call ∈ (s.next store settings cp event).failed) :
    call ∈ s.failed ∨ ∃ k,
      (s.sockets k = .handles call ∧ (event = .drop k ∨ ∃ message, event = .raises k false message)) ∨
      (s.sockets k = .claims call ∧ event = .lose k true ∧
        Redis.accepts s.now (settings k).messageDeduplicationSeconds ∧
        Redis.find s.now s.rows (store.messageKey cp call.uniqueId) = none) := by
  cases event with
  | wait => exact Or.inl failed
  | frame k call' =>
    left
    unfold Traffic.next at failed
    simp only at failed
    split at failed <;> exact failed
  | step =>
    left
    simp only [Traffic.next, Traffic.step] at failed
    split at failed <;> (try split at failed) <;> (try split at failed) <;> exact failed
  | lose k carried =>
    simp only [Traffic.next, Traffic.lose] at failed
    split at failed
    · exact Or.inl failed
    · exact Or.inl failed
    · rename_i call' claims
      split at failed
      · rename_i carried'
        subst carried'
        rcases RedisGatewayStore.claimMessage_cases store s.now cp call'.uniqueId
          (settings k).messageDeduplicationSeconds s.rows with eq | eq | ⟨accepted, free, eq⟩
        · rw [eq] at failed
          exact Or.inl failed
        · rw [eq] at failed
          exact Or.inl failed
        · rw [eq] at failed
          refine (List.mem_append.mp failed).imp_right fun last => ?_
          obtain rfl : call = call' := List.mem_singleton.mp last
          exact ⟨k, Or.inr ⟨claims, rfl, accepted, free⟩⟩
      · exact Or.inl failed
    · split at failed
      · split at failed <;> exact Or.inl failed
      · exact Or.inl failed
    · exact Or.inl failed
  | drop k =>
    simp only [Traffic.next, Traffic.drop] at failed
    split at failed
    · rename_i call' handles
      refine (List.mem_append.mp failed).imp_right fun last => ?_
      obtain rfl : call = call' := List.mem_singleton.mp last
      exact ⟨k, Or.inl ⟨handles, Or.inl rfl⟩⟩
    · exact Or.inl failed
  | emit =>
    left
    simp only [Traffic.next, Traffic.emit] at failed
    split at failed <;> exact failed
  | raises k published message =>
    simp only [Traffic.next, Traffic.raises] at failed
    split at failed
    · rename_i call' handles
      cases published with
      | true => exact Or.inl failed
      | false =>
        refine (List.mem_append.mp failed).imp_right fun last => ?_
        obtain rfl : call = call' := List.mem_singleton.mp last
        exact ⟨k, Or.inl ⟨handles, Or.inr ⟨message, rfl⟩⟩⟩
    · exact Or.inl failed
  | refuses =>
    left
    simp only [Traffic.next, Traffic.refuses] at failed
    split at failed <;> exact failed
  | ignores =>
    left
    simp only [Traffic.next, Traffic.ignores] at failed
    split at failed <;> exact failed

theorem lost_next (event : Event K) (lost : Lost (s.next store settings cp event) call) :
    Lost s call ∨ Loses store settings cp s event call := by
  obtain ⟨failed, unpublished, nobody⟩ := lost
  have unpublished' : call ∉ s.published := fun member => unpublished (published_next event member)
  have others : ∀ k, event.socket? = some k → ∀ k', k' ≠ k → s.sockets k' ≠ .handles call := by
    intro k here k' other handles
    have untouched : event.socket? ≠ some k' := fun same => other (Option.some.inj (same.symm.trans here))
    exact nobody k' ((sockets_other event untouched).trans handles)
  rcases failed_next event failed with before | ⟨k, ⟨handles, ends⟩ | ⟨claims, rfl, accepted, free⟩⟩
  · by_cases handled : ∃ k, s.sockets k = .handles call
    · right
      obtain ⟨k, handles⟩ := handled
      rcases handles_next event handles with still | ends
      · exact absurd still (nobody k)
      rcases ends with rfl | ⟨message, rfl⟩ | ⟨published, message, rfl⟩ | ⟨message, rfl⟩ | rfl
      · exact ⟨unpublished', k, others k rfl, Or.inl ⟨handles, Or.inl rfl⟩⟩
      · refine absurd ?_ unpublished
        simp only [Traffic.next, Traffic.emit, handles]
        exact List.mem_append_right _ (List.mem_singleton_self _)
      · cases published with
        | true =>
          refine absurd ?_ unpublished
          simp only [Traffic.next, Traffic.raises, handles, if_true]
          exact List.mem_append_right _ (List.mem_singleton_self _)
        | false => exact ⟨unpublished', k, others k rfl, Or.inl ⟨handles, Or.inr ⟨message, rfl⟩⟩⟩
      · exact ⟨unpublished', k, others k rfl, Or.inr (Or.inl ⟨handles, before, Or.inl ⟨message, rfl⟩⟩)⟩
      · exact ⟨unpublished', k, others k rfl, Or.inr (Or.inl ⟨handles, before, Or.inr rfl⟩)⟩
    · exact Or.inl ⟨before, unpublished', fun k handles => handled ⟨k, handles⟩⟩
  · right
    refine ⟨unpublished', k, others k ?_, Or.inl ⟨handles, ends⟩⟩
    rcases ends with rfl | ⟨message, rfl⟩ <;> rfl
  · exact Or.inr ⟨unpublished', k, others k rfl, Or.inr (Or.inr ⟨claims, rfl, accepted, free⟩)⟩

theorem lost_of_loses {event : Event K} (loses : Loses store settings cp s event call) :
    Lost (s.next store settings cp event) call := by
  obtain ⟨unpublished, k, others, cases'⟩ := loses
  -- the other sockets do not handle the call, and this one stops
  have nobody : ∀ event : Event K, event.socket? = some k →
      (s.next store settings cp event).sockets k ≠ .handles call →
      ∀ k', (s.next store settings cp event).sockets k' ≠ .handles call := by
    intro event here stops k'
    by_cases same : k' = k
    · rw [same]
      exact stops
    · rw [sockets_other event (by rw [here]; exact fun eq => same (Option.some.inj eq).symm)]
      exact others k' same
  rcases cases' with ⟨handles, rfl | ⟨message, rfl⟩⟩ | ⟨handles, failed, ⟨message, rfl⟩ | rfl⟩ |
    ⟨claims, rfl, accepted, free⟩
  · refine ⟨?_, ?_, nobody _ rfl ?_⟩ <;> simp only [Traffic.next, Traffic.drop, handles]
    · exact List.mem_append_right _ (List.mem_singleton_self _)
    · exact unpublished
    · simp [setSocket]
  · refine ⟨?_, ?_, nobody _ rfl ?_⟩ <;>
      simp only [Traffic.next, Traffic.raises, handles, Bool.false_eq_true, if_false]
    · exact List.mem_append_right _ (List.mem_singleton_self _)
    · exact unpublished
    · simp [setSocket]
  · refine ⟨?_, ?_, nobody _ rfl ?_⟩ <;> simp only [Traffic.next, Traffic.refuses, handles]
    · exact failed
    · exact unpublished
    · simp [setSocket]
  · refine ⟨?_, ?_, nobody _ rfl ?_⟩ <;> simp only [Traffic.next, Traffic.ignores, handles]
    · exact failed
    · exact unpublished
    · simp [setSocket]
  · have carried := RedisGatewayStore.claimMessage_free accepted free
    refine ⟨?_, ?_, nobody _ rfl ?_⟩ <;> simp only [Traffic.next, Traffic.lose, claims, if_true, carried]
    · exact List.mem_append_right _ (List.mem_singleton_self _)
    · exact unpublished
    · simp [setSocket]

theorem awaits_step (awaits : ((s.step store settings cp k).sockets k).awaits? = some call) :
    (s.sockets k).awaits? = some call ∨
      s.sockets k = .claims call ∧ ¬ (Redis.accepts s.now (settings k).messageDeduplicationSeconds ∧
        Redis.find s.now s.rows (store.messageKey cp call.uniqueId) = none) := by
  unfold Traffic.step at awaits
  split at awaits
  · exact Or.inl awaits
  · split at awaits <;> simp [setSocket, Phase.awaits?] at awaits
  · rename_i call' claims
    split at awaits
    · simp [setSocket, Phase.awaits?] at awaits
    · rename_i rows answered
      simp only [setSocket, setRows, Function.update_self, Phase.awaits?, Option.some.injEq] at awaits
      subst awaits
      refine Or.inr ⟨claims, ?_⟩
      rintro ⟨accepted, free⟩
      rw [RedisGatewayStore.claimMessage_free accepted free] at answered
      cases answered
    · simp [setSocket, Phase.awaits?] at awaits
  · rename_i call' deadline waits
    split at awaits
    · left
      simpa [setSocket, Phase.awaits?, waits] using awaits
    · simp [setSocket, Phase.awaits?] at awaits
  · rename_i call' deadline wakesAt sleeps
    split at awaits
    · split at awaits
      · left
        simpa [setSocket, Phase.awaits?, sleeps] using awaits
      · simp [setSocket, Phase.awaits?] at awaits
      · simp [setSocket, Phase.awaits?] at awaits
    · exact Or.inl awaits
  · exact Or.inl awaits
  · split at awaits <;> simp [setSocket, Phase.awaits?] at awaits

theorem awaits_next (event : Event K)
    (awaits : ((s.next store settings cp event).sockets k).awaits? = some call) :
    (s.sockets k).awaits? = some call ∨
      event = .step k ∧ s.sockets k = .claims call ∧ ¬ (Redis.accepts s.now (settings k).messageDeduplicationSeconds ∧
        Redis.find s.now s.rows (store.messageKey cp call.uniqueId) = none) := by
  by_cases here : event.socket? = some k
  · cases event with
    | wait => cases here
    | frame k' call' =>
      obtain rfl : k' = k := Option.some.inj here
      left
      unfold Traffic.next at awaits
      simp only at awaits
      split at awaits
      · simp [setSocket, Phase.awaits?] at awaits
      · exact awaits
    | step k' =>
      obtain rfl : k' = k := Option.some.inj here
      exact (awaits_step awaits).imp_right fun taken => ⟨rfl, taken⟩
    | lose k' =>
      obtain rfl : k' = k := Option.some.inj here
      left
      simp only [Traffic.next, Traffic.lose] at awaits
      split at awaits <;> (try split at awaits) <;> (try split at awaits) <;>
        first | exact awaits | simp [setSocket, Phase.awaits?] at awaits
    | drop k' =>
      obtain rfl : k' = k := Option.some.inj here
      simp only [Traffic.next, Traffic.drop] at awaits
      split at awaits <;> simp [setSocket, Phase.awaits?] at awaits
    | emit k' =>
      obtain rfl : k' = k := Option.some.inj here
      left
      simp only [Traffic.next, Traffic.emit] at awaits
      split at awaits <;> first | exact awaits | simp [setSocket, Phase.awaits?] at awaits
    | raises k' =>
      obtain rfl : k' = k := Option.some.inj here
      left
      simp only [Traffic.next, Traffic.raises] at awaits
      split at awaits <;> (try split at awaits) <;>
        first | exact awaits | simp [setSocket, Phase.awaits?] at awaits
    | refuses k' =>
      obtain rfl : k' = k := Option.some.inj here
      left
      simp only [Traffic.next, Traffic.refuses] at awaits
      split at awaits <;> first | exact awaits | simp [setSocket, Phase.awaits?] at awaits
    | ignores k' =>
      obtain rfl : k' = k := Option.some.inj here
      left
      simp only [Traffic.next, Traffic.ignores] at awaits
      split at awaits <;> first | exact awaits | simp [setSocket, Phase.awaits?] at awaits
  · rw [sockets_other event here] at awaits
    exact Or.inl awaits

/-- A look at the cache goes on to the claim where the cache has nothing. -/
theorem step_looksUp (looksUp : s.sockets k = .looksUp call) :
    (s.step store settings cp k).sockets k = .claims call ↔
      Redis.find s.now s.rows (store.responseKey cp call.uniqueId) = none := by
  unfold Traffic.step
  rw [looksUp]
  rcases RedisGatewayStore.cachedResponse_cases store s.now cp call.uniqueId s.rows with ⟨missing, eq⟩ |
    ⟨e, found, ⟨text, -, eq⟩ | eq⟩
  · simp [eq, missing, setSocket]
  · simp [eq, found, setSocket]
  · simp [eq, found, setSocket]

/-- A claim hands the call to the library where nobody has claimed it. -/
theorem step_claims (claims : s.sockets k = .claims call) :
    (s.step store settings cp k).sockets k = .handles call ↔
      Redis.accepts s.now (settings k).messageDeduplicationSeconds ∧
        Redis.find s.now s.rows (store.messageKey cp call.uniqueId) = none := by
  unfold Traffic.step
  rw [claims]
  constructor
  · intro handles
    rcases RedisGatewayStore.claimMessage_cases store s.now cp call.uniqueId
      (settings k).messageDeduplicationSeconds s.rows with eq | eq | ⟨accepted, free, -⟩
    · simp [eq, setSocket] at handles
    · simp [eq, setSocket] at handles
    · exact ⟨accepted, free⟩
  · rintro ⟨accepted, free⟩
    simp [RedisGatewayStore.claimMessage_free accepted free, setSocket]

end Moves

/-! ### Every run -/

section Histories
variable [DecidableEq K] (store : RedisGatewayStore) (settings : K → MessageSettings) (cp : String)

/-- The retransmission of a lost call is not answered from the cache and not refused its claim. -/
def ProcessedAgain (event : Event K) (s : Traffic K) : Prop :=
  ∀ k call, event = .step k → s.Lost call →
    (s.sockets k = .looksUp call → (s.next store settings cp event).sockets k = .claims call) ∧
      (s.sockets k = .claims call → (s.next store settings cp event).sockets k = .handles call)

/-- No retransmission waits for the response to a lost call. -/
def NobodyWaits (s : Traffic K) : Prop := ∀ k call, (s.sockets k).awaits? = some call → ¬ s.Lost call

/-- The retransmission of a lost call comes when what was cached for it and the claim of its handling have
expired, and none waits at the moment a call is lost. -/
def ComesAfterExpiry (event : Event K) (s : Traffic K) : Prop :=
  (∀ k call, event = .step k → s.Lost call →
    (s.sockets k = .looksUp call → Redis.find s.now s.rows (store.responseKey cp call.uniqueId) = none) ∧
      (s.sockets k = .claims call → Redis.accepts s.now (settings k).messageDeduplicationSeconds ∧
        Redis.find s.now s.rows (store.messageKey cp call.uniqueId) = none)) ∧
    ∀ call, s.Loses store settings cp event call → ∀ k, (s.sockets k).awaits? ≠ some call

variable {store settings cp}

theorem processedAgain_iff (event : Event K) (s : Traffic K) :
    ProcessedAgain store settings cp event s ↔ ∀ k call, event = .step k → s.Lost call →
      (s.sockets k = .looksUp call → Redis.find s.now s.rows (store.responseKey cp call.uniqueId) = none) ∧
        (s.sockets k = .claims call → Redis.accepts s.now (settings k).messageDeduplicationSeconds ∧
          Redis.find s.now s.rows (store.messageKey cp call.uniqueId) = none) := by
  constructor
  · rintro again k call rfl lost
    obtain ⟨looks, claims⟩ := again k call rfl lost
    exact ⟨fun stands => (step_looksUp stands).mp (looks stands),
      fun stands => (step_claims stands).mp (claims stands)⟩
  · rintro expired k call rfl lost
    obtain ⟨looks, claims⟩ := expired k call rfl lost
    exact ⟨fun stands => (step_looksUp stands).mpr (looks stands),
      fun stands => (step_claims stands).mpr (claims stands)⟩

theorem nobodyWaits_next {event : Event K} {s : Traffic K} (nobody : NobodyWaits s)
    (expired : ComesAfterExpiry store settings cp event s) : NobodyWaits (s.next store settings cp event) := by
  intro k call awaits lost
  rcases awaits_next event awaits with waited | ⟨rfl, claims, taken⟩
  · rcases lost_next event lost with before | loses
    · exact nobody k call waited before
    · exact expired.2 call loses k waited
  · rcases lost_next _ lost with before | ⟨-, k', -, loses⟩
    · exact taken ((expired.1 k call rfl before).2 claims)
    · -- a socket that goes on loses no call
      rcases loses with ⟨-, event | ⟨_, event⟩⟩ | ⟨-, -, ⟨_, event⟩ | event⟩ | ⟨-, event, -⟩ <;> cases event

theorem nobody_of_loses {event : Event K} {s : Traffic K} {call : Call}
    (later : NobodyWaits (s.next store settings cp event)) (loses : s.Loses store settings cp event call) (k : K) :
    (s.sockets k).awaits? ≠ some call := by
  intro waits
  refine later k call ?_ (lost_of_loses loses)
  -- the socket that waits is not the one that loses the call
  obtain ⟨-, k', -, cases'⟩ := loses
  have other : k' ≠ k := by
    rintro rfl
    rcases cases' with ⟨handles, -⟩ | ⟨handles, -⟩ | ⟨claims, -⟩
    · rw [handles] at waits
      cases waits
    · rw [handles] at waits
      cases waits
    · rw [claims] at waits
      cases waits
  have about : event.socket? = some k' := by
    rcases cases' with ⟨-, rfl | ⟨_, rfl⟩⟩ | ⟨-, -, ⟨_, rfl⟩ | rfl⟩ | ⟨-, rfl, -⟩ <;> rfl
  rw [sockets_other event (by rw [about]; exact fun eq => other (Option.some.inj eq))]
  exact waits

/-- Every retransmission of a lost call is processed again exactly when each comes after what its
handling left has expired. -/
theorem failed_processed_again_iff (store : RedisGatewayStore) (settings : K → MessageSettings) (cp : String)
    (now : ℚ) (events : List (Event K)) :
    (Runs.Met (Traffic.next store settings cp) (ProcessedAgain store settings cp) events (Traffic.start now) ∧
        Runs.Throughout (Traffic.next store settings cp) NobodyWaits events (Traffic.start now)) ↔
      Runs.Met (Traffic.next store settings cp) (ComesAfterExpiry store settings cp) events (Traffic.start now) := by
  refine Runs.met_throughout_iff_met (Q := fun _ => True) (fun _ _ _ => trivial) ?_ events _ trivial ?_
  · intro event s _ nobody
    constructor
    · rintro ⟨again, later⟩
      exact ⟨(processedAgain_iff event s).mp again, fun call loses k => nobody_of_loses later loses k⟩
    · intro expired
      exact ⟨(processedAgain_iff event s).mpr expired.1, nobodyWaits_next nobody expired⟩
  · intro k call awaits
    cases awaits

end Histories

/-- The error of a failed `emit` is replayed to the retransmission, which comes on another socket. -/
theorem failed_processed_again_fails : ¬ ∀ (store : RedisGatewayStore) (settings : Bool → MessageSettings)
    (cp : String) (now : ℚ) (events : List (Event Bool)),
    Runs.Met (Traffic.next store settings cp) (ProcessedAgain store settings cp) events (Traffic.start now) ∧
      Runs.Throughout (Traffic.next store settings cp) NobodyWaits events (Traffic.start now) := by
  intro always
  let stop : Call := ⟨"7", "StopTransaction", "\x7b\"transactionId\":1,\"meterStop\":900\x7d"⟩
  obtain ⟨⟨-, -, -, -, -, -, last, -⟩, -⟩ := always ⟨"vtsa"⟩ (fun _ => ⟨86400, 30⟩) "CP-1" 0
    [.frame false stop, .step false, .step false, .raises false false "[4,\"7\",\"InternalError\",\"\",\x7b\x7d]",
      .step false, .frame true stop, .step true]
  have lost := last true stop rfl ⟨(by decide +kernel), (by decide +kernel), (by decide +kernel)⟩
  have handedOn := lost.1 (by decide +kernel)
  revert handedOn
  decide +kernel

end VtsaCsms.Gateway
