import VtsaCsms.Mobile.RequestQueue

/-!
# Every request is answered

How often a request is sent, and when all requests come to an end: an error handler that waits for
an error queued behind it, or that has thrown, is never over, and no error after it is handled.
-/
namespace VtsaCsms.Mobile
open Foundation

namespace RequestQueue
variable {q q' : RequestQueue} {id : Nat} {f f' : Fetch} {e : DioException} {a : HandlerWait}

/-! ### A handler sends a request again once -/

/-- Which request is a send of which, and how it is made. -/
def keys (q : RequestQueue) : List (Nat × RequestOptions) := q.fetches.map fun f => (f.call, f.options)

def originals (keys : List (Nat × RequestOptions)) (id : Nat) : Nat :=
  keys.countP fun k => k.1 = id && !k.2.repeated

def copies (keys : List (Nat × RequestOptions)) (id : Nat) : Nat :=
  keys.countP fun k => k.1 = id && k.2.repeated

structure Keyed (keys : List (Nat × RequestOptions)) : Prop where
  own : ∀ (id : Nat) k, keys[id]? = some k → k.2.repeated = false → k.1 = id
  inside : ∀ k ∈ keys, k.1 < keys.length
  originals : ∀ id, originals keys id ≤ 1
  copies : ∀ id, copies keys id ≤ 1
  cause : ∀ k ∈ keys, k.2.repeated = true → ∃ options, keys[k.1]? = some (k.1, options) ∧
    k.2.method = options.method ∧ (k.2.authRetried = true ∨ ApiClient.isSafe options.method = true)

/-- What handlers have not sent again yet. -/
structure Sendable (q : RequestQueue) : Prop where
  keyed : Keyed q.keys
  unsent : ∀ (id : Nat) f, q.fetches[id]? = some f → f.options.repeated = false → 2 ≤ f.stage.left →
    copies q.keys id = 0
  safe : ∀ (id : Nat) f e, q.fetches[id]? = some f → f.stage = .handled e .delay →
    ApiClient.isSafe f.options.method = true

theorem keys_set (found : q.fetches[id]? = some f) (f' : Fetch) (same : f'.options = f.options ∧ f'.call = f.call)
    (errors : List Nat) (running : Option Nat) :
    keys ⟨q.fetches.set id f', errors, running⟩ = q.keys := by
  unfold keys
  rw [List.map_set, same.1, same.2]
  have there : (q.fetches.map fun f => (f.call, f.options))[id]? = some (f.call, f.options) := by
    rw [List.getElem?_map, found]
    rfl
  rw [List.getElem?_eq_some_iff] at there
  obtain ⟨inside, same'⟩ := there
  rw [← same', List.set_getElem_self]

theorem keys_append (f : Fetch) (fetches : List Fetch) (errors : List Nat) (running : Option Nat) :
    keys ⟨fetches ++ [f], errors, running⟩ = keys ⟨fetches, errors, running⟩ ++ [(f.call, f.options)] := by
  simp [keys]

theorem keys_found (found : q.fetches[id]? = some f) : q.keys[id]? = some (f.call, f.options) := by
  rw [keys, List.getElem?_map, found]
  rfl

variable {keys : List (Nat × RequestOptions)} {options : RequestOptions}

theorem copies_outside (keyed : Keyed keys) (outside : keys.length ≤ id) :
    originals keys id = 0 ∧ copies keys id = 0 := by
  unfold originals copies
  constructor
  all_goals
    rw [List.countP_eq_zero]
    intro k there
    have less := keyed.inside k there
    simp
    omega

theorem Keyed.called (keyed : Keyed keys)
    (fresh : options.repeated = false) : Keyed (keys ++ [(keys.length, options)]) := by
  have outside := copies_outside keyed (Nat.le_refl _)
  obtain ⟨own, inside, once, again, cause⟩ := keyed
  constructor
  · intro id k found fresh'
    grind
  · grind
  · intro id
    have := once id
    unfold RequestQueue.originals at *
    grind
  · intro id
    have := again id
    unfold RequestQueue.copies at *
    grind
  · grind

theorem Keyed.again {options' : RequestOptions} (keyed : Keyed keys)
    (found : keys[id]? = some (id, options)) (unsent : RequestQueue.copies keys id = 0)
    (repeated : options'.repeated = true) (method : options'.method = options.method)
    (cause : options'.authRetried = true ∨ ApiClient.isSafe options.method = true) :
    Keyed (keys ++ [(id, options')]) := by
  have inside' := (List.getElem?_eq_some_iff.mp found).1
  obtain ⟨own, inside, once, again, cause'⟩ := keyed
  constructor
  · grind
  · grind
  · intro id
    have := once id
    unfold RequestQueue.originals at *
    grind
  · intro id'
    have := again id'
    unfold RequestQueue.copies at *
    grind
  · grind

theorem copies_append (keys : List (Nat × RequestOptions)) (k : Nat × RequestOptions) (id : Nat) :
    copies (keys ++ [k]) id = copies keys id + if k.1 = id ∧ k.2.repeated = true then 1 else 0 := by
  simp [copies, List.countP_append, List.countP_singleton]

theorem getElem?_append_one {α : Type} {l : List α} {x y : α} {i : Nat} (found : (l ++ [x])[i]? = some y) :
    l[i]? = some y ∨ i = l.length ∧ y = x := by
  grind

/-- A request that is not sent again: its stage may change as long as no more is left of it. -/
theorem Sendable.set (sendable : q.Sendable) (found : q.fetches[id]? = some f) (f' : Fetch)
    (same : f'.options = f.options ∧ f'.call = f.call) (less : f'.stage.left ≤ f.stage.left ∨ f'.options.repeated = true)
    (safe : ∀ e, f'.stage = .handled e .delay → ApiClient.isSafe f.options.method = true)
    (errors : List Nat) (running : Option Nat) : Sendable ⟨q.fetches.set id f', errors, running⟩ := by
  have kept := keys_set found f' same errors running
  have other := getElem?_set_found found f'
  obtain ⟨keyed, unsent, safe'⟩ := sendable
  refine ⟨by rw [kept]; exact keyed, ?_, ?_⟩
  · intro j g there fresh more
    rw [kept]
    rw [other] at there
    split at there
    · rename_i here
      cases there
      rcases less with less | again
      · exact here ▸ unsent id f found (by rw [← same.1]; exact fresh) (by omega)
      · rw [again] at fresh
        cases fresh
    · exact unsent j g there fresh more
  · intro j g e there stage
    rw [other] at there
    split at there
    · cases there
      rw [same.1]
      exact safe e stage
    · exact safe' j g e there stage

theorem Sendable.works (sendable : q.Sendable) (orderly : q.Orderly) (works : Works q q') : q'.Sendable := by
  cases works with
  | @pass id f f' found same before after' less =>
    refine sendable.set found f' same ?_ ?_ _ _
    · unfold Fetch.left at less
      rw [same.1] at less ⊢
      cases again : f.options.repeated with
      | true => exact .inr rfl
      | false => exact .inl (by simp only [again, Bool.false_eq_true, if_false] at less; omega)
    · intro e handled
      rw [handled] at after'
      simp [FetchStage.isDone] at after'
  | @fail id f e found sent =>
    exact sendable.set found { f with stage := .queued e } ⟨rfl, rfl⟩ (.inl (by simp [sent, FetchStage.left]))
      (fun _ h => by cases h) _ _
  | @serve id rest f e a idle first found waiting alone =>
    refine sendable.set found { f with stage := .handled e a } ⟨rfl, rfl⟩ (.inl ?_) ?_ _ _
    · rcases alone with ⟨rfl, -⟩ | ⟨rfl, -⟩ <;> simp [waiting, FetchStage.left, HandlerWait.left]
    · intro e' handled
      rcases alone with ⟨rfl, -⟩ | ⟨rfl, safe⟩
      · cases handled
      · exact safe
  | @decline id rest f e idle first found waiting =>
    exact sendable.set found { f with stage := .done (.failure e) } ⟨rfl, rfl⟩ (.inl (by simp [FetchStage.left]))
      (fun _ h => by cases h) _ _
  | @goOn id f e a a' handles heard alone safe refreshing less =>
    refine sendable.set handles.found { f with stage := .handled e a' } ⟨rfl, rfl⟩ (.inl ?_) ?_ _ _
    · simp only [handles.stage, FetchStage.left]
      omega
    · intro e' handled
      cases handled
      exact safe rfl
  | @finish id f e a outcome handles heard left =>
    exact sendable.set handles.found { f with stage := .done outcome } ⟨rfl, rfl⟩ (.inl (by simp [FetchStage.left]))
      (fun _ h => by cases h) _ _
  | @again id f e a a' options handles alone four awaits one repeated method cause =>
    have fresh := orderly.fresh handles
    have none' := sendable.unsent id f handles.found fresh (by simp [handles.stage, FetchStage.left, four])
    have found := keys_found handles.found
    have own : f.call = id := sendable.keyed.own id _ found fresh
    have safe : options.authRetried = true ∨ ApiClient.isSafe f.options.method = true := by
      rcases cause with refreshed | rfl
      · exact .inl refreshed
      · exact .inr (sendable.safe id f e handles.found handles.stage)
    have moved : Sendable ⟨q.fetches.set id { f with stage := .handled e a' }, q.errors, some id⟩ := by
      refine sendable.set handles.found { f with stage := .handled e a' } ⟨rfl, rfl⟩ (.inl ?_) ?_ _ _
      · simp only [handles.stage, FetchStage.left]
        omega
      · intro e' handled
        cases handled
        cases awaits
    have kept := keys_set handles.found { f with stage := .handled e a' } ⟨rfl, rfl⟩ q.errors (some id)
    obtain ⟨keyed, unsent, safe'⟩ := moved
    rw [kept] at keyed unsent
    refine ⟨?_, ?_, ?_⟩
    · rw [keys_append, kept, own]
      exact keyed.again (by rw [found, own]) none' repeated method safe
    · intro j g there fresh' more
      rw [keys_append, kept, own, copies_append, if_neg]
      · rcases getElem?_append_one there with old | ⟨-, rfl⟩
        · exact unsent j g old fresh' more
        · exact absurd repeated (by simp [fresh'])
      · rintro ⟨rfl, -⟩
        rcases getElem?_append_one there with old | ⟨-, rfl⟩
        · rw [getElem?_set_found handles.found, if_pos rfl] at old
          cases old
          simp only [FetchStage.left] at more
          omega
        · exact absurd repeated (by simp [fresh'])
    · intro j g e' there stage
      rcases getElem?_append_one there with old | ⟨-, rfl⟩
      · exact safe' j g e' old stage
      · cases stage

theorem Sendable.called (sendable : q.Sendable) (fresh : options.repeated = false) :
    Sendable { q with fetches := q.fetches ++ [{ options := options, call := q.fetches.length }] } := by
  obtain ⟨keyed, unsent, safe⟩ := sendable
  have appended := keys_append { options := options, call := q.fetches.length } q.fetches q.errors q.running
  have length : q.keys.length = q.fetches.length := List.length_map ..
  refine ⟨?_, ?_, ?_⟩
  · rw [appended, ← length]
    exact keyed.called fresh
  · intro id f there fresh' more
    rw [appended, copies_append, if_neg (by simp [fresh])]
    rcases getElem?_append_one there with old | ⟨rfl, -⟩
    · exact unsent id f old fresh' more
    · exact (copies_outside keyed (by omega)).2
  · intro id f e there stage
    rcases getElem?_append_one there with old | ⟨-, rfl⟩
    · exact safe id f e old stage
    · cases stage

/-! ### How often a request is sent -/

def sends (q : RequestQueue) (id : Nat) : Nat :=
  q.fetches.countP fun f => f.call = id && f.sentWith.isSome

/-- Three sends of a safe method, one of any other, and one more after a refresh. -/
def budget (q : RequestQueue) (id : Nat) (f : Fetch) : Nat :=
  (if ApiClient.isSafe f.options.method then 3 else 1) +
    if q.fetches.any fun g => g.call = id && g.options.authRetried then 1 else 0

theorem sends_le (q : RequestQueue) (id : Nat) : q.sends id ≤ originals q.keys id + copies q.keys id := by
  unfold sends originals copies keys
  rw [List.countP_map, List.countP_map]
  induction q.fetches with
  | nil => simp
  | cons f _ ih =>
    simp only [List.countP_cons, Function.comp_apply]
    by_cases own : f.call = id
    · rcases Bool.eq_false_or_eq_true f.options.repeated with again | again <;>
        simp only [own, again, decide_true, Bool.true_and, Bool.not_true, Bool.not_false, if_true, Bool.false_eq_true,
          if_false] <;> split <;> omega
    · simpa [own] using ih

theorem Keyed.sends_le_budget (keyed : Keyed q.keys) (found : q.fetches[id]? = some f) : q.sends id ≤ q.budget id f := by
  have most := sends_le q id
  have once := keyed.originals id
  have again := keyed.copies id
  unfold budget
  rcases Nat.eq_zero_or_pos (RequestQueue.copies q.keys id) with none' | some'
  · split <;> omega
  · obtain ⟨k, there, sent⟩ := List.countP_pos_iff.mp some'
    simp only [Bool.and_eq_true, decide_eq_true_eq] at sent
    obtain ⟨options, original, -, cause⟩ := keyed.cause k there sent.2
    obtain ⟨-, rfl⟩ : f.call = id ∧ f.options = options := by
      rw [sent.1, keys_found found] at original
      simpa using original
    rcases cause with refreshed | safe
    · obtain ⟨g, member, rfl⟩ := List.mem_map.mp there
      have any' : (q.fetches.any fun g => g.call = id && g.options.authRetried) = true :=
        List.any_eq_true.mpr ⟨g, member, by simpa using ⟨sent.1, refreshed⟩⟩
      rw [any']
      split <;> simp <;> omega
    · rw [safe]
      simp only [if_true]
      omega

end RequestQueue

namespace ApiClient
variable {s : ApiClient} {id child : Nat} {f g : Fetch} {e : DioException} {a : HandlerWait} {i : ApiStep}

/-! ### What may never end -/

/-- The running error handler calls `next`, `resolve` or `reject` at last: it has not thrown, and what it awaits is
not queued behind it. -/
structure Served (s : ApiClient) : Prop where
  attended : ∀ id f e, s.handling ≠ some (id, f, e, .nothing)
  unblocked : ∀ id f e a child, s.handling = some (id, f, e, a) → a.fetch = some child → child ∉ s.errors

/-- All requests come to an end: none is sent too often, and each that is not done yet can go on. -/
structure Live (s : ApiClient) : Prop extends Served s where
  sends : ∀ (id : Nat) f, s.fetches[id]? = some f → f.options.repeated = false →
    s.toRequestQueue.sends id ≤ s.toRequestQueue.budget id f
  moving : ∀ (id : Nat) f, s.fetches[id]? = some f → f.stage.isDone = false →
    ∃ i, i.isAnswer = true ∧ s.next i ≠ s

/-- The token store takes what the platform has answered. -/
def Usable (s : ApiClient) : RefreshReply → Prop
  | .failed | .empty => True
  | .malformed => False
  | .data _ => s.locked = false

/-- A request that an error handler has sent again is answered by a response, and so is a refresh that is not
refused. -/
def Answered : ApiStep → ApiClient → Prop
  | .replied id (.failure _), s => ∀ f, s.fetches[id]? = some f → f.stage = .sent → f.options.repeated = false
  | .refreshed reply, s => ∀ id f e current, s.handling = some (id, f, e, .refresh current) → Usable s reply
  | .answered, s => ∀ id f e child g error, s.handling = some (id, f, e, .replay child) →
      s.fetches[child]? = some g → g.stage ≠ .done (.failure error)
  | _, _ => True

/-! ### One step -/

theorem served_of_idle (idle : s.running = none) : Served s := by
  have none' : s.handling = none := by unfold handling; rw [idle]
  constructor
  · intro id f e handles
    rw [none'] at handles
    cases handles
  · intro id f e a child handles
    rw [none'] at handles
    cases handles

theorem handling_await (found : s.fetches[id]? = some f) (a : HandlerWait) :
    (await id f e s a).handling = some (id, { f with stage := .handled e a }, e, a) := by
  rw [handling_iff]
  exact ⟨rfl, by
    show (s.fetches.set id { f with stage := .handled e a })[id]? = _
    rw [RequestQueue.getElem?_set_found found, if_pos rfl], rfl⟩

theorem served_await (found : s.fetches[id]? = some f) {a : HandlerWait} (alone : a.fetch = none) :
    Served (await id f e s a) ↔ a ≠ .nothing := by
  have handling' := handling_await (e := e) found a
  constructor
  · rintro served rfl
    exact served.attended _ _ _ handling'
  · intro attended
    constructor
    · intro id' f' e' handles
      rw [handling'] at handles
      cases handles
      exact attended rfl
    · intro id' f' e' a' child handles awaits
      rw [handling'] at handles
      cases handles
      rw [alone] at awaits
      cases awaits

theorem served_congr {s' : ApiClient} (handling' : s'.handling = s.handling) (errors : s'.errors = s.errors) :
    Served s' ↔ Served s := by
  constructor
  · rintro ⟨attended, unblocked⟩
    exact ⟨handling' ▸ attended, by rw [← errors, ← handling']; exact unblocked⟩
  · rintro ⟨attended, unblocked⟩
    exact ⟨handling' ▸ attended, by rw [errors, handling']; exact unblocked⟩

theorem handling_other {s' : ApiClient} (running : s'.running = s.running)
    (other : ∀ j, s.running = some j → s'.fetches[j]? = s.fetches[j]?) : s'.handling = s.handling := by
  unfold handling
  rw [running]
  cases h : s.running with
  | none => rfl
  | some j => simp only [other j h]

theorem handling_place (orderly : s.toRequestQueue.Orderly) (found : s.fetches[id]? = some f)
    (waits : f.stage = .entering ∨ f.stage = .sent) (f' : Fetch) : (place id f' s).handling = s.handling := by
  refine handling_other rfl fun j running => ?_
  have different : j ≠ id := by
    rintro rfl
    obtain ⟨g, e, a, there, handled, -⟩ := orderly.running j running
    obtain rfl := Option.some.inj (found.symm.trans there)
    rw [handled] at waits
    rcases waits with h | h <;> cases h
  show (s.fetches.set id f')[j]? = _
  rw [RequestQueue.getElem?_set_found found, if_neg different]

theorem fetchAgain_served (orderly : s.toRequestQueue.Orderly) (handles : s.toRequestQueue.Handles id f e a)
    (options : RequestOptions) (awaited : Nat → HandlerWait) (awaits : ∀ n, (awaited n).fetch = some n) :
    Served (fetchAgain id f e s options awaited) := by
  have handling' : (fetchAgain id f e s options awaited).handling =
      some (id, { f with stage := .handled e (awaited s.fetches.length) }, e, awaited s.fetches.length) := by
    rw [handling_iff]
    refine ⟨rfl, ?_, rfl⟩
    have inside := (List.getElem?_eq_some_iff.mp handles.found).1
    show ((s.fetches.set id _) ++ _)[id]? = _
    rw [List.getElem?_append_left (by simpa using inside), RequestQueue.getElem?_set_found handles.found, if_pos rfl]
  constructor
  · intro id' f' e' stuck
    rw [handling'] at stuck
    have nothing := awaits s.fetches.length
    simp only [Option.some.injEq, Prod.mk.injEq] at stuck
    rw [stuck.2.2.2] at nothing
    cases nothing
  · intro id' f' e' a' child handles' awaits' there
    rw [handling'] at handles'
    cases handles'
    rw [awaits] at awaits'
    cases awaits'
    obtain ⟨g, e', found, -⟩ := orderly.queued _ there
    have inside := (List.getElem?_eq_some_iff.mp found).1
    omega

theorem retryOrNext_served (found : s.fetches[id]? = some f) : Served (retryOrNext id f e s) := by
  unfold retryOrNext
  split
  · exact (served_await found rfl).mpr (by simp)
  · exact served_of_idle rfl

theorem heard_served (found : s.fetches[id]? = some f) (outcome : Outcome) :
    Served (heard id f e s a outcome) ↔ ∀ child error, a = .replay child → outcome ≠ .failure error := by
  unfold heard
  split
  · exact (served_await found rfl).trans (by simp)
  · rename_i other
    refine iff_of_true (served_of_idle rfl) ?_
    rintro child error rfl rfl
    exact other child error rfl rfl

theorem received_served (orderly : s.toRequestQueue.Orderly) (served : Served s) (found : s.fetches[id]? = some f)
    (sent : f.stage = .sent) (e : DioException) :
    Served (received id f s (.failure e)) ↔ Answered (.replied id (.failure e)) s := by
  have handling' : (received id f s (.failure e)).handling = s.handling :=
    handling_place orderly found (.inr sent) { f with stage := .queued e }
  have errors : (received id f s (.failure e)).errors = s.errors ++ [id] := rfl
  constructor
  · intro after' g there _
    cases Option.some.inj (found.symm.trans there)
    by_contra again
    obtain ⟨p, h, e', a, running, there', handled, awaits⟩ :=
      orderly.awaited id f found (by simpa using again) (by rw [sent]; rfl)
    have handles : s.handling = some (p, h, e', a) := handling_iff.mpr ⟨running, there', handled⟩
    refine after'.unblocked p h e' a id (handling'.trans handles) awaits ?_
    rw [errors]
    exact List.mem_append_right _ (List.mem_singleton_self id)
  · intro answered
    have fresh := answered f found sent
    refine ⟨handling' ▸ served.attended, ?_⟩
    intro p h e' a child handles awaits there
    rw [handling'] at handles
    rw [errors] at there
    rcases List.mem_append.mp there with before | last
    · exact served.unblocked p h e' a child handles awaits before
    · obtain rfl := List.mem_singleton.mp last
      have run := handling_iff.mp handles
      obtain ⟨g, there', again⟩ := orderly.sent p h e' a _ run.found run.stage awaits
      cases Option.some.inj (found.symm.trans there')
      rw [fresh] at again
      cases again

theorem served_next (orderly : s.toRequestQueue.Orderly) (served : Served s) (i : ApiStep) :
    Served (s.next i) ↔ Answered i s := by
  have still {s' : ApiClient} (handling' : s'.handling = s.handling) (errors : s'.errors = s.errors) :
      Served s' ↔ True := (served_congr handling' errors).trans (iff_true_intro served)
  cases i with
  | call =>
    refine still (handling_other rfl fun j running => ?_) rfl
    obtain ⟨g, e, a, there, -⟩ := orderly.running j running
    simp only [next]
    rw [List.getElem?_append_left (List.getElem?_eq_some_iff.mp there).1]
  | signIn =>
    refine still ?_ ?_ <;> simp only [next] <;> split <;> rfl
  | signOut | lock locked => exact still rfl rfl
  | entered id =>
    simp only [next]
    split
    · split
      · rename_i found entering
        unfold onRequest
        split <;> exact still (handling_place orderly found (.inl entering) _) rfl
      · exact still rfl rfl
    · exact still rfl rfl
  | replied id outcome =>
    simp only [next]
    split
    · rename_i f found
      split
      · rename_i sent
        cases outcome with
        | response => exact still (handling_place orderly found (.inr sent) _) rfl
        | failure e => exact received_served orderly served found sent e
      · rename_i other
        refine still rfl rfl |>.trans (iff_of_true trivial ?_)
        cases outcome with
        | response => trivial
        | failure =>
          intro g there sent
          cases Option.some.inj (found.symm.trans there)
          exact absurd sent other
    · rename_i absent
      refine still rfl rfl |>.trans (iff_of_true trivial ?_)
      cases outcome with
      | response => trivial
      | failure =>
        intro g there
        rw [absent] at there
        cases there
  | serve =>
    simp only [next]
    split
    · rename_i id rest idle first
      split
      · rename_i f found
        split
        · unfold onError
          split
          · exact (served_await (s := { s with errors := rest }) found rfl).trans (by simp [Answered])
          · exact iff_true_intro (retryOrNext_served (s := { s with errors := rest }) found)
        · exact still rfl rfl
      · exact still rfl rfl
    · exact still rfl rfl
  | read =>
    simp only [next]
    split
    · rename_i handles
      have found := (handling_iff.mp handles).found
      unfold refresh
      repeat' split
      all_goals exact (served_await found rfl).trans (by simp [Answered])
    · exact still rfl rfl
  | refreshed reply =>
    simp only [next]
    split
    · rename_i id f e current handles
      have found := (handling_iff.mp handles).found
      have exact' : Answered (.refreshed reply) s ↔ Usable s reply := by
        constructor
        · intro answered
          exact answered id f e current handles
        · intro usable _ _ _ _ _
          exact usable
      rw [exact']
      cases reply with
      | failed | empty => exact (served_await found rfl).trans (by simp [Usable])
      | malformed => exact (served_await found rfl).trans (by simp [Usable])
      | data d =>
        simp only [refreshReplied, Usable]
        split
        · rename_i locked
          exact (served_await found rfl).trans (by simp [locked])
        · rename_i locked
          exact (served_await found rfl).trans (by simpa using locked)
    · rename_i other
      refine (still rfl rfl).trans (iff_of_true trivial ?_)
      intro id f e current handles
      exact absurd handles (other id f e current)
  | written =>
    simp only [next]
    split
    · rename_i id f e refreshed handles
      exact iff_true_intro (fetchAgain_served (s := { s with stored := some refreshed }) orderly
        (handling_iff.mp handles) _ _ fun _ => rfl)
    · exact still rfl rfl
  | cleared =>
    simp only [next]
    split
    · rename_i id f e handles
      exact (served_await (s := { s with stored := none, locked := false }) (handling_iff.mp handles).found rfl).trans
        (by simp [Answered])
    · exact still rfl rfl
  | notified =>
    simp only [next]
    split
    · rename_i handles
      exact iff_true_intro (retryOrNext_served (s := { s with expired := s.expired + 1 }) (handling_iff.mp handles).found)
    · exact still rfl rfl
  | elapsed =>
    simp only [next]
    split
    · rename_i handles
      exact iff_true_intro (fetchAgain_served orderly (handling_iff.mp handles) _ _ fun _ => rfl)
    · exact still rfl rfl
  | answered =>
    simp only [next]
    split
    · rename_i id f e a handles
      have found := (handling_iff.mp handles).found
      have same {id' : Nat} {f' : Fetch} {e' : DioException} {a' : HandlerWait}
          (handles' : s.handling = some (id', f', e', a')) : id = id' ∧ f = f' ∧ e = e' ∧ a = a' := by
        simpa using handles.symm.trans handles'
      split
      · rename_i g there
        split
        · rename_i outcome done
          rw [heard_served found]
          constructor
          · intro heard _ _ _ child g' error handles' there'
            obtain ⟨-, -, -, rfl⟩ := same handles'
            obtain rfl := Option.some.inj (there'.symm.trans there)
            rw [done]
            intro failed
            exact heard child error rfl (FetchStage.done.inj failed)
          · rintro answered child error rfl rfl
            exact answered id f e child g error handles there done
        · rename_i other
          refine (still rfl rfl).trans (iff_of_true trivial ?_)
          intro _ _ _ child g' error handles' there'
          obtain ⟨-, -, -, rfl⟩ := same handles'
          obtain rfl := Option.some.inj (there'.symm.trans there)
          exact other _
      · rename_i absent
        refine (still rfl rfl).trans (iff_of_true trivial ?_)
        intro _ _ _ child g' error handles' there'
        obtain ⟨-, -, -, rfl⟩ := same handles'
        cases there'.symm.trans absent
    · rename_i absent
      refine (still rfl rfl).trans (iff_of_true trivial ?_)
      intro id f e child g error handles
      rw [absent] at handles
      cases handles

/-! ### What a request waits for can happen -/

theorem handler_works (orderly : s.toRequestQueue.Orderly) (served : Served s) (handling' : s.handling = some (id, f, e, a)) :
    ∃ i, i.isAnswer = true ∧ RequestQueue.Works s.toRequestQueue (s.next i).toRequestQueue := by
  have handles := handling_iff.mp handling'
  have sentAgain (child : Nat) (awaits : a.fetch = some child) :
      ∃ i, i.isAnswer = true ∧ RequestQueue.Works s.toRequestQueue (s.next i).toRequestQueue := by
    obtain ⟨g, there, again⟩ := orderly.sent id f e a child handles.found handles.stage awaits
    cases stage : g.stage with
    | entering =>
      refine ⟨.entered child, rfl, ?_⟩
      simp only [next, there, stage, if_true]
      exact onRequest_works there stage
    | sent =>
      refine ⟨.replied child (.response 200), rfl, ?_⟩
      simp only [next, there, stage, if_true]
      exact received_works there stage _
    | queued e' =>
      exact absurd (orderly.listed child g e' there stage) (served.unblocked id f e a child handling' awaits)
    | handled e' a' =>
      obtain rfl := Option.some.inj (handles.running.symm.trans (orderly.handled child g e' a' there stage))
      obtain rfl := Option.some.inj (handles.found.symm.trans there)
      rw [orderly.fresh handles] at again
      cases again
    | done outcome =>
      refine ⟨.answered, rfl, ?_⟩
      simp only [next, handling', awaits, Option.bind_some, there, stage]
      refine heard_works handles ?_ (by simp [awaits]) outcome
      intro child' awaits'
      obtain rfl := Option.some.inj (awaits.symm.trans awaits')
      exact ⟨g, there, by rw [stage]; rfl⟩
  cases a with
  | tokens =>
    refine ⟨.read, rfl, ?_⟩
    simp only [next, handling']
    exact refresh_works handles rfl
  | refresh =>
    refine ⟨.refreshed .failed, rfl, ?_⟩
    simp only [next, handling']
    exact refreshReplied_works handles rfl _
  | write =>
    refine ⟨.written, rfl, ?_⟩
    simp only [next, handling']
    exact .again handles rfl rfl rfl rfl (by simp [RequestOptions.repeated]) rfl (.inl rfl)
  | clear =>
    refine ⟨.cleared, rfl, ?_⟩
    simp only [next, handling']
    exact .goOn handles (fun _ h => by cases h) rfl (fun h => by cases h) (fun h => by cases h)
      (by simp [HandlerWait.left])
  | expiry =>
    refine ⟨.notified, rfl, ?_⟩
    simp only [next, handling']
    exact retryOrNext_works (s := { s with expired := s.expired + 1 }) handles rfl
  | delay =>
    refine ⟨.elapsed, rfl, ?_⟩
    simp only [next, handling']
    exact .again handles rfl rfl rfl rfl (by simp [RequestOptions.repeated]) rfl (.inr rfl)
  | replay child | retry child => exact sentAgain child rfl
  | nothing => exact absurd handling' (served.attended id f e)

theorem unfinished_works (orderly : s.toRequestQueue.Orderly) (served : Served s) (found : s.fetches[id]? = some f)
    (unfinished : f.stage.isDone = false) :
    ∃ i, i.isAnswer = true ∧ RequestQueue.Works s.toRequestQueue (s.next i).toRequestQueue := by
  have running {p : Nat} (running : s.running = some p) :
      ∃ i, i.isAnswer = true ∧ RequestQueue.Works s.toRequestQueue (s.next i).toRequestQueue := by
    obtain ⟨g, e, a, there, stage, -⟩ := orderly.running p running
    exact handler_works orderly served (handling_iff.mpr ⟨running, there, stage⟩)
  cases stage : f.stage with
  | entering =>
    refine ⟨.entered id, rfl, ?_⟩
    simp only [next, found, stage, if_true]
    exact onRequest_works found stage
  | sent =>
    refine ⟨.replied id (.response 200), rfl, ?_⟩
    simp only [next, found, stage, if_true]
    exact received_works found stage _
  | queued e =>
    have listed := orderly.listed id f e found stage
    cases idle : s.running with
    | some => exact running idle
    | none =>
      cases first : s.errors with
      | nil =>
        rw [first] at listed
        cases listed
      | cons head =>
        obtain ⟨g, e', there, queued⟩ := orderly.queued head (by rw [first]; exact List.mem_cons_self)
        refine ⟨.serve, rfl, ?_⟩
        simp only [next, idle, first, there, queued]
        exact onError_works idle first there queued
  | handled e a => exact running (orderly.handled id f e a found stage)
  | done =>
    rw [stage] at unfinished
    cases unfinished

/-! ### Runs -/

/-- What every step keeps. -/
structure Sound (s : ApiClient) : Prop where
  orderly : s.toRequestQueue.Orderly
  sendable : s.toRequestQueue.Sendable

/-- A step that is no answer makes a request or leaves them all as they are. -/
theorem next_queue (i : ApiStep) (s : ApiClient) (other : i.isAnswer = false) :
    (s.next i).toRequestQueue = s.toRequestQueue ∨
      ∃ method path anonymous, i = .call method path anonymous := by
  cases i with
  | call method path anonymous => exact .inr ⟨method, path, anonymous, rfl⟩
  | signIn =>
    refine .inl ?_
    simp only [next]
    split <;> rfl
  | signOut | lock locked => exact .inl rfl
  | _ => cases other

theorem Sound.next (sound : Sound s) (i : ApiStep) : Sound (s.next i) := by
  obtain ⟨orderly, sendable⟩ := sound
  cases answer : i.isAnswer with
  | true =>
    rcases next_works i s answer with same | works
    · rw [same]
      exact ⟨orderly, sendable⟩
    · exact ⟨orderly.works works, sendable.works orderly works⟩
  | false =>
    rcases next_queue i s answer with same | ⟨method, path, anonymous, rfl⟩
    · exact ⟨same ▸ orderly, same ▸ sendable⟩
    · exact ⟨orderly.called rfl rfl, sendable.called rfl⟩

theorem sound_launched (stored : Option TokenBundle) (locked : Bool) : Sound (launched stored locked) := by
  refine ⟨⟨List.nodup_nil, ?_, ?_, ?_, ?_, ?_, ?_⟩, ⟨⟨?_, ?_, ?_, ?_, ?_⟩, ?_, ?_⟩⟩
  all_goals simp [launched, RequestQueue.keys, RequestQueue.originals, RequestQueue.copies]

theorem Sound.live_iff (sound : Sound s) : Live s ↔ Served s := by
  constructor
  · exact fun live => live.toServed
  · intro served
    refine ⟨served, ?_, ?_⟩
    · intro id f found fresh
      exact sound.sendable.keyed.sends_le_budget found
    · intro id f found unfinished
      obtain ⟨i, answer, works⟩ := unfinished_works sound.orderly served found unfinished
      refine ⟨i, answer, fun same => ?_⟩
      have less := sound.orderly.less works
      rw [same] at less
      exact Nat.lt_irrefl _ less

/-- The answers of a run that bring a request on. -/
def turns : List ApiStep → ApiClient → Nat
  | [], _ => 0
  | i :: rest, s => (if i.isAnswer = true ∧ s.next i ≠ s then 1 else 0) + turns rest (s.next i)

def calls (run : List ApiStep) : Nat := run.countP ApiStep.isCall

theorem turns_next (sound : Sound s) (i : ApiStep) :
    (if i.isAnswer = true ∧ s.next i ≠ s then 1 else 0) + (s.next i).toRequestQueue.left ≤
      s.toRequestQueue.left + if i.isCall then 11 else 0 := by
  cases answer : i.isAnswer with
  | true =>
    rcases next_works i s answer with same | works
    · rw [same]
      simp
    · have less := sound.orderly.less works
      split <;> omega
  | false =>
    rcases next_queue i s answer with same | ⟨method, path, anonymous, rfl⟩
    · rw [same]
      simp
    · have more := RequestQueue.left_append { options := ⟨method, path, anonymous, false, 0⟩, call := s.fetches.length }
        s.fetches s.errors s.running
      simp only [Bool.false_eq_true, false_and, if_false, ApiStep.isCall, if_true, Nat.zero_add]
      exact Nat.le_of_eq more

theorem turns_le (run : List ApiStep) (sound : Sound s) : turns run s ≤ s.toRequestQueue.left + 11 * calls run := by
  induction run generalizing s with
  | nil => exact Nat.zero_le _
  | cons i rest ih =>
    have first := turns_next sound i
    have later := ih (sound.next i)
    simp only [turns, calls, List.countP_cons] at later ⊢
    cases call : i.isCall <;> simp only [call, if_true, Bool.false_eq_true, if_false] at first ⊢ <;> omega

/-- **Every API request completes** exactly if no request that an error handler sends again fails and no refresh is
answered with what the token store does not take. -/
theorem completes_iff (stored : Option TokenBundle) (locked : Bool) (run : List ApiStep) :
    (Runs.Throughout next Live run (launched stored locked) ∧ turns run (launched stored locked) ≤ 11 * calls run) ↔
      Runs.Met next Answered run (launched stored locked) := by
  have bound := turns_le run (sound_launched stored locked)
  have none' : (launched stored locked).toRequestQueue.left = 0 := rfl
  rw [and_iff_left (by omega)]
  refine Runs.throughout_iff_met (Q := Sound) (fun i s sound => sound.next i) ?_ run _ (sound_launched stored locked) ?_
  · intro i s sound live
    exact (sound.next i).live_iff.trans (served_next sound.orderly live.toServed i)
  · exact (sound_launched stored locked).live_iff.mpr (served_of_idle rfl)

def refusedTwice : List ApiStep :=
  [.call "GET" "/api/v1/me" false, .entered 0, .replied 0 (.failure ⟨.badResponse, some 503⟩), .serve, .elapsed,
    .entered 1, .replied 1 (.failure ⟨.badResponse, some 503⟩)]

/-- The handler of the first error awaits the retry, whose error is queued behind it, and nothing brings them on. -/
theorem refusedTwice_blocks :
    (∃ f e, (Runs.reached next refusedTwice (launched none false)).handling = some (0, f, e, .retry 1)) ∧
      1 ∈ (Runs.reached next refusedTwice (launched none false)).errors ∧
      ∀ i, i.isAnswer = true →
        next i (Runs.reached next refusedTwice (launched none false)) =
          Runs.reached next refusedTwice (launched none false) := by
  have last : Runs.reached next refusedTwice (launched none false) =
      { fetches := [⟨⟨"GET", "/api/v1/me", false, false, 0⟩, 0, some none, .handled ⟨.badResponse, some 503⟩ (.retry 1)⟩,
          ⟨⟨"GET", "/api/v1/me", false, false, 1⟩, 0, some none, .queued ⟨.badResponse, some 503⟩⟩],
        errors := [1], running := some 0 } := by
    decide +kernel
  rw [last]
  refine ⟨⟨_, _, rfl⟩, List.mem_singleton_self 1, ?_⟩
  intro i answer
  cases i with
  | entered id | replied id outcome => rcases id with _ | _ | id <;> rfl
  | call _ _ _ | signIn _ | signOut | lock _ => cases answer
  | _ => rfl

end ApiClient
end VtsaCsms.Mobile
