import VtsaCsms.Mobile.ApiClient

/-!
# Whether every request completes

An error handler that sends a request again awaits it, and is the only one that runs. Where the
request fails once more its error is queued behind the handler that awaits it, and neither ends;
so a run answers every request exactly if every request sent again is answered by a response.
-/
namespace VtsaCsms.Mobile
open Foundation

/-- An error handler has sent the request. -/
def RequestOptions.repeated (options : RequestOptions) : Bool := options.authRetried || 0 < options.retryCount

namespace FetchStage

def isDone : FetchStage → Bool
  | done _ => true
  | _ => false

end FetchStage

/-! ### How much is left to do -/

/-- The most steps that the handler still takes, those of the request it may send among them. -/
def HandlerWait.left : HandlerWait → Nat
  | .tokens => 8
  | .refresh _ => 7
  | .clear => 6
  | .expiry => 5
  | .delay | .write _ => 4
  | .replay _ | .retry _ => 1
  | .nothing => 0

/-- The handler has a 401 at hand and no tokens for it yet. -/
def HandlerWait.refreshing : HandlerWait → Bool
  | .tokens | .refresh _ | .clear => true
  | _ => false

def FetchStage.left : FetchStage → Nat
  | .entering => 11
  | .sent => 10
  | .queued _ => 9
  | .handled _ awaited => awaited.left
  | .done _ => 0

/-- A request that a handler has sent is not handled once more. -/
def FetchStage.leftAgain : FetchStage → Nat
  | .entering => 2
  | .sent => 1
  | _ => 0

def Fetch.left (f : Fetch) : Nat := if f.options.repeated then f.stage.leftAgain else f.stage.left

namespace RequestQueue
variable {q q' : RequestQueue} {id child : Nat} {f f' g : Fetch} {e : DioException} {a a' : HandlerWait}

def left (q : RequestQueue) : Nat := (q.fetches.map Fetch.left).sum

/-! ### What a step can do to the queue -/

/-- The error handler that runs. -/
structure Handles (q : RequestQueue) (id : Nat) (f : Fetch) (e : DioException) (a : HandlerWait) : Prop where
  running : q.running = some id
  found : q.fetches[id]? = some f
  stage : f.stage = .handled e a

/-- The request that the handler awaits, if any, is done. -/
def Heard (q : RequestQueue) (a : HandlerWait) : Prop :=
  ∀ child, a.fetch = some child → ∃ g, q.fetches[child]? = some g ∧ g.stage.isDone = true

/-- The steps that bring a request on. -/
inductive Works (q : RequestQueue) : RequestQueue → Prop where
  | pass {id : Nat} {f f' : Fetch} (found : q.fetches[id]? = some f)
      (same : f'.options = f.options ∧ f'.call = f.call)
      (before : f.stage = .entering ∨ f.stage = .sent ∧ f'.sentWith = f.sentWith)
      (after' : f'.stage = .sent ∧ f'.sentWith ≠ none ∨ f'.stage.isDone = true) (less : f'.left < f.left) :
      Works q { q with fetches := q.fetches.set id f' }
  | fail {id : Nat} {f : Fetch} (e : DioException) (found : q.fetches[id]? = some f) (sent : f.stage = .sent) :
      Works q { q with fetches := q.fetches.set id { f with stage := .queued e }, errors := q.errors ++ [id] }
  | serve {id : Nat} {rest : List Nat} {f : Fetch} {e : DioException} {a : HandlerWait} (idle : q.running = none)
      (first : q.errors = id :: rest) (found : q.fetches[id]? = some f) (queued : f.stage = .queued e)
      (alone : a = .tokens ∧ f.options.anonymous = false ∨ a = .delay ∧ ApiClient.isSafe f.options.method = true) :
      Works q ⟨q.fetches.set id { f with stage := .handled e a }, rest, some id⟩
  | decline {id : Nat} {rest : List Nat} {f : Fetch} {e : DioException} (idle : q.running = none)
      (first : q.errors = id :: rest) (found : q.fetches[id]? = some f) (queued : f.stage = .queued e) :
      Works q ⟨q.fetches.set id { f with stage := .done (.failure e) }, rest, none⟩
  | goOn {id : Nat} {f : Fetch} {e : DioException} {a a' : HandlerWait} (handles : q.Handles id f e a)
      (heard : q.Heard a) (alone : a'.fetch = none)
      (safe : a' = .delay → ApiClient.isSafe f.options.method = true)
      (refreshing : a'.refreshing = true → a.refreshing = true) (less : a'.left < a.left) :
      Works q ⟨q.fetches.set id { f with stage := .handled e a' }, q.errors, some id⟩
  | again {id : Nat} {f : Fetch} {e : DioException} {a a' : HandlerWait} {options : RequestOptions}
      (handles : q.Handles id f e a) (alone : a.fetch = none) (four : a.left = 4)
      (awaits : a'.fetch = some q.fetches.length) (one : a'.left = 1) (repeated : options.repeated = true)
      (method : options.method = f.options.method)
      (cause : options.authRetried = true ∨ a = .delay) :
      Works q ⟨q.fetches.set id { f with stage := .handled e a' } ++ [{ options := options, call := f.call }],
        q.errors, some id⟩
  | finish {id : Nat} {f : Fetch} {e : DioException} {a : HandlerWait} (outcome : Outcome)
      (handles : q.Handles id f e a) (heard : q.Heard a) (left : 0 < a.left) :
      Works q ⟨q.fetches.set id { f with stage := .done outcome }, q.errors, none⟩

/-! ### Errors are handled one by one -/

/-- An error is queued once or being handled, and a request that a handler has sent is the one that the running
handler awaits, until it is done. -/
structure Orderly (q : RequestQueue) : Prop where
  nodup : q.errors.Nodup
  queued : ∀ id ∈ q.errors, ∃ f e, q.fetches[id]? = some f ∧ f.stage = .queued e
  listed : ∀ (id : Nat) f e, q.fetches[id]? = some f → f.stage = .queued e → id ∈ q.errors
  handled : ∀ (id : Nat) f e a, q.fetches[id]? = some f → f.stage = .handled e a → q.running = some id
  running : ∀ id, q.running = some id →
    ∃ f e a, q.fetches[id]? = some f ∧ f.stage = .handled e a ∧ f.options.repeated = false
  awaited : ∀ (child : Nat) g, q.fetches[child]? = some g → g.options.repeated = true → g.stage.isDone = false →
    ∃ id f e a, q.running = some id ∧ q.fetches[id]? = some f ∧ f.stage = .handled e a ∧ a.fetch = some child
  sent : ∀ (id : Nat) f e a child, q.fetches[id]? = some f → f.stage = .handled e a → a.fetch = some child →
    ∃ g, q.fetches[child]? = some g ∧ g.options.repeated = true

theorem getElem?_set_found {α : Type} {l : List α} {i : Nat} {x : α} (found : l[i]? = some x) (y : α) (j : Nat) :
    (l.set i y)[j]? = if j = i then some y else l[j]? := by
  rw [List.getElem?_set]
  have inside := (List.getElem?_eq_some_iff.mp found).1
  by_cases same : i = j
  · simp [same, same ▸ inside]
  · simp [same, Ne.symm same]

theorem Orderly.idle (orderly : q.Orderly) (idle : q.running = none) (found : q.fetches[id]? = some f)
    (unfinished : f.stage.isDone = false) : f.options.repeated = false := by
  by_contra again
  obtain ⟨_, _, _, _, running, -⟩ := orderly.awaited id f found (by simpa using again) unfinished
  rw [idle] at running
  cases running

theorem Orderly.fresh (orderly : q.Orderly) (handles : q.Handles id f e a) : f.options.repeated = false := by
  obtain ⟨_, _, _, found, -, fresh⟩ := orderly.running id handles.running
  obtain rfl := Option.some.inj (handles.found.symm.trans found)
  exact fresh

theorem Orderly.taken (orderly : q.Orderly) {rest : List Nat} (first : q.errors = id :: rest) :
    id ∉ rest ∧ rest.Nodup ∧ ∀ j, j ∈ q.errors ↔ j = id ∨ j ∈ rest := by
  have distinct := orderly.nodup
  rw [first] at distinct ⊢
  obtain ⟨absent, others⟩ := List.nodup_cons.mp distinct
  exact ⟨absent, others, fun j => List.mem_cons⟩

theorem Orderly.passed {f' : Fetch} (orderly : q.Orderly) (found : q.fetches[id]? = some f)
    (same : f'.options = f.options ∧ f'.call = f.call)
    (before : f.stage = .entering ∨ f.stage = .sent ∧ f'.sentWith = f.sentWith)
    (after' : f'.stage = .sent ∧ f'.sentWith ≠ none ∨ f'.stage.isDone = true) :
    Orderly { q with fetches := q.fetches.set id f' } := by
  obtain ⟨nodup, queued, listed, handled, running, awaited, sent⟩ := orderly
  have other := getElem?_set_found found f'
  refine ⟨nodup, ?_, ?_, ?_, ?_, ?_, ?_⟩ <;> clear nodup <;> grind [FetchStage.isDone]

theorem Orderly.failed (orderly : q.Orderly) (e : DioException) (found : q.fetches[id]? = some f)
    (outcome : f.stage = .sent) :
    Orderly { q with fetches := q.fetches.set id { f with stage := .queued e }, errors := q.errors ++ [id] } := by
  obtain ⟨nodup, queued, listed, handled, running, awaited, sent⟩ := orderly
  have other := getElem?_set_found found { f with stage := .queued e }
  have absent : id ∉ q.errors := by
    intro there
    obtain ⟨f', e', found', stage⟩ := queued id there
    rw [found] at found'
    cases found'
    rw [outcome] at stage
    cases stage
  have nodup' : (q.errors ++ [id]).Nodup := by
    refine List.nodup_append.mpr ⟨nodup, by simp, fun j there k last => ?_⟩
    rw [List.mem_singleton.mp last]
    exact fun same => absent (same ▸ there)
  refine ⟨nodup', ?_, ?_, ?_, ?_, ?_, ?_⟩ <;> clear nodup nodup' <;> grind [FetchStage.isDone]

theorem Orderly.served {rest : List Nat} (orderly : q.Orderly) (idle : q.running = none)
    (first : q.errors = id :: rest) (found : q.fetches[id]? = some f) (waiting : f.stage = .queued e)
    (alone : a = .tokens ∧ f.options.anonymous = false ∨ a = .delay ∧ ApiClient.isSafe f.options.method = true) :
    Orderly ⟨q.fetches.set id { f with stage := .handled e a }, rest, some id⟩ := by
  have other := getElem?_set_found found { f with stage := .handled e a }
  have fresh := orderly.idle idle found (by rw [waiting]; rfl)
  have none' : a.fetch = none := by rcases alone with ⟨rfl, -⟩ | ⟨rfl, -⟩ <;> rfl
  obtain ⟨absent, nodup', members⟩ := orderly.taken first
  obtain ⟨nodup, queued, listed, handled, running, awaited, sent⟩ := orderly
  refine ⟨nodup', ?_, ?_, ?_, fun j there => ⟨{ f with stage := .handled e a }, e, a, ?_, rfl, fresh⟩, ?_, ?_⟩ <;>
    clear nodup nodup' first <;> grind [FetchStage.isDone]

theorem Orderly.declined {rest : List Nat} (orderly : q.Orderly) (idle : q.running = none)
    (first : q.errors = id :: rest) (found : q.fetches[id]? = some f) :
    Orderly ⟨q.fetches.set id { f with stage := .done (.failure e) }, rest, none⟩ := by
  have other := getElem?_set_found found { f with stage := .done (.failure e) }
  obtain ⟨absent, nodup', members⟩ := orderly.taken first
  obtain ⟨nodup, queued, listed, handled, running, awaited, sent⟩ := orderly
  refine ⟨nodup', ?_, ?_, ?_, ?_, ?_, ?_⟩ <;> clear nodup nodup' first <;> grind [FetchStage.isDone]

theorem Orderly.goneOn {a' : HandlerWait} (orderly : q.Orderly) (handles : q.Handles id f e a) (heard : q.Heard a)
    (alone : a'.fetch = none) :
    Orderly ⟨q.fetches.set id { f with stage := .handled e a' }, q.errors, some id⟩ := by
  have fresh := orderly.fresh handles
  obtain ⟨nodup, queued, listed, handled, running, awaited, sent⟩ := orderly
  obtain ⟨here, found, stage⟩ := handles
  have other := getElem?_set_found found { f with stage := .handled e a' }
  refine ⟨nodup, ?_, ?_, ?_, fun j there => ⟨{ f with stage := .handled e a' }, e, a', ?_, rfl, fresh⟩, ?_, ?_⟩ <;>
    clear nodup <;> grind [FetchStage.isDone, Heard]

theorem Orderly.again {a' : HandlerWait} {options : RequestOptions} (orderly : q.Orderly)
    (handles : q.Handles id f e a) (alone : a.fetch = none) (awaits : a'.fetch = some q.fetches.length)
    (repeated : options.repeated = true) :
    Orderly ⟨q.fetches.set id { f with stage := .handled e a' } ++ [{ options := options, call := f.call }],
      q.errors, some id⟩ := by
  have fresh := orderly.fresh handles
  obtain ⟨nodup, queued, listed, handled, running, awaited, sent⟩ := orderly
  obtain ⟨here, found, stage⟩ := handles
  have other := getElem?_set_found found { f with stage := .handled e a' }
  refine ⟨nodup, ?_, ?_, ?_, fun j there => ⟨{ f with stage := .handled e a' }, e, a', ?_, rfl, fresh⟩, ?_, ?_⟩ <;>
    clear nodup <;> grind [FetchStage.isDone]

theorem Orderly.finished (orderly : q.Orderly) (outcome : Outcome) (handles : q.Handles id f e a)
    (heard : q.Heard a) : Orderly ⟨q.fetches.set id { f with stage := .done outcome }, q.errors, none⟩ := by
  obtain ⟨nodup, queued, listed, handled, running, awaited, sent⟩ := orderly
  obtain ⟨here, found, stage⟩ := handles
  have other := getElem?_set_found found { f with stage := .done outcome }
  refine ⟨nodup, ?_, ?_, ?_, ?_, ?_, ?_⟩ <;> clear nodup <;> grind [FetchStage.isDone, Heard]

theorem Orderly.works (orderly : q.Orderly) (works : Works q q') : q'.Orderly := by
  cases works with
  | pass found same before after' less => exact orderly.passed found same before after'
  | fail e found outcome => exact orderly.failed e found outcome
  | serve idle first found waiting alone => exact orderly.served idle first found waiting alone
  | decline idle first found waiting => exact orderly.declined idle first found
  | goOn handles heard alone safe refreshing less => exact orderly.goneOn handles heard alone
  | again handles alone four awaits one repeated method cause => exact orderly.again handles alone awaits repeated
  | finish outcome handles heard left => exact orderly.finished outcome handles heard

theorem Orderly.called (orderly : q.Orderly) (fresh : f.options.repeated = false) (entering : f.stage = .entering) :
    Orderly { q with fetches := q.fetches ++ [f] } := by
  obtain ⟨nodup, queued, listed, handled, running, awaited, sent⟩ := orderly
  refine ⟨nodup, ?_, ?_, ?_, ?_, ?_, ?_⟩ <;> grind

/-! ### Each step leaves less to do -/

theorem sum_map_set {α : Type} (w : α → Nat) {l : List α} {i : Nat} {x : α} (found : l[i]? = some x) (y : α) :
    ((l.set i y).map w).sum + w x = (l.map w).sum + w y := by
  induction l generalizing i with
  | nil => cases found
  | cons _ _ ih =>
    cases i with
    | zero =>
      obtain rfl := Option.some.inj found
      simp only [List.set_cons_zero, List.map_cons, List.sum_cons]
      omega
    | succ i =>
      have rest' := ih (i := i) found
      simp only [List.set_cons_succ, List.map_cons, List.sum_cons]
      omega

theorem left_set (found : q.fetches[id]? = some f) (f' : Fetch) (errors : List Nat) (running : Option Nat) :
    left ⟨q.fetches.set id f', errors, running⟩ + f.left = q.left + f'.left :=
  sum_map_set Fetch.left found f'

theorem left_fresh (found : q.fetches[id]? = some f) (fresh : f.options.repeated = false) (stage : FetchStage)
    (errors : List Nat) (running : Option Nat) :
    left ⟨q.fetches.set id { f with stage := stage }, errors, running⟩ + f.stage.left = q.left + stage.left := by
  have moved := left_set found { f with stage := stage } errors running
  simpa [Fetch.left, fresh] using moved

theorem left_append (f : Fetch) (fetches : List Fetch) (errors : List Nat) (running : Option Nat) :
    left ⟨fetches ++ [f], errors, running⟩ = left ⟨fetches, errors, running⟩ + f.left := by
  simp [left]

theorem Orderly.less (orderly : q.Orderly) (works : Works q q') : q'.left < q.left := by
  cases works with
  | @pass id f f' found same before after' less =>
    have moved := left_set found f' q.errors q.running
    omega
  | @fail id f e found sent =>
    have moved := left_set found { f with stage := .queued e } (q.errors ++ [id]) q.running
    have less : Fetch.left { f with stage := .queued e } < f.left := by
      unfold Fetch.left
      rw [sent]
      cases f.options.repeated <;> simp [FetchStage.left, FetchStage.leftAgain]
    omega
  | @serve id rest f e a idle first found waiting alone =>
    have moved := left_fresh found (orderly.idle idle found (by rw [waiting]; rfl)) (.handled e a) rest (some id)
    rw [waiting] at moved
    rcases alone with ⟨rfl, -⟩ | ⟨rfl, -⟩ <;> simp only [FetchStage.left, HandlerWait.left] at moved <;> omega
  | @decline id rest f e idle first found waiting =>
    have moved := left_fresh found (orderly.idle idle found (by rw [waiting]; rfl)) (.done (.failure e)) rest none
    simp only [waiting, FetchStage.left] at moved
    omega
  | @goOn id f e a a' handles heard alone safe refreshing less =>
    have moved := left_fresh handles.found (orderly.fresh handles) (.handled e a') q.errors (some id)
    simp only [handles.stage, FetchStage.left] at moved
    omega
  | @again id f e a a' options handles alone four awaits one repeated method cause =>
    have moved := left_fresh handles.found (orderly.fresh handles) (.handled e a') q.errors (some id)
    have two : Fetch.left { options := options, call := f.call } = 2 := by
      simp [Fetch.left, FetchStage.leftAgain, repeated]
    rw [left_append, two]
    simp only [handles.stage, FetchStage.left, four, one] at moved
    omega
  | @finish id f e a outcome handles heard left =>
    have moved := left_fresh handles.found (orderly.fresh handles) (.done outcome) q.errors none
    simp only [handles.stage, FetchStage.left] at moved
    omega

end RequestQueue

namespace ApiClient
variable {s : ApiClient} {id : Nat} {f : Fetch} {e : DioException} {a : HandlerWait} {i : ApiStep}

theorem handling_iff : s.handling = some (id, f, e, a) ↔ s.toRequestQueue.Handles id f e a := by
  unfold handling
  constructor
  · intro h
    split at h
    · cases h
    · rename_i running
      split at h
      · cases h
      · rename_i found
        split at h
        · rename_i stage
          cases h
          exact ⟨running, found, stage⟩
        · cases h
  · rintro ⟨running, found, stage⟩
    simp only [running, found, stage]

/-! ### What the steps do -/

theorem onRequest_works (found : s.fetches[id]? = some f) (entering : f.stage = .entering) :
    RequestQueue.Works s.toRequestQueue (onRequest id f s).toRequestQueue := by
  unfold onRequest
  split
  · refine .pass found ⟨rfl, rfl⟩ (.inl entering) (.inr rfl) ?_
    unfold Fetch.left
    rw [entering]
    cases f.options.repeated <;> simp [FetchStage.left, FetchStage.leftAgain]
  · refine .pass found ⟨rfl, rfl⟩ (.inl entering) (.inl ⟨rfl, by simp⟩) ?_
    unfold Fetch.left
    rw [entering]
    cases f.options.repeated <;> simp [FetchStage.left, FetchStage.leftAgain]

theorem received_works (found : s.fetches[id]? = some f) (sent : f.stage = .sent) (outcome : Outcome) :
    RequestQueue.Works s.toRequestQueue (received id f s outcome).toRequestQueue := by
  cases outcome with
  | response =>
    refine .pass found ⟨rfl, rfl⟩ (.inr ⟨sent, rfl⟩) (.inr rfl) ?_
    unfold Fetch.left
    rw [sent]
    cases f.options.repeated <;> simp [FetchStage.left, FetchStage.leftAgain]
  | failure e => exact .fail e found sent

theorem onError_works {rest : List Nat} (idle : s.running = none) (first : s.errors = id :: rest)
    (found : s.fetches[id]? = some f) (queued : f.stage = .queued e) :
    RequestQueue.Works s.toRequestQueue (onError id f e { s with errors := rest }).toRequestQueue := by
  unfold onError retryOrNext
  split
  · rename_i refreshable
    have known : f.options.anonymous = false := by
      have can := refreshable.1
      simp only [canRefresh, Bool.and_eq_true, Bool.not_eq_true'] at can
      exact can.1.1.2
    exact .serve idle first found queued (.inl ⟨rfl, known⟩)
  · split
    · rename_i retried
      exact .serve idle first found queued (.inr ⟨rfl, retried.1⟩)
    · exact .decline idle first found queued

section Handles
variable (handles : s.toRequestQueue.Handles id f e a)
include handles

theorem await_works {a' : HandlerWait} (heard : s.toRequestQueue.Heard a) (alone : a'.fetch = none)
    (safe : a' = .delay → isSafe f.options.method = true) (refreshing : a'.refreshing = true → a.refreshing = true)
    (less : a'.left < a.left) : RequestQueue.Works s.toRequestQueue (await id f e s a').toRequestQueue :=
  .goOn handles heard alone safe refreshing less

theorem refresh_works (awaited : a = .tokens) :
    RequestQueue.Works s.toRequestQueue (refresh id f e s).toRequestQueue := by
  subst awaited
  unfold refresh
  repeat' split
  all_goals
    exact await_works handles (fun _ h => by cases h) rfl (fun h => by cases h) (fun _ => rfl)
      (by simp [HandlerWait.left])

theorem refreshReplied_works {current : TokenBundle} (awaited : a = .refresh current) (reply : RefreshReply) :
    RequestQueue.Works s.toRequestQueue (refreshReplied id f e s current reply).toRequestQueue := by
  subst awaited
  have works {a' : HandlerWait} (alone : a'.fetch = none) (safe : a' ≠ .delay) (less : a'.left < 7) :=
    await_works handles (fun _ h => by cases h) alone (fun h => absurd h safe) (fun _ => rfl) less
  cases reply with
  | failed | empty => exact works rfl (by simp) (by simp [HandlerWait.left])
  | malformed => exact works rfl (by simp) (by simp [HandlerWait.left])
  | data =>
    simp only [refreshReplied]
    split
    · exact works rfl (by simp) (by simp [HandlerWait.left])
    · exact works rfl (by simp) (by simp [HandlerWait.left])

theorem retryOrNext_works (awaited : a = .expiry) :
    RequestQueue.Works s.toRequestQueue (retryOrNext id f e s).toRequestQueue := by
  subst awaited
  unfold retryOrNext
  split
  · rename_i retried
    exact await_works handles (fun _ h => by cases h) rfl (fun _ => retried.1) (fun h => by cases h) (by decide)
  · exact .finish (.failure e) handles (fun _ h => by cases h) (by decide)

theorem heard_works (heard' : s.toRequestQueue.Heard a) (awaits : a.fetch ≠ none) (outcome : Outcome) :
    RequestQueue.Works s.toRequestQueue (heard id f e s a outcome).toRequestQueue := by
  have left : a.left = 1 := by
    cases a <;> first | rfl | exact absurd rfl awaits
  unfold heard
  split
  · exact await_works handles heard' rfl (fun h => by cases h) (fun h => by cases h) (by simp [HandlerWait.left])
  · exact .finish outcome handles heard' (by omega)

end Handles

/-- A step that ends what a request waits for brings it on, or nothing waited for it. -/
theorem next_works (i : ApiStep) (s : ApiClient) (answer : i.isAnswer = true) :
    s.next i = s ∨ RequestQueue.Works s.toRequestQueue (s.next i).toRequestQueue := by
  cases i with
  | call _ _ _ | signIn _ | signOut | lock _ => cases answer
  | entered id =>
    simp only [next]
    split
    · split
      · rename_i found entering
        exact .inr (onRequest_works found entering)
      · exact .inl rfl
    · exact .inl rfl
  | replied id outcome =>
    simp only [next]
    split
    · split
      · rename_i found sent
        exact .inr (received_works found sent outcome)
      · exact .inl rfl
    · exact .inl rfl
  | serve =>
    simp only [next]
    split
    · rename_i idle first
      split
      · rename_i found
        split
        · rename_i queued
          exact .inr (onError_works idle first found queued)
        · exact .inl rfl
      · exact .inl rfl
    · exact .inl rfl
  | read =>
    simp only [next]
    split
    · rename_i handles
      exact .inr (refresh_works (handling_iff.mp handles) rfl)
    · exact .inl rfl
  | refreshed reply =>
    simp only [next]
    split
    · rename_i handles
      exact .inr (refreshReplied_works (handling_iff.mp handles) rfl reply)
    · exact .inl rfl
  | written =>
    simp only [next]
    split
    · rename_i handles
      exact .inr (.again (handling_iff.mp handles) rfl rfl rfl rfl (by simp [RequestOptions.repeated]) rfl (.inl rfl))
    · exact .inl rfl
  | cleared =>
    simp only [next]
    split
    · rename_i handles
      exact .inr (.goOn (handling_iff.mp handles) (fun _ h => by cases h) rfl (fun h => by cases h)
        (fun h => by cases h) (by simp [HandlerWait.left]))
    · exact .inl rfl
  | notified =>
    simp only [next]
    split
    · rename_i id f e handles
      exact .inr (retryOrNext_works (s := { s with expired := s.expired + 1 }) (handling_iff.mp handles) rfl)
    · exact .inl rfl
  | elapsed =>
    simp only [next]
    split
    · rename_i handles
      exact .inr (.again (handling_iff.mp handles) rfl rfl rfl rfl (by simp [RequestOptions.repeated]) rfl (.inr rfl))
    · exact .inl rfl
  | answered =>
    simp only [next]
    split
    · rename_i handles
      split
      · rename_i child found
        split
        · rename_i outcome done
          refine .inr (heard_works (handling_iff.mp handles) ?_ ?_ outcome)
          · intro id awaits
            rw [awaits] at found
            exact ⟨child, found, by rw [done]; rfl⟩
          · intro nothing
            rw [nothing] at found
            cases found
        · exact .inl rfl
      · exact .inl rfl
    · exact .inl rfl

end ApiClient
end VtsaCsms.Mobile
