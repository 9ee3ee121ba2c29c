import VtsaCsms.Mobile.RequestCompletion

/-!
# Whose credentials are discarded

Where a refresh comes to nothing, the error handler clears the token store and calls
`onSessionExpired`, whatever is stored by then. The tokens are those that the platform has rejected
as long as nobody stores others, or removes them, while the request is on its way.
-/
namespace VtsaCsms.Mobile
open Foundation

namespace RequestQueue
variable {q q' : RequestQueue} {id : Nat} {f : Fetch}

/-! ### What a request is sent with -/

/-- A request under way was sent, and only the tokens of an account are refreshed. -/
structure Carried (q : RequestQueue) : Prop where
  unsent : ∀ (id : Nat) f, q.fetches[id]? = some f → f.stage = .entering → f.sentWith = none
  sent : ∀ (id : Nat) f, q.fetches[id]? = some f → f.stage ≠ .entering → f.stage.isDone = false → f.sentWith ≠ none
  known : ∀ (id : Nat) f e a, q.fetches[id]? = some f → f.stage = .handled e a → a.refreshing = true →
    f.options.anonymous = false

theorem Carried.set (carried : q.Carried) (found : q.fetches[id]? = some f) (f' : Fetch)
    (sent : f'.stage ≠ .entering ∧ (f'.stage.isDone = false → f'.sentWith ≠ none))
    (known : ∀ e a, f'.stage = .handled e a → a.refreshing = true → f'.options.anonymous = false)
    (errors : List Nat) (running : Option Nat) : Carried ⟨q.fetches.set id f', errors, running⟩ := by
  constructor
  · intro j g there
    rw [getElem?_set_found found] at there
    split at there
    · cases there
      exact fun entering => absurd entering sent.1
    · exact carried.unsent j g there
  · intro j g there
    rw [getElem?_set_found found] at there
    split at there
    · cases there
      exact fun _ => sent.2
    · exact carried.sent j g there
  · intro j g e a there
    rw [getElem?_set_found found] at there
    split at there
    · cases there
      exact known e a
    · exact carried.known j g e a there

theorem Carried.append (carried : q.Carried) (entering : f.stage = .entering) (unsent : f.sentWith = none) :
    Carried { q with fetches := q.fetches ++ [f] } := by
  constructor
  · intro j g there
    rcases getElem?_append_one there with old | ⟨-, rfl⟩
    · exact carried.unsent j g old
    · exact fun _ => unsent
  · intro j g there
    rcases getElem?_append_one there with old | ⟨-, rfl⟩
    · exact carried.sent j g old
    · exact fun other => absurd entering other
  · intro j g e a there stage
    rcases getElem?_append_one there with old | ⟨-, rfl⟩
    · exact carried.known j g e a old stage
    · rw [entering] at stage
      cases stage

theorem Carried.works (carried : q.Carried) (works : Works q q') : q'.Carried := by
  cases works with
  | @pass id f f' found same before after' less =>
    refine carried.set found f' ?_ ?_ _ _
    · rcases after' with ⟨sent, with'⟩ | done
      · exact ⟨by rw [sent]; simp, fun _ => with'⟩
      · refine ⟨fun entering => ?_, fun unfinished => ?_⟩
        · rw [entering] at done
          cases done
        · rw [done] at unfinished
          cases unfinished
    · intro e a handled
      rcases after' with ⟨sent, -⟩ | done
      · rw [handled] at sent
        cases sent
      · rw [handled] at done
        cases done
  | @fail id f e found sent =>
    have with' := carried.sent _ _ found (by rw [sent]; simp) (by rw [sent]; rfl)
    exact carried.set found { f with stage := .queued e } ⟨by simp, fun _ => with'⟩ (fun _ _ h => by cases h) _ _
  | @serve id rest f e a idle first found queued alone =>
    have with' := carried.sent _ _ found (by rw [queued]; simp) (by rw [queued]; rfl)
    refine carried.set found { f with stage := .handled e a } ⟨by simp, fun _ => with'⟩
      (fun e a handled refreshing => ?_) _ _
    cases handled
    rcases alone with ⟨-, known⟩ | ⟨rfl, -⟩
    · exact known
    · cases refreshing
  | @decline id rest f e idle first found queued =>
    exact carried.set found { f with stage := .done (.failure e) } ⟨by simp, fun h => by cases h⟩
      (fun _ _ h => by cases h) _ _
  | @goOn id f e a a' handles heard alone safe refreshing less =>
    have with' := carried.sent _ _ handles.found (by rw [handles.stage]; simp) (by rw [handles.stage]; rfl)
    refine carried.set handles.found { f with stage := .handled e a' } ⟨by simp, fun _ => with'⟩
      (fun e' a'' handled refreshing' => ?_) _ _
    cases handled
    have known := carried.known _ _ _ _ handles.found handles.stage (refreshing refreshing')
    exact known
  | @again id f e a a' options handles alone four awaits one repeated method cause =>
    have with' := carried.sent _ _ handles.found (by rw [handles.stage]; simp) (by rw [handles.stage]; rfl)
    have moved : Carried ⟨q.fetches.set id { f with stage := .handled e a' }, q.errors, some id⟩ := by
      refine carried.set handles.found { f with stage := .handled e a' } ⟨by simp, fun _ => with'⟩ ?_ _ _
      intro e' a'' handled refreshing
      cases handled
      cases a' with
      | replay _ | retry _ => cases refreshing
      | _ => cases one
    exact moved.append (f := { options := options, call := f.call }) rfl rfl
  | @finish id f e a outcome handles heard left =>
    exact carried.set handles.found { f with stage := .done outcome } ⟨by simp, fun h => by cases h⟩
      (fun _ _ h => by cases h) _ _

theorem kept_set {id' : Nat} {g : Fetch} (found : q.fetches[id']? = some g) (f' : Fetch) (passed : f'.stage ≠ .entering)
    (same : g.stage ≠ .entering → f'.sentWith = g.sentWith ∧ f'.options = g.options)
    (there : q.fetches[id]? = some f) (passed' : f.stage ≠ .entering) :
    ∃ f'', (q.fetches.set id' f')[id]? = some f'' ∧ f''.stage ≠ .entering ∧ f''.sentWith = f.sentWith ∧
      f''.options = f.options := by
  rw [getElem?_set_found found]
  split
  · rename_i here
    subst here
    obtain rfl := Option.some.inj (found.symm.trans there)
    exact ⟨f', rfl, passed, same passed'⟩
  · exact ⟨f, there, passed', rfl, rfl⟩

theorem Works.keeps (works : Works q q') (there : q.fetches[id]? = some f) (passed : f.stage ≠ .entering) :
    ∃ f', q'.fetches[id]? = some f' ∧ f'.stage ≠ .entering ∧ f'.sentWith = f.sentWith ∧ f'.options = f.options := by
  cases works with
  | pass found same before after' =>
    refine kept_set found _ ?_ (fun other => ⟨?_, same.1⟩) there passed
    · rcases after' with ⟨sent, -⟩ | done
      · rw [sent]
        simp
      · intro entering
        rw [entering] at done
        cases done
    · rcases before with entering | ⟨-, with'⟩
      · exact absurd entering other
      · exact with'
  | fail _ found => exact kept_set found _ (by simp) (fun _ => ⟨rfl, rfl⟩) there passed
  | serve _ _ found => exact kept_set found _ (by simp) (fun _ => ⟨rfl, rfl⟩) there passed
  | decline _ _ found => exact kept_set found _ (by simp) (fun _ => ⟨rfl, rfl⟩) there passed
  | goOn handles =>
    exact kept_set handles.found _ (by simp) (fun _ => ⟨rfl, rfl⟩) there passed
  | @again id' g e a a' options handles alone four awaits one repeated method cause =>
    obtain ⟨f', found', kept⟩ :=
      kept_set handles.found { g with stage := .handled e a' } (by simp) (fun _ => ⟨rfl, rfl⟩) there passed
    refine ⟨f', ?_, kept⟩
    rw [List.getElem?_append_left (List.getElem?_eq_some_iff.mp found').1]
    exact found'
  | finish _ handles => exact kept_set handles.found _ (by simp) (fun _ => ⟨rfl, rfl⟩) there passed

theorem Works.new (works : Works q q') (absent : q.fetches[id]? = none) (there : q'.fetches[id]? = some f) :
    f.stage = .entering := by
  have unset {j : Nat} {f' : Fetch} : (q.fetches.set j f')[id]? = none := by
    rw [List.getElem?_eq_none_iff] at absent ⊢
    simpa using absent
  cases works with
  | again =>
    rcases getElem?_append_one there with old | ⟨-, rfl⟩
    · rw [unset] at old
      cases old
    · rfl
  | _ =>
    rw [unset] at there
    cases there

end RequestQueue

namespace ApiClient
variable {s : ApiClient} {id : Nat} {f g : Fetch} {e : DioException} {a : HandlerWait} {i : ApiStep}

theorem await_other (found : s.fetches[id]? = some f) (entering : f.stage = .entering) {j : Nat}
    (there : s.fetches[j]? = some g) (moved : g.stage ≠ .entering) (f' : Fetch) :
    (s.fetches.set j f')[id]? = some f := by
  rw [RequestQueue.getElem?_set_found there, if_neg, found]
  rintro rfl
  obtain rfl := Option.some.inj (there.symm.trans found)
  exact moved entering

theorem entering_next (found : s.fetches[id]? = some f) (entering : f.stage = .entering) (other : i ≠ .entered id) :
    (s.next i).fetches[id]? = some f := by
  have inside := (List.getElem?_eq_some_iff.mp found).1
  have running {j : Nat} {g : Fetch} {e : DioException} {a : HandlerWait} (handling' : s.handling = some (j, g, e, a))
      (f' : Fetch) : (s.fetches.set j f')[id]? = some f := by
    have handles := handling_iff.mp handling'
    exact await_other found entering handles.found (by rw [handles.stage]; simp) f'
  have retries {s' : ApiClient} {j : Nat} {g : Fetch} (e : DioException) (there : s.fetches[j]? = some g)
      (moved : g.stage ≠ .entering) (same : s'.fetches = s.fetches) :
      (retryOrNext j g e s').fetches[id]? = some f := by
    unfold retryOrNext await finish place
    split <;> (dsimp only; rw [same]; exact await_other found entering there moved _)
  have again {s' : ApiClient} {j : Nat} {g : Fetch} {e : DioException} {a : HandlerWait}
      (handling' : s.handling = some (j, g, e, a)) (same : s'.fetches = s.fetches) (options : RequestOptions)
      (awaited : Nat → HandlerWait) : (fetchAgain j g e s' options awaited).fetches[id]? = some f := by
    unfold fetchAgain await place
    dsimp only
    rw [same, List.getElem?_append_left (by simpa using inside)]
    exact running handling' _
  cases i with
  | call =>
    simp only [next]
    rw [List.getElem?_append_left inside]
    exact found
  | signIn =>
    simp only [next]
    split <;> exact found
  | signOut | lock locked => exact found
  | entered j =>
    simp only [next]
    split
    · split
      · have different : j ≠ id := fun same => other (by rw [same])
        unfold onRequest place
        split <;> exact (List.getElem?_set_ne different).trans found
      · exact found
    · exact found
  | replied j outcome =>
    simp only [next]
    split
    · rename_i g there
      split
      · rename_i sent
        have kept := await_other found entering there (by rw [sent]; simp)
        unfold received place
        split <;> exact kept _
      · exact found
    · exact found
  | serve =>
    simp only [next]
    split
    · split
      · rename_i g there
        split
        · rename_i queued
          have moved : g.stage ≠ .entering := by rw [queued]; simp
          unfold onError
          split
          · exact await_other found entering there moved _
          · exact retries _ there moved rfl
        · exact found
      · exact found
    · exact found
  | read =>
    simp only [next]
    split
    · rename_i handles
      unfold refresh
      repeat' split
      all_goals exact running handles _
    · exact found
  | refreshed reply =>
    simp only [next]
    split
    · rename_i handles
      unfold refreshReplied
      repeat' split
      all_goals exact running handles _
    · exact found
  | written =>
    simp only [next]
    split
    · rename_i handles
      exact again handles rfl _ _
    · exact found
  | cleared =>
    simp only [next]
    split
    · rename_i handles
      exact running handles _
    · exact found
  | notified =>
    simp only [next]
    split
    · rename_i handling'
      have handles := handling_iff.mp handling'
      exact retries _ handles.found (by rw [handles.stage]; simp) rfl
    · exact found
  | elapsed =>
    simp only [next]
    split
    · rename_i handles
      exact again handles rfl _ _
    · exact found
  | answered =>
    simp only [next]
    split
    · rename_i handles
      repeat' split
      · unfold heard
        split <;> exact running handles _
      · exact found
      · exact found
    · exact found

/-! ### What the token store holds -/

/-- The step stores other tokens, or removes those that are stored. -/
def Changes : ApiStep → ApiClient → Prop
  | .signIn tokens, s => s.locked = false ∧ s.stored ≠ some tokens
  | .signOut, s => s.stored ≠ none
  | .written, s => ∃ id f e refreshed, s.handling = some (id, f, e, .write refreshed) ∧ s.stored ≠ some refreshed
  | .cleared, s => (∃ id f e, s.handling = some (id, f, e, .clear)) ∧ s.stored ≠ none
  | _, _ => False

theorem stored_next (i : ApiStep) (s : ApiClient) (same : ¬ Changes i s) : (s.next i).stored = s.stored := by
  have retries {j : Nat} {g : Fetch} {e : DioException} (s' : ApiClient) :
      (retryOrNext j g e s').stored = s'.stored := by
    unfold retryOrNext
    split <;> rfl
  cases i with
  | call method path anonymous | lock locked => rfl
  | signIn tokens =>
    simp only [next]
    split
    · rfl
    · rename_i unlocked
      by_contra other
      exact same ⟨by simpa using unlocked, fun already => other already.symm⟩
  | signOut =>
    by_contra other
    exact same fun already => other already.symm
  | entered =>
    simp only [next, onRequest]
    repeat' split
    all_goals rfl
  | replied =>
    simp only [next, received]
    repeat' split
    all_goals rfl
  | serve =>
    simp only [next]
    repeat' split
    · unfold onError
      split
      · rfl
      · exact retries _
    all_goals rfl
  | read =>
    simp only [next, refresh]
    repeat' split
    all_goals rfl
  | refreshed =>
    simp only [next]
    split
    · unfold refreshReplied
      repeat' split
      all_goals rfl
    · rfl
  | written =>
    simp only [next]
    split
    · rename_i handles
      by_contra other
      exact same ⟨_, _, _, _, handles, fun already => other already.symm⟩
    · rfl
  | cleared =>
    simp only [next]
    split
    · rename_i handles
      by_contra other
      exact same ⟨⟨_, _, _, handles⟩, fun already => other already.symm⟩
    · rfl
  | notified =>
    simp only [next]
    split
    · exact retries _
    · rfl
  | elapsed =>
    simp only [next]
    split <;> rfl
  | answered =>
    simp only [next, heard]
    repeat' split
    all_goals rfl

theorem stored_reached (between : List ApiStep) (s : ApiClient)
    (same : Runs.Met next (fun i s => ¬ Changes i s) between s) : (Runs.reached next between s).stored = s.stored := by
  induction between generalizing s with
  | nil => rfl
  | cons i rest ih =>
    obtain ⟨first, later⟩ := same
    exact (ih _ later).trans (stored_next i s first)

/-! ### From the sending to the error handler -/

theorem keeps_next (i : ApiStep) (found : s.fetches[id]? = some f) (passed : f.stage ≠ .entering) :
    ∃ f', (s.next i).fetches[id]? = some f' ∧ f'.stage ≠ .entering ∧ f'.sentWith = f.sentWith ∧
      f'.options = f.options := by
  cases answer : i.isAnswer with
  | true =>
    rcases next_works i s answer with same | works
    · rw [same]
      exact ⟨f, found, passed, rfl, rfl⟩
    · exact works.keeps found passed
  | false =>
    rcases next_queue i s answer with same | ⟨method, path, anonymous, rfl⟩
    · rw [same]
      exact ⟨f, found, passed, rfl, rfl⟩
    · refine ⟨f, ?_, passed, rfl, rfl⟩
      simp only [next]
      rw [List.getElem?_append_left (List.getElem?_eq_some_iff.mp found).1]
      exact found

theorem keeps_reached (between : List ApiStep) (s : ApiClient) (found : s.fetches[id]? = some f)
    (passed : f.stage ≠ .entering) :
    ∃ f', (Runs.reached next between s).fetches[id]? = some f' ∧ f'.sentWith = f.sentWith ∧ f'.options = f.options := by
  induction between generalizing s f with
  | nil => exact ⟨f, found, rfl, rfl⟩
  | cons i rest ih =>
    obtain ⟨f₁, found₁, passed₁, with₁, options₁⟩ := keeps_next i found passed
    obtain ⟨f', found', with', options'⟩ := ih _ found₁ passed₁
    exact ⟨f', found', with'.trans with₁, options'.trans options₁⟩

theorem passed_next (i : ApiStep) (s : ApiClient) (id : Nat)
    (after' : ∃ f, (s.next i).fetches[id]? = some f ∧ f.stage ≠ .entering) :
    (∃ f, s.fetches[id]? = some f ∧ f.stage ≠ .entering) ∨
      i = .entered id ∧ ∃ f, s.fetches[id]? = some f ∧ f.stage = .entering := by
  obtain ⟨f', there', passed⟩ := after'
  cases there : s.fetches[id]? with
  | some f =>
    by_cases entering : f.stage = .entering
    · refine .inr ⟨?_, f, rfl, entering⟩
      by_contra other
      have kept := entering_next there entering other
      rw [there'] at kept
      cases kept
      exact passed entering
    · exact .inl ⟨f, rfl, entering⟩
  | none =>
    exfalso
    refine passed ?_
    cases answer : i.isAnswer with
    | true =>
      rcases next_works i s answer with same | works
      · rw [same, there] at there'
        cases there'
      · exact works.new there there'
    | false =>
      rcases next_queue i s answer with same | ⟨method, path, anonymous, rfl⟩
      · rw [same, there] at there'
        cases there'
      · rcases RequestQueue.getElem?_append_one there' with old | ⟨-, rfl⟩
        · rw [there] at old
          cases old
        · rfl

theorem entered_next (found : s.fetches[id]? = some f) (entering : f.stage = .entering) :
    (s.next (.entered id)).stored = s.stored ∧ ∃ f', (s.next (.entered id)).fetches[id]? = some f' ∧
      f'.stage ≠ .entering ∧ (f'.options.anonymous = false → f'.sentWith = some s.stored ∨ f'.sentWith = f.sentWith) := by
  have there (f' : Fetch) : (s.fetches.set id f')[id]? = some f' := by
    rw [RequestQueue.getElem?_set_found found, if_pos rfl]
  simp only [next, found, entering, if_true, onRequest, place]
  split
  · exact ⟨rfl, _, there _, by simp, fun _ => .inr rfl⟩
  · refine ⟨rfl, _, there _, by simp, fun known => .inl ?_⟩
    simp only at known
    simp [known]

theorem carried_next (i : ApiStep) (carried : s.toRequestQueue.Carried) : (s.next i).toRequestQueue.Carried := by
  cases answer : i.isAnswer with
  | true =>
    rcases next_works i s answer with same | works
    · rw [same]
      exact carried
    · exact carried.works works
  | false =>
    rcases next_queue i s answer with same | ⟨method, path, anonymous, rfl⟩
    · rw [same]
      exact carried
    · exact carried.append rfl rfl

/-! ### After the clear -/

/-- Between the clear and the call of `onSessionExpired` nothing is stored. -/
def Vacant (s : ApiClient) : Prop := ∀ id f e, s.handling = some (id, f, e, .expiry) → s.stored = none

/-- Nobody signs in between the clear and the call of `onSessionExpired`. -/
def Settled : ApiStep → ApiClient → Prop
  | .signIn _, s => (∃ id f e, s.handling = some (id, f, e, .expiry)) → s.locked = true
  | _, _ => True

theorem vacant_of_await (found : s.fetches[id]? = some f) (other : a ≠ .expiry) : Vacant (await id f e s a) := by
  intro id' f' e' handles
  rw [handling_await found] at handles
  cases handles
  exact absurd rfl other

theorem vacant_of_idle (idle : s.running = none) : Vacant s := by
  intro id f e handles
  rw [(handling_iff.mp handles).running] at idle
  cases idle

theorem retryOrNext_vacant (found : s.fetches[id]? = some f) : Vacant (retryOrNext id f e s) := by
  unfold retryOrNext
  split
  · exact vacant_of_await found (by simp)
  · exact vacant_of_idle rfl

theorem fetchAgain_vacant (handles : s.toRequestQueue.Handles id f e a) (options : RequestOptions)
    (awaited : Nat → HandlerWait) (other : ∀ n, awaited n ≠ .expiry) :
    Vacant (fetchAgain id f e s options awaited) := by
  intro id' f' e' handling'
  have handles' := handling_iff.mp handling'
  obtain rfl : id = id' := Option.some.inj handles'.running
  have inside := (List.getElem?_eq_some_iff.mp handles.found).1
  have there : ((s.fetches.set id { f with stage := .handled e (awaited s.fetches.length) }) ++
      [{ options := options, call := f.call }])[id]? = some f' := handles'.found
  rw [List.getElem?_append_left (by simpa using inside), RequestQueue.getElem?_set_found handles.found,
    if_pos rfl] at there
  cases there
  exact absurd (FetchStage.handled.inj handles'.stage).2 (other _)

theorem vacant_next (orderly : s.toRequestQueue.Orderly) (vacant : Vacant s) (i : ApiStep) (settled : Settled i s) :
    Vacant (s.next i) := by
  have still {s' : ApiClient} (handling' : s'.handling = s.handling) (stored : s'.stored = s.stored) : Vacant s' := by
    intro id f e handles
    rw [handling'] at handles
    rw [stored]
    exact vacant id f e handles
  cases i with
  | call =>
    refine still (handling_other rfl fun j running => ?_) rfl
    obtain ⟨g, e, a, there, -⟩ := orderly.running j running
    simp only [next]
    rw [List.getElem?_append_left (List.getElem?_eq_some_iff.mp there).1]
  | signIn tokens =>
    simp only [next]
    split
    · exact vacant
    · rename_i unlocked
      intro id f e handles
      exact absurd (settled ⟨id, f, e, handles⟩) unlocked
  | signOut => exact fun _ _ _ _ => rfl
  | lock => exact still rfl rfl
  | entered id =>
    simp only [next]
    split
    · split
      · rename_i found entering
        unfold onRequest
        split <;> exact still (handling_place orderly found (.inl entering) _) rfl
      · exact vacant
    · exact vacant
  | replied id outcome =>
    simp only [next]
    split
    · split
      · rename_i found sent
        unfold received
        split <;> exact still (handling_place orderly found (.inr sent) _) rfl
      · exact vacant
    · exact vacant
  | serve =>
    simp only [next]
    split
    · rename_i id rest idle first
      split
      · rename_i found
        split
        · unfold onError
          split
          · exact vacant_of_await (s := { s with errors := rest }) found (by simp)
          · exact retryOrNext_vacant (s := { s with errors := rest }) found
        · exact vacant
      · exact vacant
    · exact vacant
  | read =>
    simp only [next]
    split
    · rename_i handles
      unfold refresh
      repeat' split
      all_goals exact vacant_of_await (handling_iff.mp handles).found (by simp)
    · exact vacant
  | refreshed reply =>
    simp only [next]
    split
    · rename_i handles
      unfold refreshReplied
      repeat' split
      all_goals exact vacant_of_await (handling_iff.mp handles).found (by simp)
    · exact vacant
  | written =>
    simp only [next]
    split
    · rename_i id f e refreshed handles
      exact fetchAgain_vacant (s := { s with stored := some refreshed }) (handling_iff.mp handles) _ _ (by simp)
    · exact vacant
  | cleared =>
    simp only [next]
    split
    · exact fun _ _ _ _ => rfl
    · exact vacant
  | notified =>
    simp only [next]
    split
    · rename_i handles
      exact retryOrNext_vacant (s := { s with expired := s.expired + 1 }) (handling_iff.mp handles).found
    · exact vacant
  | elapsed =>
    simp only [next]
    split
    · rename_i handles
      exact fetchAgain_vacant (handling_iff.mp handles) _ _ (by simp)
    · exact vacant
  | answered =>
    simp only [next]
    split
    · rename_i handles
      repeat' split
      · unfold heard
        split
        · exact vacant_of_await (handling_iff.mp handles).found (by simp)
        · exact vacant_of_idle rfl
      · exact vacant
      · exact vacant
    · exact vacant

/-! ### Runs -/

/-- The stored tokens are those that the rejected request was sent with when the store is cleared, and nobody has
signed in since when the app hears of it. -/
def Discards : ApiStep → ApiClient → Prop
  | .cleared, s => ∀ id f e, s.handling = some (id, f, e, .clear) → f.sentWith = some s.stored
  | .notified, s => ∀ id f e, s.handling = some (id, f, e, .expiry) → s.stored = none
  | _, _ => True

/-- Nobody stores other tokens, or removes them, between the sending of a request whose refresh comes to nothing and
the end of the handling of its error. -/
structure Undisturbed (run : List ApiStep) (s : ApiClient) : Prop where
  sent : ∀ before between later id, run = before ++ .entered id :: (between ++ .cleared :: later) →
    (∃ f, (Runs.reached next before s).fetches[id]? = some f ∧ f.stage = .entering) →
    (∃ f e, (Runs.reached next (before ++ .entered id :: between) s).handling = some (id, f, e, .clear)) →
    Runs.Met next (fun i s => ¬ Changes i s) between (next (.entered id) (Runs.reached next before s))
  settled : Runs.Met next Settled run s

theorem cleared_rejected {run before later : List ApiStep} {stored : Option TokenBundle} {locked : Bool}
    (undisturbed : Undisturbed run (launched stored locked)) (split : run = before ++ .cleared :: later)
    (handling' : (Runs.reached next before (launched stored locked)).handling = some (id, f, e, .clear)) :
    f.sentWith = some (Runs.reached next before (launched stored locked)).stored := by
  have handles := handling_iff.mp handling'
  have passed : f.stage ≠ .entering := by rw [handles.stage]; simp
  have carried (run : List ApiStep) : (Runs.reached next run (launched stored locked)).toRequestQueue.Carried := by
    have always : Runs.Throughout next (fun s => s.toRequestQueue.Carried) run (launched stored locked) :=
      Runs.throughout_of_kept (fun i _ => carried_next i) (fun _ carried => carried) run _
        ⟨by simp [launched], by simp [launched], by simp [launched]⟩
    exact always.last
  rcases Runs.reached_caused (P := fun s => ∃ f, s.fetches[id]? = some f ∧ f.stage ≠ .entering)
      (fun i s => passed_next i s id) before _ ⟨f, handles.found, passed⟩ with
    ⟨g, there, -⟩ | ⟨before', i, between, split', rfl, g, there, entering⟩
  · simp [launched] at there
  · have same := undisturbed.sent before' between later id (by rw [split, split']; simp) ⟨g, there, entering⟩
      ⟨f, e, by rw [← split']; exact handling'⟩
    obtain ⟨stored', f₁, found₁, passed₁, sentWith⟩ := entered_next there entering
    obtain ⟨f₂, found₂, with₂, options₂⟩ := keeps_reached between _ found₁ passed₁
    have reached' : Runs.reached next before (launched stored locked) =
        Runs.reached next between (next (.entered id) (Runs.reached next before' (launched stored locked))) := by
      rw [split']
      exact List.foldl_append ..
    have found := handles.found
    rw [reached', found₂] at found
    cases found
    have sent := (carried before).sent id _ handles.found passed (by rw [handles.stage]; rfl)
    have known := (carried before).known id _ e .clear handles.found handles.stage rfl
    rw [options₂] at known
    rcases sentWith known with now | none'
    · rw [with₂, now, reached', stored_reached between _ same, stored']
    · rw [with₂, none', (carried before').unsent id g there entering] at sent
      exact absurd rfl sent

def tokensOf (name : String) : TokenBundle :=
  ⟨name, some name, 0, "01K0M0JJ5X0M0JJ5X0M0JJ5X0N", "01K0M0JJ5X0M0JJ5X0M0JJ5X0P"⟩

/-- A request of a session that has ended, whose refresh is refused. -/
def refused : List ApiStep :=
  [.call "GET" "/api/v1/me" false, .entered 0, .replied 0 (.failure ⟨.badResponse, some 401⟩), .serve, .read,
    .refreshed .failed, .cleared, .notified]

/-- A request of the first sign-in that is refused after a second one, whose refresh finds no platform. -/
def late : List ApiStep :=
  [.call "GET" "/api/v1/me" false, .entered 0, .signOut, .signIn (tokensOf "B"),
    .replied 0 (.failure ⟨.badResponse, some 401⟩), .serve, .read, .refreshed .failed, .cleared, .notified]

end ApiClient
end VtsaCsms.Mobile
