import Mathlib.Data.List.Infix
import VtsaCsms.Foundation.Runs

/-!
# Event loops

One thread that takes one event after the other, whatever its state is. An event either
begins an operation or answers what a suspended one awaits, and every turn runs until the
operation is suspended again or over. The answers come in any order, late, or never.
-/
namespace VtsaCsms.Foundation
variable {σ τ ε α : Type}

/-- The code of a thread: what an event does, and how a suspended operation goes on. -/
structure Program (σ τ ε α : Type) where
  enter : ε → σ → σ × Option τ
  resume : τ → α → σ → σ × Option τ

/-- A thread's state, and where every operation begun so far is suspended, unless it is over. -/
structure Isolate (σ τ : Type) where
  state : σ
  tasks : List (Option τ)

/-- Where the operation is suspended. -/
def Isolate.suspended (w : Isolate σ τ) (id : Nat) : Option τ := (w.tasks[id]?).join

inductive Turn (ε α : Type) where
  | enter (e : ε)
  | resume (id : Nat) (answer : α)

namespace Turn

/-- The turn does not go on with one of the first `n` operations. -/
def laterThan (n : Nat) : Turn ε α → Bool
  | enter _ => true
  | resume id _ => n ≤ id

end Turn

namespace Program

def next (p : Program σ τ ε α) : Turn ε α → Isolate σ τ → Isolate σ τ
  | .enter e, w => ⟨(p.enter e w.state).1, w.tasks ++ [(p.enter e w.state).2]⟩
  | .resume id answer, w =>
    match w.tasks[id]? with
    | some (some t) =>
      ⟨(p.resume t answer w.state).1, w.tasks.set id (p.resume t answer w.state).2⟩
    | _ => w

section Suspended
variable {p : Program σ τ ε α}

theorem next_resume {id : Nat} {answer : α} {w : Isolate σ τ} {t : τ} (suspended : w.tasks[id]? = some (some t)) :
    p.next (.resume id answer) w =
      ⟨(p.resume t answer w.state).1, w.tasks.set id (p.resume t answer w.state).2⟩ := by
  unfold next
  simp only [suspended]

theorem next_suspended {id : Nat} {answer : α} {w : Isolate σ τ} {t : τ} (found : w.suspended id = some t) :
    (p.next (.resume id answer) w).state = (p.resume t answer w.state).1 := by
  rw [next_resume (Option.join_eq_some_iff.mp found)]

/-- An answer to an operation that is over, or was never begun, is dropped. -/
theorem next_idle {id : Nat} {answer : α} {w : Isolate σ τ} (idle : ∀ t, w.tasks[id]? ≠ some (some t)) :
    p.next (.resume id answer) w = w := by
  simp only [next]

theorem length_le_next (turn : Turn ε α) (w : Isolate σ τ) : w.tasks.length ≤ (p.next turn w).tasks.length := by
  cases turn with
  | enter => simp [next]
  | resume =>
    unfold next
    dsimp only
    split <;> simp

end Suspended

/-! ### What holds of every suspended operation -/

/-- `holds` is true of every suspended operation of the thread. -/
def EveryTask (holds : σ → τ → Prop) (w : Isolate σ τ) : Prop :=
  ∀ (id : Nat) (t : τ), w.tasks[id]? = some (some t) → holds w.state t

/-- What an operation meets where it is suspended, and every turn keeps, holds of all of them. -/
structure Holds (p : Program σ τ ε α) (holds : σ → τ → Prop) : Prop where
  entered : ∀ e s t, (p.enter e s).2 = some t → holds (p.enter e s).1 t
  resumed : ∀ t a s t', holds s t → (p.resume t a s).2 = some t' → holds (p.resume t a s).1 t'
  keptEntering : ∀ e s t, holds s t → holds (p.enter e s).1 t
  keptResuming : ∀ t a s t', holds s t' → holds (p.resume t a s).1 t'

theorem Holds.next {p : Program σ τ ε α} {holds : σ → τ → Prop} (rules : p.Holds holds) (turn : Turn ε α)
    {w : Isolate σ τ} (all : EveryTask holds w) : EveryTask holds (p.next turn w) := by
  cases turn with
  | enter e =>
    intro id t suspended
    simp only [Program.next, List.getElem?_append] at suspended ⊢
    split at suspended
    · exact rules.keptEntering e w.state t (all id t suspended)
    · rw [List.getElem?_singleton] at suspended
      split at suspended
      · exact rules.entered e w.state t (Option.some.inj suspended)
      · cases suspended
  | resume id answer =>
    by_cases idle : ∀ t, w.tasks[id]? ≠ some (some t)
    · rw [next_idle idle]
      exact all
    · push Not at idle
      obtain ⟨t, found⟩ := idle
      rw [next_resume found]
      intro other t' suspended
      rw [List.getElem?_set] at suspended
      split at suspended
      · split at suspended
        · exact rules.resumed t answer w.state t' (all id t found) (Option.some.inj suspended)
        · cases suspended
      · exact rules.keptResuming t answer w.state t' (all other t' suspended)

theorem Holds.run {p : Program σ τ ε α} {holds : σ → τ → Prop} (rules : p.Holds holds) (turns : List (Turn ε α))
    {w : Isolate σ τ} (all : EveryTask holds w) : EveryTask holds (Runs.reached p.next turns w) := by
  induction turns generalizing w with
  | nil => exact all
  | cons turn rest ih => exact ih (rules.next turn all)

/-! ### What only events change -/

section Part
variable {π : Type} {p : Program σ τ ε α} {keep : Turn ε α → Bool}

/-- What every event changes by itself, and no answer does, is the same without some of the answers. -/
theorem without_answers {f : Isolate σ τ → π} {c : ε → π → π}
    (entered : ∀ e w, f (p.next (.enter e) w) = c e (f w))
    (resumed : ∀ id answer w, f (p.next (.resume id answer) w) = f w)
    (events : ∀ e, keep (.enter e) = true) (turns : List (Turn ε α)) {w w' : Isolate σ τ} (same : f w = f w') :
    f (Runs.reached p.next turns w) = f (Runs.reached p.next (turns.filter keep) w') := by
  induction turns generalizing w w' with
  | nil => exact same
  | cons turn _ ih =>
    cases turn with
    | enter e =>
      rw [List.filter_cons_of_pos (events e)]
      exact ih (by rw [entered, entered, same])
    | resume id answer =>
      cases kept : keep (.resume id answer) with
      | true =>
        rw [List.filter_cons_of_pos kept]
        exact ih (by rw [resumed, resumed, same])
      | false =>
        rw [List.filter_cons_of_neg (by simp [kept])]
        exact ih ((resumed id answer w).trans same)

theorem part_reached {part : σ → π} {change : ε → π → π}
    (entered : ∀ e s, part (p.enter e s).1 = change e (part s))
    (resumed : ∀ t a s, part (p.resume t a s).1 = part s)
    (events : ∀ e, keep (.enter e) = true) (turns : List (Turn ε α)) {w w' : Isolate σ τ}
    (same : part w.state = part w'.state) :
    part (Runs.reached p.next turns w).state = part (Runs.reached p.next (turns.filter keep) w').state := by
  refine without_answers (f := fun w => part w.state) (fun e w => entered e w.state) ?_ events turns same
  intro id answer w
  simp only [next]
  split
  · exact resumed _ answer w.state
  · rfl

/-- Every event begins one operation, so as many are begun without some of the answers. -/
theorem length_reached (events : ∀ e, keep (.enter e) = true) (turns : List (Turn ε α)) {w w' : Isolate σ τ}
    (same : w.tasks.length = w'.tasks.length) :
    (Runs.reached p.next turns w).tasks.length =
      (Runs.reached p.next (turns.filter keep) w').tasks.length := by
  refine without_answers (f := fun w => w.tasks.length) (c := fun _ n => n + 1) ?_ ?_ events turns same
  · intro e w
    simp only [next, List.length_append, List.length_singleton]
  · intro id answer w
    simp only [next]
    split <;> simp

end Part

/-! ### Operations that no answer revives -/

/-- An operation that is spent stays so, and no answer to it changes the state. -/
structure Retires (p : Program σ τ ε α) (Spent : σ → τ → Prop) : Prop where
  keptEntering : ∀ e s t, Spent s t → Spent (p.enter e s).1 t
  keptResuming : ∀ t a s t', Spent s t' → Spent (p.resume t a s).1 t'
  inert : ∀ t a s, Spent s t → (p.resume t a s).1 = s
  spent : ∀ t a s t', Spent s t → (p.resume t a s).2 = some t' → Spent s t'

/-- The first `n` operations are over or spent. -/
structure Retired (Spent : σ → τ → Prop) (n : Nat) (w : Isolate σ τ) : Prop where
  begun : n ≤ w.tasks.length
  spent : ∀ (id : Nat) (t : τ), id < n → w.tasks[id]? = some (some t) → Spent w.state t

/-- The same state, and the same operations from the `n`th on. -/
structure Alike (n : Nat) (w w' : Isolate σ τ) : Prop where
  state : w.state = w'.state
  length : w.tasks.length = w'.tasks.length
  tasks : ∀ id : Nat, n ≤ id → w.tasks[id]? = w'.tasks[id]?

section Retired
variable {p : Program σ τ ε α} {Spent : σ → τ → Prop} {n : Nat} {w w' : Isolate σ τ}

theorem Retires.next (rules : p.Retires Spent) (turn : Turn ε α) (retired : Retired Spent n w) :
    Retired Spent n (p.next turn w) := by
  refine ⟨retired.begun.trans (length_le_next turn w), ?_⟩
  intro id t old suspended
  cases turn with
  | enter e =>
    simp only [Program.next] at suspended ⊢
    rw [List.getElem?_append_left (Nat.lt_of_lt_of_le old retired.begun)] at suspended
    exact rules.keptEntering e w.state t (retired.spent id t old suspended)
  | resume at' answer =>
    by_cases idle : ∀ t, w.tasks[at']? ≠ some (some t)
    · rw [next_idle idle] at suspended ⊢
      exact retired.spent id t old suspended
    · push Not at idle
      obtain ⟨t₀, found⟩ := idle
      rw [next_resume found] at suspended ⊢
      rw [List.getElem?_set] at suspended
      split at suspended
      · rename_i same
        subst same
        split at suspended
        · have before := retired.spent at' t₀ old found
          have after' := rules.spent t₀ answer w.state t before (Option.some.inj suspended)
          rw [rules.inert t₀ answer w.state before]
          exact after'
        · cases suspended
      · exact rules.keptResuming t₀ answer w.state t (retired.spent id t old suspended)

/-- An answer to a spent operation leaves everything later operations can see. -/
theorem Retires.old (rules : p.Retires Spent) (retired : Retired Spent n w) {id : Nat} (old : id < n) (answer : α) :
    Alike n (p.next (.resume id answer) w) w := by
  by_cases idle : ∀ t, w.tasks[id]? ≠ some (some t)
  · rw [next_idle idle]
    exact ⟨rfl, rfl, fun _ _ => rfl⟩
  · push Not at idle
    obtain ⟨t, found⟩ := idle
    rw [next_resume found]
    refine ⟨rules.inert t answer w.state (retired.spent id t old found), List.length_set, ?_⟩
    intro other later
    rw [List.getElem?_set_ne (Nat.ne_of_lt (Nat.lt_of_lt_of_le old later))]

/-- A turn that goes on with none of the first `n` operations does the same in both threads. -/
theorem Alike.next (alike : Alike n w w') {turn : Turn ε α} (later : turn.laterThan n = true) :
    Alike n (p.next turn w) (p.next turn w') := by
  cases turn with
  | enter =>
    refine ⟨?_, ?_, ?_⟩
    · simp only [Program.next, alike.state]
    · simp only [Program.next, List.length_append, List.length_singleton, alike.length]
    · intro id later'
      simp only [Program.next, List.getElem?_append, alike.length, alike.state, alike.tasks id later']
  | resume id =>
    have same := alike.tasks id (of_decide_eq_true later)
    by_cases idle : ∀ t, w.tasks[id]? ≠ some (some t)
    · rw [next_idle idle, next_idle fun t => same ▸ idle t]
      exact alike
    · push Not at idle
      obtain ⟨t, found⟩ := idle
      rw [next_resume found, next_resume (same.symm.trans found)]
      refine ⟨by rw [alike.state], ?_, ?_⟩
      · simp only [List.length_set, alike.length]
      · intro other later'
        simp only [List.getElem?_set, alike.length, alike.state, alike.tasks other later']

theorem Alike.trans {w'' : Isolate σ τ} (first : Alike n w w') (second : Alike n w' w'') : Alike n w w'' :=
  ⟨first.state.trans second.state, first.length.trans second.length,
    fun id later => (first.tasks id later).trans (second.tasks id later)⟩

/-- Once the first `n` operations are spent, a run is the same without the answers to them, and
whatever they were. -/
theorem Retires.run (rules : p.Retires Spent) (turns : List (Turn ε α)) (retired : Retired Spent n w)
    (alike : Alike n w w') :
    Alike n (Runs.reached p.next turns w) (Runs.reached p.next (turns.filter (Turn.laterThan n)) w') := by
  induction turns generalizing w w' with
  | nil => exact alike
  | cons turn rest ih =>
    cases later : turn.laterThan n with
    | true =>
      rw [List.filter_cons_of_pos later]
      exact ih (rules.next turn retired) (alike.next later)
    | false =>
      rw [List.filter_cons_of_neg (by simp [later])]
      refine ih (rules.next turn retired) ?_
      cases turn with
      | enter => cases later
      | resume _ answer =>
        exact (rules.old retired (Nat.lt_of_not_le (of_decide_eq_false later)) answer).trans alike

/-- Two runs that differ in the answers to spent operations alone end in one state. -/
theorem Retires.same_state (rules : p.Retires Spent) {turns turns' : List (Turn ε α)}
    (retired : Retired Spent n w) (retired' : Retired Spent n w') (alike : Alike n w w')
    (same : turns.filter (Turn.laterThan n) = turns'.filter (Turn.laterThan n)) :
    (Runs.reached p.next turns w).state = (Runs.reached p.next turns' w').state := by
  have first := rules.run turns retired alike
  have second := rules.run turns' retired' ⟨rfl, rfl, fun _ _ => rfl⟩
  rw [same] at first
  exact first.state.trans second.state.symm

end Retired
end Program
end VtsaCsms.Foundation
