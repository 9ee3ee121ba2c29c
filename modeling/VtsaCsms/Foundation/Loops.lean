import VtsaCsms.Foundation.Action

/-!
# Loops outside a transaction

A loop whose turns keep what they wrote when a later one throws.
-/
namespace VtsaCsms.Foundation.Action
variable {σ ε α : Type}

theorem after_forEach_cons (a : α) (rest : List α) (f : α → Action σ ε Unit) (s : σ) :
    after (forEach (a :: rest) f) s = after (f a) s ∨
      (Returns (f a) s () (after (f a) s) ∧
        after (forEach (a :: rest) f) s = after (forEach rest f) (after (f a) s)) := by
  rcases run : f a s with ⟨out, s'⟩
  cases out with
  | error =>
    left
    simp only [after, forEach, bind, run]
  | ok =>
    right
    have left' : after (f a) s = s' := congrArg Prod.snd run
    rw [left']
    refine ⟨run, ?_⟩
    simp only [after, forEach, bind, run]

variable {f : α → Action σ ε Unit}

theorem after_forEach_keeps {P : σ → Prop}
    (keeps : ∀ a s, P s → P (after (f a) s)) (as : List α) (s : σ) (entry : P s) : P (after (forEach as f) s) := by
  induction as generalizing s with
  | nil => exact entry
  | cons a rest ih =>
    rcases after_forEach_cons a rest f s with stopped | ⟨-, goes⟩
    · rw [stopped]
      exact keeps a s entry
    · rw [goes]
      exact ih _ (keeps a s entry)

theorem after_forEach_returns (a : α) (rest : List α) {s s' : σ}
    (turn : Returns (f a) s () s') : after (forEach (a :: rest) f) s = after (forEach rest f) s' := by
  have run : f a s = (.ok (), s') := turn
  simp only [after, forEach, bind, run]

/-- What each turn over the elements of the list keeps when it returns. -/
theorem forEach_keeps_mem {P : σ → Prop} {as : List α}
    (keeps : ∀ a ∈ as, ∀ s s', P s → Returns (f a) s () s' → P s') {s s' : σ} (entry : P s)
    (success : Returns (forEach as f) s () s') : P s' := by
  induction as generalizing s with
  | nil =>
    rw [forEach, returns_pure] at success
    rw [success.2]
    exact entry
  | cons a _ ih =>
    rw [forEach, returns_bind] at success
    obtain ⟨_, s₁, turn, later⟩ := success
    exact ih (fun b mem => keeps b (List.mem_cons_of_mem _ mem))
      (keeps a List.mem_cons_self s s₁ entry turn) later

theorem after_then_pure {β : Type} (m : Action σ ε Unit) (b : β) (s : σ) :
    after (m >>= fun _ => (pure b : Action σ ε β)) s = after m s := by
  rcases run : m s with ⟨out, s'⟩
  cases out <;> simp [after, bind, run, pure]

end VtsaCsms.Foundation.Action
