import Mathlib.Logic.Relation

/-!
# Database actions with rollback

An action runs on stored rows and either returns or throws. A throw alone keeps the
rows written so far, as a plain statement outside a transaction does; `transaction`
is what restores them. Nothing here assumes that an action is atomic.
-/
namespace VtsaCsms.Foundation

/-- Work on the rows `σ`: an outcome, and the rows it leaves behind in either case. -/
def Action (σ ε α : Type) : Type := σ → Except ε α × σ

namespace Action
variable {σ τ ε α β : Type}

instance : Monad (Action σ ε) where
  pure a := fun s => (.ok a, s)
  bind m f := fun s =>
    match m s with
    | (.ok a, s') => f a s'
    | (.error e, s') => (.error e, s')

def raise (e : ε) : Action σ ε α := fun s => (.error e, s)

def read (f : σ → α) : Action σ ε α := fun s => (.ok (f s), s)

def write (f : σ → σ) : Action σ ε Unit := fun s => (.ok (), f s)

def throwIf (c : Prop) [Decidable c] (e : ε) : Action σ ε Unit :=
  if c then raise e else pure ()

/-- An `if` statement without an `else`. -/
def doIf (c : Prop) [Decidable c] (m : Action σ ε Unit) : Action σ ε Unit :=
  if c then m else pure ()

/-- `firstOrFail` and `?? throw`: the value, or the given exception. -/
def orThrow (o : Option α) (e : ε) : Action σ ε α :=
  match o with
  | some a => pure a
  | none => raise e

/-- A computation that touches no row. -/
def lift (x : Except ε α) : Action σ ε α := fun s => (x, s)

/-- Commit on return, restore the rows of the entry on a throw. Nested transactions
are savepoints: an inner one restores its own entry. -/
def transaction (m : Action σ ε α) : Action σ ε α := fun s =>
  match m s with
  | (.ok a, s') => (.ok a, s')
  | (.error e, _) => (.error e, s)

def tryCatch (m : Action σ ε α) (handler : ε → Action σ ε α) : Action σ ε α := fun s =>
  match m s with
  | (.ok a, s') => (.ok a, s')
  | (.error e, s') => handler e s'

/-- `foreach`: one action after the other, until one throws. -/
def forEach (as : List α) (f : α → Action σ ε Unit) : Action σ ε Unit :=
  match as with
  | [] => pure ()
  | a :: rest => do
    f a
    forEach rest f

/-- Run an action of one component on the component's part of the rows. -/
def focus (get : τ → σ) (set : τ → σ → τ) (m : Action σ ε α) : Action τ ε α := fun t =>
  let out := m (get t)
  (out.1, set t out.2)

/-- The rows left behind, whatever the outcome. -/
def after (m : Action σ ε α) (s : σ) : σ := (m s).2

/-- The action returns `a` on `s` and leaves `s'`. -/
def Returns (m : Action σ ε α) (s : σ) (a : α) (s' : σ) : Prop := m s = (.ok a, s')

/-! ### What a returning action did -/

@[simp] theorem returns_pure (a b : α) (s s' : σ) :
    Returns (pure a : Action σ ε α) s b s' ↔ b = a ∧ s' = s := by
  simp only [Returns, pure, Prod.mk.injEq, Except.ok.injEq]
  constructor
  · rintro ⟨rfl, rfl⟩; exact ⟨rfl, rfl⟩
  · rintro ⟨rfl, rfl⟩; exact ⟨rfl, rfl⟩

@[simp] theorem returns_bind (m : Action σ ε α) (f : α → Action σ ε β) (s s'' : σ) (b : β) :
    Returns (m >>= f) s b s'' ↔ ∃ a s', Returns m s a s' ∧ Returns (f a) s' b s'' := by
  simp only [Returns, bind]
  rcases hm : m s with ⟨out, mid⟩
  cases out with
  | error => simp
  | ok a =>
    constructor
    · intro h; exact ⟨a, mid, rfl, h⟩
    · rintro ⟨a', s', h, hf⟩
      cases h
      exact hf

@[simp] theorem returns_raise (e : ε) (s s' : σ) (a : α) :
    ¬ Returns (raise e : Action σ ε α) s a s' := by
  simp [Returns, raise]

@[simp] theorem returns_read (f : σ → α) (s s' : σ) (a : α) :
    Returns (read f : Action σ ε α) s a s' ↔ a = f s ∧ s' = s := by
  simp only [Returns, read, Prod.mk.injEq, Except.ok.injEq]
  constructor
  · rintro ⟨rfl, rfl⟩; exact ⟨rfl, rfl⟩
  · rintro ⟨rfl, rfl⟩; exact ⟨rfl, rfl⟩

@[simp] theorem returns_write (f : σ → σ) (s s' : σ) (a : Unit) :
    Returns (write f : Action σ ε Unit) s a s' ↔ s' = f s := by
  simp only [Returns, write, Prod.mk.injEq, true_and]
  exact eq_comm

@[simp] theorem returns_throwIf (c : Prop) [Decidable c] (e : ε) (s s' : σ) (a : Unit) :
    Returns (throwIf c e : Action σ ε Unit) s a s' ↔ ¬ c ∧ s' = s := by
  by_cases h : c <;> simp [throwIf, h]

@[simp] theorem returns_orThrow (o : Option α) (e : ε) (s s' : σ) (a : α) :
    Returns (orThrow o e : Action σ ε α) s a s' ↔ o = some a ∧ s' = s := by
  cases o with
  | none => simp [orThrow]
  | some => simp [orThrow, eq_comm]

theorem returns_find (f : σ → Option α) (e : ε) (s s' : σ) (a : α) :
    Returns (read f >>= fun found => (orThrow found e : Action σ ε α)) s a s' ↔ f s = some a ∧ s' = s := by
  simp only [returns_bind, returns_read, returns_orThrow]
  constructor
  · rintro ⟨_, _, ⟨rfl, rfl⟩, found, rfl⟩
    exact ⟨found, rfl⟩
  · rintro ⟨found, rfl⟩
    exact ⟨_, _, ⟨rfl, rfl⟩, found, rfl⟩

@[simp] theorem returns_lift (x : Except ε α) (s s' : σ) (a : α) :
    Returns (lift x : Action σ ε α) s a s' ↔ x = .ok a ∧ s' = s := by
  simp only [Returns, lift, Prod.mk.injEq]
  exact and_congr_right fun _ => eq_comm

@[simp] theorem returns_transaction (m : Action σ ε α) (s s' : σ) (a : α) :
    Returns (transaction m) s a s' ↔ Returns m s a s' := by
  simp only [Returns, transaction]
  rcases m s with ⟨out, mid⟩
  cases out <;> simp

theorem returns_ite (c : Prop) [Decidable c] (m n : Action σ ε α) (s s' : σ) (a : α) :
    Returns (if c then m else n) s a s' ↔
      (c ∧ Returns m s a s') ∨ (¬ c ∧ Returns n s a s') := by
  by_cases h : c <;> simp [h]

theorem returns_doIf (c : Prop) [Decidable c] (m : Action σ ε Unit) (s s' : σ) (a : Unit) :
    Returns (doIf c m) s a s' ↔ (c ∧ Returns m s a s') ∨ (¬ c ∧ s' = s) := by
  unfold doIf
  rw [returns_ite, returns_pure]
  simp

@[simp] theorem returns_focus (get : τ → σ) (set : τ → σ → τ) (m : Action σ ε α)
    (t t' : τ) (a : α) :
    Returns (focus get set m) t a t' ↔ ∃ s', Returns m (get t) a s' ∧ t' = set t s' := by
  simp only [Returns, focus, Prod.mk.injEq]
  constructor
  · rintro ⟨hout, rfl⟩
    exact ⟨(m (get t)).2, Prod.ext hout rfl, rfl⟩
  · rintro ⟨s', hm, rfl⟩
    simp [hm]

theorem Returns.unique {m : Action σ ε α} {s s₁ s₂ : σ} {a b : α}
    (h₁ : Returns m s a s₁) (h₂ : Returns m s b s₂) : a = b ∧ s₁ = s₂ := by
  have h := h₁.symm.trans h₂
  simpa using h

theorem Returns.bind {m : Action σ ε α} {f : α → Action σ ε β} {s s' s'' : σ} {a : α} {b : β}
    (first : Returns m s a s') (rest : Returns (f a) s' b s'') : Returns (m >>= f) s b s'' :=
  (returns_bind m f s s'' b).mpr ⟨a, s', first, rest⟩

theorem Returns.bind_eq {m : Action σ ε α} {f : α → Action σ ε β} {s s' : σ} {a : α}
    (first : Returns m s a s') : (m >>= f) s = f a s' := by
  unfold Returns at first
  simp only [Bind.bind, first]

theorem Returns.throwIf {c : Prop} [Decidable c] {e : ε} {s : σ} (passed : ¬ c) :
    Returns (Action.throwIf c e : Action σ ε Unit) s () s :=
  (returns_throwIf c e s s ()).mpr ⟨passed, rfl⟩

theorem Returns.doIf {c : Prop} [Decidable c] {m : Action σ ε Unit} {s s' : σ} (holds : c)
    (body : Returns m s () s') : Returns (Action.doIf c m) s () s' :=
  (returns_doIf c m s s' ()).mpr (Or.inl ⟨holds, body⟩)

theorem Returns.skip {c : Prop} [Decidable c] {m : Action σ ε Unit} {s : σ} (fails : ¬ c) :
    Returns (Action.doIf c m) s () s :=
  (returns_doIf c m s s ()).mpr (Or.inr ⟨fails, rfl⟩)

theorem Returns.focus {get : τ → σ} {set : τ → σ → τ} {m : Action σ ε α} {t : τ} {s' : σ} {a : α}
    (inner : Returns m (get t) a s') : Returns (Action.focus get set m) t a (set t s') :=
  (returns_focus get set m t _ a).mpr ⟨s', inner, rfl⟩

theorem returns_of_toBool {m : Action σ ε Unit} {s : σ} (returned : (m s).1.toBool = true) :
    Returns m s () (after m s) := by
  unfold Returns after
  rcases run : m s with ⟨out, s'⟩
  rw [run] at returned
  cases out with
  | error => simp [Except.toBool] at returned
  | ok => rfl

/-! ### Throws -/

/-- The action throws `e` on `s` and leaves `s'`. -/
def Throws (m : Action σ ε α) (s : σ) (e : ε) (s' : σ) : Prop := m s = (.error e, s')

namespace Throws
variable {m : Action σ ε α} {f : α → Action σ ε β} {s s' s'' : σ} {e : ε} {a : α}

theorem bind (thrown : Throws m s e s') : Throws (m >>= f) s e s' := by
  unfold Throws at thrown ⊢
  simp only [Bind.bind, thrown]

theorem after_returns (first : Returns m s a s') (thrown : Throws (f a) s' e s'') :
    Throws (m >>= f) s e s'' := by
  unfold Returns at first
  unfold Throws at thrown ⊢
  simp only [Bind.bind, first, thrown]

theorem not_returns (thrown : Throws m s e s') : ¬ Returns m s a s'' := by
  intro returned
  have clash := thrown.symm.trans returned
  simp at clash

theorem unique {e' : ε} (thrown : Throws m s e s') (thrown' : Throws m s e' s'') : e = e' ∧ s' = s'' := by
  have same := thrown.symm.trans thrown'
  simpa using same

theorem focus {get : τ → σ} {set : τ → σ → τ} {t : τ} (thrown : Throws m (get t) e s') :
    Throws (Action.focus get set m) t e (set t s') := by
  unfold Throws at thrown ⊢
  simp only [Action.focus, thrown]

theorem doIf {c : Prop} [Decidable c] {m : Action σ ε Unit} (holds : c) (thrown : Throws m s e s') :
    Throws (Action.doIf c m) s e s' := by
  unfold Throws Action.doIf at *
  rwa [if_pos holds]

theorem throwIf {c : Prop} [Decidable c] (holds : c) :
    Throws (Action.throwIf c e : Action σ ε Unit) s e s := by
  unfold Throws Action.throwIf
  rw [if_pos holds]
  rfl

end Throws

/-! ### Loops -/

variable {P : σ → Prop}

theorem forEach_keeps {f : α → Action σ ε Unit}
    (keeps : ∀ a s s', P s → Returns (f a) s () s' → P s') {as : List α} {s s' : σ} (entry : P s)
    (success : Returns (forEach as f) s () s') : P s' := by
  induction as generalizing s with
  | nil =>
    rw [forEach, returns_pure] at success
    rw [success.2]
    exact entry
  | cons a _ ih =>
    rw [forEach, returns_bind] at success
    obtain ⟨_, s₁, turn, later⟩ := success
    exact ih (keeps a s s₁ entry turn) later

/-- A loop finishes when the rows of its entry refuse none of its turns, where no turn changes
what is refused of another. -/
theorem forEach_finishes {f : α → Action σ ε Unit} (refused : σ → α → Prop)
    (exact' : ∀ a s, P s → ((∃ s', Returns (f a) s () s') ↔ ¬ refused s a))
    (keeps : ∀ a s s', P s → Returns (f a) s () s' →
      P s' ∧ ∀ b, b ≠ a → (refused s' b ↔ refused s b))
    (as : List α) (s : σ) (distinct : as.Nodup) (entry : P s) :
    (∃ s', Returns (forEach as f) s () s') ↔ ∀ a ∈ as, ¬ refused s a := by
  induction as generalizing s with
  | nil =>
    simp only [List.not_mem_nil, false_implies, implies_true, iff_true]
    exact ⟨s, rfl⟩
  | cons a rest ih =>
    obtain ⟨new, distinct'⟩ := List.nodup_cons.mp distinct
    have others : ∀ {s₁}, Returns (f a) s () s₁ →
        ((∀ b ∈ rest, ¬ refused s₁ b) ↔ ∀ b ∈ rest, ¬ refused s b) := by
      intro s₁ turn
      have same := (keeps a s s₁ entry turn).2
      constructor
      · intro none' b member
        have other : b ≠ a := fun eq => new (eq ▸ member)
        exact (not_congr (same b other)).mp (none' b member)
      · intro none' b member
        have other : b ≠ a := fun eq => new (eq ▸ member)
        exact (not_congr (same b other)).mpr (none' b member)
    simp only [forEach, returns_bind, List.forall_mem_cons]
    constructor
    · rintro ⟨s', _, s₁, turn, later⟩
      refine ⟨(exact' a s entry).mp ⟨s₁, turn⟩, (others turn).mp ?_⟩
      exact (ih s₁ distinct' (keeps a s s₁ entry turn).1).mp ⟨s', later⟩
    · rintro ⟨accepted, none'⟩
      obtain ⟨s₁, turn⟩ := (exact' a s entry).mpr accepted
      obtain ⟨s', later⟩ := (ih s₁ distinct' (keeps a s s₁ entry turn).1).mpr ((others turn).mpr none')
      exact ⟨s', (), s₁, turn, later⟩

/-! ### Rollback -/

/-- A transaction that throws leaves exactly the rows of its entry. -/
theorem transaction_throws {m : Action σ ε α} {s : σ} {e : ε}
    (h : (transaction m s).1 = .error e) : (transaction m s).2 = s := by
  simp only [transaction] at h ⊢
  rcases hm : m s with ⟨out, mid⟩
  rw [hm] at h
  cases out with
  | error => rfl
  | ok => cases h

theorem transaction_cases (m : Action σ ε α) (s : σ) :
    (∃ a s', Returns m s a s' ∧ transaction m s = (.ok a, s')) ∨
      (∃ e, (m s).1 = .error e ∧ transaction m s = (.error e, s)) := by
  simp only [Returns, transaction]
  rcases hm : m s with ⟨out, mid⟩
  cases out with
  | error e => exact Or.inr ⟨e, rfl, rfl⟩
  | ok a => exact Or.inl ⟨a, mid, rfl, rfl⟩

/-- A throw leaves the rows of the entry, from whichever point it comes. -/
def Atomic (m : Action σ ε α) : Prop := ∀ s e, (m s).1 = .error e → (m s).2 = s

theorem atomic_transaction (m : Action σ ε α) : Atomic (transaction m) :=
  fun _ _ thrown => transaction_throws thrown

theorem atomic_read (f : σ → α) : Atomic (read f : Action σ ε α) := by
  intro s e thrown
  cases thrown

theorem atomic_write (f : σ → σ) : Atomic (write f : Action σ ε Unit) := by
  intro s e thrown
  cases thrown

theorem atomic_pure (a : α) : Atomic (pure a : Action σ ε α) := by
  intro s e thrown
  cases thrown

theorem atomic_lift (x : Except ε α) : Atomic (lift x : Action σ ε α) := fun _ _ _ => rfl

theorem atomic_throwIf (c : Prop) [Decidable c] (e : ε) :
    Atomic (throwIf c e : Action σ ε Unit) := by
  intro s e' _
  unfold throwIf
  split <;> rfl

theorem atomic_orThrow (o : Option α) (e : ε) : Atomic (orThrow o e : Action σ ε α) := by
  intro s e' _
  cases o <;> rfl

theorem Atomic.bind {m : Action σ ε α} {f : α → Action σ ε β} (first : Atomic m)
    (silent : ∀ s a s', Returns m s a s' → s' = s) (rest : ∀ a, Atomic (f a)) :
    Atomic (m >>= f) := by
  intro s e thrown
  simp only [Bind.bind] at thrown ⊢
  rcases run : m s with ⟨out, mid⟩
  rw [run] at thrown
  cases out with
  | error e' =>
    have back := first s e' (by rw [run])
    rw [run] at back
    exact back
  | ok a =>
    have same : mid = s := silent s a mid run
    subst same
    exact rest a mid e thrown

theorem atomic_find (f : σ → Option α) (e : ε) :
    Atomic (read f >>= fun found => (orThrow found e : Action σ ε α)) :=
  (atomic_read _).bind (fun _ _ _ found => ((returns_read ..).mp found).2) fun _ => atomic_orThrow _ _

/-- What holds of a transaction's entry and is kept by its body when it returns holds
of the rows it leaves. -/
theorem after_transaction {m : Action σ ε α} {s : σ}
    (entry : P s) (body : ∀ a s', Returns m s a s' → P s') : P (after (transaction m) s) := by
  rcases transaction_cases m s with ⟨a, s', h, ht⟩ | ⟨e, -, ht⟩
  · simpa only [after, ht] using body a s' h
  · simpa only [after, ht] using entry

theorem after_atomic {m : Action σ ε α} (atomic : Atomic m) {s : σ}
    (entry : P s) (body : ∀ a s', Returns m s a s' → P s') : P (after m s) := by
  rcases run : m s with ⟨out, s'⟩
  cases out with
  | ok a =>
    rw [after, run]
    exact body a s' run
  | error e =>
    rw [after, atomic s e (by rw [run])]
    exact entry

theorem after_cases {m : Action σ ε Unit} (atomic : Atomic m) (s : σ) :
    (after m s = s ∧ ∀ s', ¬ Returns m s () s') ∨ Returns m s () (after m s) := by
  by_cases returned : ∃ s', Returns m s () s'
  · obtain ⟨s', success⟩ := returned
    have left : after m s = s' := congrArg Prod.snd success
    rw [left]
    exact Or.inr success
  · refine Or.inl ⟨?_, fun s' success => returned ⟨s', success⟩⟩
    exact after_atomic (P := fun s' => s' = s) atomic rfl fun _ s' success => absurd ⟨s', success⟩ returned

theorem after_tryCatch_of {m : Action σ ε α} {handler : ε → Action σ ε α} (atomic : Atomic m) {s : σ}
    (body : ∀ a s', Returns m s a s' → P s')
    (handled : ∀ e, (m s).1 = .error e → P (after (handler e) s)) : P (after (tryCatch m handler) s) := by
  rcases run : m s with ⟨out, s'⟩
  cases out with
  | ok a =>
    simp only [after, tryCatch, run]
    exact body a s' run
  | error e =>
    have thrown : (m s).1 = .error e := by rw [run]
    have back : s' = s := by
      have left := atomic s e thrown
      rw [run] at left
      exact left
    simp only [after, tryCatch, run, back]
    exact handled e thrown

theorem after_tryCatch {m : Action σ ε α} {handler : ε → Action σ ε α} (atomic : Atomic m) {s : σ}
    (body : ∀ a s', Returns m s a s' → P s')
    (handled : ∀ e, P (after (handler e) s)) : P (after (tryCatch m handler) s) :=
  after_tryCatch_of atomic body fun e _ => handled e

theorem after_bind {m : Action σ ε α} {f : α → Action σ ε β} (atomic : Atomic m) {s : σ}
    (entry : P s) (body : ∀ a s', Returns m s a s' → P (after (f a) s')) :
    P (after (m >>= f) s) := by
  rcases run : m s with ⟨out, s'⟩
  cases out with
  | ok a =>
    simp only [after, Bind.bind, run]
    exact body a s' run
  | error e =>
    have back : s' = s := by
      have thrown := atomic s e (by rw [run])
      rw [run] at thrown
      exact thrown
    simp only [after, Bind.bind, run, back]
    exact entry

/-! ### Rows left behind, step by step -/

theorem Returns.after_eq {m : Action σ ε α} {s s' : σ} {a : α} (returned : Returns m s a s') :
    after m s = s' := by
  rw [after, returned]

theorem after_bind_of_returns {m : Action σ ε α} {f : α → Action σ ε β} {s s' : σ} {a : α}
    (returned : Returns m s a s') : after (m >>= f) s = after (f a) s' := by
  unfold Returns at returned
  simp only [after, Bind.bind, returned]

theorem after_bind_of_throws {m : Action σ ε α} {f : α → Action σ ε β} {s : σ} {e : ε}
    (thrown : (m s).1 = .error e) : after (m >>= f) s = after m s := by
  rcases run : m s with ⟨out, s'⟩
  rw [run] at thrown
  cases out with
  | ok => cases thrown
  | error => simp only [after, Bind.bind, run]

theorem after_read (f : σ → α) (g : α → Action σ ε β) (s : σ) :
    after (read f >>= g) s = after (g (f s)) s := rfl

theorem after_write (f : σ → σ) (g : Unit → Action σ ε β) (s : σ) :
    after (write f >>= g) s = after (g ()) (f s) := rfl

theorem after_lift_ok {x : Except ε α} {a : α} (ok : x = .ok a) (g : α → Action σ ε β) (s : σ) :
    after (lift x >>= g) s = after (g a) s := by
  subst ok
  rfl

theorem after_lift_error {x : Except ε α} {e : ε} (error : x = .error e) (g : α → Action σ ε β) (s : σ) :
    after (lift x >>= g) s = s := by
  subst error
  rfl

theorem after_throwIf (c : Prop) [Decidable c] (e : ε) (f : Unit → Action σ ε β) (s : σ) :
    after (throwIf c e >>= f) s = if c then s else after (f ()) s := by
  by_cases holds : c
  · rw [if_pos holds]
    unfold throwIf
    rw [if_pos holds]
    rfl
  · rw [if_neg holds]
    unfold throwIf
    rw [if_neg holds]
    rfl

theorem after_throwIf_only (c : Prop) [Decidable c] (e : ε) (s : σ) :
    after (throwIf c e : Action σ ε Unit) s = s := by
  unfold throwIf
  split <;> rfl

/-! ### Parts of the rows an action does not touch -/

/-- A part of the rows is as before, whatever the outcome. -/
def Keeps (part : σ → τ) (m : Action σ ε α) : Prop := ∀ s, part (after m s) = part s

section Keeps
variable {part : σ → τ}

theorem keeps_pure (a : α) : Keeps part (pure a : Action σ ε α) := fun _ => rfl

theorem keeps_raise (e : ε) : Keeps part (raise e : Action σ ε α) := fun _ => rfl

theorem keeps_read (f : σ → α) : Keeps part (read f : Action σ ε α) := fun _ => rfl

theorem keeps_lift (x : Except ε α) : Keeps part (lift x : Action σ ε α) := fun _ => rfl

theorem keeps_write {f : σ → σ} (same : ∀ s, part (f s) = part s) :
    Keeps part (write f : Action σ ε Unit) := same

theorem keeps_throwIf (c : Prop) [Decidable c] (e : ε) : Keeps part (throwIf c e : Action σ ε Unit) :=
  fun s => congrArg part (after_throwIf_only c e s)

theorem keeps_orThrow (o : Option α) (e : ε) : Keeps part (orThrow o e : Action σ ε α) := by
  intro s
  cases o <;> rfl

theorem Keeps.bind {m : Action σ ε α} {f : α → Action σ ε β} (first : Keeps part m)
    (rest : ∀ a, Keeps part (f a)) : Keeps part (m >>= f) := by
  intro s
  rcases run : m s with ⟨out, s'⟩
  have before := first s
  rw [after, run] at before
  cases out with
  | error =>
    simp only [after, Bind.bind, run]
    exact before
  | ok a =>
    have later := rest a s'
    simp only [after, Bind.bind, run] at later ⊢
    rw [later, before]

theorem Keeps.transaction {m : Action σ ε α} (keeps : Keeps part m) :
    Keeps part (Action.transaction m) := by
  intro s
  refine after_transaction (P := fun s' => part s' = part s) rfl fun a s' success => ?_
  have same := keeps s
  unfold Returns at success
  rw [after, success] at same
  exact same

theorem Keeps.ite {c : Prop} [Decidable c] {m n : Action σ ε α} (yes : Keeps part m) (no : Keeps part n) :
    Keeps part (if c then m else n) := by
  split
  · exact yes
  · exact no

/-- A check that writes nothing is passed, or the rows are those of the entry. -/
theorem after_silent_bind {m : Action σ ε α} {f : α → Action σ ε β} (silent : Keeps id m) {s : σ}
    {P : σ → Prop} (entry : P s) (body : ∀ a, P (after (f a) s)) : P (after (m >>= f) s) := by
  have same : after m s = s := silent s
  rcases run : m s with ⟨out, s'⟩
  rw [after, run] at same
  simp only at same
  subst same
  cases out with
  | ok a =>
    simp only [after, Bind.bind, run]
    exact body a
  | error =>
    simp only [after, Bind.bind, run]
    exact entry

theorem Keeps.returns {m : Action σ ε α} (silent : Keeps id m) {s s' : σ} {a : α} (success : Returns m s a s') :
    s' = s := by
  have same := silent s
  rw [after, success] at same
  exact same

theorem Keeps.atomic {m : Action σ ε α} (silent : Keeps id m) : Atomic m := fun s _ _ => silent s

theorem Keeps.atomic_bind {m : Action σ ε α} {f : α → Action σ ε β} (silent : Keeps id m)
    (rest : ∀ a, Atomic (f a)) : Atomic (m >>= f) :=
  silent.atomic.bind (fun _ _ _ success => silent.returns success) rest

end Keeps

end Action
end VtsaCsms.Foundation
