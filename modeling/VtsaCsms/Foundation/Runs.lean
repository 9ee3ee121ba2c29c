import Mathlib.Data.List.Infix

/-!
# Runs

A system that takes one input after the other, whatever its inputs and states are: what
holds of all states a run passes through, and the exact condition under which it does.
-/
namespace VtsaCsms.Foundation.Runs
variable {ι σ : Type} {next : ι → σ → σ} {P : σ → Prop} {condition : ι → σ → Prop}

/-- The state after the inputs. -/
def reached (next : ι → σ → σ) (inputs : List ι) (s : σ) : σ :=
  inputs.foldl (fun s i => next i s) s

/-- The property holds in every state the run passes through, the first and the last included. -/
def Throughout (next : ι → σ → σ) (P : σ → Prop) (inputs : List ι) (s : σ) : Prop :=
  ∀ before, before <+: inputs → P (reached next before s)

/-- Every input meets the condition in the state it is taken in. -/
def Met (next : ι → σ → σ) (condition : ι → σ → Prop) : List ι → σ → Prop
  | [], _ => True
  | i :: rest, s => condition i s ∧ Met next condition rest (next i s)

/-- Whether a run meets a condition can be computed where every step can. -/
instance decidableMet [∀ i s, Decidable (condition i s)] :
    ∀ (inputs : List ι) (s : σ), Decidable (Met next condition inputs s)
  | [], _ => isTrue trivial
  | i :: rest, s =>
    have := decidableMet rest (next i s)
    inferInstanceAs (Decidable (condition i s ∧ Met next condition rest (next i s)))

/-- Conditions that agree on every input and state are met by the same runs. -/
theorem met_congr {condition' : ι → σ → Prop} (same : ∀ i s, condition i s ↔ condition' i s)
    (inputs : List ι) (s : σ) : Met next condition inputs s ↔ Met next condition' inputs s := by
  induction inputs generalizing s with
  | nil => exact Iff.rfl
  | cons i rest ih => exact and_congr (same i s) (ih (next i s))

theorem met_map {κ τ : Type} {next' : κ → τ → τ} {condition' : κ → τ → Prop} {f : ι → κ} {g : σ → τ}
    (moves : ∀ i s, g (next i s) = next' (f i) (g s)) (same : ∀ i s, condition i s ↔ condition' (f i) (g s))
    (inputs : List ι) (s : σ) :
    Met next condition inputs s ↔ Met next' condition' (inputs.map f) (g s) := by
  induction inputs generalizing s with
  | nil => exact Iff.rfl
  | cons i rest ih =>
    refine and_congr (same i s) ?_
    rw [← moves]
    exact ih (next i s)

theorem reached_map {κ τ : Type} {next' : κ → τ → τ} {f : ι → κ} {g : σ → τ}
    (moves : ∀ i s, g (next i s) = next' (f i) (g s)) (inputs : List ι) (s : σ) :
    g (reached next inputs s) = reached next' (inputs.map f) (g s) := by
  induction inputs generalizing s with
  | nil => rfl
  | cons i rest ih => exact (ih (next i s)).trans (congrArg (reached next' (rest.map f)) (moves i s))

theorem met_append (before later : List ι) (s : σ) :
    Met next condition (before ++ later) s ↔
      Met next condition before s ∧ Met next condition later (reached next before s) := by
  induction before generalizing s with
  | nil => exact ⟨fun met => ⟨trivial, met⟩, fun both => both.2⟩
  | cons i rest ih => exact (and_congr_right' (ih (next i s))).trans and_assoc.symm

/-- A run meets a condition exactly if each of its inputs does where the inputs before it lead. -/
theorem met_iff_split (inputs : List ι) (s : σ) :
    Met next condition inputs s ↔
      ∀ before i later, inputs = before ++ i :: later → condition i (reached next before s) := by
  constructor
  · rintro met before i later rfl
    exact ((met_append before (i :: later) s).mp met).2.1
  · intro each
    induction inputs generalizing s with
    | nil => exact trivial
    | cons i rest ih =>
      refine ⟨each [] i rest rfl, ih _ fun before j later split => ?_⟩
      exact each (i :: before) j later (by rw [split, List.cons_append])

theorem throughout_nil (s : σ) : Throughout next P [] s ↔ P s := by
  constructor
  · exact fun all => all [] (List.prefix_refl _)
  · intro holds before shorter
    rw [List.prefix_nil.mp shorter]
    exact holds

theorem throughout_cons (i : ι) (rest : List ι) (s : σ) :
    Throughout next P (i :: rest) s ↔ P s ∧ Throughout next P rest (next i s) := by
  constructor
  · intro all
    refine ⟨all [] List.nil_prefix, ?_⟩
    intro before shorter
    exact all (i :: before) (List.cons_prefix_cons.mpr ⟨rfl, shorter⟩)
  · rintro ⟨first, later⟩ before shorter
    cases before with
    | nil => exact first
    | cons _ before =>
      obtain ⟨rfl, tail⟩ := List.cons_prefix_cons.mp shorter
      exact later before tail

theorem Throughout.last {inputs : List ι} {s : σ} (all : Throughout next P inputs s) :
    P (reached next inputs s) :=
  all inputs (List.prefix_refl _)

variable {Q : σ → Prop} {good : ι → σ → Prop}

theorem throughout_of_met (keeps : ∀ i s, P s → condition i s → P (next i s)) (inputs : List ι) (s : σ)
    (holds : P s) (met : Met next condition inputs s) : Throughout next P inputs s := by
  induction inputs generalizing s with
  | nil => exact (throughout_nil s).mpr holds
  | cons i rest ih =>
    obtain ⟨first, later⟩ := met
    exact (throughout_cons i rest s).mpr ⟨holds, ih _ (keeps i s holds first) later⟩

theorem throughout_of_kept (kept : ∀ i s, Q s → Q (next i s)) (implies : ∀ s, Q s → P s)
    (inputs : List ι) (s : σ) (always : Q s) : Throughout next P inputs s := by
  induction inputs generalizing s with
  | nil => exact (throughout_nil s).mpr (implies s always)
  | cons i rest ih => exact (throughout_cons i rest s).mpr ⟨implies s always, ih _ (kept i s always)⟩

theorem met_of_kept (kept : ∀ i s, Q s → Q (next i s)) (each : ∀ i s, Q s → condition i s)
    (inputs : List ι) (s : σ) (always : Q s) : Met next condition inputs s := by
  induction inputs generalizing s with
  | nil => exact trivial
  | cons i _ ih => exact ⟨each i s always, ih _ (kept i s always)⟩

theorem met_always (inputs : List ι) (s : σ) : Met next (fun _ _ => True) inputs s :=
  met_of_kept (Q := fun _ => True) (fun _ _ _ => trivial) (fun _ _ _ => trivial) inputs s trivial

/-- Where each input breaks the property exactly when it does not meet the condition, so does
the run. `Q` is what every input that meets a requirement keeps while the property holds. -/
theorem throughout_iff_met_while
    (step : ∀ i s, Q s → P s → good i s → Q (next i s) ∧ (P (next i s) ↔ condition i s)) (inputs : List ι)
    (s : σ) (always : Q s) (holds : P s) (required : Met next good inputs s) :
    Throughout next P inputs s ↔ Met next condition inputs s := by
  induction inputs generalizing s with
  | nil => exact ⟨fun _ => trivial, fun _ => (throughout_nil s).mpr holds⟩
  | cons i rest ih =>
    obtain ⟨first, required'⟩ := required
    obtain ⟨always', exact'⟩ := step i s always holds first
    rw [throughout_cons]
    constructor
    · rintro ⟨-, later⟩
      have after' : P (next i s) := later [] List.nil_prefix
      exact ⟨exact'.mp after', (ih _ always' after' required').mp later⟩
    · rintro ⟨met, later⟩
      have after' := exact'.mpr met
      exact ⟨holds, (ih _ always' after' required').mpr later⟩

theorem throughout_iff_met_of
    (step : ∀ i s, Q s → P s → Q (next i s) ∧ (P (next i s) ↔ condition i s)) (inputs : List ι) (s : σ)
    (always : Q s) (holds : P s) :
    Throughout next P inputs s ↔ Met next condition inputs s :=
  throughout_iff_met_while (fun i s q p _ => step i s q p) inputs s always holds (met_always inputs s)

theorem throughout_iff_met (kept : ∀ i s, Q s → Q (next i s))
    (exact' : ∀ i s, Q s → P s → (P (next i s) ↔ condition i s)) (inputs : List ι) (s : σ)
    (always : Q s) (holds : P s) :
    Throughout next P inputs s ↔ Met next condition inputs s :=
  throughout_iff_met_of (fun i s q p => ⟨kept i s q, exact' i s q p⟩) inputs s always holds

theorem reached_append (before later : List ι) (s : σ) :
    reached next (before ++ later) s = reached next later (reached next before s) :=
  List.foldl_append

/-- What every input keeps and does to the state under an invariant, the run does, where it adds up. -/
theorem reached_related {R : σ → σ → Prop} (refl : ∀ s, R s s) (trans : ∀ {s t u}, R s t → R t u → R s u)
    (step : ∀ i s, Q s → Q (next i s) ∧ R s (next i s)) (inputs : List ι) (s : σ) (always : Q s) :
    Q (reached next inputs s) ∧ R s (reached next inputs s) := by
  induction inputs generalizing s with
  | nil => exact ⟨always, refl s⟩
  | cons i _ ih =>
    obtain ⟨always', first⟩ := step i s always
    obtain ⟨last, later⟩ := ih _ always'
    exact ⟨last, trans first later⟩

/-- What an input that meets the condition does under an invariant, every input of a run of such inputs does. -/
theorem met_of_met (kept : ∀ i s, Q s → condition i s → Q (next i s))
    (each : ∀ i s, Q s → condition i s → good i s) (inputs : List ι) (s : σ) (always : Q s)
    (met : Met next condition inputs s) : Met next good inputs s := by
  induction inputs generalizing s with
  | nil => exact trivial
  | cons i _ ih =>
    obtain ⟨first, later⟩ := met
    exact ⟨each i s always first, ih _ (kept i s always first) later⟩

/-- What holds after a run held before it, or some input of the run brought it about. -/
theorem reached_caused {cause : ι → σ → Prop} (each : ∀ i s, P (next i s) → P s ∨ cause i s) (inputs : List ι)
    (s : σ) (holds : P (reached next inputs s)) :
    P s ∨ ∃ before i later, inputs = before ++ i :: later ∧ cause i (reached next before s) := by
  induction inputs generalizing s with
  | nil => exact Or.inl holds
  | cons i rest ih =>
    rcases ih (next i s) holds with first | ⟨before, j, later, split, caused⟩
    · rcases each i s first with already | caused
      · exact Or.inl already
      · exact Or.inr ⟨[], i, rest, rfl, caused⟩
    · refine Or.inr ⟨i :: before, j, later, ?_, caused⟩
      rw [split, List.cons_append]

/-- Where an input leaves the property exactly when it held before and the input meets the condition, the property
holds after a run exactly when it held before and every input meets the condition. -/
theorem reached_iff_met
    (step : ∀ i s, Q s → Q (next i s) ∧ (P (next i s) ↔ P s ∧ condition i s)) (inputs : List ι) (s : σ)
    (always : Q s) : P (reached next inputs s) ↔ P s ∧ Met next condition inputs s := by
  induction inputs generalizing s with
  | nil => exact ⟨fun holds => ⟨holds, trivial⟩, fun holds => holds.1⟩
  | cons i _ ih =>
    obtain ⟨always', exact'⟩ := step i s always
    exact (ih _ always').trans ((and_congr_left' exact').trans and_assoc)

/-- The exact condition where every input is also to do what it is asked for, and meets a
requirement; `Q` is what an input that meets the condition keeps. -/
theorem met_throughout_iff_met_while {required : ι → σ → Prop}
    (step : ∀ i s, Q s → P s → required i s →
      ((good i s ∧ P (next i s)) ↔ condition i s) ∧ (condition i s → Q (next i s)))
    (inputs : List ι) (s : σ) (always : Q s) (holds : P s) (meets : Met next required inputs s) :
    (Met next good inputs s ∧ Throughout next P inputs s) ↔ Met next condition inputs s := by
  induction inputs generalizing s with
  | nil => exact ⟨fun _ => trivial, fun _ => ⟨trivial, (throughout_nil s).mpr holds⟩⟩
  | cons i rest ih =>
    obtain ⟨first, meets'⟩ := meets
    obtain ⟨exact', kept⟩ := step i s always holds first
    rw [throughout_cons]
    constructor
    · rintro ⟨⟨first, met⟩, -, later⟩
      have after' : P (next i s) := later [] List.nil_prefix
      have condition' := exact'.mp ⟨first, after'⟩
      exact ⟨condition', (ih _ (kept condition') after' meets').mp ⟨met, later⟩⟩
    · rintro ⟨first, met⟩
      obtain ⟨good', after'⟩ := exact'.mpr first
      obtain ⟨others, later⟩ := (ih _ (kept first) after' meets').mpr met
      exact ⟨⟨good', others⟩, holds, later⟩

theorem met_throughout_iff_met_of
    (step : ∀ i s, Q s → P s → ((good i s ∧ P (next i s)) ↔ condition i s) ∧ (condition i s → Q (next i s)))
    (inputs : List ι) (s : σ) (always : Q s) (holds : P s) :
    (Met next good inputs s ∧ Throughout next P inputs s) ↔ Met next condition inputs s :=
  met_throughout_iff_met_while (fun i s q p _ => step i s q p) inputs s always holds (met_always inputs s)

theorem met_throughout_iff_met (kept : ∀ i s, Q s → Q (next i s))
    (exact' : ∀ i s, Q s → P s → ((good i s ∧ P (next i s)) ↔ condition i s)) (inputs : List ι) (s : σ)
    (always : Q s) (holds : P s) :
    (Met next good inputs s ∧ Throughout next P inputs s) ↔ Met next condition inputs s :=
  met_throughout_iff_met_of (fun i s q p => ⟨exact' i s q p, fun _ => kept i s q⟩) inputs s always holds

end VtsaCsms.Foundation.Runs
