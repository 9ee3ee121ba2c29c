import Mathlib.Data.List.Induction
import Mathlib.Algebra.Ring.Int.Defs

/-!
# Spans

Of a history of events, what was begun and not ended since.
-/
namespace VtsaCsms.Foundation.Spans
variable {α : Type} {begins ends : α → Prop}

/-- Some event began it, and no later one ended it. -/
def Ongoing (begins ends : α → Prop) (events : List α) : Prop :=
  ∃ earlier first later, events = earlier ++ first :: later ∧ begins first ∧ ∀ e ∈ later, ¬ ends e

theorem not_ongoing_nil : ¬ Ongoing begins ends [] := by
  rintro ⟨earlier, first, later, list, -⟩
  simp at list

theorem ongoing_append (events : List α) (e : α) :
    Ongoing begins ends (events ++ [e]) ↔ begins e ∨ (¬ ends e ∧ Ongoing begins ends events) := by
  constructor
  · rintro ⟨earlier, first, later, list, begun, kept⟩
    rcases List.eq_nil_or_concat later with rfl | ⟨before, last, rfl⟩
    · obtain rfl := (List.cons.inj (List.append_inj' list rfl).2).1
      exact Or.inl begun
    · rw [List.concat_eq_append, ← List.cons_append, ← List.append_assoc] at list
      obtain ⟨rfl, same⟩ := List.append_inj' list rfl
      obtain rfl := (List.cons.inj same).1
      rw [List.concat_eq_append] at kept
      exact Or.inr ⟨kept e (by simp), earlier, first, before, rfl, begun, fun x mem => kept x (by simp [mem])⟩
  · rintro (begun | ⟨kept, earlier, first, later, rfl, begun, others⟩)
    · exact ⟨events, e, [], rfl, begun, by simp⟩
    · refine ⟨earlier, first, later ++ [e], by simp, begun, ?_⟩
      intro x mem
      obtain mem | mem := List.mem_append.mp mem
      · exact others x mem
      · rw [List.mem_singleton.mp mem]
        exact kept

section Decidable
variable [DecidablePred begins] [DecidablePred ends]

/-- The same, event by event. -/
def ongoing (begins ends : α → Prop) [DecidablePred begins] [DecidablePred ends] (events : List α) : Bool :=
  events.foldl (fun since e => decide (begins e) || (!decide (ends e) && since)) false

theorem ongoing_iff (events : List α) : ongoing begins ends events = true ↔ Ongoing begins ends events := by
  induction events using List.reverseRecOn with
  | nil => simp [ongoing, not_ongoing_nil]
  | append_singleton _ _ ih =>
    rw [ongoing_append, ← ih]
    simp [ongoing]

instance (events : List α) : Decidable (Ongoing begins ends events) :=
  decidable_of_iff _ (ongoing_iff events)

/-! ### What was begun and ended -/

/-- What goes on, by the event that began it, and what was begun and ended, with the events of both. A beginning
of what goes on already changes nothing, and neither does an end of nothing. -/
def track (begins ends : α → Prop) [DecidablePred begins] [DecidablePred ends] (so : Option α × List (α × α))
    (e : α) : Option α × List (α × α) :=
  if begins e then (so.1.or (some e), so.2)
  else if ends e then (none, so.2 ++ (so.1.map fun first => (first, e)).toList)
  else so

def spans (begins ends : α → Prop) [DecidablePred begins] [DecidablePred ends] (events : List α) :
    Option α × List (α × α) :=
  events.foldl (track begins ends) (none, [])

/-- The beginning of what goes on. -/
def current (begins ends : α → Prop) [DecidablePred begins] [DecidablePred ends] (events : List α) : Option α :=
  (spans begins ends events).1

def completed (begins ends : α → Prop) [DecidablePred begins] [DecidablePred ends] (events : List α) :
    List (α × α) :=
  (spans begins ends events).2

/-- A length of every completed span, summed up. -/
def total (begins ends : α → Prop) [DecidablePred begins] [DecidablePred ends] (length : α → α → Int)
    (events : List α) : Int :=
  ((completed begins ends events).map fun span => length span.1 span.2).sum

theorem spans_append (events : List α) (e : α) :
    spans begins ends (events ++ [e]) = track begins ends (spans begins ends events) e := by
  rw [spans, List.foldl_append]
  rfl

theorem current_append (events : List α) (e : α) :
    current begins ends (events ++ [e]) =
      if begins e then (current begins ends events).or (some e)
      else if ends e then none else current begins ends events := by
  unfold current
  rw [spans_append, track]
  split
  · rfl
  · split <;> rfl

theorem completed_append (events : List α) (e : α) :
    completed begins ends (events ++ [e]) =
      completed begins ends events ++
        if ¬ begins e ∧ ends e then ((current begins ends events).map fun first => (first, e)).toList else [] := by
  unfold completed current
  rw [spans_append, track]
  by_cases begun : begins e
  · simp [begun]
  · by_cases ended : ends e
    · simp [begun, ended]
    · simp [begun, ended]

theorem total_append (length : α → α → Int) (events : List α) (e : α) :
    total begins ends length (events ++ [e]) =
      total begins ends length events +
        if ¬ begins e ∧ ends e then (current begins ends events).elim 0 (length · e) else 0 := by
  unfold total
  rw [completed_append, List.map_append, List.sum_append]
  congr 1
  split
  · cases current begins ends events <;> simp
  · rfl

theorem current_mem {events : List α} {first : α} (begun : current begins ends events = some first) :
    first ∈ events := by
  induction events using List.reverseRecOn with
  | nil => cases begun
  | append_singleton events e ih =>
    rw [current_append] at begun
    split at begun
    · obtain earlier | ⟨-, last⟩ := Option.or_eq_some_iff.mp begun
      · exact List.mem_append_left _ (ih earlier)
      · exact Option.some.inj last ▸ List.mem_append_right events (List.mem_singleton_self e)
    · split at begun
      · cases begun
      · exact List.mem_append_left _ (ih begun)

theorem current_isSome_iff (events : List α) :
    (current begins ends events).isSome = true ↔ Ongoing begins ends events := by
  induction events using List.reverseRecOn with
  | nil => exact ⟨fun none' => (by cases none'), fun ongoing => absurd ongoing not_ongoing_nil⟩
  | append_singleton _ _ ih =>
    rw [ongoing_append, current_append, ← ih]
    split
    · rename_i begun
      simp [begun]
    · rename_i begun
      split
      · rename_i ended
        simp [begun, ended]
      · rename_i kept
        simp [begun, kept]

end Decidable
end VtsaCsms.Foundation.Spans
