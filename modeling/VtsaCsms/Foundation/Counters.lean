import Mathlib.Data.List.Chain
import Mathlib.Data.List.Infix

/-!
# Counters that may be set back

A counter is read now and then. It counts up, and a lower reading than the one before says that
it was set back to zero in between. What it counted is known from its readings alone.
-/
namespace VtsaCsms.Foundation.Counter

/-- What a counter counted from one reading to the next. -/
def advance (previous next : Int) : Int := if previous ≤ next then next - previous else next

/-- What a counter counted from the first of its readings to the last. -/
def counted : List Int → Int
  | previous :: next :: rest => advance previous next + counted (next :: rest)
  | [_] | [] => 0

@[simp] theorem counted_nil : counted [] = 0 := rfl

@[simp] theorem counted_singleton (value : Int) : counted [value] = 0 := rfl

theorem counted_cons (previous next : Int) (rest : List Int) :
    counted (previous :: next :: rest) = advance previous next + counted (next :: rest) := rfl

theorem counted_of_isChain {first : Int} {rest : List Int} (rising : (first :: rest).IsChain (· ≤ ·)) :
    counted (first :: rest) = (first :: rest).getLast (List.cons_ne_nil _ _) - first := by
  induction rest generalizing first with
  | nil => simp
  | cons next rest ih =>
    obtain ⟨up, rising⟩ := List.isChain_cons_cons.mp rising
    have step : advance first next = next - first := if_pos up
    rw [counted_cons, ih rising, step, List.getLast_cons (List.cons_ne_nil _ _)]
    omega

/-- The readings up to some point: none, the first, or the first and some of those after it. -/
theorem forall_prefix_cons {first next : Int} {rest : List Int} {p : Int → Prop} {total : Int} :
    (∀ seen, seen <+: first :: next :: rest → p (total + counted seen)) ↔
      p total ∧ ∀ seen, seen <+: next :: rest → p (total + advance first next + counted seen) := by
  constructor
  · intro every
    refine ⟨by simpa using every [] List.nil_prefix, fun seen part => ?_⟩
    cases seen with
    | nil => simpa [counted_cons] using every [first, next] (by simp)
    | cons value seen =>
      obtain ⟨rfl, part⟩ := List.cons_prefix_cons.mp part
      have whole := every (first :: value :: seen) (by simpa using part)
      rwa [counted_cons, ← Int.add_assoc] at whole
  · rintro ⟨start, later⟩ seen part
    rcases seen with _ | ⟨a, _ | ⟨b, seen⟩⟩
    · simpa using start
    · simpa using start
    · obtain ⟨rfl, tail⟩ := List.cons_prefix_cons.mp part
      obtain ⟨rfl, -⟩ := List.cons_prefix_cons.mp tail
      rw [counted_cons, ← Int.add_assoc]
      exact later _ tail

end VtsaCsms.Foundation.Counter
