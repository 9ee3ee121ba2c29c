import Mathlib.Order.Monotone.Basic
import Mathlib.Order.Lattice
import VtsaCsms.Foundation.Runs

/-!
# Versioned snapshots

A reader keeps the snapshot it was given last, unless that is of a lower version than the one it
keeps. Snapshots are made at moments, and their versions never fall from one moment to a later
one. When does no snapshot take the place of one made later, whatever the order they come in?
-/
namespace VtsaCsms.Foundation.Versioned
open Runs
variable {τ ν : Type} [LinearOrder ν]

/-- The moment of the kept snapshot once the one made at `m` was given. -/
def accept (version : τ → ν) (m : τ) : Option τ → Option τ
  | none => some m
  | some n => if version m < version n then some n else some m

/-- What is kept is one of those given, and none of them ranks higher. -/
structure Highest (rank : τ → ν) (kept : Option τ) (given : List τ) : Prop where
  top : ∀ n ∈ kept, n ∈ given ∧ ∀ n' ∈ given, rank n' ≤ rank n
  blank : kept = none → given = []

section Ranks
variable {rank version : τ → ν} {kept : Option τ} {given : List τ} {m n : τ}

theorem accept_behind (behind : version m < version n) : accept version m (some n) = some n := if_pos behind

theorem accept_taken (level : version n ≤ version m) : accept version m (some n) = some m :=
  if_neg (not_lt.mpr level)

theorem highest_self (kept : Option τ) : Highest rank kept kept.toList := by
  refine ⟨fun n held => ?_, fun none => (by rw [none]; rfl)⟩
  cases held
  exact ⟨List.mem_singleton_self n, fun n' there => le_of_eq (congrArg rank (List.mem_singleton.mp there))⟩

namespace Highest

theorem taken (highest : Highest rank kept given) (above : ∀ n ∈ kept, rank n ≤ rank m) :
    Highest rank (some m) (m :: given) := by
  refine ⟨fun _ held => ?_, fun none => (by cases none)⟩
  cases held
  refine ⟨List.mem_cons_self, List.forall_mem_cons.mpr ⟨le_refl _, fun n' there => ?_⟩⟩
  cases kept with
  | none =>
    rw [highest.blank rfl] at there
    cases there
  | some n => exact ((highest.top n rfl).2 n' there).trans (above n rfl)

theorem stays (highest : Highest rank (some n) given) (below : rank m ≤ rank n) :
    Highest rank (some n) (m :: given) := by
  obtain ⟨there, top⟩ := highest.top n rfl
  refine ⟨fun _ held => ?_, fun none => (by cases none)⟩
  cases held
  exact ⟨List.mem_cons_of_mem m there, List.forall_mem_cons.mpr ⟨below, top⟩⟩

protected theorem accept (highest : Highest version kept given) (m : τ) :
    Highest version (accept version m kept) (m :: given) := by
  cases kept with
  | none => exact highest.taken fun _ held => (by cases held)
  | some n =>
    by_cases behind : version m < version n
    · rw [accept_behind behind]
      exact highest.stays behind.le
    · rw [accept_taken (not_lt.mp behind)]
      refine highest.taken fun _ held => ?_
      cases held
      exact not_lt.mp behind

end Highest

/-- The highest version that was given is kept, whatever the order. -/
theorem reached_highest (moments : List τ) (highest : Highest version kept given) :
    Highest version (reached (accept version) moments kept) (moments.reverse ++ given) := by
  induction moments generalizing kept given with
  | nil => exact highest
  | cons m _ ih =>
    rw [List.reverse_cons, List.append_assoc]
    exact ih (highest.accept m)

end Ranks

variable [LinearOrder τ] {version : τ → ν} {kept : Option τ} {given : List τ} {m n : τ}

/-- What is kept gives way to nothing made earlier. -/
def Forward (kept kept' : Option τ) : Prop := ∀ n ∈ kept, ∃ n' ∈ kept', n ≤ n'

/-- Behind a snapshot that was given, this one is of a lower version than some that was. -/
def Overtaken (version : τ → ν) (m : τ) (given : List τ) : Prop :=
  (∃ n ∈ given, m < n) → ∃ n ∈ given, version m < version n

theorem forward_rfl : Forward kept kept := fun n held => ⟨n, held, le_refl n⟩

theorem forward_some : Forward (some n) (some m) ↔ n ≤ m := by
  constructor
  · intro forward
    obtain ⟨_, held, later⟩ := forward n rfl
    cases held
    exact later
  · rintro later _ held
    cases held
    exact ⟨m, rfl, later⟩

/-- While the last made of those given is kept, one more moves the reader forward exactly when it
is not behind, or overtaken. -/
theorem step_forward (rises : Monotone version) (newest : Highest id kept given) (m : τ) :
    (Forward kept (accept version m kept) ↔ Overtaken version m given) ∧
      (Overtaken version m given → Highest id (accept version m kept) (m :: given)) := by
  cases kept with
  | none =>
    have first : given = [] := newest.blank rfl
    subst first
    refine ⟨iff_of_true (fun _ held => (by cases held)) ?_, fun _ => newest.taken fun _ held => (by cases held)⟩
    rintro ⟨_, there, -⟩
    cases there
  | some n =>
    obtain ⟨there, last⟩ := newest.top n rfl
    by_cases behind : version m < version n
    · have earlier : m < n := lt_of_not_ge fun later => absurd behind (not_lt.mpr (rises later))
      rw [accept_behind behind]
      exact ⟨iff_of_true forward_rfl fun _ => ⟨n, there, behind⟩, fun _ => newest.stays earlier.le⟩
    · have exact' : n ≤ m ↔ Overtaken version m given := by
        constructor
        · rintro later ⟨n', there', behind'⟩
          exact absurd (behind'.trans_le (last n' there')) (not_lt.mpr later)
        · intro overtaken
          by_contra late
          obtain ⟨n', there', above⟩ := overtaken ⟨n, there, not_le.mp late⟩
          -- none that was given is of a higher version than the last made
          exact absurd (above.trans_le (rises (last n' there'))) behind
      rw [accept_taken (not_lt.mp behind)]
      refine ⟨forward_some.trans exact', fun overtaken => newest.taken fun _ held => ?_⟩
      cases held
      exact exact'.mpr overtaken

/-- No snapshot takes the place of one made later exactly when each that comes behind one is
overtaken by what came before it. -/
theorem forward_iff_overtaken (rises : Monotone version) (moments : List τ) (newest : Highest id kept given) :
    Met (accept version) (fun m kept => Forward kept (accept version m kept)) moments kept ↔
      Met List.cons (Overtaken version) moments given := by
  induction moments generalizing kept given with
  | nil => exact Iff.rfl
  | cons m _ ih =>
    obtain ⟨exact', newest'⟩ := step_forward rises newest m
    constructor
    · rintro ⟨forward, later⟩
      have overtaken := exact'.mp forward
      exact ⟨overtaken, (ih (newest' overtaken)).mp later⟩
    · rintro ⟨overtaken, later⟩
      exact ⟨exact'.mpr overtaken, (ih (newest' overtaken)).mpr later⟩

end VtsaCsms.Foundation.Versioned
