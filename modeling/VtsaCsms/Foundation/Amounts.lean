import Mathlib.Data.Int.Init

/-!
# Rounded amounts and their bounds

Division with halves rounded up, and computations on amounts that cost at most what others cost.
-/
namespace VtsaCsms.Foundation

/-! ### Rounding halves up -/

def halfUp (n d : Int) : Int := if (d + 1) / 2 ≤ n % d then n / d + 1 else n / d

section HalfUp
variable {d : Int} (positive : 0 < d)
include positive

theorem halfUp_mono {n n' : Int} (le : n ≤ n') : halfUp n d ≤ halfUp n' d := by
  have quotients : n / d ≤ n' / d := Int.ediv_le_ediv positive le
  unfold halfUp
  rcases Int.lt_or_eq_of_le quotients with less | same
  · split <;> split <;> omega
  · have left := Int.emod_add_mul_ediv n d
    have right := Int.emod_add_mul_ediv n' d
    rw [same] at left ⊢
    split <;> split <;> omega

theorem halfUp_mul (n : Int) : halfUp (n * d) d = n := by
  unfold halfUp
  rw [Int.mul_emod_left, Int.mul_ediv_cancel n (by omega), if_neg (by omega)]

theorem halfUp_add_mul (n k : Int) : halfUp (n + k * d) d = halfUp n d + k := by
  unfold halfUp
  rw [Int.add_mul_emod_self_right, Int.add_mul_ediv_right n k (by omega)]
  split <;> omega

theorem halfUp_nonneg {n : Int} (nonneg : 0 ≤ n) : 0 ≤ halfUp n d := by
  have least := halfUp_mono positive nonneg
  have zero := halfUp_mul positive 0
  rw [Int.zero_mul] at zero
  omega

theorem halfUp_le {n k : Int} (le : n ≤ k * d) : halfUp n d ≤ k := by
  have most := halfUp_mono positive le
  rw [halfUp_mul positive] at most
  exact most

end HalfUp

/-! ### Rounding up -/

def ceilDiv (n d : Int) : Int := -(-n / d)

theorem ceilDiv_le_iff {n d k : Int} (positive : 0 < d) : ceilDiv n d ≤ k ↔ n ≤ k * d := by
  have floor := @Int.le_ediv_iff_mul_le (-k) (-n) d positive
  rw [Int.neg_mul] at floor
  unfold ceilDiv
  omega

theorem ceilDiv_le_tdiv {n d : Int} (positive : 0 < d) : ceilDiv n d ≤ (n + (d - 1)).tdiv d := by
  rw [ceilDiv_le_iff positive]
  have floor := Int.lt_ediv_add_one_mul_self (n + (d - 1)) positive
  rw [Int.add_mul, Int.one_mul] at floor
  have quotients : (n + (d - 1)) / d ≤ (n + (d - 1)).tdiv d := by
    rw [Int.tdiv_eq_ediv]
    split
    · omega
    · rw [Int.sign_eq_one_of_pos positive]
      omega
  have products := Int.mul_le_mul_of_nonneg_right quotients (Int.le_of_lt positive)
  omega

/-! ### Computations that cost at most another -/

/-- Where the second computation succeeds, the first one does, and its result is related. -/
def Covers {ε α : Type} (rel : α → α → Prop) (m' m : Except ε α) : Prop :=
  ∀ a, m = .ok a → ∃ a', m' = .ok a' ∧ rel a' a

theorem bind_ok_iff {ε α β : Type} {m : Except ε α} {f : α → Except ε β} {b : β} :
    (m >>= f) = .ok b ↔ ∃ a, m = .ok a ∧ f a = .ok b := by
  cases m with
  | error =>
    constructor
    · intro success
      contradiction
    · intro ⟨_, success, _⟩
      contradiction
  | ok a =>
    constructor
    · intro success
      exact ⟨a, rfl, success⟩
    · rintro ⟨_, ⟨⟩, success⟩
      exact success

namespace Covers
variable {ε α β : Type} {rel : α → α → Prop} {rel' : β → β → Prop}

theorem ok {a' a : α} (related : rel a' a) : Covers rel (.ok a' : Except ε α) (.ok a) := by
  intro _ same
  cases same
  exact ⟨a', rfl, related⟩

/-- The rest has to be covered from the results of the two first parts only. -/
theorem bind {m' m : Except ε α} {f' f : α → Except ε β} (first : Covers rel m' m)
    (rest : ∀ a' a, m' = .ok a' → m = .ok a → rel a' a → Covers rel' (f' a') (f a)) :
    Covers rel' (m' >>= f') (m >>= f) := by
  intro b success
  obtain ⟨a, start, last⟩ := bind_ok_iff.mp success
  obtain ⟨a', start', related⟩ := first a start
  obtain ⟨b', last', related'⟩ := rest a' a start' start related b last
  exact ⟨b', bind_ok_iff.mpr ⟨a', start', last'⟩, related'⟩

end Covers

/-! ### A computation on every element -/

section MapM
variable {ε α β γ : Type} {f : α → Except ε β} {l : List α} {l' : List β}

theorem mapM_ok_cons {a : α} :
    (a :: l).mapM f = .ok l' ↔ ∃ b bs, f a = .ok b ∧ l.mapM f = .ok bs ∧ l' = b :: bs := by
  simp only [List.mapM_cons, bind_ok_iff]
  constructor
  · rintro ⟨b, first, bs, rest, same⟩
    exact ⟨b, bs, first, rest, (Except.ok.inj same).symm⟩
  · rintro ⟨b, bs, first, rest, rfl⟩
    exact ⟨b, first, bs, rest, rfl⟩

theorem mem_mapM_ok (success : l.mapM f = .ok l') (b : β) : b ∈ l' ↔ ∃ a ∈ l, f a = .ok b := by
  induction l generalizing l' with
  | nil =>
    cases success
    simp
  | cons a _ ih =>
    obtain ⟨c, bs, first, rest, rfl⟩ := mapM_ok_cons.mp success
    have head : b = c ↔ f a = .ok b := by
      rw [first]
      exact ⟨fun same => same ▸ rfl, fun same => (Except.ok.inj same).symm⟩
    simp only [List.mem_cons, ih rest, head, or_and_right, exists_or, exists_eq_left]

theorem map_mapM_ok {g : β → γ} {h : α → γ} (agree : ∀ a b, f a = .ok b → g b = h a)
    (success : l.mapM f = .ok l') : l'.map g = l.map h := by
  induction l generalizing l' with
  | nil =>
    cases success
    rfl
  | cons a _ ih =>
    obtain ⟨c, bs, first, rest, rfl⟩ := mapM_ok_cons.mp success
    rw [List.map_cons, List.map_cons, agree a c first, ih rest]

theorem mapM_ok_of_forall (each : ∀ a ∈ l, ∃ b, f a = .ok b) : ∃ l', l.mapM f = .ok l' := by
  induction l with
  | nil => exact ⟨[], rfl⟩
  | cons a _ ih =>
    obtain ⟨b, first⟩ := each a List.mem_cons_self
    obtain ⟨bs, rest⟩ := ih fun a member => each a (List.mem_cons_of_mem _ member)
    exact ⟨b :: bs, mapM_ok_cons.mpr ⟨b, bs, first, rest, rfl⟩⟩

theorem forall_of_mapM_ok (success : l.mapM f = .ok l') : ∀ a ∈ l, ∃ b ∈ l', f a = .ok b := by
  induction l generalizing l' with
  | nil => exact fun _ none => by cases none
  | cons a _ ih =>
    obtain ⟨c, bs, first, rest, rfl⟩ := mapM_ok_cons.mp success
    rw [List.forall_mem_cons]
    refine ⟨⟨c, List.mem_cons_self, first⟩, fun a member => ?_⟩
    obtain ⟨b, there, read⟩ := ih rest a member
    exact ⟨b, List.mem_cons_of_mem _ there, read⟩

end MapM
end VtsaCsms.Foundation
