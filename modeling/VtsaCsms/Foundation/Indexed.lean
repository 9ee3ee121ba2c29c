import VtsaCsms.Foundation.Table

/-!
# Unique indexes

A table whose rows never clash. `clash` is what the table's unique indexes forbid between
two rows, so a stored table cannot hold a violation, and a write that would make one is
refused.
-/
namespace VtsaCsms.Foundation

structure Indexed (κ ρ : Type) [DecidableEq κ] (clash : ρ → ρ → Bool) where
  table : Table κ ρ
  unique : ∀ k k' r r', table.get? k = some r → table.get? k' = some r' → clash r r' = true → k = k'

namespace Indexed
variable {κ ρ : Type} [DecidableEq κ] {clash : ρ → ρ → Bool}

def empty : Indexed κ ρ clash := ⟨Table.empty, fun _ _ _ _ stored => by cases stored⟩

def get? (t : Indexed κ ρ clash) (k : κ) : Option ρ := t.table.get? k

/-- A row under another key that the index does not tolerate next to `r`. -/
def clashes (t : Indexed κ ρ clash) (k : κ) (r : ρ) : Bool :=
  t.table.exists? fun k' r' => k' ≠ k && (clash r r' || clash r' r)

theorem clashes_iff (t : Indexed κ ρ clash) (k : κ) (r : ρ) :
    t.clashes k r = true ↔
      ∃ k' r', t.get? k' = some r' ∧ k' ≠ k ∧ (clash r r' = true ∨ clash r' r = true) := by
  unfold clashes get?
  rw [Table.exists?_iff]
  simp

/-- Write the row under the key, unless the index refuses it. -/
def save? (t : Indexed κ ρ clash) (k : κ) (r : ρ) : Option (Indexed κ ρ clash) :=
  if refused : t.clashes k r = true then none
  else some
    { table := t.table.put k r
      unique := by
        have tolerated : ∀ k' r', t.table.get? k' = some r' → k' ≠ k →
            clash r r' = false ∧ clash r' r = false := by
          intro k' r' stored other
          by_contra clashing
          apply refused
          rw [clashes_iff]
          refine ⟨k', r', stored, other, ?_⟩
          cases forth : clash r r' <;> cases back : clash r' r <;> simp_all
        intro k₁ k₂ r₁ r₂ stored₁ stored₂ clashing
        rw [Table.get?_put] at stored₁ stored₂
        split at stored₁
        · rename_i same₁
          split at stored₂
          · rename_i same₂
            exact same₁.trans same₂.symm
          · rename_i other
            rw [← Option.some.inj stored₁, (tolerated k₂ r₂ stored₂ other).1] at clashing
            contradiction
        · rename_i other
          split at stored₂
          · rw [← Option.some.inj stored₂, (tolerated k₁ r₁ stored₁ other).2] at clashing
            contradiction
          · exact t.unique k₁ k₂ r₁ r₂ stored₁ stored₂ clashing }

variable {t : Indexed κ ρ clash}

theorem save?_get? {t' : Indexed κ ρ clash} {k : κ} {r : ρ} (saved : t.save? k r = some t')
    (k' : κ) : t'.get? k' = if k' = k then some r else t.get? k' := by
  unfold save? at saved
  split at saved
  · contradiction
  · rw [← Option.some.inj saved]
    exact Table.get?_put _ _ _ _

theorem save?_eq_none (t : Indexed κ ρ clash) (k : κ) (r : ρ) :
    t.save? k r = none ↔ t.clashes k r = true := by
  unfold save?
  split
  · simp_all
  · simp_all

theorem save?_tolerated {t' : Indexed κ ρ clash} {k : κ} {r : ρ} (saved : t.save? k r = some t') :
    t.clashes k r = false := by
  cases refused : t.clashes k r with
  | false => rfl
  | true =>
    rw [(save?_eq_none t k r).mpr refused] at saved
    contradiction

theorem clashes_of_weaker {k : κ} {q r : ρ} (stored : t.get? k = some q)
    (weaker : ∀ x, (clash r x = true → clash q x = true) ∧ (clash x r = true → clash x q = true)) :
    t.clashes k r = false := by
  rw [Bool.eq_false_iff, Ne, clashes_iff]
  rintro ⟨k', r', stored', other, forth | back⟩
  · exact other (t.unique k k' q r' stored stored' ((weaker r').1 forth)).symm
  · exact other (t.unique k' k r' q stored' stored ((weaker r').2 back))

def rowsWhere (t : Indexed κ ρ clash) (p : κ → ρ → Bool) : List (κ × ρ) := t.table.rowsWhere p

def first? (t : Indexed κ ρ clash) (p : κ → ρ → Bool) : Option (κ × ρ) := t.table.first? p

def exists? (t : Indexed κ ρ clash) (p : κ → ρ → Bool) : Bool := t.table.exists? p

def count (t : Indexed κ ρ clash) (p : κ → ρ → Bool) : Nat := t.table.count p

theorem mem_rowsWhere (t : Indexed κ ρ clash) (p : κ → ρ → Bool) (k : κ) (r : ρ) :
    (k, r) ∈ t.rowsWhere p ↔ t.get? k = some r ∧ p k r = true :=
  Table.mem_rowsWhere _ _ _ _

theorem exists?_iff (t : Indexed κ ρ clash) (p : κ → ρ → Bool) :
    t.exists? p = true ↔ ∃ k r, t.get? k = some r ∧ p k r = true :=
  Table.exists?_iff _ _

theorem first?_some {p : κ → ρ → Bool} {k : κ} {r : ρ}
    (found : t.first? p = some (k, r)) : t.get? k = some r ∧ p k r = true :=
  Table.first?_some found

theorem first?_none {p : κ → ρ → Bool} (missed : t.first? p = none) :
    ∀ k r, t.get? k = some r → p k r = false :=
  Table.first?_none missed

def nextId (t : Indexed Nat ρ clash) : Nat := t.table.nextId

theorem get?_nextId (t : Indexed Nat ρ clash) : t.get? t.nextId = none := Table.get?_nextId _

theorem lt_nextId {t : Indexed Nat ρ clash} {k : Nat} {r : ρ} (stored : t.get? k = some r) :
    k < t.nextId :=
  Table.lt_nextId stored

end Indexed
end VtsaCsms.Foundation
