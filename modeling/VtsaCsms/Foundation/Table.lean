import Mathlib.Algebra.Order.BigOperators.Group.List
import Mathlib.Data.List.Nodup
import Mathlib.Algebra.Ring.Int.Defs

/-!
# Keyed tables

Rows under a primary key, in order of creation. Uniqueness of the key is part of the
table, so no lookup is ambiguous; reasoning goes through `get?`.
-/
namespace VtsaCsms.Foundation

structure Table (κ ρ : Type) where
  entries : List (κ × ρ)
  nodup : (entries.map Prod.fst).Nodup

theorem nodup_one : [1].Nodup := List.nodup_singleton 1

theorem nodup_two : [1, 2].Nodup := by decide

/-- `ORDER BY … DESC LIMIT 1` on rows in order of creation: the first created of equals. -/
def latestBy {ρ β : Type} [LinearOrder β] (column : ρ → β) (rows : List ρ) : Option ρ :=
  rows.foldl (fun best row =>
    match best with
    | none => some row
    | some b => if column b < column row then some row else some b) none

theorem latestBy_some {ρ β : Type} [LinearOrder β] {column : ρ → β} {rows : List ρ} {r : ρ}
    (found : latestBy column rows = some r) : r ∈ rows ∧ ∀ x ∈ rows, column x ≤ column r := by
  have general : ∀ (rows : List ρ) (start : ρ),
      ∃ last, rows.foldl (fun best row =>
        match best with
        | none => some row
        | some b => if column b < column row then some row else some b) (some start) = some last ∧
        (last = start ∨ last ∈ rows) ∧ column start ≤ column last ∧
        ∀ x ∈ rows, column x ≤ column last := by
    intro rows
    induction rows with
    | nil => exact fun start => ⟨start, rfl, Or.inl rfl, le_refl _, by simp⟩
    | cons row _ ih =>
      intro start
      by_cases later : column start < column row
      · obtain ⟨last, run, chosen, above, all⟩ := ih row
        refine ⟨last, by simp only [List.foldl_cons, if_pos later, run], ?_,
          le_of_lt (lt_of_lt_of_le later above), ?_⟩
        · rcases chosen with rfl | member
          · exact Or.inr (List.mem_cons_self ..)
          · exact Or.inr (List.mem_cons_of_mem _ member)
        · intro x member
          rcases List.mem_cons.mp member with rfl | member
          · exact above
          · exact all x member
      · obtain ⟨last, run, chosen, above, all⟩ := ih start
        refine ⟨last, by simp only [List.foldl_cons, if_neg later, run], ?_, above, ?_⟩
        · rcases chosen with rfl | member
          · exact Or.inl rfl
          · exact Or.inr (List.mem_cons_of_mem _ member)
        · intro x member
          rcases List.mem_cons.mp member with rfl | member
          · exact le_trans (not_lt.mp later) above
          · exact all x member
  cases rows with
  | nil => cases found
  | cons row rest =>
    obtain ⟨last, run, chosen, above, all⟩ := general rest row
    unfold latestBy at found
    rw [List.foldl_cons, run] at found
    cases found
    refine ⟨?_, ?_⟩
    · rcases chosen with rfl | member
      · exact List.mem_cons_self ..
      · exact List.mem_cons_of_mem _ member
    · intro x member
      rcases List.mem_cons.mp member with rfl | member
      · exact above
      · exact all x member

theorem latestBy_isSome {ρ β : Type} [LinearOrder β] (column : ρ → β) {rows : List ρ} {r : ρ}
    (member : r ∈ rows) : ∃ last, latestBy column rows = some last := by
  have general : ∀ (rows : List ρ) (start : ρ), ∃ last, rows.foldl (fun best row =>
      match best with
      | none => some row
      | some b => if column b < column row then some row else some b) (some start) = some last := by
    intro rows
    induction rows with
    | nil => exact fun start => ⟨start, rfl⟩
    | cons row _ ih =>
      intro start
      by_cases later : column start < column row
      · simpa only [List.foldl_cons, if_pos later] using ih row
      · simpa only [List.foldl_cons, if_neg later] using ih start
  cases rows with
  | nil => contradiction
  | cons row rest => exact general rest row

namespace Table
variable {κ ρ : Type}

def empty : Table κ ρ := ⟨[], List.nodup_nil⟩

/-- Rows satisfying a condition, in order of creation. -/
def rowsWhere (t : Table κ ρ) (p : κ → ρ → Bool) : List (κ × ρ) :=
  t.entries.filter fun e => p e.1 e.2

def first? (t : Table κ ρ) (p : κ → ρ → Bool) : Option (κ × ρ) :=
  t.entries.find? fun e => p e.1 e.2

/-- `ORDER BY created_at DESC LIMIT 1`. -/
def last? (t : Table κ ρ) (p : κ → ρ → Bool) : Option (κ × ρ) := (t.rowsWhere p).getLast?

def exists? (t : Table κ ρ) (p : κ → ρ → Bool) : Bool :=
  t.entries.any fun e => p e.1 e.2

def count (t : Table κ ρ) (p : κ → ρ → Bool) : Nat := (t.rowsWhere p).length

def sumOver (t : Table κ ρ) (f : κ → ρ → Int) : Int :=
  (t.entries.map fun e => f e.1 e.2).sum

/-- `UPDATE … WHERE`: every row satisfying `p` is replaced by `f` of it. -/
def updateWhere (t : Table κ ρ) (p : κ → ρ → Bool) (f : ρ → ρ) : Table κ ρ where
  entries := t.entries.map fun e => if p e.1 e.2 then (e.1, f e.2) else e
  nodup := by
    have keys : (t.entries.map fun e => if p e.1 e.2 then (e.1, f e.2) else e).map Prod.fst =
        t.entries.map Prod.fst := by
      rw [List.map_map]
      refine List.map_congr_left fun e _ => ?_
      by_cases h : p e.1 e.2 <;> simp [h]
    rw [keys]
    exact t.nodup

/-- `DELETE … WHERE`. -/
def removeWhere (t : Table κ ρ) (p : κ → ρ → Bool) : Table κ ρ where
  entries := t.entries.filter fun e => !p e.1 e.2
  nodup := t.nodup.sublist (List.filter_sublist.map Prod.fst)

section Keyed
variable [DecidableEq κ]

def get? (t : Table κ ρ) (k : κ) : Option ρ := t.entries.lookup k

def update (t : Table κ ρ) (k : κ) (f : ρ → ρ) : Table κ ρ :=
  t.updateWhere (fun k' _ => decide (k' = k)) f

/-- Append a row under a key that is not in use. -/
def insert (t : Table κ ρ) (k : κ) (r : ρ) (fresh : t.get? k = none) : Table κ ρ where
  entries := t.entries ++ [(k, r)]
  nodup := by
    have absent : k ∉ t.entries.map Prod.fst := by
      intro used
      obtain ⟨e, he, rfl⟩ := List.mem_map.mp used
      have differs := List.lookup_eq_none_iff.mp fresh e he
      simp at differs
    rw [List.map_append]
    exact List.Nodup.append t.nodup (by simp) (by simpa using absent)

/-- Insert, or overwrite the row already there. -/
def put (t : Table κ ρ) (k : κ) (r : ρ) : Table κ ρ :=
  if fresh : t.get? k = none then t.insert k r fresh else t.update k fun _ => r

theorem mem_entries (t : Table κ ρ) (k : κ) (r : ρ) :
    (k, r) ∈ t.entries ↔ t.get? k = some r := by
  obtain ⟨entries, nodup⟩ := t
  simp only [get?]
  induction entries with
  | nil => simp
  | cons e rest ih =>
    obtain ⟨k', r'⟩ := e
    have fresh : k' ∉ rest.map Prod.fst := (List.nodup_cons.mp nodup).1
    have tail := ih (List.nodup_cons.mp nodup).2
    by_cases h : k = k'
    · subst h
      have absent : (k, r) ∉ rest := fun hr => fresh (List.mem_map_of_mem (f := Prod.fst) hr)
      simp [absent, eq_comm]
    · simp [h, tail, List.lookup_cons, beq_false_of_ne h]

theorem mem_rowsWhere (t : Table κ ρ) (p : κ → ρ → Bool) (k : κ) (r : ρ) :
    (k, r) ∈ t.rowsWhere p ↔ t.get? k = some r ∧ p k r := by
  simp [rowsWhere, mem_entries]

theorem exists?_iff (t : Table κ ρ) (p : κ → ρ → Bool) :
    t.exists? p = true ↔ ∃ k r, t.get? k = some r ∧ p k r := by
  simp only [exists?, List.any_eq_true, Prod.exists, mem_entries]

variable {t : Table κ ρ} {p : κ → ρ → Bool} {k k' : κ} {r : ρ}

theorem first?_some (h : t.first? p = some (k, r)) : t.get? k = some r ∧ p k r := by
  refine ⟨(mem_entries t k r).mp (List.mem_of_find?_eq_some h), ?_⟩
  exact List.find?_some (p := fun e : κ × ρ => p e.1 e.2) h

theorem first?_none (h : t.first? p = none) :
    ∀ k r, t.get? k = some r → p k r = false := by
  intro k r hr
  have := List.find?_eq_none.mp h (k, r) ((mem_entries t k r).mpr hr)
  simpa using this

theorem get?_updateWhere (t : Table κ ρ) (p : κ → ρ → Bool) (f : ρ → ρ) (k : κ) :
    (t.updateWhere p f).get? k = (t.get? k).map fun r => if p k r then f r else r := by
  obtain ⟨entries, nodup⟩ := t
  simp only [get?, updateWhere]
  clear nodup
  induction entries with
  | nil => rfl
  | cons e _ ih =>
    obtain ⟨k', r'⟩ := e
    by_cases h : k = k'
    · subst h
      by_cases hp : p k r' <;> simp [hp]
    · by_cases hp : p k' r' <;> simp [hp, List.lookup_cons, beq_false_of_ne h, ih]

theorem get?_removeWhere_some (stored : (t.removeWhere p).get? k = some r) : t.get? k = some r := by
  rw [← mem_entries] at stored ⊢
  exact (List.mem_filter.mp stored).1

theorem get?_update (t : Table κ ρ) (k k' : κ) (f : ρ → ρ) :
    (t.update k f).get? k' = if k' = k then (t.get? k').map f else t.get? k' := by
  rw [update, get?_updateWhere]
  by_cases h : k' = k
  · simp [h]
  · cases t.get? k' <;> simp [h]

@[simp] theorem get?_update_self (t : Table κ ρ) (k : κ) (f : ρ → ρ) :
    (t.update k f).get? k = (t.get? k).map f := by
  rw [get?_update, if_pos rfl]

theorem get?_update_of_ne (t : Table κ ρ) (f : ρ → ρ) (h : k' ≠ k) : (t.update k f).get? k' = t.get? k' := by
  rw [get?_update, if_neg h]

theorem get?_update_cases {f : ρ → ρ} (stored : (t.update k f).get? k' = some r) :
    (k' = k ∧ ∃ q, t.get? k = some q ∧ r = f q) ∨ (k' ≠ k ∧ t.get? k' = some r) := by
  rw [get?_update] at stored
  split at stored
  · rename_i same
    obtain ⟨q, old, rfl⟩ := Option.map_eq_some_iff.mp stored
    subst same
    exact Or.inl ⟨rfl, q, old, rfl⟩
  · rename_i different
    exact Or.inr ⟨different, stored⟩

theorem update_congr {f g : ρ → ρ} (stored : t.get? k = some r) (same : f r = g r) :
    t.update k f = t.update k g := by
  have rows : (t.entries.map fun e => if decide (e.1 = k) then (e.1, f e.2) else e) =
      t.entries.map fun e => if decide (e.1 = k) then (e.1, g e.2) else e := by
    apply List.map_congr_left
    rintro ⟨k', r'⟩ member
    by_cases here : k' = k
    · subst here
      rw [mem_entries, stored] at member
      cases member
      simp [same]
    · simp [here]
  obtain ⟨entries, nodup⟩ := t
  unfold update updateWhere
  simp only [Table.mk.injEq]
  exact rows

theorem update_same {f : ρ → ρ} (stored : t.get? k = some r) (same : f r = r) :
    t.update k f = t := by
  rw [update_congr (g := id) stored same]
  obtain ⟨entries, nodup⟩ := t
  unfold update updateWhere
  simp

theorem update_absent (f : ρ → ρ) (absent : t.get? k = none) : t.update k f = t := by
  have same : (t.entries.map fun e => if decide (e.1 = k) then (e.1, f e.2) else e) = t.entries := by
    conv_rhs => rw [← List.map_id t.entries]
    apply List.map_congr_left
    rintro ⟨k', r'⟩ member
    have other : k' ≠ k := by
      rintro rfl
      rw [mem_entries, absent] at member
      cases member
    simp [other]
  obtain ⟨entries, nodup⟩ := t
  unfold update updateWhere
  simp only [Table.mk.injEq]
  exact same

theorem get?_update_of_some (k : κ) (f : ρ → ρ)
    (stored : t.get? k' = some r) : ∃ q, (t.update k f).get? k' = some q := by
  rw [get?_update, stored]
  split
  · exact ⟨f r, by simp_all⟩
  · exact ⟨r, rfl⟩

theorem last?_some (last : t.last? p = some (k, r)) : t.get? k = some r ∧ p k r = true :=
  (mem_rowsWhere t p k r).mp (List.mem_of_getLast? last)

theorem last?_update (f : ρ → ρ) (last : t.last? p = some (k, r)) (still : p k (f r) = true) :
    (t.update k f).last? p = some (k, f r) := by
  obtain ⟨stored, satisfied⟩ := last?_some last
  let g : κ × ρ → κ × ρ := fun e => if decide (e.1 = k) then (e.1, f e.2) else e
  have same : ∀ e ∈ t.entries, (fun e => p e.1 e.2) (g e) = p e.1 e.2 := by
    rintro ⟨k', r'⟩ member
    by_cases here : k' = k
    · subst here
      rw [mem_entries, stored] at member
      cases member
      simp [g, still, satisfied]
    · simp [g, here]
  have rows : (t.update k f).rowsWhere p = (t.rowsWhere p).map g := by
    show (t.entries.map g).filter _ = _
    rw [List.filter_map]
    exact congrArg (List.map g) (List.filter_congr same)
  unfold last? at last ⊢
  rw [rows, List.getLast?_map, last]
  simp [g]

theorem get?_insert (t : Table κ ρ) (k k' : κ) (r : ρ) (fresh : t.get? k = none) :
    (t.insert k r fresh).get? k' = if k' = k then some r else t.get? k' := by
  simp only [get?] at fresh ⊢
  simp only [insert, List.lookup_append]
  by_cases h : k' = k
  · subst h
    simp [fresh]
  · simp [h, List.lookup_cons, beq_false_of_ne h]

theorem get?_put (t : Table κ ρ) (k k' : κ) (r : ρ) :
    (t.put k r).get? k' = if k' = k then some r else t.get? k' := by
  unfold put
  split
  · exact get?_insert _ _ _ _ _
  · rename_i h
    rw [get?_update]
    by_cases hk : k' = k
    · subst hk
      obtain ⟨r', hr⟩ := Option.ne_none_iff_exists'.mp h
      simp [hr]
    · simp [hk]

/-! ### Sums over a table -/

theorem sumOver_insert (t : Table κ ρ) (f : κ → ρ → Int) (k : κ) (r : ρ)
    (fresh : t.get? k = none) : (t.insert k r fresh).sumOver f = t.sumOver f + f k r := by
  simp [sumOver, insert]

omit [DecidableEq κ] in
theorem sumOver_updateWhere (t : Table κ ρ) (f : κ → ρ → Int) (p : κ → ρ → Bool) (g : ρ → ρ) :
    (t.updateWhere p g).sumOver f = t.sumOver fun k r => if p k r then f k (g r) else f k r := by
  simp only [sumOver, updateWhere, List.map_map]
  refine congrArg List.sum (List.map_congr_left fun e _ => ?_)
  by_cases h : p e.1 e.2 <;> simp [h]

theorem sumOver_congr (t : Table κ ρ) {f g : κ → ρ → Int}
    (h : ∀ k r, t.get? k = some r → f k r = g k r) : t.sumOver f = t.sumOver g := by
  refine congrArg List.sum (List.map_congr_left fun e he => ?_)
  exact h e.1 e.2 ((mem_entries t e.1 e.2).mp he)

theorem sumOver_update (t : Table κ ρ) (f : κ → ρ → Int) (k : κ) (g : ρ → ρ) (r : ρ)
    (hr : t.get? k = some r) :
    (t.update k g).sumOver f = t.sumOver f - f k r + f k (g r) := by
  rw [update, sumOver_updateWhere]
  obtain ⟨entries, nodup⟩ := t
  simp only [get?, sumOver] at hr ⊢
  induction entries with
  | nil => simp at hr
  | cons e rest ih =>
    obtain ⟨k', r'⟩ := e
    have fresh : k' ∉ rest.map Prod.fst := (List.nodup_cons.mp nodup).1
    by_cases h : k' = k
    · subst h
      have hrr : r' = r := by simpa using hr
      subst hrr
      have rest_same : (rest.map fun e => if decide (e.1 = k') then f e.1 (g e.2) else f e.1 e.2) =
          rest.map fun e => f e.1 e.2 := by
        refine List.map_congr_left fun e he => ?_
        have hne : e.1 ≠ k' := fun h => fresh (h ▸ List.mem_map_of_mem (f := Prod.fst) he)
        simp [hne]
      simp only [List.map_cons, List.sum_cons, decide_true, if_true, rest_same]
      omega
    · have hr' : rest.lookup k = some r := by
        simpa [List.lookup_cons, beq_false_of_ne (Ne.symm h)] using hr
      have tail := ih (List.nodup_cons.mp nodup).2 hr'
      simp only [List.map_cons, List.sum_cons, decide_eq_true_eq, if_neg h] at tail ⊢
      omega

omit [DecidableEq κ] in
theorem sum_rowsWhere (t : Table κ ρ) (p : κ → ρ → Bool) (f : κ → ρ → Int) :
    ((t.rowsWhere p).map fun e => f e.1 e.2).sum = t.sumOver fun k r => if p k r then f k r else 0 := by
  obtain ⟨entries, nodup⟩ := t
  simp only [rowsWhere, sumOver]
  clear nodup
  induction entries with
  | nil => rfl
  | cons e _ ih =>
    by_cases holds : p e.1 e.2
    · simp [holds, ih]
    · simp [holds, ih]

omit [DecidableEq κ] in
theorem nodup_rowsWhere (t : Table κ ρ) (p : κ → ρ → Bool) : ((t.rowsWhere p).map Prod.fst).Nodup :=
  t.nodup.sublist (List.filter_sublist.map Prod.fst)

theorem sumOver_nonneg (t : Table κ ρ) (f : κ → ρ → Int)
    (h : ∀ k r, t.get? k = some r → 0 ≤ f k r) : 0 ≤ t.sumOver f := by
  refine List.sum_nonneg fun x hx => ?_
  obtain ⟨e, he, rfl⟩ := List.mem_map.mp hx
  exact h e.1 e.2 ((mem_entries t e.1 e.2).mp he)

omit [DecidableEq κ] in
theorem sumOver_add (t : Table κ ρ) (f g : κ → ρ → Int) :
    (t.sumOver fun k r => f k r + g k r) = t.sumOver f + t.sumOver g := by
  unfold sumOver
  exact List.sum_map_add

omit [DecidableEq κ] in
theorem sumOver_zero (t : Table κ ρ) : (t.sumOver fun _ _ => 0) = 0 := by
  simp [sumOver]

theorem sumOver_mono (t : Table κ ρ) {f g : κ → ρ → Int}
    (le : ∀ k r, t.get? k = some r → f k r ≤ g k r) : t.sumOver f ≤ t.sumOver g := by
  unfold sumOver
  refine List.sum_le_sum fun e member => ?_
  exact le e.1 e.2 ((mem_entries t e.1 e.2).mp member)

omit [DecidableEq κ] in
theorem sumOver_comm {κ' ρ' : Type} (t : Table κ ρ) (t' : Table κ' ρ') (f : κ → ρ → κ' → ρ' → Int) :
    (t.sumOver fun k r => t'.sumOver fun k' r' => f k r k' r') =
      t'.sumOver fun k' r' => t.sumOver fun k r => f k r k' r' := by
  obtain ⟨entries, nodup⟩ := t
  simp only [sumOver]
  clear nodup
  induction entries with
  | nil => simp
  | cons _ _ ih =>
    simp only [List.map_cons, List.sum_cons]
    rw [ih]
    exact List.sum_map_add.symm

theorem sumOver_single (t : Table κ ρ) (k : κ) (f : ρ → Int) :
    (t.sumOver fun k' r => if k' = k then f r else 0) = ((t.get? k).map f).getD 0 := by
  obtain ⟨entries, nodup⟩ := t
  simp only [get?, sumOver]
  induction entries with
  | nil => rfl
  | cons e rest ih =>
    obtain ⟨k', r'⟩ := e
    have fresh : k' ∉ rest.map Prod.fst := (List.nodup_cons.mp nodup).1
    have tail := ih (List.nodup_cons.mp nodup).2
    by_cases h : k = k'
    · subst h
      have absent : rest.lookup k = none := by
        rw [List.lookup_eq_none_iff]
        intro e member
        by_contra same
        simp only [bne_iff_ne, ne_eq, Decidable.not_not] at same
        exact fresh (same ▸ List.mem_map_of_mem (f := Prod.fst) member)
      rw [absent] at tail
      simpa using tail
    · simp only [List.map_cons, List.sum_cons, List.lookup_cons, beq_false_of_ne h]
      rw [if_neg (Ne.symm h), tail]
      omega

theorem sumOver_pair (t : Table κ ρ) {f : κ → ρ → Int} {r' : ρ} (different : k ≠ k')
    (stored : t.get? k = some r) (stored' : t.get? k' = some r')
    (nonneg : ∀ k r, t.get? k = some r → 0 ≤ f k r) : f k r + f k' r' ≤ t.sumOver f := by
  have first := sumOver_single t k (f k)
  have second := sumOver_single t k' (f k')
  rw [stored] at first
  rw [stored'] at second
  simp only [Option.map_some, Option.getD_some] at first second
  rw [← first, ← second, ← sumOver_add]
  apply sumOver_mono
  intro k₀ r₀ stored₀
  have lower := nonneg k₀ r₀ stored₀
  by_cases here : k₀ = k
  · subst here
    simp [different]
  · by_cases there : k₀ = k'
    · subst there
      simp [here]
    · simpa [here, there] using lower

end Keyed

/-! ### Generated keys -/

/-- The next generated identifier: above every identifier in use, as ULIDs are. -/
def nextId (t : Table Nat ρ) : Nat := (t.entries.map fun e => e.1 + 1).foldr max 0

theorem lt_nextId {t : Table Nat ρ} {k : Nat} {r : ρ} (h : t.get? k = some r) : k < t.nextId := by
  have hmem := (mem_entries t k r).mpr h
  simp only [nextId]
  generalize t.entries = entries at hmem
  induction entries with
  | nil => simp at hmem
  | cons _ _ ih =>
    rcases List.mem_cons.mp hmem with rfl | hrest
    · simp only [List.map_cons, List.foldr_cons]
      omega
    · have := ih hrest
      simp only [List.map_cons, List.foldr_cons]
      omega

theorem get?_nextId (t : Table Nat ρ) : t.get? t.nextId = none := by
  cases h : t.get? t.nextId with
  | none => rfl
  | some => exact absurd (lt_nextId h) (Nat.lt_irrefl _)

/-- Create a row under a generated identifier. -/
def create (t : Table Nat ρ) (r : ρ) : Table Nat ρ := t.insert t.nextId r t.get?_nextId

theorem get?_create (t : Table Nat ρ) (r : ρ) (k : Nat) :
    (t.create r).get? k = if k = t.nextId then some r else t.get? k :=
  get?_insert _ _ _ _ _

theorem get?_create_cases {t : Table Nat ρ} {r q : ρ} {k : Nat}
    (stored : (t.create r).get? k = some q) :
    (k = t.nextId ∧ q = r) ∨ t.get? k = some q := by
  rw [get?_create] at stored
  split at stored
  · rename_i new
    exact Or.inl ⟨new, (Option.some.inj stored).symm⟩
  · exact Or.inr stored

@[simp] theorem get?_create_self (t : Table Nat ρ) (r : ρ) : (t.create r).get? t.nextId = some r := by
  rw [get?_create, if_pos rfl]

theorem get?_create_of_some (t : Table Nat ρ) (r : ρ) {k : Nat} {q : ρ} (h : t.get? k = some q) :
    (t.create r).get? k = some q := by
  rw [get?_create, if_neg (Nat.ne_of_lt (lt_nextId h)), h]

theorem sumOver_create (t : Table Nat ρ) (f : Nat → ρ → Int) (r : ρ) :
    (t.create r).sumOver f = t.sumOver f + f t.nextId r :=
  sumOver_insert _ _ _ _ _

theorem rowsWhere_create (t : Table Nat ρ) (p : Nat → ρ → Bool) (r : ρ) :
    (t.create r).rowsWhere p = t.rowsWhere p ++ if p t.nextId r = true then [(t.nextId, r)] else [] := by
  unfold rowsWhere create insert
  dsimp only
  rw [List.filter_append, List.filter_singleton]
  congr 1
  cases p t.nextId r <;> rfl

/-- A change of what a condition does not ask for leaves the same rows, changed. -/
theorem rowsWhere_updateWhere {t : Table κ ρ} {p q : κ → ρ → Bool} {f : ρ → ρ} (same : ∀ k r, p k (f r) = p k r) :
    (t.updateWhere q f).rowsWhere p = (t.rowsWhere p).map fun e => if q e.1 e.2 then (e.1, f e.2) else e := by
  unfold rowsWhere updateWhere
  rw [List.filter_map]
  congr 1
  refine List.filter_congr fun e _ => ?_
  show p (if q e.1 e.2 = true then (e.1, f e.2) else e).1 (if q e.1 e.2 = true then (e.1, f e.2) else e).2 = p e.1 e.2
  split
  · exact same e.1 e.2
  · rfl

theorem nextId_create (t : Table Nat ρ) (r : ρ) : (t.create r).nextId = t.nextId + 1 := by
  have above : ∀ (keys : List Nat) (n : Nat), keys.foldr max n = max (keys.foldr max 0) n := by
    intro keys n
    induction keys with
    | nil => exact (Nat.zero_max n).symm
    | cons _ _ ih => rw [List.foldr_cons, List.foldr_cons, ih, Nat.max_assoc]
  unfold nextId create insert
  dsimp only
  rw [List.map_append, List.foldr_append, above]
  unfold nextId
  simp

theorem update_create (t : Table Nat ρ) (r : ρ) (f : ρ → ρ) :
    (t.create r).update t.nextId f = t.create (f r) := by
  have others : t.entries.map (fun e => if decide (e.1 = t.nextId) then (e.1, f e.2) else e) =
      t.entries := by
    have same : ∀ e ∈ t.entries, (if decide (e.1 = t.nextId) then (e.1, f e.2) else e) = id e := by
      intro e member
      have below := lt_nextId ((mem_entries t e.1 e.2).mp member)
      have other : ¬ e.1 = t.nextId := by omega
      simp [other]
    rw [List.map_congr_left same, List.map_id]
  simp only [create, insert, update, updateWhere, List.map_append, others]
  simp

end Table
end VtsaCsms.Foundation
