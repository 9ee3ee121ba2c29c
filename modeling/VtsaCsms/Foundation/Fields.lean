import Mathlib.Data.List.Basic

/-!
# Fields in one text

Named values written one after the other, each after a separator. The text does not say where a value
ends, so it can be read in more than one way: what two readings of one text have in common.
-/
namespace VtsaCsms.Foundation.Fields
variable {α : Type}

/-- How a separator, a name, a sign between name and value and the value are told apart; a value may hold
any of them. -/
structure Format (α : Type) where
  separator : α
  equals : α
  IsName : List α → Prop
  separator_ne : separator ≠ equals
  separator_free : ∀ name, IsName name → separator ∉ name
  equals_free : ∀ name, IsName name → equals ∉ name

namespace Format
variable (f : Format α)

/-- The fields, each after a separator. -/
def written : List (List α × List α) → List α
  | [] => []
  | field :: rest => f.separator :: (field.1 ++ f.equals :: field.2) ++ written rest

/-- No field could start inside the value. -/
def Plain (value : List α) : Prop :=
  ∀ before name after, f.IsName name → value ≠ before ++ f.separator :: (name ++ f.equals :: after)

def Named (fields : List (List α × List α)) : Prop := ∀ field ∈ fields, f.IsName field.1

/-- A reading that takes some of the fields into the value of the field before them. -/
inductive Merged : List (List α × List α) → List (List α × List α) → Prop
  | nil : Merged [] []
  | cons (name value : List α) (taken : List (List α × List α)) {rest read : List (List α × List α)}
      (later : Merged rest read) : Merged ((name, value) :: (taken ++ rest)) ((name, value ++ f.written taken) :: read)

variable {f}
variable {name value tail : List α} {fields read : List (List α × List α)}

/-- What begins like a name and its sign does so before the next field. -/
theorem name_before (isName : f.IsName name) (same : name ++ f.equals :: tail = value ++ f.written fields) :
    ∃ rest, value = name ++ f.equals :: rest ∧ tail = rest ++ f.written fields := by
  have split : name ++ [f.equals] ++ tail = value ++ f.written fields := by
    rw [List.append_assoc]
    exact same
  obtain ⟨rest, value_eq, tail_eq⟩ | ⟨rest, name_eq, fields_eq⟩ := List.append_eq_append_iff.mp split
  · exact ⟨rest, by rw [value_eq, List.append_assoc]; rfl, tail_eq⟩
  · cases fields with
    | nil =>
      have none : rest = [] ∧ tail = [] := List.append_eq_nil_iff.mp fields_eq.symm
      refine ⟨[], ?_, ?_⟩
      · rw [none.1, List.append_nil] at name_eq
        exact name_eq.symm
      · exact none.2
    | cons field fields =>
      cases rest with
      | nil =>
        refine ⟨[], ?_, ?_⟩
        · rw [List.append_nil] at name_eq
          exact name_eq.symm
        · exact fields_eq.symm
      | cons c rest =>
        -- The separator of the next field would stand in the name or be its sign.
        have first : f.separator = c := (List.cons.inj fields_eq).1
        have inside : f.separator ∈ name ++ [f.equals] := by
          rw [name_eq, first]
          simp
        obtain there | there := List.mem_append.mp inside
        · exact absurd there (f.separator_free name isName)
        · exact absurd (List.mem_singleton.mp there) f.separator_ne

theorem name_unique_of_le {rest tail' : List α} (isName : f.IsName (name ++ rest))
    (same : f.equals :: tail = rest ++ f.equals :: tail') : rest = [] ∧ tail = tail' := by
  cases rest with
  | nil => exact ⟨rfl, (List.cons.inj same).2⟩
  | cons c =>
    have first : f.equals = c := (List.cons.inj same).1
    exact absurd (by rw [first]; simp) (f.equals_free _ isName)

theorem name_unique {name' tail' : List α} (isName : f.IsName name) (isName' : f.IsName name')
    (same : name ++ f.equals :: tail = name' ++ f.equals :: tail') : name = name' ∧ tail = tail' := by
  obtain ⟨rest, rfl, later⟩ | ⟨rest, rfl, later⟩ := List.append_eq_append_iff.mp same
  · obtain ⟨rfl, tails⟩ := name_unique_of_le isName' later
    exact ⟨(List.append_nil name).symm, tails⟩
  · obtain ⟨rfl, tails⟩ := name_unique_of_le isName later
    exact ⟨List.append_nil name', tails.symm⟩

/-- A plain value does not end before another reading's value does. -/
theorem not_shorter {value' z : List α} (plain : f.Plain value)
    (named : f.Named read) (longer : value = value' ++ z) (same : f.written read = z ++ f.written fields) : z = [] := by
  cases z with
  | nil => rfl
  | cons =>
    cases read with
    | nil => cases same
    | cons field =>
      obtain ⟨first, later⟩ := List.cons.inj same
      rw [List.append_eq, List.append_eq, List.append_assoc, List.cons_append] at later
      have isName := named field List.mem_cons_self
      obtain ⟨rest, inside, -⟩ := name_before isName later
      rw [inside, ← first] at longer
      exact absurd longer (plain _ _ _ isName)

/-- The value of a plain field is the beginning of what another reading takes for it, and the rest of that
is fields. -/
theorem value_taken {value' : List α} (plain : f.Plain value)
    (plains : ∀ field ∈ fields, f.Plain field.2) (named : f.Named fields) (named' : f.Named read)
    (same : value' ++ f.written read = value ++ f.written fields) :
    ∃ taken rest, fields = taken ++ rest ∧ value' = value ++ f.written taken ∧ f.written read = f.written rest := by
  induction fields generalizing value value' with
  | nil =>
    obtain ⟨z, longer, tail⟩ | ⟨z, longer, tail⟩ := List.append_eq_append_iff.mp same
    · have none := not_shorter plain named' longer tail
      subst none
      exact ⟨[], [], rfl, by rw [longer, List.append_nil]; exact (List.append_nil _).symm, tail⟩
    · have none : z = [] ∧ f.written read = [] := List.append_eq_nil_iff.mp tail.symm
      refine ⟨[], [], rfl, ?_, none.2⟩
      rw [longer, none.1]
      rfl
  | cons field fields ih =>
    obtain ⟨z, longer, tail⟩ | ⟨z, longer, tail⟩ := List.append_eq_append_iff.mp same
    · have none := not_shorter plain named' longer tail
      subst none
      exact ⟨[], field :: fields, rfl, by rw [longer, List.append_nil]; exact (List.append_nil _).symm, tail⟩
    · cases z with
      | nil =>
        exact ⟨[], field :: fields, rfl, longer, tail.symm⟩
      | cons =>
        obtain ⟨first, later⟩ := List.cons.inj tail
        rw [List.append_eq, List.append_eq, List.append_assoc, List.cons_append] at later
        obtain ⟨rest, inside, others⟩ := name_before (named field List.mem_cons_self) later
        obtain ⟨taken, rest', fields_eq, rest_eq, read_eq⟩ := ih (plains field List.mem_cons_self)
          (fun other member => plains other (List.mem_cons_of_mem _ member))
          (fun other member => named other (List.mem_cons_of_mem _ member)) others.symm
        refine ⟨field :: taken, rest', by rw [fields_eq]; rfl, ?_, read_eq⟩
        rw [longer, inside, rest_eq, ← first]
        simp [written]

theorem written_eq_nil (nothing : f.written fields = []) : fields = [] := by
  cases fields with
  | nil => rfl
  | cons => cases nothing

/-- Every reading of plain fields takes some of them into the value of the field before them. -/
theorem merged_of_written_eq (plains : ∀ field ∈ fields, f.Plain field.2)
    (named : f.Named fields) (named' : f.Named read) (same : f.written read = f.written fields) :
    f.Merged fields read := by
  induction read generalizing fields with
  | nil =>
    rw [written_eq_nil same.symm]
    exact .nil
  | cons field' _ ih =>
    cases fields with
    | nil => cases same
    | cons field =>
      obtain ⟨-, later⟩ := List.cons.inj same
      rw [List.append_eq, List.append_eq, List.append_assoc, List.append_assoc, List.cons_append,
        List.cons_append] at later
      obtain ⟨names, values⟩ := name_unique (named' field' List.mem_cons_self) (named field List.mem_cons_self) later
      obtain ⟨taken, rest, rfl, value_eq, tail⟩ := value_taken (plains field List.mem_cons_self)
        (fun other member => plains other (List.mem_cons_of_mem _ member))
        (fun other member => named other (List.mem_cons_of_mem _ member))
        (fun other member => named' other (List.mem_cons_of_mem _ member)) values
      have merged := ih (fun other member => plains other (List.mem_cons_of_mem _ (List.mem_append_right _ member)))
        (fun other member => named other (List.mem_cons_of_mem _ (List.mem_append_right _ member)))
        (fun other member => named' other (List.mem_cons_of_mem _ member)) tail
      obtain ⟨name', value'⟩ := field'
      obtain ⟨name, value⟩ := field
      dsimp only at names value_eq
      rw [names, value_eq]
      exact .cons name value taken merged

/-- Every value read begins with the value of the field of that name. -/
theorem Merged.begins (merged : f.Merged fields read) {field' : List α × List α} (member : field' ∈ read) :
    ∃ value taken, (field'.1, value) ∈ fields ∧ (∀ other ∈ taken, other ∈ fields) ∧
      field'.2 = value ++ f.written taken := by
  induction merged with
  | nil => cases member
  | cons _ value taken _ ih =>
    obtain rfl | member := List.mem_cons.mp member
    · exact ⟨value, taken, List.mem_cons_self,
        fun other there => List.mem_cons_of_mem _ (List.mem_append_left _ there), rfl⟩
    · obtain ⟨value', taken', there, others, value_eq⟩ := ih member
      exact ⟨value', taken', List.mem_cons_of_mem _ (List.mem_append_right _ there),
        fun other there' => List.mem_cons_of_mem _ (List.mem_append_right _ (others other there')), value_eq⟩

theorem taken_of_plain {taken : List (List α × List α)} (named : f.Named taken)
    (plain : f.Plain (value ++ f.written taken)) : taken = [] := by
  cases taken with
  | nil => rfl
  | cons field taken =>
    have isName := named field List.mem_cons_self
    refine absurd ?_ (plain value field.1 (field.2 ++ f.written taken) isName)
    simp [written]

theorem Merged.mem_of_plain (merged : f.Merged fields read)
    (named : f.Named fields) {field' : List α × List α} (member : field' ∈ read) (plain : f.Plain field'.2) :
    field' ∈ fields := by
  obtain ⟨value, taken, there, others, value_eq⟩ := merged.begins member
  rw [value_eq] at plain
  have none := taken_of_plain (fun other there' => named other (others other there')) plain
  rw [none] at value_eq
  rw [show field' = (field'.1, value) from Prod.ext rfl (value_eq.trans (List.append_nil value))]
  exact there

theorem Merged.eq_of_plain (merged : f.Merged fields read)
    (named : f.Named fields) (plains : ∀ field' ∈ read, f.Plain field'.2) : read = fields := by
  induction merged with
  | nil => rfl
  | cons _ _ _ _ ih =>
    have none := taken_of_plain
      (fun other there => named other (List.mem_cons_of_mem _ (List.mem_append_left _ there)))
      (plains _ List.mem_cons_self)
    subst none
    rw [ih (fun other there => named other (List.mem_cons_of_mem _ there))
      (fun other there => plains other (List.mem_cons_of_mem _ there))]
    simp [written]

end Format
end VtsaCsms.Foundation.Fields
