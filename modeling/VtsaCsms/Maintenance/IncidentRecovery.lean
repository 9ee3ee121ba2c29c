import VtsaCsms.Foundation.Loops
import VtsaCsms.Maintenance.FaultAutomation

/-!
# Incidents that recover

One unresolved incident a fingerprint, one count a source event. A candidate is withdrawn only by a
fault that is recorded for the incident itself; any other fault of the asset leaves it a candidate.
-/
namespace VtsaCsms.Maintenance
open Foundation Foundation.Action

namespace IncidentBooks

/-- No fingerprint has two unresolved incidents. -/
def OneUnresolved (s : IncidentBooks) : Prop :=
  ∀ id id' i i', s.incidents.get? id = some i → s.incidents.get? id' = some i' → i.resolvedAt = none →
    i'.resolvedAt = none → i.fingerprint = i'.fingerprint → id = id'

/-- The fault observations of an incident. -/
def faultsOf (s : IncidentBooks) (id : Nat) : Int :=
  s.observations.sumOver fun _ o => if o.incidentId = id ∧ o.faultCode ≠ none then 1 else 0

/-- An incident counts its fault observations, and no two observations are of one source event. -/
structure CountedOnce (s : IncidentBooks) : Prop where
  counted : ∀ id i, s.incidents.get? id = some i → (i.occurrenceCount : Int) = s.faultsOf id
  distinct : ∀ k k' o o', s.observations.get? k = some o → s.observations.get? k' = some o' →
    o.sourceEventId = o'.sourceEventId → k = k'

structure Sound (s : IncidentBooks) : Prop where
  alone : s.OneUnresolved
  once : s.CountedOnce
  active : ∀ id i, s.incidents.get? id = some i → i.resolvedAt = none → i.state.active = true
  candidate : ∀ id i, s.incidents.get? id = some i → i.recoveryCandidateAt ≠ none → i.resolvedAt = none
  ruled : ∀ id i, s.incidents.get? id = some i → i.ruleId ≠ none
  placed : ∀ k o, s.observations.get? k = some o → s.incidents.get? o.incidentId ≠ none

theorem empty_sound : Sound ⟨Table.empty, Table.empty⟩ where
  alone _ _ _ _ stored := by cases stored
  once := ⟨fun _ _ stored => (by cases stored), fun _ _ _ _ stored => (by cases stored)⟩
  active _ _ stored := by cases stored
  candidate _ _ stored := by cases stored
  ruled _ _ stored := by cases stored
  placed _ _ stored := by cases stored

/-! ### What the writes keep -/

theorem faultsOf_create (s : IncidentBooks) (incidents : Table Nat Incident) (o : IncidentObservation) (id : Nat) :
    faultsOf ⟨incidents, s.observations.create o⟩ id =
      s.faultsOf id + if o.incidentId = id ∧ o.faultCode ≠ none then 1 else 0 :=
  Table.sumOver_create _ _ _

variable {s : IncidentBooks}

theorem distinct_create (once : s.CountedOnce) {o : IncidentObservation}
    (new : ∀ k o', s.observations.get? k = some o' → o'.sourceEventId ≠ o.sourceEventId)
    {k k' : Nat} {a b : IncidentObservation} (left : (s.observations.create o).get? k = some a)
    (right : (s.observations.create o).get? k' = some b) (same : a.sourceEventId = b.sourceEventId) : k = k' := by
  rcases Table.get?_create_cases left with ⟨rfl, rfl⟩ | old
  · rcases Table.get?_create_cases right with ⟨rfl, rfl⟩ | old'
    · rfl
    · exact absurd same.symm (new k' b old')
  · rcases Table.get?_create_cases right with ⟨rfl, rfl⟩ | old'
    · exact absurd same (new k a old)
    · exact once.distinct k k' a b old old' same

/-- A save that keeps the fingerprint and the rule and reopens nothing, with the observations of its
transaction. -/
theorem Sound.saved (sound : s.Sound) (id : Nat) {change : Incident → Incident}
    {observations : Table Nat IncidentObservation} (fingerprint : ∀ i, (change i).fingerprint = i.fingerprint)
    (rule : ∀ i, (change i).ruleId = i.ruleId)
    (reopens : ∀ i, s.incidents.get? id = some i → (change i).resolvedAt = none →
      i.resolvedAt = none ∧ (change i).state.active = true)
    (candidate : ∀ i, s.incidents.get? id = some i → (change i).recoveryCandidateAt ≠ none →
      (change i).resolvedAt = none) (once : CountedOnce ⟨s.incidents.update id change, observations⟩)
    (placed : ∀ k o, observations.get? k = some o → s.incidents.get? o.incidentId ≠ none) :
    Sound ⟨s.incidents.update id change, observations⟩ := by
  have rows : ∀ {k j}, (s.incidents.update id change).get? k = some j →
      ∃ i, s.incidents.get? k = some i ∧ j.fingerprint = i.fingerprint ∧ j.ruleId = i.ruleId ∧
        (j.resolvedAt = none → i.resolvedAt = none ∧ j.state.active = true) ∧
        (j.recoveryCandidateAt ≠ none → j.resolvedAt = none) := by
    intro k j stored
    rcases Table.get?_update_cases stored with ⟨rfl, i, before, rfl⟩ | ⟨-, before⟩
    · exact ⟨i, before, fingerprint i, rule i, reopens i before, candidate i before⟩
    · exact ⟨j, before, rfl, rfl, fun open' => ⟨open', sound.active k j before open'⟩, sound.candidate k j before⟩
  constructor
  · intro k k' j j' stored stored' open' open'' same
    obtain ⟨i, before, print, -, back, -⟩ := rows stored
    obtain ⟨i', before', print', -, back', -⟩ := rows stored'
    exact sound.alone k k' i i' before before' (back open').1 (back' open'').1 (print ▸ print' ▸ same)
  · exact once
  · intro k j stored open'
    obtain ⟨i, -, -, -, back, -⟩ := rows stored
    exact (back open').2
  · intro k j stored
    obtain ⟨i, -, -, -, -, held⟩ := rows stored
    exact held
  · intro k j stored
    obtain ⟨i, before, -, ruled, -⟩ := rows stored
    rw [ruled]
    exact sound.ruled k i before
  · intro k o stored
    obtain ⟨i, before⟩ := Option.ne_none_iff_exists'.mp (placed k o stored)
    obtain ⟨j, there⟩ := Table.get?_update_of_some id change before
    exact there ▸ Option.some_ne_none j

theorem once_observed (once : s.CountedOnce) (id : Nat) (change : Incident → Incident)
    (o : IncidentObservation) (own : o.incidentId = id)
    (counts : ∀ i, (change i).occurrenceCount = i.occurrenceCount + if o.faultCode ≠ none then 1 else 0)
    (new : ∀ k o', s.observations.get? k = some o' → o'.sourceEventId ≠ o.sourceEventId) :
    CountedOnce ⟨s.incidents.update id change, s.observations.create o⟩ := by
  refine ⟨?_, fun k k' a b => distinct_create once new⟩
  intro k j stored
  rw [faultsOf_create, own]
  rcases Table.get?_update_cases stored with ⟨rfl, i, before, rfl⟩ | ⟨other, before⟩
  · have counted := once.counted k i before
    rw [counts]
    by_cases fault : o.faultCode = none
    · simpa [fault] using counted
    · simpa [fault] using counted
  · have counted := once.counted k j before
    rw [if_neg (fun both => other both.1.symm)]
    omega

theorem once_saved (once : s.CountedOnce) (id : Nat) (change : Incident → Incident)
    (counts : ∀ i, (change i).occurrenceCount = i.occurrenceCount) :
    CountedOnce ⟨s.incidents.update id change, s.observations⟩ := by
  refine ⟨?_, once.distinct⟩
  intro k j stored
  change _ = s.faultsOf k
  rcases Table.get?_update_cases stored with ⟨rfl, i, before, rfl⟩ | ⟨-, before⟩
  · rw [counts]
    exact once.counted k i before
  · exact once.counted k j before

theorem placed_create (sound : s.Sound) {o : IncidentObservation}
    (there : s.incidents.get? o.incidentId ≠ none) (k : Nat) (o' : IncidentObservation)
    (stored : (s.observations.create o).get? k = some o') : s.incidents.get? o'.incidentId ≠ none := by
  rcases Table.get?_create_cases stored with ⟨-, rfl⟩ | before
  · exact there
  · exact sound.placed k o' before

end IncidentBooks

namespace FaultAutomationService
open IncidentBooks

/-! ### What a report does -/

/-- No observation is of the event. -/
def Unseen (sourceEventId : String) (s : IncidentBooks) : Prop :=
  ∀ k o, s.observations.get? k = some o → o.sourceEventId ≠ sourceEventId

theorem putObservation_returns (o : IncidentObservation) (s s' : IncidentBooks) (u : Unit) :
    Returns (putObservation o) s u s' ↔
      Unseen o.sourceEventId s ∧ s' = { s with observations := s.observations.create o } := by
  unfold putObservation
  simp only [returns_bind, returns_read, returns_throwIf, returns_write]
  have free : ¬ (s.observations.exists? fun _ o' => decide (o'.sourceEventId = o.sourceEventId)) = true ↔
      Unseen o.sourceEventId s := by
    simp [Table.exists?_iff, Unseen]
  constructor
  · rintro ⟨_, _, ⟨rfl, rfl⟩, _, _, ⟨new, rfl⟩, rfl⟩
    exact ⟨free.mp new, rfl⟩
  · rintro ⟨new, rfl⟩
    exact ⟨_, _, ⟨rfl, rfl⟩, (), _, ⟨free.mpr new, rfl⟩, rfl⟩

variable {report : StatusReport} {s s' : IncidentBooks} {i : Incident} {env : FaultEnvironment} {ruleId : Nat}

theorem known_unseen (unknown : known report s = false) :
    Unseen report.sourceEventId s := by
  intro k o stored same
  have there : known report s = true := by
    unfold known
    rw [Table.exists?_iff]
    exact ⟨k, o, stored, by simp [same]⟩
  rw [unknown] at there
  cases there

theorem unresolved?_some {print : String} {id : Nat} (found : unresolved? print s = some (id, i)) :
    s.incidents.get? id = some i ∧ i.fingerprint = print ∧ i.resolvedAt = none ∧ i.state.active = true := by
  obtain ⟨stored, holds⟩ := Table.first?_some found
  simp only [Bool.and_eq_true, decide_eq_true_eq] at holds
  exact ⟨stored, holds.1.1, holds.1.2, holds.2⟩

theorem unresolved?_none {print : String} (sound : s.Sound)
    (none' : unresolved? print s = none) {id : Nat} (stored : s.incidents.get? id = some i)
    (open' : i.resolvedAt = none) : i.fingerprint ≠ print := by
  intro same
  have fails := Table.first?_none none' id i stored
  simp [same, open', sound.active id i stored open'] at fails

def counted (env : FaultEnvironment) (report : StatusReport) (id : Nat) (s : IncidentBooks) : IncidentBooks where
  incidents := s.incidents.update id (recurred report.observedAt)
  observations := s.observations.create (faultObservation env report id)

def opened (env : FaultEnvironment) (ruleId : Nat) (report : StatusReport) (s : IncidentBooks) : IncidentBooks where
  incidents := s.incidents.create (newIncident env ruleId report)
  observations := s.observations.create (faultObservation env report s.incidents.nextId)

theorem createIncident_returns {id : Nat} (success : Returns (createIncident i) s id s') :
    id = s.incidents.nextId ∧ s' = { s with incidents := s.incidents.create i } := by
  unfold createIncident at success
  simp only [returns_bind, returns_read, returns_throwIf, returns_write, returns_pure] at success
  obtain ⟨_, _, ⟨rfl, rfl⟩, _, _, ⟨-, rfl⟩, _, _, ⟨rfl, rfl⟩, _, _, rfl, rfl, rfl⟩ := success
  exact ⟨rfl, rfl⟩

theorem recordFault_returns {rule : IncidentRule}
    {u : Unit} (success : Returns (recordFault env ruleId rule report) s u s') :
    Unseen report.sourceEventId s ∧
      ((∃ id i, unresolved? (fingerprint env report) s = some (id, i) ∧ s' = counted env report id s) ∨
        (unresolved? (fingerprint env report) s = none ∧ s' = opened env ruleId report s)) := by
  unfold recordFault at success
  simp only [returns_bind, returns_read] at success
  obtain ⟨_, s, ⟨rfl, rfl⟩, success⟩ := success
  cases found : unresolved? (fingerprint env report) s with
  | none =>
    rw [found] at success
    simp only [returns_bind, putObservation_returns] at success
    obtain ⟨id, s₁, created, _, s₂, ⟨new, rfl⟩, ordered⟩ := success
    obtain ⟨rfl, rfl⟩ := createIncident_returns created
    have kept : s' = opened env ruleId report s := by
      rw [returns_doIf] at ordered
      rcases ordered with ⟨-, ordered⟩ | ⟨-, rfl⟩
      · rw [returns_lift] at ordered
        exact ordered.2
      · rfl
    exact ⟨new, Or.inr ⟨rfl, kept⟩⟩
  | some row =>
    obtain ⟨id, i⟩ := row
    rw [found] at success
    simp only [returns_bind, putObservation_returns, saveIncident, returns_write] at success
    obtain ⟨_, _, rfl, new, rfl⟩ := success
    exact ⟨new, Or.inl ⟨id, i, rfl, rfl⟩⟩

theorem recordFault_counts {rule : IncidentRule} {id : Nat} (new : Unseen report.sourceEventId s)
    (found : unresolved? (fingerprint env report) s = some (id, i)) :
    Returns (recordFault env ruleId rule report) s () (counted env report id s) := by
  unfold recordFault
  simp only [returns_bind, returns_read]
  refine ⟨_, s, ⟨rfl, rfl⟩, ?_⟩
  rw [found]
  simp only [returns_bind, saveIncident, returns_write, putObservation_returns]
  exact ⟨(), _, rfl, new, rfl⟩

theorem counted_sound {id : Nat} (sound : s.Sound) (new : Unseen report.sourceEventId s)
    (found : unresolved? (fingerprint env report) s = some (id, i)) : (counted env report id s).Sound := by
  obtain ⟨stored, -, open', active⟩ := unresolved?_some found
  refine sound.saved id (fun _ => rfl) (fun _ => rfl) ?_ ?_ ?_ ?_
  · intro j there
    rw [stored] at there
    cases there
    refine fun _ => ⟨open', ?_⟩
    unfold recurred
    dsimp only
    split
    · rfl
    · exact active
  · intro j there none'
    exact absurd rfl none'
  · exact once_observed sound.once id _ _ rfl (fun _ => rfl) new
  · exact placed_create sound (by rw [show (faultObservation env report id).incidentId = id from rfl, stored]; simp)

theorem opened_sound (sound : s.Sound) (new : Unseen report.sourceEventId s)
    (none' : unresolved? (fingerprint env report) s = none) : (opened env ruleId report s).Sound := by
  have absent : ∀ k o, s.observations.get? k = some o → o.incidentId ≠ s.incidents.nextId := by
    intro k o stored same
    have there := sound.placed k o stored
    rw [same, Table.get?_nextId] at there
    exact there rfl
  constructor
  · intro k k' j j' stored stored' open' open'' same
    rcases Table.get?_create_cases stored with ⟨rfl, rfl⟩ | before
    · rcases Table.get?_create_cases stored' with ⟨rfl, rfl⟩ | before'
      · rfl
      · exact absurd same.symm (unresolved?_none sound none' before' open'')
    · rcases Table.get?_create_cases stored' with ⟨rfl, rfl⟩ | before'
      · exact absurd same (unresolved?_none sound none' before open')
      · exact sound.alone k k' j j' before before' open' open'' same
  · refine ⟨?_, fun k k' a b => distinct_create (o := faultObservation env report _) sound.once new⟩
    intro k j stored
    unfold opened
    rw [faultsOf_create]
    rcases Table.get?_create_cases stored with ⟨rfl, rfl⟩ | before
    · have nothing : s.faultsOf s.incidents.nextId = 0 := by
        unfold faultsOf
        rw [Table.sumOver_congr s.observations (g := fun _ _ => 0), Table.sumOver_zero]
        intro k o there
        rw [if_neg (fun both => absent k o there both.1)]
      rw [nothing, if_pos ⟨rfl, Option.some_ne_none _⟩]
      rfl
    · have other : s.incidents.nextId ≠ k := (Nat.ne_of_lt (Table.lt_nextId before)).symm
      have counted := sound.once.counted k j before
      rw [if_neg (fun both => other both.1)]
      omega
  · intro k j stored open'
    rcases Table.get?_create_cases stored with ⟨-, rfl⟩ | before
    · rfl
    · exact sound.active k j before open'
  · intro k j stored candidate
    rcases Table.get?_create_cases stored with ⟨-, rfl⟩ | before
    · rfl
    · exact sound.candidate k j before candidate
  · intro k j stored
    rcases Table.get?_create_cases stored with ⟨-, rfl⟩ | before
    · exact Option.some_ne_none ruleId
    · exact sound.ruled k j before
  · intro k o stored
    rcases Table.get?_create_cases stored with ⟨-, rfl⟩ | before
    · change (s.incidents.create _).get? s.incidents.nextId ≠ none
      rw [Table.get?_create_self]
      exact Option.some_ne_none _
    · obtain ⟨i, there⟩ := Option.ne_none_iff_exists'.mp (sound.placed k o before)
      change (s.incidents.create _).get? o.incidentId ≠ none
      rw [Table.get?_create_of_some _ _ there]
      exact Option.some_ne_none _

/-- The unresolved incidents of a report are there, and still unresolved. -/
def Unresolved (rows : List (Nat × Incident)) (s : IncidentBooks) : Prop :=
  ∀ row ∈ rows, ∃ i, s.incidents.get? row.1 = some i ∧ i.resolvedAt = none

theorem recordRecovery_sound {u : Unit}
    (sound : s.Sound) (success : Returns (recordRecovery env report) s u s') : s'.Sound := by
  unfold recordRecovery at success
  simp only [returns_bind, returns_read] at success
  obtain ⟨_, s, ⟨rfl, rfl⟩, success⟩ := success
  have entry : s.Sound ∧ Unresolved (unresolvedOf report s) s := by
    refine ⟨sound, ?_⟩
    intro row mem
    obtain ⟨stored, holds⟩ := (Table.mem_rowsWhere _ _ row.1 row.2).mp mem
    simp only [Bool.and_eq_true, decide_eq_true_eq] at holds
    exact ⟨row.2, stored, holds.1.2.2⟩
  refine (forEach_keeps_mem (P := fun t => t.Sound ∧ Unresolved (unresolvedOf report s) t) ?_ entry success).1
  rintro ⟨id, i₀⟩ mem t t' ⟨sound', there⟩ turn
  simp only [returns_bind, putObservation_returns, saveIncident, returns_write] at turn
  obtain ⟨_, _, ⟨new, rfl⟩, rfl⟩ := turn
  obtain ⟨i, stored, open'⟩ := there (id, i₀) mem
  refine ⟨sound'.saved id (fun _ => rfl) (fun _ => rfl) ?_ ?_ ?_ ?_, ?_⟩
  · intro j stored' _
    rw [stored] at stored'
    cases stored'
    exact ⟨open', sound'.active id i stored open'⟩
  · intro j stored' _
    rw [stored] at stored'
    cases stored'
    exact open'
  · exact once_observed sound'.once id _ _ rfl (fun _ => rfl) new
  · refine placed_create sound' ?_
    change t.incidents.get? id ≠ none
    rw [stored]
    exact Option.some_ne_none i
  · intro row mem'
    obtain ⟨j, stored', open''⟩ := there row mem'
    by_cases same : row.1 = id
    · exact ⟨recovering report.observedAt j, by simp [same ▸ stored', same], open''⟩
    · exact ⟨j, by simp [Table.get?_update, same, stored'], open''⟩

/-! ### What a call does -/

theorem observe_cases (env : FaultEnvironment) (report : StatusReport) (s : IncidentBooks) :
    (after (observe env report) s = s) ∨
      (known report s = false ∧ Unseen report.sourceEventId s ∧
        ((isFault env report = true ∧
            ((∃ id i, unresolved? (fingerprint env report) s = some (id, i) ∧
                after (observe env report) s = counted env report id s) ∨
              ∃ ruleId, unresolved? (fingerprint env report) s = none ∧
                after (observe env report) s = opened env ruleId report s)) ∨
          (isFault env report = false ∧ Returns (recordRecovery env report) s () (after (observe env report) s)))) := by
  have atomic : Atomic (observe env report) := atomic_transaction _
  rcases after_cases atomic s with ⟨same, -⟩ | success
  · exact Or.inl same
  · generalize after (observe env report) s = left at success ⊢
    rw [observe, returns_transaction, returns_bind] at success
    obtain ⟨repeated, s₁, looked, success⟩ := success
    obtain ⟨rfl, rfl⟩ := (returns_read ..).mp looked
    cases unknown : known report s₁ with
    | true =>
      rw [unknown, if_pos rfl, returns_pure] at success
      exact Or.inl success.2
    | false =>
      rw [unknown, if_neg Bool.false_ne_true] at success
      cases fault : isFault env report with
      | false =>
        rw [fault, if_neg Bool.false_ne_true] at success
        exact Or.inr ⟨rfl, known_unseen unknown, Or.inr ⟨rfl, success⟩⟩
      | true =>
        rw [fault, if_pos rfl] at success
        cases selected : ruleFor env report with
        | none =>
          rw [selected, returns_pure] at success
          exact Or.inl success.2
        | some row =>
          rw [selected] at success
          obtain ⟨new, ⟨id, i, found, left⟩ | ⟨none', left⟩⟩ := recordFault_returns success
          · exact Or.inr ⟨rfl, new, Or.inl ⟨rfl, Or.inl ⟨id, i, found, left⟩⟩⟩
          · exact Or.inr ⟨rfl, new, Or.inl ⟨rfl, Or.inr ⟨row.1, none', left⟩⟩⟩

theorem observe_sound (env : FaultEnvironment) (report : StatusReport) (sound : s.Sound) :
    (after (observe env report) s).Sound := by
  rcases observe_cases env report s with same | ⟨-, new, ⟨-, ⟨id, i, found, left⟩ | ⟨ruleId, none', left⟩⟩ | ⟨-, success⟩⟩
  · rw [same]
    exact sound
  · rw [left]
    exact counted_sound sound new found
  · rw [left]
    exact opened_sound sound new none'
  · exact recordRecovery_sound sound success

theorem escalatePersistent_after (env : FaultEnvironment) (asOf : Instant) (s : IncidentBooks) :
    after (escalatePersistent env asOf) s =
      after (forEach (s.incidents.rowsWhere fun _ i =>
        decide (i.state ∈ [.opened, .acknowledged, .recurrent] ∧ i.resolvedAt = none)) (escalateOne env asOf)) s := by
  unfold escalatePersistent
  rw [after_read, after_then_pure]

theorem validateRecoveries_after (env : FaultEnvironment) (asOf : Instant) (s : IncidentBooks) :
    after (validateRecoveries env asOf) s = after (forEach (candidates s) (validateOne env asOf)) s := by
  unfold validateRecoveries
  rw [after_read, after_then_pure]

theorem escalateOne_cases (env : FaultEnvironment) (asOf : Instant) (row : Nat × Incident) (s : IncidentBooks) :
    after (escalateOne env asOf row) s = s ∨
      after (escalateOne env asOf row) s =
        { s with incidents := s.incidents.update row.1 (escalated asOf) } := by
  unfold escalateOne
  cases row.2.ruleId with
  | none => exact Or.inl rfl
  | some ruleId =>
    cases lookup : rule? env ruleId with
    | none =>
      left
      simp [lookup, orThrow, after, bind, raise]
    | some rule =>
      by_cases due : escalationDue rule row.2 asOf = true
      · right
        simp [lookup, orThrow, after, bind, pure, doIf, due, saveIncident, write, lift]
      · left
        simp [lookup, orThrow, after, bind, pure, doIf, due]

theorem validateOne_cases (env : FaultEnvironment) (asOf : Instant) (row : Nat × Incident) (s : IncidentBooks) :
    after (validateOne env asOf row) s = s ∨
      after (validateOne env asOf row) s =
        { s with incidents := s.incidents.update row.1 (recovered asOf) } := by
  unfold validateOne
  cases row.2.ruleId with
  | none => exact Or.inl rfl
  | some ruleId =>
    cases lookup : rule? env ruleId with
    | none =>
      left
      simp [lookup, orThrow, after, bind, raise]
    | some rule =>
      by_cases due : recoveryDue rule row.2 asOf = true
      · right
        simp [lookup, orThrow, after, bind, pure, doIf, due, saveIncident, write]
      · left
        simp [lookup, orThrow, after, bind, pure, doIf, due]

theorem escalatePersistent_sound (env : FaultEnvironment) (asOf : Instant) (sound : s.Sound) :
    (after (escalatePersistent env asOf) s).Sound := by
  rw [escalatePersistent_after]
  refine after_forEach_keeps ?_ _ s sound
  intro row t sound'
  rcases escalateOne_cases env asOf row t with same | left
  · rw [same]
    exact sound'
  · rw [left]
    refine sound'.saved row.1 (fun _ => rfl) (fun _ => rfl) ?_ ?_ (once_saved sound'.once _ _ fun _ => rfl) sound'.placed
    · intro i stored open'
      refine ⟨open', ?_⟩
      unfold escalated
      dsimp only
      split
      · rfl
      · exact sound'.active row.1 i stored open'
    · exact sound'.candidate row.1

theorem validateRecoveries_sound (env : FaultEnvironment) (asOf : Instant) (sound : s.Sound) :
    (after (validateRecoveries env asOf) s).Sound := by
  rw [validateRecoveries_after]
  refine after_forEach_keeps ?_ _ s sound
  intro row t sound'
  rcases validateOne_cases env asOf row t with same | left
  · rw [same]
    exact sound'
  · rw [left]
    refine sound'.saved row.1 (fun _ => rfl) (fun _ => rfl) ?_ ?_ (once_saved sound'.once _ _ fun _ => rfl) sound'.placed
    · intro i _ open'
      cases open'
    · intro i _ candidate
      exact absurd rfl candidate

end FaultAutomationService

namespace FaultHistory
open FaultAutomationService IncidentBooks

/-! ### Runs of calls -/

structure Valid (s : FaultHistory) : Prop where
  sound : s.books.Sound
  standing : ∀ id, s.overtaken id = true → isCandidate s.books id = true

theorem next_valid (call : FaultCall) (s : FaultHistory) (valid : s.Valid) : (next call s).Valid := by
  cases call with
  | observe env report =>
    refine ⟨observe_sound env report valid.sound, ?_⟩
    intro id overtaken
    simp only [next, Bool.and_eq_true] at overtaken
    exact overtaken.1.1
  | escalatePersistent env asOf =>
    refine ⟨escalatePersistent_sound env asOf valid.sound, ?_⟩
    intro id overtaken
    simp only [next, Bool.and_eq_true] at overtaken
    exact overtaken.1
  | validateRecoveries env asOf =>
    refine ⟨validateRecoveries_sound env asOf valid.sound, ?_⟩
    intro id overtaken
    simp only [next, Bool.and_eq_true] at overtaken
    exact overtaken.1

/-- Whatever validation comes next, it resolves an incident only if no fault of its asset was
reported since the report that made it a candidate. -/
def Genuine (s : FaultHistory) : Prop :=
  ∀ env asOf id i i', s.books.incidents.get? id = some i → i.resolvedAt = none →
    (after (validateRecoveries env asOf) s.books).incidents.get? id = some i' → i'.resolvedAt ≠ none →
    s.overtaken id = false

structure Reliable (s : FaultHistory) : Prop where
  alone : s.books.OneUnresolved
  once : s.books.CountedOnce
  genuine : s.Genuine

/-- A new fault is recorded for every candidate of its asset. -/
def Withdraws (call : FaultCall) (s : FaultHistory) : Prop :=
  match call with
  | .observe env report =>
    s.newFault env report = true → ∀ id i, s.books.incidents.get? id = some i → i.recoveryCandidateAt ≠ none →
      i.assetType = report.assetType → i.assetId = report.assetId →
      known report s.books = false ∧ ruleFor env report ≠ none ∧ i.fingerprint = fingerprint env report
  | .escalatePersistent _ _ | .validateRecoveries _ _ => True

/-! ### What a validation may resolve -/

variable {s : IncidentBooks} {row : Nat × Incident} {env : FaultEnvironment} {asOf : Instant} {i : Incident}
  {report : StatusReport}

theorem isCandidate_iff {id : Nat} :
    isCandidate s id = true ↔ ∃ i, s.incidents.get? id = some i ∧ i.recoveryCandidateAt ≠ none := by
  unfold isCandidate
  cases s.incidents.get? id with
  | none => simp
  | some => simp [Option.isSome_iff_ne_none]

def lenient : IncidentRule := { faultCode := "", assetType := "" }

def lenientFor (s : IncidentBooks) : FaultEnvironment where
  tenantId := ""
  rules := (candidates s).map fun row => (row.2.ruleId.getD 0, lenient)
  mbStrToLower := id
  mbStrToUpper := id
  sqlLower := id
  sha256 := id
  createWorkOrder := fun _ => .ok ()
  notify := fun _ => .ok ()

theorem lenient_rule (mem : row ∈ candidates s) {ruleId : Nat}
    (ruled : row.2.ruleId = some ruleId) : rule? (lenientFor s) ruleId = some lenient := by
  have there : (ruleId, lenient) ∈ (lenientFor s).rules := by
    refine List.mem_map.mpr ⟨row, mem, ?_⟩
    rw [ruled]
    rfl
  unfold rule?
  cases found : (lenientFor s).rules.find? fun r => decide (r.1 = ruleId) with
  | none =>
    have missed := List.find?_eq_none.mp found (ruleId, lenient) there
    simp at missed
  | some =>
    obtain ⟨other, -, same⟩ := List.mem_map.mp (List.mem_of_find?_eq_some found)
    rw [← same]
    rfl

/-- A turn of the validation that finds its rule returns, and resolves a candidate that is due. -/
theorem validateOne_returns {ruleId : Nat}
    {rule : IncidentRule} (ruled : row.2.ruleId = some ruleId) (found : rule? env ruleId = some rule)
    (s : IncidentBooks) :
    Returns (validateOne env asOf row) s ()
      (if recoveryDue rule row.2 asOf = true then { s with incidents := s.incidents.update row.1 (recovered asOf) }
        else s) := by
  unfold validateOne
  rw [ruled]
  simp only [returns_bind, returns_orThrow, returns_doIf, saveIncident, returns_write]
  refine ⟨rule, s, ⟨found, rfl⟩, ?_⟩
  by_cases due : recoveryDue rule row.2 asOf = true
  · exact Or.inl ⟨due, by rw [if_pos due]⟩
  · exact Or.inr ⟨due, by rw [if_neg due]⟩

theorem validateOne_resolves {id : Nat}
    {t : IncidentBooks} (resolved : ∃ i, t.incidents.get? id = some i ∧ i.resolvedAt ≠ none) :
    ∃ i, (after (validateOne env asOf row) t).incidents.get? id = some i ∧ i.resolvedAt ≠ none := by
  obtain ⟨i, stored, closed⟩ := resolved
  rcases validateOne_cases env asOf row t with same | left
  · rw [same]
    exact ⟨i, stored, closed⟩
  · rw [left]
    by_cases here : id = row.1
    · exact ⟨recovered asOf i, by simp [here ▸ stored, here], Option.some_ne_none _⟩
    · exact ⟨i, by simp [Table.get?_update, here, stored], closed⟩

/-- A loop over candidates whose rules are found comes to each, and resolves those that are due. -/
theorem validations_resolve {rule : IncidentRule} {rows : List (Nat × Incident)}
    (rules : ∀ row ∈ rows, ∃ ruleId, row.2.ruleId = some ruleId ∧ rule? env ruleId = some rule) {id : Nat}
    (listed : (id, i) ∈ rows) (due : recoveryDue rule i asOf = true) {t : IncidentBooks}
    (there : ∃ j, t.incidents.get? id = some j) :
    ∃ i', (after (forEach rows (validateOne env asOf)) t).incidents.get? id = some i' ∧ i'.resolvedAt ≠ none := by
  induction rows generalizing t with
  | nil => cases listed
  | cons row rest ih =>
    obtain ⟨ruleId, ruled, found⟩ := rules row List.mem_cons_self
    obtain ⟨j, stored⟩ := there
    rw [after_forEach_returns row rest (validateOne_returns ruled found t)]
    by_cases here : row = (id, i)
    · subst here
      rw [if_pos due]
      refine after_forEach_keeps
        (P := fun t' : IncidentBooks => ∃ i' : Incident, t'.incidents.get? id = some i' ∧ i'.resolvedAt ≠ none)
        (fun _ _ => validateOne_resolves) rest _ ?_
      exact ⟨recovered asOf j, by simp [stored], Option.some_ne_none _⟩
    · refine ih (fun r mem => rules r (List.mem_cons_of_mem _ mem)) ?_ ?_
      · exact (List.mem_cons.mp listed).resolve_left (fun same => here same.symm)
      · split
        · exact Table.get?_update_of_some row.1 _ stored
        · exact ⟨j, stored⟩

theorem candidate_resolves (sound : s.Sound) {id : Nat} {candidate : Instant}
    (stored : s.incidents.get? id = some i) (stands : i.recoveryCandidateAt = some candidate) :
    ∃ i', (after (validateRecoveries (lenientFor s) candidate) s).incidents.get? id = some i' ∧
      i'.resolvedAt ≠ none := by
  have listed : (id, i) ∈ candidates s := by
    refine (Table.mem_rowsWhere _ _ id i).mpr ⟨stored, ?_⟩
    have open' := sound.candidate id i stored (by rw [stands]; exact Option.some_ne_none _)
    simp [stands, open']
  have rules : ∀ row ∈ candidates s, ∃ ruleId, row.2.ruleId = some ruleId ∧
      rule? (lenientFor s) ruleId = some lenient := by
    intro row mem
    obtain ⟨kept, -⟩ := (Table.mem_rowsWhere _ _ row.1 row.2).mp mem
    obtain ⟨ruleId, ruled⟩ := Option.ne_none_iff_exists'.mp (sound.ruled row.1 row.2 kept)
    exact ⟨ruleId, ruled, lenient_rule mem ruled⟩
  have due : recoveryDue lenient i candidate = true := by
    simp [recoveryDue, stands, lenient, Instant.addSeconds]
  rw [validateRecoveries_after]
  exact validations_resolve rules listed due ⟨i, stored⟩

theorem genuine_iff {s : FaultHistory} (valid : s.Valid) : s.Genuine ↔ ∀ id, s.overtaken id = false := by
  constructor
  · intro genuine id
    cases overtaken : s.overtaken id with
    | false => rfl
    | true =>
      obtain ⟨i, stored, stands⟩ := isCandidate_iff.mp (valid.standing id overtaken)
      obtain ⟨candidate, at'⟩ := Option.ne_none_iff_exists'.mp stands
      obtain ⟨i', left, resolved⟩ := candidate_resolves valid.sound stored at'
      have unresolved := valid.sound.candidate id i stored stands
      have never := genuine (lenientFor s.books) candidate id i i' stored unresolved left resolved
      rw [overtaken] at never
      cases never
  · intro none _ _ id _ _ _ _ _ _
    exact none id

/-! ### When a fault overtakes a candidate -/

theorem recorded_withdraws (sound : s.Sound)
    {id : Nat} (stored : s.incidents.get? id = some i) (open' : i.resolvedAt = none)
    (fault : isFault env report = true) (unknown : known report s = false) (ruled : ruleFor env report ≠ none)
    (print : i.fingerprint = fingerprint env report) :
    after (observe env report) s = counted env report id s := by
  obtain ⟨⟨ruleId, rule⟩, selected⟩ := Option.ne_none_iff_exists'.mp ruled
  have found : ∃ i', unresolved? (fingerprint env report) s = some (id, i') := by
    cases found : unresolved? (fingerprint env report) s with
    | none => exact absurd print (unresolved?_none sound found stored open')
    | some row =>
      obtain ⟨id', i'⟩ := row
      obtain ⟨stored', print', open'', -⟩ := unresolved?_some found
      obtain rfl := sound.alone id id' i i' stored stored' open' open'' (print.trans print'.symm)
      exact ⟨i', rfl⟩
  obtain ⟨i', found⟩ := found
  have returns : Returns (observe env report) s () (counted env report id s) := by
    rw [observe, returns_transaction, returns_bind]
    refine ⟨known report s, s, (returns_read ..).mpr ⟨rfl, rfl⟩, ?_⟩
    rw [unknown, if_neg Bool.false_ne_true, fault, if_pos rfl, selected]
    exact recordFault_counts (known_unseen unknown) found
  exact returns.after_eq

theorem unrecorded_stays {id : Nat}
    (stored : s.incidents.get? id = some i) (fault : isFault env report = true)
    (unrecorded : known report s = true ∨ ruleFor env report = none ∨ i.fingerprint ≠ fingerprint env report) :
    (after (observe env report) s).incidents.get? id = some i := by
  rcases observe_cases env report s with same | ⟨unknown, -, ⟨-, ⟨id', i', found, left⟩ | ⟨ruleId, none', left⟩⟩ | ⟨sane, -⟩⟩
  · rw [same]
    exact stored
  · rw [left]
    obtain ⟨stored', print, -⟩ := unresolved?_some found
    have other : id ≠ id' := by
      intro same
      subst same
      rw [stored] at stored'
      cases stored'
      rcases unrecorded with twice | unruled | different
      · rw [unknown] at twice
        cases twice
      · have nothing : after (observe env report) s = s := by
          have returns : Returns (observe env report) s () s := by
            rw [observe, returns_transaction, returns_bind]
            refine ⟨known report s, s, (returns_read ..).mpr ⟨rfl, rfl⟩, ?_⟩
            rw [unknown, if_neg Bool.false_ne_true, fault, if_pos rfl, unruled]
            exact (returns_pure ..).mpr ⟨rfl, rfl⟩
          exact returns.after_eq
        rw [left] at nothing
        have longer := congrArg (fun t => t.observations.get? s.observations.nextId) nothing
        simp [counted, Table.get?_nextId] at longer
      · exact different print
    exact (Table.get?_update_of_ne _ _ other).trans stored
  · rw [left]
    exact Table.get?_create_of_some _ _ stored
  · rw [fault] at sane
    cases sane

theorem concerns_iff {id : Nat} :
    concerns s report id = true ↔
      ∃ i, s.incidents.get? id = some i ∧ i.assetType = report.assetType ∧ i.assetId = report.assetId := by
  unfold concerns
  cases s.incidents.get? id with
  | none => simp
  | some => simp

/-- A report overtakes no candidate exactly when it is recorded for those of its asset, if it is a new fault. -/
theorem observe_overtakes (env : FaultEnvironment) (report : StatusReport) (s : FaultHistory) (valid : s.Valid)
    (none' : ∀ id, s.overtaken id = false) :
    (∀ id, (next (.observe env report) s).overtaken id = false) ↔ Withdraws (.observe env report) s := by
  have overtaken_iff : ∀ id, (next (.observe env report) s).overtaken id = true ↔
      isCandidate (after (observe env report) s.books) id = true ∧ isCandidate s.books id = true ∧
        s.newFault env report = true ∧ concerns s.books report id = true := by
    intro id
    simp only [next, none' id, Bool.false_or, Bool.and_eq_true, and_assoc]
  constructor
  · intro never new id i stored stands type asset
    have fault : isFault env report = true := by
      simp only [newFault, Bool.and_eq_true] at new
      exact new.1
    by_contra unrecorded
    have reason : known report s.books = true ∨ ruleFor env report = none ∨ i.fingerprint ≠ fingerprint env report := by
      cases unknown : known report s.books with
      | true => exact Or.inl rfl
      | false =>
        by_cases ruled : ruleFor env report = none
        · exact Or.inr (Or.inl ruled)
        · exact Or.inr (Or.inr fun print => unrecorded ⟨unknown, ruled, print⟩)
    have left := unrecorded_stays stored fault reason
    have candidate : isCandidate s.books id = true := isCandidate_iff.mpr ⟨i, stored, stands⟩
    have still : isCandidate (after (observe env report) s.books) id = true := isCandidate_iff.mpr ⟨i, left, stands⟩
    have overtaken := (overtaken_iff id).mpr ⟨still, candidate, new, concerns_iff.mpr ⟨i, stored, type, asset⟩⟩
    rw [never id] at overtaken
    cases overtaken
  · intro withdraws id
    rw [Bool.eq_false_iff]
    intro overtaken
    obtain ⟨still, candidate, new, concerned⟩ := (overtaken_iff id).mp overtaken
    obtain ⟨i, stored, stands⟩ := isCandidate_iff.mp candidate
    obtain ⟨j, stored', type, asset⟩ := concerns_iff.mp concerned
    rw [stored] at stored'
    cases stored'
    obtain ⟨unknown, ruled, print⟩ := withdraws new id i stored stands type asset
    have fault : isFault env report = true := by
      simp only [newFault, Bool.and_eq_true] at new
      exact new.1
    rw [recorded_withdraws valid.sound stored (valid.sound.candidate id i stored stands) fault unknown ruled print]
      at still
    obtain ⟨k, stored'', stands'⟩ := isCandidate_iff.mp still
    simp only [counted, Table.get?_update_self, stored, Option.map_some, Option.some.injEq] at stored''
    subst stored''
    exact stands' rfl

theorem next_overtakes (call : FaultCall) (s : FaultHistory) (valid : s.Valid) (none' : ∀ id, s.overtaken id = false) :
    (∀ id, (next call s).overtaken id = false) ↔ Withdraws call s := by
  cases call with
  | observe env report => exact observe_overtakes env report s valid none'
  | escalatePersistent => exact ⟨fun _ => trivial, fun _ id => by simp [next, none' id]⟩
  | validateRecoveries => exact ⟨fun _ => trivial, fun _ id => by simp [next, none' id]⟩

theorem reliable_iff {s : FaultHistory} (valid : s.Valid) : s.Reliable ↔ ∀ id, s.overtaken id = false := by
  constructor
  · exact fun reliable => (genuine_iff valid).mp reliable.genuine
  · exact fun none' => ⟨valid.sound.alone, valid.sound.once, (genuine_iff valid).mpr none'⟩

theorem start_valid : start.Valid where
  sound := empty_sound
  standing _ overtaken := by cases overtaken

/-- In every run incidents are unique and count each event once; they recover only from reports that no
fault followed exactly as long as every new fault is recorded for the candidates of its asset. -/
theorem reliable_iff_withdraws (calls : List FaultCall) :
    Runs.Throughout next Reliable calls start ↔ Runs.Met next (fun call s => Withdraws call s) calls start := by
  refine Runs.throughout_iff_met next_valid ?_ calls start start_valid ((reliable_iff start_valid).mpr fun _ => rfl)
  intro call s valid reliable
  rw [reliable_iff (next_valid call s valid)]
  exact next_overtakes call s valid ((reliable_iff valid).mp reliable)

/-! ### A fault that is overlooked -/

def oneRule : FaultEnvironment where
  tenantId := "T"
  rules := [(0, { faultCode := "GroundFailure", assetType := "connector", recoveryAfterSeconds := 60 })]
  mbStrToLower := mbStrToLower
  mbStrToUpper := strToUpper
  sqlLower := mbStrToLower
  sha256 := id
  createWorkOrder := fun _ => .ok ()
  notify := fun _ => .ok ()

def reported (sourceEventId status : String) (faultCode : Option String) (observedAt : Instant) : FaultCall :=
  .observe oneRule { sourceEventId, siteId := "S", assetType := "connector", assetId := "C", status, faultCode, observedAt }

/-- A fault no rule selects follows the recovery, and the recovery is confirmed all the same. -/
theorem overlooked_fault_recovers : ¬ ∀ calls, Runs.Throughout next Reliable calls start := by
  intro all
  let calls := [reported "E1" "Faulted" (some "GroundFailure") 0, reported "E2" "Available" none 1000000,
    reported "E3" "Faulted" (some "HighTemperature") 2000000]
  have valid := (Runs.throughout_of_kept next_valid (fun _ => id) calls start start_valid).last
  have never := (reliable_iff valid).mp (all calls).last 0
  have overtaken : (Runs.reached next calls start).overtaken 0 = true := by decide +kernel
  rw [never] at overtaken
  cases overtaken

end FaultHistory
end VtsaCsms.Maintenance
