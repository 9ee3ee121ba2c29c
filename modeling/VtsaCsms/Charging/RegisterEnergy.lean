import VtsaCsms.Charging.System
import VtsaCsms.Foundation.Counters

/-!
# Energy from register readings

`recalculateEnergy` walks the session's import registers in the order of their sample times, from
the start of the meter to its stop. Its energy is what the counter counted, as long as the sum is
an integer to PHP.
-/
namespace VtsaCsms.Charging
open Foundation
namespace MeterValueService

/-- The import registers of a session as `recalculateEnergy` selects and orders them. -/
def registerRows (store : Store) (key : Nat) : List (Nat × MeterReading) :=
  orderedBy (fun row => row.2.sampledAt) (store.readings.rowsWhere fun _ r =>
    r.sessionId = key && r.unit = "Wh" && r.measurand = importRegister && r.phase = none)

/-- The values of the counter from a start on: the readings in order, then the stop. -/
def registerValues (store : Store) (key : Nat) (session : ChargingSession) (start : Int) : List Int :=
  start :: ((registerRows store key).map fun row => row.2.value) ++ session.meterStopWh.toList

/-- The walk over rows that are given by their keys and values. -/
def addRegisters (steps : List (Nat × Int)) (r : Registers) : Registers :=
  steps.foldl (fun r step => addRegister r step.1 step.2) r

@[simp] theorem addRegisters_nil (r : Registers) : addRegisters [] r = r := rfl

@[simp] theorem addRegisters_cons (step : Nat × Int) (steps : List (Nat × Int)) (r : Registers) :
    addRegisters (step :: steps) r = addRegisters steps (addRegister r step.1 step.2) := rfl

theorem addRegisters_append (steps steps' : List (Nat × Int)) (r : Registers) :
    addRegisters (steps ++ steps') r = addRegisters steps' (addRegisters steps r) := List.foldl_append

variable {r : Registers} {key : Nat} {previous current total : Int}

theorem addRegister_previous (r : Registers) (key : Nat) (current : Int) :
    (addRegister r key current).previous = some current := by
  unfold addRegister
  split
  · rfl
  · split <;> rfl

theorem addRegister_energy (known : r.previous = some previous) :
    (addRegister r key current).energy = r.energy.addInt (Counter.advance previous current) := by
  simp only [addRegister, known, Counter.advance]
  split <;> rfl

theorem addRegister_reset (known : r.previous = some previous) :
    (addRegister r key current).reset = true ↔ r.reset = true ∨ ¬ previous ≤ current := by
  simp only [addRegister, known]
  split <;> simp_all

theorem addRegisters_previous (steps : List (Nat × Int)) (known : r.previous = some previous) :
    ∃ last, (addRegisters steps r).previous = some last := by
  induction steps generalizing r previous with
  | nil => exact ⟨previous, known⟩
  | cons step _ ih => exact ih (addRegister_previous r step.1 step.2)

theorem addRegisters_reset (steps : List (Nat × Int)) (known : r.previous = some previous) :
    (addRegisters steps r).reset = true ↔
      r.reset = true ∨ ¬ (previous :: steps.map Prod.snd).IsChain (· ≤ ·) := by
  induction steps generalizing r previous with
  | nil => simp
  | cons step _ ih =>
    rw [addRegisters_cons, ih (addRegister_previous r step.1 step.2), addRegister_reset known,
      List.map_cons, List.isChain_cons_cons, not_and_or, or_assoc]

theorem addRegisters_float (steps : List (Nat × Int)) (known : r.previous = some previous)
    (left : ∀ n, r.energy ≠ .int n) : ∀ n, (addRegisters steps r).energy ≠ .int n := by
  induction steps generalizing r previous with
  | nil => exact left
  | cons step _ ih =>
    refine ih (addRegister_previous r step.1 step.2) fun n => ?_
    rw [addRegister_energy known]
    cases energy : r.energy with
    | int m => exact absurd energy (left m)
    | float => exact fun same => by cases same

/-- The running total is one of PHP's integers. -/
def FitsInt (total : Int) : Prop := phpIntMin ≤ total ∧ total ≤ phpIntMax

instance : DecidablePred FitsInt := fun _ => inferInstanceAs (Decidable (_ ∧ _))

theorem addInt_float {a b : Int} (leaves : ¬ FitsInt (a + b)) (n : Int) : (Number.int a).addInt b ≠ .int n := by
  unfold FitsInt at leaves
  rw [Number.addInt, if_neg leaves]
  exact Number.noConfusion

/-- The walk adds up what the counter counted, unless the total leaves the integers on the way. -/
theorem addRegisters_energy (steps : List (Nat × Int)) (known : r.previous = some previous)
    (energy : r.energy = .int total) (fits : FitsInt total) :
    (addRegisters steps r).energy = .int (total + Counter.counted (previous :: steps.map Prod.snd)) ↔
      ∀ seen, seen <+: previous :: steps.map Prod.snd → FitsInt (total + Counter.counted seen) := by
  induction steps generalizing r previous total with
  | nil =>
    have short : ∀ seen, seen <+: [previous] → Counter.counted seen = 0 := by
      intro seen part
      rcases List.prefix_concat_iff.mp (by simpa using part : seen <+: [] ++ [previous]) with rfl | none
      · rfl
      · rw [List.prefix_nil.mp none, Counter.counted_nil]
    constructor
    · intro _ seen part
      rwa [short seen part, Int.add_zero]
    · intro _
      simp [energy]
  | cons step steps ih =>
    have next := addRegister_previous r step.1 step.2
    have summed : (addRegister r step.1 step.2).energy = r.energy.addInt (Counter.advance previous step.2) :=
      addRegister_energy known
    rw [addRegisters_cons, List.map_cons, Counter.forall_prefix_cons, Counter.counted_cons, ← Int.add_assoc]
    by_cases stays : FitsInt (total + Counter.advance previous step.2)
    · rw [energy, Number.addInt_of_range stays] at summed
      rw [ih next summed stays, and_iff_right fits]
    · rw [energy] at summed
      constructor
      · intro whole
        exact absurd whole (addRegisters_float steps next (fun n => summed ▸ addInt_float stays n) _)
      · rintro ⟨-, every⟩
        exact absurd (by simpa using every [] List.nil_prefix) stays

/-! ### `recalculateEnergy` of a session whose start is known -/

section Accounting
variable (store : Store) (key : Nat) (session : ChargingSession)

/-- The rows of the walk, the stop as the last one. -/
def registerSteps : List (Nat × Int) :=
  ((registerRows store key).map fun row => (row.1, row.2.value)) ++ session.meterStopWh.toList.map (Prod.mk 0)

theorem registerSteps_values (start : Int) :
    start :: (registerSteps store key session).map Prod.snd = registerValues store key session start := by
  simp [registerSteps, registerValues, Function.comp_def]

def walked (start : Int) : Registers := addRegisters (registerSteps store key session) ⟨some start, .int 0, false, []⟩

theorem registersOf_eq_walked {start : Int} (known : session.meterStartWh = some start) :
    (registersOf store key session).energy = (walked store key session start).energy ∧
      (registersOf store key session).reset = (walked store key session start).reset := by
  have rows : (registerRows store key).foldl (fun r row => addRegister r row.1 row.2.value)
      ⟨some start, .int 0, false, []⟩ =
      addRegisters ((registerRows store key).map fun row => (row.1, row.2.value)) ⟨some start, .int 0, false, []⟩ := by
    rw [addRegisters, List.foldl_map]
  unfold registerRows at rows
  simp only [registersOf, known, rows, walked, registerSteps, registerRows, addRegisters_append]
  obtain ⟨last, previous⟩ := addRegisters_previous (r := ⟨some start, .int 0, false, []⟩)
    ((registerRows store key).map fun row => (row.1, row.2.value)) rfl
  unfold registerRows at previous
  generalize addRegisters _ _ = r at previous ⊢
  cases session.meterStopWh with
  | none => exact ⟨rfl, rfl⟩
  | some =>
    simp only [Option.toList_some, List.map_cons, List.map_nil, addRegisters_cons, addRegisters_nil, addRegister,
      previous]
    split <;> exact ⟨rfl, rfl⟩

/-- The energy of a session from its registers, as a counter that may be set back counts it. -/
structure Accounted (start : Int) : Prop where
  energy : (registersOf store key session).energy = .int (Counter.counted (registerValues store key session start))
  reset : (registersOf store key session).reset = true ↔
    ¬ (registerValues store key session start).IsChain (· ≤ ·)
  telescoped : ∀ stop, session.meterStopWh = some stop →
    (registerValues store key session start).IsChain (· ≤ ·) →
    (registersOf store key session).energy = .int (stop - start) ∧ (registersOf store key session).reset = false

/-- A meter with a known start and readings that were set back or not is accounted for exactly as long as no
running total leaves the integers. -/
theorem accounted_iff {start : Int} (known : session.meterStartWh = some start) :
    Accounted store key session start ↔
      ∀ seen, seen <+: registerValues store key session start → FitsInt (Counter.counted seen) := by
  obtain ⟨energies, resets⟩ := registersOf_eq_walked store key session known
  have energy := addRegisters_energy (r := ⟨some start, .int 0, false, []⟩) (registerSteps store key session) rfl rfl
    (by decide : FitsInt 0)
  have reset := addRegisters_reset (r := ⟨some start, .int 0, false, []⟩) (registerSteps store key session) rfl
  simp only [registerSteps_values, Int.zero_add, Bool.false_eq_true, false_or] at energy reset
  rw [← walked, ← energies] at energy
  rw [← walked, ← resets] at reset
  constructor
  · exact fun accounted => energy.mp accounted.energy
  · intro fits
    have whole := energy.mpr fits
    refine ⟨whole, reset, fun stop stopped rising => ⟨?_, ?_⟩⟩
    · rw [whole, registerValues, List.cons_append, Counter.counted_of_isChain (by simpa [registerValues] using rising)]
      simp [stopped]
    · exact Bool.eq_false_iff.mpr fun set => reset.mp set rising

end Accounting

def overflowing : List Mixed :=
  [.array [("timestamp", .string "2026-03-01T10:03:00Z"), ("measurand", .string importRegister), ("unit", .string "Wh"),
      ("value", .int phpIntMax)],
    .array [("timestamp", .string "2026-03-01T10:04:00Z"), ("measurand", .string importRegister), ("unit", .string "Wh"),
      ("value", .int 2)]]

def zeroed : Store :=
  Step.run [(Deployment.environment "2.0.1" 1 2, .event (Deployment.transactionEvent "E1" "Started" "10:02:00"
    [("authorization_status", .string "Accepted"), Deployment.register "10:02:00" 0]))] Store.empty

set_option maxRecDepth 20000 in
theorem zeroed_accounted :
    ∃ session, zeroed.sessions.get? 0 = some session ∧ session.energyWh = 0 ∧ Accounted zeroed 0 session 0 := by
  have facts : (zeroed.sessions.get? 0).any (fun session => session.meterStartWh = some 0 && session.energyWh = 0 &&
      registerValues zeroed 0 session 0 = [0, 0]) = true := by decide +kernel
  generalize zeroed = store at facts ⊢
  obtain ⟨session, stored, about⟩ := (Option.any_eq_true _ _).mp facts
  simp only [Bool.and_eq_true, decide_eq_true_eq] at about
  obtain ⟨⟨known, energy⟩, values⟩ := about
  have fits : ∀ seen ∈ [0, 0].inits, FitsInt (Counter.counted seen) := by decide
  refine ⟨session, stored, energy, (accounted_iff store 0 session known).mpr fun seen part => ?_⟩
  rw [values] at part
  exact fits seen ((List.mem_inits _ _).mpr part)

/-- The rows that `record` adds up for an event with these samples. -/
def sampled : Store :=
  Action.after (recordSamples (Deployment.environment "2.0.1" 1 4) 0 "E2" (Deployment.minute 4) overflowing 0 none []) zeroed

set_option maxRecDepth 20000 in
theorem overflowing_unaccounted :
    ∃ session, sampled.sessions.get? 0 = some session ∧ session.meterStartWh = some 0 ∧
      registerValues sampled 0 session 0 = [0, 0, phpIntMax, 2] ∧ ¬ Accounted sampled 0 session 0 := by
  have facts : (sampled.sessions.get? 0).any (fun session => session.meterStartWh = some 0 &&
      registerValues sampled 0 session 0 = [0, 0, phpIntMax, 2] &&
      (registersOf sampled 0 session).energy ≠ .int (phpIntMax + 2)) = true := by decide +kernel
  generalize sampled = store at facts ⊢
  obtain ⟨session, stored, about⟩ := (Option.any_eq_true _ _).mp facts
  simp only [Bool.and_eq_true, decide_eq_true_eq] at about
  obtain ⟨⟨known, values⟩, left⟩ := about
  refine ⟨session, stored, known, values, fun accounted => left ?_⟩
  rw [accounted.energy, values]
  decide
end MeterValueService
end VtsaCsms.Charging
