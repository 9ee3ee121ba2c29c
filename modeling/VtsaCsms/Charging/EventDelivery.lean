import VtsaCsms.Charging.EventStream

/-!
# Which events a process loses

An entry that leaves a batch without an acknowledgement stays pending for good: only the batches of
the running processes hold entries that are still to be given to the consumer.
-/
namespace VtsaCsms.Charging
open Foundation Foundation.Action

/-! ### When the consumer returns -/

namespace OcppEventConsumer

/-- The event is the tenant's, and its row is there or can be stored. -/
def Recordable (env : Environment) (event : Mixed) (s : Store) : Prop :=
  ∃ e action, Accepted env event e action ∧
    (s.inbound.get? e.eventId ≠ none ∨ ∃ row, inboundRow env e .received none none = .ok row)

variable {env : Environment} {event : Mixed}

theorem refused_throws (refused : ¬ ∃ e action, Accepted env event e action)
    (s : Store) : ∃ exception, consume env event s = (.error exception, s) := by
  unfold consume
  simp only [bind, lift, throwIf]
  cases valid : validateEnvelope env event with
  | error exception => exact ⟨exception, rfl⟩
  | ok found =>
    obtain ⟨e, action⟩ := found
    by_cases tenant : (event.get "tenant_id").string? = some env.tenantId
    · exact absurd ⟨e, action, valid, tenant⟩ refused
    · simp [tenant, raise]

/-- Where the row of an event cannot be stored, neither the handler nor the quarantine can run. -/
theorem unrecordable_throws {e : Envelope} {action : String} {s : Store}
    (accepted : Accepted env event e action) (unseen : s.inbound.get? e.eventId = none)
    (unstorable : ¬ ∃ row, inboundRow env e .received none none = .ok row) :
    ∃ exception store, consume env event s = (.error exception, store) := by
  rcases process_cases env e action s with ⟨s', processed⟩ | ⟨exception, thrown⟩
  · obtain ⟨row, _, built, -⟩ := (process_returns _ _ _ _ _ _).mp processed
    exact absurd ⟨row, built⟩ unstorable
  · rw [consume_thrown accepted unseen thrown]
    cases built : inboundRow env e .quarantined (some env.now.toSecond) (some (errorCode exception)) with
    | ok =>
      obtain ⟨row', built', -⟩ := (inboundRow_outcome built).2 .received none none
      exact absurd ⟨row', built'⟩ unstorable
    | error refused =>
      have same : quarantine env e exception s = (.error refused, s) := by
        simp [quarantine, transaction, bind, Action.read, unseen, lift, built]
      exact ⟨refused, s, by simp only [bind, same]⟩

theorem recordable_returns {e : Envelope} {action : String} {s : Store}
    {row : InboundOcppEvent} (accepted : Accepted env event e action) (unseen : s.inbound.get? e.eventId = none)
    (built : inboundRow env e .received none none = .ok row) :
    ∃ result store, consume env event s = (.ok result, store) := by
  rcases process_cases env e action s with ⟨s', processed⟩ | ⟨exception, thrown⟩
  · exact ⟨_, s', consume_processed accepted unseen processed⟩
  · rw [consume_thrown accepted unseen thrown]
    obtain ⟨row', built', -⟩ :=
      (inboundRow_outcome built).2 .quarantined (some env.now.toSecond) (some (errorCode exception))
    refine ⟨⟨.quarantined, false, some (errorCode exception)⟩, marked s e row', ?_⟩
    simp only [bind, quarantine_run unseen built', pure]

theorem consume_returns_iff (env : Environment) (event : Mixed) (s : Store) :
    (∃ result store, consume env event s = (.ok result, store)) ↔ Recordable env event s := by
  by_cases known : ∃ e action, Accepted env event e action
  · obtain ⟨e, action, accepted⟩ := known
    have one : ∀ e' action', Accepted env event e' action' → e' = e := by
      intro e' action' other
      have same := other.envelope.symm.trans accepted.envelope
      simp only [Except.ok.injEq, Prod.mk.injEq] at same
      exact same.1
    cases seen : s.inbound.get? e.eventId with
    | some row =>
      have duplicate := consume_duplicate accepted seen
      refine ⟨fun _ => ⟨e, action, accepted, Or.inl ?_⟩, fun _ => ⟨_, _, duplicate⟩⟩
      rw [seen]
      exact Option.some_ne_none row
    | none =>
      constructor
      · rintro ⟨result, store, returned⟩
        refine ⟨e, action, accepted, Or.inr ?_⟩
        by_contra unstorable
        obtain ⟨exception, store', thrown⟩ := unrecordable_throws accepted seen unstorable
        rw [returned] at thrown
        cases thrown
      · rintro ⟨e', action', accepted', storable⟩
        obtain rfl := one e' action' accepted'
        rcases storable with kept | ⟨row, built⟩
        · exact absurd seen kept
        · exact recordable_returns accepted seen built
  · constructor
    · rintro ⟨result, store, returned⟩
      obtain ⟨exception, thrown⟩ := refused_throws known s
      rw [returned] at thrown
      cases thrown
    · rintro ⟨e, action, accepted, -⟩
      exact absurd ⟨e, action, accepted⟩ known

end OcppEventConsumer

variable {K : Type} [DecidableEq K] {isUlid : String → Bool} {s s' : EventBus K}

namespace EventBus
open ConsumeOcppEvents

/-! ### What a step does to the batches and the group -/

/-- A loop over the batch comes to the entry: it stands in it with no undecodable entry before it. -/
def Reaches (entry : StreamEntry) : List StreamEntry → Prop
  | [] => False
  | first :: rest => first = entry ∨ (Decodable first ∧ Reaches entry rest)

variable {entry first : StreamEntry} {k : K} {rest : List StreamEntry} {group : Option ConsumerGroup}
  {g : ConsumerGroup} {consumer : String}

theorem Reaches.mem {entries : List StreamEntry} (reaches : Reaches entry entries) :
    entry ∈ entries := by
  induction entries with
  | nil => exact absurd reaches id
  | cons _ _ ih =>
    rcases reaches with rfl | ⟨-, later⟩
    · exact List.mem_cons_self
    · exact List.mem_cons_of_mem _ (ih later)

/-- The step leaves the stream alone and the group and the process's batch as given. -/
structure Updates (s s' : EventBus K) (k : K) (batch : List StreamEntry) (group : Option ConsumerGroup) : Prop where
  stream : s'.stream = s.stream
  group : s'.group = group
  batches : ∀ k', s'.batch k' = if k' = k then batch else s.batch k'

theorem setProcess_batch (s : EventBus K) (k k' : K) (p : Option ConsumerProcess) :
    (s.setProcess k p).batch k' = if k' = k then (p.map ConsumerProcess.batch).getD [] else s.batch k' := by
  by_cases same : k' = k
  · simp [batch, setProcess, same]
  · simp [batch, setProcess, same, Function.update_of_ne]

theorem ends_updates (s : EventBus K) (k : K) (store : Store) :
    Updates s { s.setProcess k none with store } k [] s.group where
  stream := rfl
  group := rfl
  batches k' := setProcess_batch s k k' none

theorem lose_updates (s : EventBus K) (isUlid : String → Bool) (k : K) (env : Environment) :
    Updates s (s.lose isUlid k env) k [] s.group := by
  unfold lose
  split
  · exact ends_updates s k s.store
  · exact ends_updates s k _

omit [DecidableEq K] in
theorem current_iff :
    s.current k = some entry ↔ ∃ rest, s.batch k = entry :: rest := by
  cases running : s.processes k with
  | none => simp [current, batch, running]
  | some p =>
    cases entries : p.batch with
    | nil => simp [current, batch, running, entries]
    | cons =>
      simp only [current, batch, running, entries, Option.bind_some, List.head?_cons, Option.some.injEq,
        Option.map_some, Option.getD_some, List.cons.injEq, exists_and_left, exists_eq', and_true]

omit [DecidableEq K] in
theorem given_formed {row : Mixed × String} (given : s.given? isUlid entry = some row) :
    WellFormed isUlid entry := by
  obtain ⟨bound, -⟩ := Option.filter_eq_some_iff.mp given
  exact Option.isSome_iff_exists.mpr ⟨row, bound⟩

theorem turn_cases (s : EventBus K) (isUlid : String → Bool) (k : K) (env : Environment) :
    (s.batch k = [] ∧ s.turn isUlid k env = s) ∨ ∃ entry rest, s.batch k = entry :: rest ∧
      ((¬ Decodable entry ∧ Updates s (s.turn isUlid k env) k [] s.group) ∨
        (Decodable entry ∧ s.given? isUlid entry = none ∧ Updates s (s.turn isUlid k env) k rest s.group) ∨
        ∃ event tenantId, s.given? isUlid entry = some (event, tenantId) ∧
          ((¬ OcppEventConsumer.Recordable { env with tenantId := tenantId, isUlid := isUlid } event s.store ∧
              Updates s (s.turn isUlid k env) k [] s.group) ∨
            (OcppEventConsumer.Recordable { env with tenantId := tenantId, isUlid := isUlid } event s.store ∧
              Updates s (s.turn isUlid k env) k rest (s.group.map (ConsumerGroup.acknowledge · entry.id))))) := by
  cases running : s.processes k with
  | none => exact Or.inl ⟨by simp [batch, running], by simp only [turn, running]⟩
  | some p =>
    cases entries : p.batch with
    | nil => exact Or.inl ⟨by simp [batch, running, entries], by simp only [turn, running, entries]⟩
    | cons entry rest =>
      refine Or.inr ⟨entry, rest, by simp [batch, running, entries], ?_⟩
      cases decoded : decode entry.event with
      | error =>
        left
        have stops : s.turn isUlid k env = s.setProcess k none := by simp only [turn, running, entries, decoded]
        rw [stops]
        refine ⟨?_, ends_updates s k s.store⟩
        rintro ⟨event, decoded'⟩
        rw [decoded] at decoded'
        cases decoded'
      | ok event =>
        right
        cases given : s.given? isUlid entry with
        | none =>
          left
          refine ⟨⟨event, decoded⟩, rfl, ?_⟩
          have skips : s.turn isUlid k env = s.setProcess k (some { p with batch := rest }) := by
            simp only [turn, running, entries, decoded, given]
          rw [skips]
          exact ⟨rfl, rfl, fun k' => setProcess_batch s k k' _⟩
        | some row =>
          obtain ⟨event', tenantId⟩ := row
          refine Or.inr ⟨event', tenantId, rfl, ?_⟩
          have exact' := OcppEventConsumer.consume_returns_iff
            { env with tenantId := tenantId, isUlid := isUlid } event' s.store
          cases run : consumeAs env isUlid tenantId event' s.store with
          | mk result store =>
            cases result with
            | error exception =>
              left
              refine ⟨fun recordable => ?_, ?_⟩
              · obtain ⟨result, store', returned⟩ := exact'.mpr recordable
                have both : (Except.error exception, store) = (Except.ok result, store') := run.symm.trans returned
                cases both
              · have stops : s.turn isUlid k env = { s.setProcess k none with store } := by
                  simp only [turn, running, entries, decoded, given, run]
                rw [stops]
                exact ends_updates s k store
            | ok result =>
              right
              refine ⟨exact'.mp ⟨result, store, run⟩, ?_⟩
              have goes : s.turn isUlid k env = { s.setProcess k (some { p with batch := rest }) with
                  store, group := s.group.map (ConsumerGroup.acknowledge · entry.id) } := by
                simp only [turn, running, entries, decoded, given, run]
              rw [goes]
              exact ⟨rfl, rfl, fun k' => setProcess_batch s k k' _⟩

theorem read_cases (s : EventBus K) (k : K) :
    (s.arriving k = [] ∧ Updates s (s.read k) k (s.batch k) s.group) ∨
      ∃ g consumer, s.group = some g ∧ s.batch k = [] ∧ s.arriving k = g.new s.stream ∧
        Updates s (s.read k) k (g.new s.stream) (some (g.deliver s.stream consumer)) := by
  have still : Updates s s k (s.batch k) s.group := by
    refine ⟨rfl, rfl, fun k' => ?_⟩
    split
    · next same => rw [same]
    · rfl
  cases running : s.processes k with
  | none =>
    left
    have same : s.read k = s := by simp only [EventBus.read, running]
    rw [same]
    exact ⟨by simp only [arriving, running], still⟩
  | some p =>
    cases grouped : s.group with
    | none =>
      left
      have same : s.read k = s := by simp only [EventBus.read, running, grouped]
      rw [same, ← grouped]
      exact ⟨by simp only [arriving, running, grouped], still⟩
    | some g =>
      have own : s.batch k = p.batch := by simp [batch, running]
      by_cases empty : p.batch = []
      · by_cases through : p.once = true ∧ p.hasRead = true
        · left
          have ended : s.read k = s.setProcess k none := by
            simp only [EventBus.read, running, grouped, empty, ne_eq, not_true_eq_false, if_false, through, and_self,
              if_true]
          rw [ended, own, empty, ← grouped]
          refine ⟨?_, ends_updates s k s.store⟩
          simp [arriving, running, grouped, through]
        · right
          have reads : s.read k = { s.setProcess k (some { p with hasRead := true, batch := g.new s.stream }) with
              group := some (g.deliver s.stream p.name) } := by
            simp only [EventBus.read, running, grouped, empty, ne_eq, not_true_eq_false, if_false, through]
          rw [reads]
          refine ⟨g, p.name, rfl, own.trans empty, ?_, rfl, rfl, fun k' => setProcess_batch s k k' _⟩
          have may : p.once = true → p.hasRead = false := by
            intro once
            cases did : p.hasRead with
            | false => rfl
            | true => exact absurd ⟨once, did⟩ through
          simp only [arriving, running, grouped, empty, true_and]
          exact if_pos may
      · left
        have same : s.read k = s := by
          simp only [EventBus.read, running, grouped, ne_eq, empty, not_false_eq_true, if_true]
        rw [same, ← grouped]
        exact ⟨by simp only [arriving, running, grouped, empty, false_and, if_false], still⟩

/-! ### Where the entries of a run are -/

/-- The group has delivered the entry. -/
def Delivered (s : EventBus K) (entry : StreamEntry) : Prop := ∃ g, s.group = some g ∧ entry.id < g.delivered

/-- Entries are numbered as they come, and each that is in a batch is delivered, pending and in no
other place. -/
structure Sound (s : EventBus K) : Prop where
  numbered : s.stream.map StreamEntry.id = List.range s.stream.length
  delivered : ∀ entry, s.Pending entry → s.Delivered entry
  held : ∀ k, ∀ entry ∈ s.batch k, s.Pending entry
  apart : ∀ k k', ∀ entry ∈ s.batch k, ∀ entry' ∈ s.batch k', entry.id = entry'.id → k = k'
  once : ∀ k, ((s.batch k).map StreamEntry.id).Nodup

omit [DecidableEq K] in
theorem start_sound (activeTenants : List String) (store : Store) : (start activeTenants store : EventBus K).Sound where
  numbered := rfl
  delivered := by
    rintro entry ⟨g, consumer, grouped, -⟩
    cases grouped
  held k entry mem := by cases mem
  apart k k' entry mem := by cases mem
  once k := List.nodup_nil

omit [DecidableEq K] in
theorem new_ids (numbered : s.stream.map StreamEntry.id = List.range s.stream.length) (g : ConsumerGroup) :
    (g.new s.stream).map StreamEntry.id = List.range' g.delivered (g.new s.stream).length := by
  have ids : (g.new s.stream).map StreamEntry.id =
      ((List.range s.stream.length).drop g.delivered).take readCount := by
    rw [ConsumerGroup.new, List.map_take, List.map_drop, numbered]
  have long : (g.new s.stream).length = min readCount (s.stream.length - g.delivered) := by
    rw [ConsumerGroup.new, List.length_take, List.length_drop]
  rw [ids, long, List.range_eq_range', List.drop_range', Nat.zero_add, Nat.mul_one]
  rcases Nat.le_total (s.stream.length - g.delivered) readCount with few | many
  · rw [List.take_range'_of_length_le few, Nat.min_eq_right few]
  · rw [List.take_range'_of_length_ge many, Nat.min_eq_left many]

omit [DecidableEq K] in
theorem new_bounds (numbered : s.stream.map StreamEntry.id = List.range s.stream.length) (g : ConsumerGroup)
    (arrives : entry ∈ g.new s.stream) :
    g.delivered ≤ entry.id ∧ entry.id < g.delivered + (g.new s.stream).length := by
  have id : entry.id ∈ (g.new s.stream).map StreamEntry.id := List.mem_map_of_mem arrives
  rw [new_ids numbered g, List.mem_range'_1] at id
  exact id

theorem Updates.sound (u : Updates s s' k rest group) (sound : s.Sound) (suffix : rest <:+ s.batch k)
    (fewer : ∀ entry, s'.Pending entry → s.Pending entry ∧ (s.Delivered entry → s'.Delivered entry))
    (kept : ∀ k', ∀ entry ∈ s'.batch k', s.Pending entry → s'.Pending entry) : s'.Sound := by
  have within : ∀ k', ∀ entry ∈ s'.batch k', entry ∈ s.batch k' := by
    intro k' entry mem
    rw [u.batches] at mem
    split at mem
    · next same =>
      rw [same]
      exact suffix.subset mem
    · exact mem
  constructor
  · rw [u.stream]
    exact sound.numbered
  · intro entry pending
    obtain ⟨before, still⟩ := fewer entry pending
    exact still (sound.delivered entry before)
  · intro k' entry mem
    exact kept k' entry mem (sound.held k' entry (within k' entry mem))
  · intro k₁ k₂ entry₁ mem₁ entry₂ mem₂ same
    exact sound.apart k₁ k₂ entry₁ (within k₁ entry₁ mem₁) entry₂ (within k₂ entry₂ mem₂) same
  · intro k'
    rw [u.batches]
    split
    · exact (sound.once k).sublist (suffix.sublist.map StreamEntry.id)
    · exact sound.once k'

theorem Updates.sound_same (u : Updates s s' k rest s.group) (sound : s.Sound)
    (suffix : rest <:+ s.batch k) : s'.Sound := by
  refine u.sound sound suffix ?_ ?_
  · rintro entry ⟨g, consumer, grouped, mem⟩
    rw [u.group] at grouped
    refine ⟨⟨g, consumer, grouped, mem⟩, ?_⟩
    rintro ⟨g', grouped', less⟩
    exact ⟨g', u.group.trans grouped', less⟩
  · rintro k' entry - ⟨g, consumer, grouped, mem⟩
    exact ⟨g, consumer, u.group.trans grouped, mem⟩

theorem pending_acknowledge {id : Nat}
    (u : Updates s s' k rest (s.group.map (ConsumerGroup.acknowledge · id))) (entry : StreamEntry) :
    s'.Pending entry ↔ s.Pending entry ∧ entry.id ≠ id := by
  unfold Pending
  rw [u.group]
  cases s.group with
  | none => simp
  | some g =>
    constructor
    · rintro ⟨g', consumer, same, mem⟩
      cases same
      obtain ⟨mem, other⟩ := List.mem_filter.mp mem
      exact ⟨⟨g, consumer, rfl, mem⟩, of_decide_eq_true other⟩
    · rintro ⟨⟨g', consumer, same, mem⟩, other⟩
      cases same
      exact ⟨_, consumer, rfl, List.mem_filter.mpr ⟨mem, decide_eq_true other⟩⟩

theorem Updates.sound_acknowledge
    (u : Updates s s' k rest (s.group.map (ConsumerGroup.acknowledge · entry.id))) (sound : s.Sound)
    (batch : s.batch k = entry :: rest) : s'.Sound := by
  have suffix : rest <:+ s.batch k := batch ▸ List.suffix_cons entry rest
  have head : entry ∈ s.batch k := batch ▸ List.mem_cons_self
  refine u.sound sound suffix ?_ ?_
  · intro entry' pending
    refine ⟨((pending_acknowledge u entry').mp pending).1, ?_⟩
    rintro ⟨g, grouped, less⟩
    exact ⟨g.acknowledge entry.id, by rw [u.group, grouped]; rfl, less⟩
  · intro k' entry' mem pending
    refine (pending_acknowledge u entry').mpr ⟨pending, fun same => ?_⟩
    rw [u.batches] at mem
    split at mem
    · have distinct := sound.once k
      rw [batch, List.map_cons, List.nodup_cons] at distinct
      exact distinct.1 (same ▸ List.mem_map_of_mem mem)
    · next other => exact other (sound.apart k' k entry' mem entry head same)

theorem pending_deliver {batch : List StreamEntry}
    (u : Updates s s' k batch (some (g.deliver s.stream consumer))) (grouped : s.group = some g)
    (entry : StreamEntry) : s'.Pending entry ↔ s.Pending entry ∨ entry ∈ g.new s.stream := by
  unfold Pending
  rw [u.group, grouped]
  constructor
  · rintro ⟨g', consumer', same, mem⟩
    cases same
    rcases List.mem_append.mp mem with old | new
    · exact Or.inl ⟨g, consumer', rfl, old⟩
    · obtain ⟨entry', arrives, same⟩ := List.mem_map.mp new
      cases same
      exact Or.inr arrives
  · rintro (⟨g', consumer', same, mem⟩ | arrives)
    · cases same
      exact ⟨_, consumer', rfl, List.mem_append_left _ mem⟩
    · exact ⟨_, consumer, rfl, List.mem_append_right _ (List.mem_map.mpr ⟨entry, arrives, rfl⟩)⟩

theorem Updates.sound_deliver
    (u : Updates s s' k (g.new s.stream) (some (g.deliver s.stream consumer))) (sound : s.Sound)
    (grouped : s.group = some g) (empty : s.batch k = []) : s'.Sound := by
  -- what is held so far was delivered before, what arrives was not
  have old : ∀ k', ∀ entry ∈ s.batch k', entry.id < g.delivered := by
    intro k' entry mem
    obtain ⟨g', grouped', less⟩ := sound.delivered entry (sound.held k' entry mem)
    rw [grouped] at grouped'
    cases grouped'
    exact less
  have places : ∀ k', ∀ entry ∈ s'.batch k', (k' = k ∧ entry ∈ g.new s.stream) ∨ (k' ≠ k ∧ entry ∈ s.batch k') := by
    intro k' entry mem
    rw [u.batches] at mem
    split at mem
    · next same => exact Or.inl ⟨same, mem⟩
    · next other => exact Or.inr ⟨other, mem⟩
  constructor
  · rw [u.stream]
    exact sound.numbered
  · intro entry pending
    refine ⟨_, u.group, ?_⟩
    change entry.id < g.delivered + (g.new s.stream).length
    rcases (pending_deliver u grouped entry).mp pending with before | arrives
    · obtain ⟨g', grouped', less⟩ := sound.delivered entry before
      rw [grouped] at grouped'
      cases grouped'
      omega
    · exact (new_bounds sound.numbered g arrives).2
  · intro k' entry mem
    rw [pending_deliver u grouped]
    rcases places k' entry mem with ⟨-, arrives⟩ | ⟨-, stays⟩
    · exact Or.inr arrives
    · exact Or.inl (sound.held k' entry stays)
  · intro k₁ k₂ entry₁ mem₁ entry₂ mem₂ same
    rcases places k₁ entry₁ mem₁ with ⟨rfl, new₁⟩ | ⟨other₁, old₁⟩ <;>
      rcases places k₂ entry₂ mem₂ with ⟨same₂, new₂⟩ | ⟨other₂, old₂⟩
    · exact same₂.symm
    · have less := old k₂ entry₂ old₂
      have least := (new_bounds sound.numbered g new₁).1
      omega
    · have less := old k₁ entry₁ old₁
      have least := (new_bounds sound.numbered g new₂).1
      omega
    · exact sound.apart k₁ k₂ entry₁ old₁ entry₂ old₂ same
  · intro k'
    rw [u.batches]
    split
    · rw [new_ids sound.numbered]
      exact List.nodup_range'
    · exact sound.once k'

/-! ### Which entries are still to be given -/

/-- A process that runs is to come to the entry. -/
def Reached (s : EventBus K) (entry : StreamEntry) : Prop := ∃ k, Reaches entry (s.batch k)

/-- A step from the batches and the pending entries on: it keeps them, a process leaves entries, or
entries arrive. -/
inductive Moved (s s' : EventBus K) : Prop
  | quiet (batches : ∀ k, s'.batch k = s.batch k) (pending : ∀ entry, s'.Pending entry ↔ s.Pending entry)
      (delivered : ∀ entry, s.Delivered entry → s'.Delivered entry)
      (numbered : s.stream.map StreamEntry.id = List.range s.stream.length →
        s'.stream.map StreamEntry.id = List.range s'.stream.length)
  | leaves (k : K) (rest : List StreamEntry) (suffix : rest <:+ s.batch k)
      (reaches : ∀ entry, Reaches entry rest → Reaches entry (s.batch k)) (updates : Updates s s' k rest s.group)
  | acknowledges (k : K) (entry : StreamEntry) (rest : List StreamEntry) (batch : s.batch k = entry :: rest)
      (decodable : Decodable entry)
      (updates : Updates s s' k rest (s.group.map (ConsumerGroup.acknowledge · entry.id)))
  | arrives (k : K) (g : ConsumerGroup) (consumer : String) (grouped : s.group = some g) (empty : s.batch k = [])
      (updates : Updates s s' k (g.new s.stream) (some (g.deliver s.stream consumer)))

theorem Moved.refl (s : EventBus K) : Moved s s :=
  .quiet (fun _ => rfl) (fun _ => Iff.rfl) (fun _ => id) id

theorem Moved.ends (updates : Updates s s' k [] s.group) : Moved s s' :=
  .leaves k [] List.nil_suffix (fun _ nowhere => absurd nowhere id) updates

theorem append_moved (s : EventBus K) (event : Option (Option Mixed)) :
    Moved s { s with stream := s.stream ++ [⟨s.stream.length, event⟩] } := by
  refine .quiet (fun _ => rfl) (fun _ => Iff.rfl) (fun _ => id) ?_
  intro numbered
  simp only [List.map_append, numbered, List.map_cons, List.map_nil, List.length_append, List.length_cons,
    List.length_nil, Nat.zero_add, List.range_succ]

theorem started_batch (name : String) (once : Bool) (free : s.processes k = none) (k' : K) :
    (s.ensureGroup.setProcess k (some { name, once })).batch k' = s.batch k' := by
  rw [setProcess_batch]
  have same : s.ensureGroup.batch k' = s.batch k' := by
    unfold ensureGroup
    split <;> rfl
  split
  · next here => simp [here, batch, free]
  · exact same

theorem started_pending (name : String) (once : Bool) (entry : StreamEntry) :
    (s.ensureGroup.setProcess k (some { name, once })).Pending entry ↔ s.Pending entry := by
  cases grouped : s.group <;> simp [Pending, setProcess, ensureGroup, grouped]

theorem started_moved (name : String) (once : Bool) (free : s.processes k = none) :
    Moved s (s.ensureGroup.setProcess k (some { name, once })) := by
  refine .quiet (started_batch name once free) (started_pending name once) ?_ ?_
  · rintro entry ⟨g, grouped, less⟩
    exact ⟨g, by simp only [setProcess, ensureGroup, grouped], less⟩
  · intro numbered
    have stream : (s.ensureGroup.setProcess k (some { name, once })).stream = s.stream := by
      unfold setProcess ensureGroup
      split <;> rfl
    rw [stream]
    exact numbered

theorem next_moved (isUlid : String → Bool) (i : BusEvent K) (s : EventBus K) : Moved s (next isUlid i s) := by
  cases i with
  | append event => exact append_moved s event
  | tenants => exact .quiet (fun _ => rfl) (fun _ => Iff.rfl) (fun _ => id) id
  | start k name once =>
    cases running : s.processes k with
    | some p =>
      have same : next isUlid (.start k name once) s = s := by simp only [next, running]
      rw [same]
      exact .refl s
    | none =>
      have started : next isUlid (.start k name once) s = s.ensureGroup.setProcess k (some { name, once }) := by
        simp only [next, running]
      rw [started]
      exact started_moved name once running
  | read k =>
    rcases read_cases s k with ⟨-, updates⟩ | ⟨g, consumer, grouped, empty, -, updates⟩
    · exact .leaves k _ List.suffix_rfl (fun _ => id) updates
    · exact .arrives k g consumer grouped empty updates
  | turn k env =>
    rcases turn_cases s isUlid k env with ⟨-, same⟩ | ⟨entry, rest, batch, cases'⟩
    · change Moved s (s.turn isUlid k env)
      rw [same]
      exact .refl s
    · rcases cases' with ⟨-, updates⟩ | ⟨decodable, -, updates⟩ | ⟨event, tenantId, given, ⟨-, updates⟩ | ⟨-, updates⟩⟩
      · exact .ends updates
      · refine .leaves k rest (batch ▸ List.suffix_cons entry rest) ?_ updates
        intro entry' reaches
        rw [batch]
        exact Or.inr ⟨decodable, reaches⟩
      · exact .ends updates
      · exact .acknowledges k entry rest batch (given_formed given).decodable updates
  | crash k => exact .ends (ends_updates s k s.store)
  | lose k env => exact .ends (lose_updates s isUlid k env)

theorem next_sound (isUlid : String → Bool) (i : BusEvent K) (s : EventBus K) (sound : s.Sound) :
    (next isUlid i s).Sound := by
  cases next_moved isUlid i s with
  | quiet batches pending delivered numbered =>
    constructor
    · exact numbered sound.numbered
    · intro entry held
      exact delivered entry (sound.delivered entry ((pending entry).mp held))
    · intro k entry mem
      rw [batches] at mem
      exact (pending entry).mpr (sound.held k entry mem)
    · intro k k' entry mem entry' mem' same
      rw [batches] at mem mem'
      exact sound.apart k k' entry mem entry' mem' same
    · intro k
      rw [batches]
      exact sound.once k
  | leaves _ _ suffix _ updates => exact updates.sound_same sound suffix
  | acknowledges _ _ _ batch _ updates => exact updates.sound_acknowledge sound batch
  | arrives _ _ _ grouped empty updates => exact updates.sound_deliver sound grouped empty

theorem next_delivered (isUlid : String → Bool) (i : BusEvent K) (s : EventBus K)
    (delivered : s.Delivered entry) : (next isUlid i s).Delivered entry := by
  cases next_moved isUlid i s with
  | quiet _ _ before => exact before entry delivered
  | leaves _ _ _ _ updates =>
    obtain ⟨g, grouped, less⟩ := delivered
    exact ⟨g, updates.group.trans grouped, less⟩
  | acknowledges _ first _ _ _ updates =>
    obtain ⟨g, grouped, less⟩ := delivered
    exact ⟨g.acknowledge first.id, by rw [updates.group, grouped]; rfl, less⟩
  | arrives _ g _ grouped _ updates =>
    obtain ⟨g', grouped', less⟩ := delivered
    rw [grouped] at grouped'
    cases grouped'
    refine ⟨_, updates.group, ?_⟩
    change entry.id < g.delivered + (g.new s.stream).length
    omega

theorem reached_back (isUlid : String → Bool) (i : BusEvent K) (s : EventBus K) (sound : s.Sound)
    (delivered : s.Delivered entry) (reached : (next isUlid i s).Reached entry) :
    s.Reached entry := by
  obtain ⟨k', reaches⟩ := reached
  cases next_moved isUlid i s with
  | quiet batches => exact ⟨k', batches k' ▸ reaches⟩
  | leaves k _ _ back updates =>
    rw [updates.batches] at reaches
    split at reaches
    · exact ⟨k, back entry reaches⟩
    · exact ⟨k', reaches⟩
  | acknowledges k _ _ batch decodable updates =>
    rw [updates.batches] at reaches
    split at reaches
    · exact ⟨k, batch ▸ Or.inr ⟨decodable, reaches⟩⟩
    · exact ⟨k', reaches⟩
  | arrives _ g _ grouped _ updates =>
    rw [updates.batches] at reaches
    split at reaches
    · obtain ⟨g', grouped', less⟩ := delivered
      rw [grouped] at grouped'
      cases grouped'
      have least := (new_bounds sound.numbered g reaches.mem).1
      omega
    · exact ⟨k', reaches⟩

omit [DecidableEq K] in
theorem gives_reached {i : BusEvent K} (gives : Gives isUlid s i entry) :
    s.Reached entry := by
  obtain ⟨k, env, -, current, -⟩ := gives
  obtain ⟨rest, batch⟩ := current_iff.mp current
  exact ⟨k, batch ▸ Or.inl rfl⟩

theorem skips {env : Environment}
    (batch : s.batch k = first :: rest) (decodable : Decodable first) (inactive : s.activeTenants = []) :
    (s.turn isUlid k env).batch k = rest := by
  have refused : s.given? isUlid first = none := by simp [given?, inactive]
  rcases turn_cases s isUlid k env with ⟨empty, -⟩ | ⟨entry, rest', batch', cases'⟩
  · rw [batch] at empty
    cases empty
  · rw [batch] at batch'
    cases batch'
    rcases cases' with ⟨undecodable, -⟩ | ⟨-, -, updates⟩ | ⟨event, tenantId, given, -⟩
    · exact absurd decodable undecodable
    · rw [updates.batches, if_pos rfl]
    · rw [refused] at given
      cases given

/-- A process comes to every entry it reaches: while no tenant is active it goes over those before. -/
theorem reaches_given (env : Environment) {entries : List StreamEntry}
    (formed : WellFormed isUlid entry) (batch : s.batch k = entries) (reaches : Reaches entry entries) :
    s.StillGiven isUlid entry := by
  induction entries generalizing s with
  | nil => exact absurd reaches id
  | cons first rest ih =>
    rcases reaches with rfl | ⟨decodable, later⟩
    · obtain ⟨⟨event, tenantId⟩, bound⟩ := Option.isSome_iff_exists.mp formed
      refine ⟨[.tenants [tenantId]], .turn k env, k, env, rfl, ?_, ?_⟩
      · exact current_iff.mpr ⟨rest, batch⟩
      · simp [Runs.reached, next, given?, bound]
    · have idle : ({ s with activeTenants := [] } : EventBus K).batch k = first :: rest := batch
      have next' : (({ s with activeTenants := [] } : EventBus K).turn isUlid k env).batch k = rest :=
        skips idle decodable rfl
      obtain ⟨inputs, i, gives⟩ := ih next' later
      exact ⟨.tenants [] :: .turn k env :: inputs, i, gives⟩

/-- The delivered entries that are still given are those that a running process comes to. -/
theorem stillGiven_reached (sound : s.Sound) (delivered : s.Delivered entry)
    (given : s.StillGiven isUlid entry) : s.Reached entry := by
  obtain ⟨inputs, i, gives⟩ := given
  induction inputs generalizing s with
  | nil => exact gives_reached gives
  | cons j _ ih =>
    have later := ih (next_sound isUlid j s sound) (next_delivered isUlid j s delivered) gives
    exact reached_back isUlid j s sound delivered later

/-- A running process comes to every well-formed entry that is pending. -/
def Covered (isUlid : String → Bool) (s : EventBus K) : Prop :=
  ∀ entry, s.Pending entry → WellFormed isUlid entry → s.Reached entry

theorem noneLost_iff (env : Environment) (sound : s.Sound) : s.NoneLost isUlid ↔ s.Covered isUlid := by
  constructor
  · intro none entry pending formed
    exact stillGiven_reached sound (sound.delivered entry pending) (none entry pending formed)
  · intro all entry pending formed
    obtain ⟨k, reaches⟩ := all entry pending formed
    exact reaches_given env formed rfl reaches

/-! ### When a step loses an entry -/

/-- No undecodable entry arrives before a well-formed one, a well-formed entry is worked off while its
tenant is active and its event can be recorded, and no process ends with a well-formed entry left. -/
def Spares (isUlid : String → Bool) (i : BusEvent K) (s : EventBus K) : Prop :=
  match i with
  | .append _ | .tenants _ | .start _ _ _ => True
  | .read k => ∀ entry ∈ s.arriving k, WellFormed isUlid entry → Reaches entry (s.arriving k)
  | .turn k env => ∀ entry event tenantId, s.current k = some entry → bound? isUlid entry = some (event, tenantId) →
      tenantId ∈ s.activeTenants ∧
        OcppEventConsumer.Recordable { env with tenantId := tenantId, isUlid := isUlid } event s.store
  | .crash k | .lose k _ => ∀ entry ∈ s.batch k, ¬ WellFormed isUlid entry

theorem Updates.unreached
    (u : Updates s s' k rest group) (sound : s.Sound) (held : entry ∈ s.batch k) (left : entry ∉ rest) :
    ¬ s'.Reached entry := by
  rintro ⟨k', reaches⟩
  have mem := reaches.mem
  rw [u.batches] at mem
  split at mem
  · exact left mem
  · next other => exact other (sound.apart k' k entry mem entry held rfl)

theorem Updates.pending_same (u : Updates s s' k rest s.group)
    (entry : StreamEntry) : s'.Pending entry ↔ s.Pending entry := by
  unfold Pending
  rw [u.group]

theorem Updates.reached_other (u : Updates s s' k rest group) (reached : s.Reached entry)
    (own : Reaches entry (s.batch k) → Reaches entry rest) : s'.Reached entry := by
  obtain ⟨k', reaches⟩ := reached
  refine ⟨k', ?_⟩
  rw [u.batches]
  split
  · next same =>
    rw [same] at reaches
    exact own reaches
  · exact reaches

theorem ends_covered (u : Updates s s' k [] s.group) (sound : s.Sound) (covered : s.Covered isUlid) :
    s'.Covered isUlid ↔ ∀ entry ∈ s.batch k, ¬ WellFormed isUlid entry := by
  constructor
  · intro covered' entry mem formed
    have reached := covered' entry ((u.pending_same entry).mpr (sound.held k entry mem)) formed
    exact u.unreached sound mem List.not_mem_nil reached
  · intro none entry pending formed
    refine u.reached_other (covered entry ((u.pending_same entry).mp pending) formed) ?_
    intro reaches
    exact absurd formed (none entry reaches.mem)

/-- An undecodable entry has no well-formed one behind it in a batch, or those would be lost already. -/
theorem undecodable_covered
    (u : Updates s s' k [] s.group) (batch : s.batch k = first :: rest) (undecodable : ¬ Decodable first)
    (covered : s.Covered isUlid) : s'.Covered isUlid := by
  intro entry pending formed
  refine u.reached_other (covered entry ((u.pending_same entry).mp pending) formed) ?_
  intro reaches
  rw [batch] at reaches
  rcases reaches with rfl | ⟨decodable, -⟩
  · exact absurd formed.decodable undecodable
  · exact absurd decodable undecodable

theorem skipped_covered
    (u : Updates s s' k rest s.group) (batch : s.batch k = first :: rest) (sound : s.Sound)
    (covered : s.Covered isUlid) : s'.Covered isUlid ↔ ¬ WellFormed isUlid first := by
  have head : first ∈ s.batch k := batch ▸ List.mem_cons_self
  constructor
  · intro covered' formed
    have distinct := sound.once k
    rw [batch, List.map_cons, List.nodup_cons] at distinct
    have left : first ∉ rest := fun mem => distinct.1 (List.mem_map_of_mem mem)
    exact u.unreached sound head left
      (covered' first ((u.pending_same first).mpr (sound.held k first head)) formed)
  · intro unformed entry pending formed
    refine u.reached_other (covered entry ((u.pending_same entry).mp pending) formed) ?_
    intro reaches
    rw [batch] at reaches
    rcases reaches with rfl | ⟨-, later⟩
    · exact absurd formed unformed
    · exact later

theorem acknowledged_covered
    (u : Updates s s' k rest (s.group.map (ConsumerGroup.acknowledge · first.id))) (batch : s.batch k = first :: rest)
    (covered : s.Covered isUlid) : s'.Covered isUlid := by
  intro entry pending formed
  obtain ⟨before, other⟩ := (pending_acknowledge u entry).mp pending
  refine u.reached_other (covered entry before formed) ?_
  intro reaches
  rw [batch] at reaches
  rcases reaches with rfl | ⟨-, later⟩
  · exact absurd rfl other
  · exact later

theorem arrived_covered
    (u : Updates s s' k (g.new s.stream) (some (g.deliver s.stream consumer))) (sound : s.Sound)
    (grouped : s.group = some g) (empty : s.batch k = []) (covered : s.Covered isUlid) :
    s'.Covered isUlid ↔ ∀ entry ∈ g.new s.stream, WellFormed isUlid entry → Reaches entry (g.new s.stream) := by
  constructor
  · intro covered' entry arrives formed
    obtain ⟨k', reaches⟩ := covered' entry ((pending_deliver u grouped entry).mpr (Or.inr arrives)) formed
    rw [u.batches] at reaches
    split at reaches
    · exact reaches
    · -- the entries of the others were delivered before
      obtain ⟨g', grouped', less⟩ := sound.delivered entry (sound.held k' entry reaches.mem)
      rw [grouped] at grouped'
      cases grouped'
      have least := (new_bounds sound.numbered g arrives).1
      omega
  · intro all entry pending formed
    rcases (pending_deliver u grouped entry).mp pending with before | arrives
    · refine u.reached_other (covered entry before formed) ?_
      intro reaches
      rw [empty] at reaches
      exact absurd reaches id
    · exact ⟨k, by rw [u.batches, if_pos rfl]; exact all entry arrives formed⟩

theorem turn_covered (k : K) (env : Environment) (sound : s.Sound) (covered : s.Covered isUlid) :
    (s.turn isUlid k env).Covered isUlid ↔ Spares isUlid (.turn k env) s := by
  rcases turn_cases s isUlid k env with ⟨empty, same⟩ | ⟨first, rest, batch, cases'⟩
  · rw [same]
    refine ⟨fun _ entry event tenantId current => ?_, fun _ => covered⟩
    obtain ⟨rest, batch⟩ := current_iff.mp current
    rw [empty] at batch
    cases batch
  · have current : s.current k = some first := current_iff.mpr ⟨rest, batch⟩
    have only : ∀ entry, s.current k = some entry → entry = first := by
      intro entry same
      rw [current] at same
      exact (Option.some.inj same).symm
    have head : first ∈ s.batch k := batch ▸ List.mem_cons_self
    rcases cases' with ⟨undecodable, u⟩ | ⟨-, refused, u⟩ | ⟨event, tenantId, given, cases'⟩
    · refine ⟨fun _ entry event tenantId same bound => ?_, fun _ => undecodable_covered u batch undecodable covered⟩
      obtain rfl := only entry same
      exact absurd (WellFormed.decodable (Option.isSome_iff_exists.mpr ⟨_, bound⟩)) undecodable
    · rw [skipped_covered u batch sound covered]
      constructor
      · intro unformed entry event tenantId same bound
        obtain rfl := only entry same
        exact absurd (Option.isSome_iff_exists.mpr ⟨_, bound⟩) unformed
      · intro spares formed
        obtain ⟨⟨event, tenantId⟩, bound⟩ := Option.isSome_iff_exists.mp formed
        have active := (spares first event tenantId current bound).1
        rw [given?, bound] at refused
        simp [active] at refused
    · obtain ⟨bound, active⟩ := Option.filter_eq_some_iff.mp given
      rcases cases' with ⟨unrecordable, u⟩ | ⟨recordable, u⟩
      · rw [ends_covered u sound covered]
        constructor
        · intro none
          exact absurd (given_formed given) (none first head)
        · intro spares
          exact absurd (spares first event tenantId current bound).2 unrecordable
      · refine ⟨fun _ entry event' tenantId' same bound' => ?_, fun _ => acknowledged_covered u batch covered⟩
        obtain rfl := only entry same
        rw [bound] at bound'
        cases bound'
        exact ⟨of_decide_eq_true active, recordable⟩

theorem read_covered (k : K) (sound : s.Sound) (covered : s.Covered isUlid) :
    (s.read k).Covered isUlid ↔ Spares isUlid (.read k) s := by
  rcases read_cases s k with ⟨nothing, u⟩ | ⟨g, consumer, grouped, empty, arriving, u⟩
  · constructor
    · intro _ entry mem
      rw [nothing] at mem
      cases mem
    · intro _ entry pending formed
      exact u.reached_other (covered entry ((u.pending_same entry).mp pending) formed) id
  · rw [arrived_covered u sound grouped empty covered]
    simp only [Spares, arriving]

omit [DecidableEq K] in
theorem quiet_covered (batches : ∀ k, s'.batch k = s.batch k) (pending : ∀ entry, s'.Pending entry ↔ s.Pending entry)
    (covered : s.Covered isUlid) : s'.Covered isUlid := by
  intro entry held formed
  obtain ⟨k, reaches⟩ := covered entry ((pending entry).mp held) formed
  exact ⟨k, (batches k).symm ▸ reaches⟩

/-- A step loses a well-formed entry exactly when it does not spare it. -/
theorem next_covered (i : BusEvent K) (s : EventBus K) (sound : s.Sound) (covered : s.Covered isUlid) :
    (next isUlid i s).Covered isUlid ↔ Spares isUlid i s := by
  cases i with
  | append => exact ⟨fun _ => trivial, fun _ => covered⟩
  | tenants => exact ⟨fun _ => trivial, fun _ => covered⟩
  | start k name once =>
    refine ⟨fun _ => trivial, fun _ => ?_⟩
    cases running : s.processes k with
    | some p =>
      have same : next isUlid (.start k name once) s = s := by simp only [next, running]
      rw [same]
      exact covered
    | none =>
      have started : next isUlid (.start k name once) s = s.ensureGroup.setProcess k (some { name, once }) := by
        simp only [next, running]
      rw [started]
      exact quiet_covered (started_batch name once running) (started_pending name once) covered
  | read k => exact read_covered k sound covered
  | turn k env => exact turn_covered k env sound covered
  | crash k => exact ends_covered (ends_updates s k s.store) sound covered
  | lose k env => exact ends_covered (lose_updates s isUlid k env) sound covered

/-- In every run of any number of processes, no well-formed entry that was delivered is lost exactly as
long as every step spares those it is about. -/
theorem noneLost_iff_spared (isUlid : String → Bool) (env : Environment) (activeTenants : List String) (store : Store)
    (inputs : List (BusEvent K)) :
    Runs.Throughout (next isUlid) (NoneLost isUlid) inputs (start activeTenants store) ↔
      Runs.Met (next isUlid) (Spares isUlid) inputs (start activeTenants store) := by
  refine Runs.throughout_iff_met (Q := Sound) (next_sound isUlid) ?_ inputs _ (start_sound activeTenants store) ?_
  · intro i s sound none
    rw [noneLost_iff env (next_sound isUlid i s sound)]
    exact next_covered i s sound ((noneLost_iff env sound).mp none)
  · rintro entry ⟨g, consumer, grouped, -⟩
    cases grouped

/-- An entry without an event field, and a well-formed one behind it. -/
theorem undecodable_entry_loses :
    ¬ ∀ inputs : List (BusEvent Unit), Runs.Throughout (next fun s => s.length = 26) (NoneLost fun s => s.length = 26)
      inputs (start ["01JN7F000000000000000000N1"] Store.empty) := by
  intro all
  let event : Option (Option Mixed) := some (some (.array [("tenant_id", .string "01JN7F000000000000000000N1")]))
  let inputs : List (BusEvent Unit) := [.append none, .append event, .start () "app-7" false, .read ()]
  have sound := (Runs.throughout_of_kept (next_sound fun s => s.length = 26) (fun _ => id) inputs _
    (start_sound ["01JN7F000000000000000000N1"] Store.empty)).last
  have pending : (Runs.reached (next fun s => s.length = 26) inputs
      (start ["01JN7F000000000000000000N1"] Store.empty)).Pending ⟨1, event⟩ :=
    ⟨_, "app-7", rfl, List.mem_cons_of_mem _ List.mem_cons_self⟩
  have given := (all inputs).last _ pending (by decide)
  obtain ⟨k, reaches⟩ := stillGiven_reached sound (sound.delivered _ pending) given
  rcases reaches with same | ⟨⟨decoded, decodes⟩, -⟩
  · cases same
  · cases decodes

end EventBus
end VtsaCsms.Charging
