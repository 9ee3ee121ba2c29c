import VtsaCsms.Gateway.ConnectionRegistry

/-!
# What every interleaving of the registry keeps

A connection is claimed once. A node enters a connection only while it holds the lock it claimed
it under, so an entry is replaced by a connection that was claimed later.
-/
namespace VtsaCsms.Gateway
open Foundation Foundation.Action

namespace Task

/-- The connection a task may still claim. -/
def claiming? : Task → Option String
  | registers c | claims c | claimLeft c => some c.connectionId
  | _ => none

/-- A task that neither claims a connection nor holds a lock. -/
def Quiet (task : Task) : Prop := task.claiming? = none ∧ task.locks = false

theorem locks_left {task left : Task} (eq : task.left = some left) : left.locks = false := by
  cases task <;> simp [Task.left] at eq <;> subst eq <;> rfl

theorem claiming_left {task left : Task} (eq : task.left = some left) : left.claiming? = task.claiming? := by
  cases task <;> simp [Task.left] at eq <;> subst eq <;> rfl

end Task

variable {N : Type}

/-- The invariant of the nodes, whatever the store holds. -/
structure Sound (g : Cluster N) : Prop where
  distinct : g.claimed.Nodup
  generated : ∀ id ∈ g.claimed, id ∈ g.connected
  fresh : ∀ t node task id, g.tasks t = some (node, task) → task.claiming? = some id →
    id ∈ g.connected ∧ id ∉ g.claimed
  single : ∀ t t' node node' task task' id, g.tasks t = some (node, task) → g.tasks t' = some (node', task') →
    task.claiming? = some id → task'.claiming? = some id → t = t'
  numbered : ∀ t node task, g.tasks t = some (node, task) → t < g.nextTask
  entered : ∀ node cp e, g.registry node cp = some e → e.connection.connectionId ∈ g.claimed
  locked : ∀ t node task, g.tasks t = some (node, task) → task.locks = true → g.lock node = some t
  /-- Whoever holds the lock with a claim in hand claimed after every entry of its charge point. -/
  entering : ∀ t node c, g.tasks t = some (node, .claimed c) → c.connectionId ∈ g.claimed ∧
    ∀ e, g.registry node c.chargePointIdentity = some e →
      e.connection.connectionId = c.connectionId ∨
        [c.connectionId, e.connection.connectionId].Sublist g.claimed

namespace Sound
variable {g g' : Cluster N} {t : Nat} {node : N} {task : Task} {c : RegisteredConnection}

theorem start (now : ℚ) : Sound (Cluster.start now : Cluster N) := by
  have none' : ∀ t node task, (Cluster.start now : Cluster N).tasks t ≠ some (node, task) :=
    fun _ _ _ => Option.some_ne_none _ ∘ Eq.symm
  have empty : ∀ node cp e, (Cluster.start now : Cluster N).registry node cp ≠ some e :=
    fun _ _ _ => Option.some_ne_none _ ∘ Eq.symm
  refine ⟨List.nodup_nil, ?_, ?_, ?_, ?_, ?_, ?_, ?_⟩
  · intro id member
    cases member
  · intro t node task id found
    exact absurd found (none' t node task)
  · intro t t' node node' task task' id found
    exact absurd found (none' t node task)
  · intro t node task found
    exact absurd found (none' t node task)
  · intro node cp e held
    exact absurd held (empty node cp e)
  · intro t node task found
    exact absurd found (none' t node task)
  · intro t node c found
    exact absurd found (none' t node _)

/-- The tasks of a later state are those of an earlier one, or quiet. -/
structure Quieter (g g' : Cluster N) : Prop where
  claimed : g'.claimed = g.claimed
  connected : g'.connected = g.connected
  registry : ∀ node cp e, g'.registry node cp = some e → g.registry node cp = some e
  tasks : ∀ t node task, g'.tasks t = some (node, task) → t < g'.nextTask ∧
    (task.Quiet ∨ ∃ before, g.tasks t = some (node, before) ∧ task.claiming? = before.claiming? ∧
      (task.locks = true → task = before ∧ g'.lock node = g.lock node))

theorem quieter (sound : Sound g) (quiet : Quieter g g') : Sound g' := by
  have claiming : ∀ t node task id, g'.tasks t = some (node, task) → task.claiming? = some id →
      ∃ before, g.tasks t = some (node, before) ∧ before.claiming? = some id := by
    intro t node task id found claims
    rcases (quiet.tasks t node task found).2 with calm | ⟨before, was, same, -⟩
    · rw [calm.1] at claims
      cases claims
    · exact ⟨before, was, same ▸ claims⟩
  have locking : ∀ t node task, g'.tasks t = some (node, task) → task.locks = true →
      g.tasks t = some (node, task) ∧ g'.lock node = g.lock node := by
    intro t node task found locks
    rcases (quiet.tasks t node task found).2 with calm | ⟨before, was, -, held⟩
    · rw [calm.2] at locks
      cases locks
    · obtain ⟨rfl, same⟩ := held locks
      exact ⟨was, same⟩
  constructor
  · rw [quiet.claimed]
    exact sound.distinct
  · rw [quiet.claimed, quiet.connected]
    exact sound.generated
  · intro t node task id found claims
    obtain ⟨before, was, claims'⟩ := claiming t node task id found claims
    rw [quiet.claimed, quiet.connected]
    exact sound.fresh t node before id was claims'
  · intro t t' node node' task task' id found found' claims claims'
    obtain ⟨before, was, own⟩ := claiming t node task id found claims
    obtain ⟨before', was', own'⟩ := claiming t' node' task' id found' claims'
    exact sound.single t t' node node' before before' id was was' own own'
  · intro t node task found
    exact (quiet.tasks t node task found).1
  · intro node cp e held
    rw [quiet.claimed]
    exact sound.entered node cp e (quiet.registry node cp e held)
  · intro t node task found locks
    obtain ⟨was, same⟩ := locking t node task found locks
    rw [same]
    exact sound.locked t node task was locks
  · intro t node c found
    obtain ⟨was, -⟩ := locking t node (.claimed c) found rfl
    obtain ⟨member, older⟩ := sound.entering t node c was
    rw [quiet.claimed]
    exact ⟨member, fun e held => older e (quiet.registry node _ e held)⟩

theorem setRows (sound : Sound g) (rows : RedisRows) : Sound (g.setRows rows) :=
  ⟨sound.distinct, sound.generated, sound.fresh, sound.single, sound.numbered, sound.entered, sound.locked,
    sound.entering⟩

theorem setTask (sound : Sound g) (found : g.tasks t = some (node, task)) {now : Option (N × Task)}
    (calm : ∀ node' task', now = some (node', task') → task'.Quiet) : Sound (g.setTask t now) := by
  refine sound.quieter ⟨rfl, rfl, fun _ _ _ => id, ?_⟩
  intro t' node' task' found'
  simp only [Cluster.setTask, Function.update_apply] at found' ⊢
  split at found'
  · rename_i same
    rw [same]
    exact ⟨sound.numbered t node task found, Or.inl (calm node' task' found')⟩
  · exact ⟨sound.numbered t' node' task' found', Or.inr ⟨task', found', rfl, by simp⟩⟩

theorem ends (sound : Sound g) (found : g.tasks t = some (node, task)) : Sound (g.setTask t none) := by
  refine sound.setTask found ?_
  intro node' task' now
  cases now

theorem goesOn (sound : Sound g) (found : g.tasks t = some (node, task)) {task' : Task} (calm : task'.Quiet) :
    Sound (g.setTask t (some (node, task'))) := by
  refine sound.setTask found ?_
  rintro node' task'' ⟨⟩
  exact calm

theorem spawn (sound : Sound g) (calm : task.Quiet) : Sound (g.spawn node task) := by
  refine sound.quieter ⟨rfl, rfl, fun _ _ _ => id, ?_⟩
  intro t' node' task' found'
  simp only [Cluster.spawn, Cluster.setTask, Function.update_apply] at found' ⊢
  split at found'
  · rename_i same
    obtain ⟨-, rfl⟩ := Prod.mk.inj (Option.some.inj found')
    exact ⟨by omega, Or.inl calm⟩
  · have := sound.numbered t' node' task' found'
    exact ⟨by omega, Or.inr ⟨task', found', rfl, by simp⟩⟩

theorem register (sound : Sound g) (new : c.connectionId ∉ g.connected) :
    Sound { g.spawn node (.registers c) with connected := c.connectionId :: g.connected } := by
  have tasks : ∀ t' node' task', (g.spawn node (.registers c)).tasks t' = some (node', task') →
      t' = g.nextTask ∧ task' = .registers c ∨ t' < g.nextTask ∧ g.tasks t' = some (node', task') := by
    intro t' node' task' found'
    simp only [Cluster.spawn, Cluster.setTask, Function.update_apply] at found'
    split at found'
    · rename_i same
      exact Or.inl ⟨same, (Prod.mk.inj (Option.some.inj found')).2.symm⟩
    · exact Or.inr ⟨sound.numbered t' node' task' found', found'⟩
  constructor
  · exact sound.distinct
  · intro id member
    exact List.mem_cons_of_mem _ (sound.generated id member)
  · intro t' node' task' id found' claims
    rcases tasks t' node' task' found' with ⟨-, rfl⟩ | ⟨-, was⟩
    · obtain rfl : c.connectionId = id := Option.some.inj claims
      exact ⟨List.mem_cons_self, fun member => new (sound.generated _ member)⟩
    · obtain ⟨member, unclaimed⟩ := sound.fresh t' node' task' id was claims
      exact ⟨List.mem_cons_of_mem _ member, unclaimed⟩
  · intro t₁ t₂ node₁ node₂ task₁ task₂ id found₁ found₂ claims₁ claims₂
    rcases tasks t₁ node₁ task₁ found₁ with ⟨first, rfl⟩ | ⟨-, was₁⟩ <;>
      rcases tasks t₂ node₂ task₂ found₂ with ⟨second, rfl⟩ | ⟨-, was₂⟩
    · rw [first, second]
    · obtain rfl : c.connectionId = id := Option.some.inj claims₁
      exact absurd (sound.fresh t₂ node₂ task₂ _ was₂ claims₂).1 new
    · obtain rfl : c.connectionId = id := Option.some.inj claims₂
      exact absurd (sound.fresh t₁ node₁ task₁ _ was₁ claims₁).1 new
    · exact sound.single t₁ t₂ node₁ node₂ task₁ task₂ id was₁ was₂ claims₁ claims₂
  · intro t' node' task' found'
    change t' < g.nextTask + 1
    rcases tasks t' node' task' found' with ⟨rfl, -⟩ | ⟨below, -⟩ <;> omega
  · exact sound.entered
  · intro t' node' task' found' locks
    rcases tasks t' node' task' found' with ⟨-, rfl⟩ | ⟨-, was⟩
    · cases locks
    · exact sound.locked t' node' task' was locks
  · intro t' node' c' found'
    rcases tasks t' node' (.claimed c') found' with ⟨-, impossible⟩ | ⟨-, was⟩
    · cases impossible
    · exact sound.entering t' node' c' was

theorem claim (sound : Sound g) (found : g.tasks t = some (node, task))
    (claims : task.claiming? = some c.connectionId) {now : Option (N × Task)}
    (goes : now = none ∨ task = .claims c ∧ now = some (node, .claimed c)) :
    Sound { g.setTask t now with claimed := c.connectionId :: g.claimed } := by
  obtain ⟨known, unclaimed⟩ := sound.fresh t node task _ found claims
  have tasks : ∀ t' node' task', (g.setTask t now).tasks t' = some (node', task') →
      t' = t ∧ node' = node ∧ task = .claims c ∧ task' = .claimed c ∨ t' ≠ t ∧ g.tasks t' = some (node', task') := by
    intro t' node' task' found'
    simp only [Cluster.setTask, Function.update_apply] at found'
    split at found'
    · rename_i same
      rcases goes with rfl | ⟨eq, rfl⟩
      · cases found'
      · obtain ⟨rfl, rfl⟩ := Prod.mk.inj (Option.some.inj found')
        exact Or.inl ⟨same, rfl, eq, rfl⟩
    · rename_i other
      exact Or.inr ⟨other, found'⟩
  have claiming : ∀ t' node' task' id, (g.setTask t now).tasks t' = some (node', task') →
      task'.claiming? = some id → t' ≠ t ∧ g.tasks t' = some (node', task') := by
    intro t' node' task' id found' own
    rcases tasks t' node' task' found' with ⟨-, -, -, rfl⟩ | was
    · cases own
    · exact was
  constructor
  · exact List.nodup_cons.mpr ⟨unclaimed, sound.distinct⟩
  · intro id member
    rcases List.mem_cons.mp member with rfl | older
    · exact known
    · exact sound.generated id older
  · intro t' node' task' id found' own
    obtain ⟨other, was⟩ := claiming t' node' task' id found' own
    obtain ⟨member, absent⟩ := sound.fresh t' node' task' id was own
    refine ⟨member, fun inside => ?_⟩
    rcases List.mem_cons.mp inside with rfl | older
    · exact other (sound.single t' t node' node task' task _ was found own claims)
    · exact absent older
  · intro t₁ t₂ node₁ node₂ task₁ task₂ id found₁ found₂ own₁ own₂
    obtain ⟨-, was₁⟩ := claiming t₁ node₁ task₁ id found₁ own₁
    obtain ⟨-, was₂⟩ := claiming t₂ node₂ task₂ id found₂ own₂
    exact sound.single t₁ t₂ node₁ node₂ task₁ task₂ id was₁ was₂ own₁ own₂
  · intro t' node' task' found'
    rcases tasks t' node' task' found' with ⟨rfl, -, -⟩ | ⟨-, was⟩
    · exact sound.numbered t' node task found
    · exact sound.numbered t' node' task' was
  · intro node' cp e held
    exact List.mem_cons_of_mem _ (sound.entered node' cp e held)
  · intro t' node' task' found' locks
    rcases tasks t' node' task' found' with ⟨rfl, rfl, rfl, rfl⟩ | ⟨-, was⟩
    · exact sound.locked t' node' _ found rfl
    · exact sound.locked t' node' task' was locks
  · intro t' node' c' found'
    rcases tasks t' node' (.claimed c') found' with ⟨rfl, rfl, -, eq⟩ | ⟨-, was⟩
    · obtain rfl : c' = c := by injection eq
      refine ⟨List.mem_cons_self, fun e held => Or.inr ?_⟩
      exact (List.singleton_sublist.mpr (sound.entered node' _ e held)).cons_cons _
    · obtain ⟨member, older⟩ := sound.entering t' node' c' was
      refine ⟨List.mem_cons_of_mem _ member, fun e held => ?_⟩
      exact (older e held).imp_right fun before => before.cons _

section Locks
variable [DecidableEq N]

theorem setEntry_none (sound : Sound g) (node : N) (cp : String) : Sound (g.setEntry node cp none) := by
  refine sound.quieter ⟨rfl, rfl, ?_, ?_⟩
  · intro node' cp' e held
    simp only [Cluster.setEntry, Function.update_apply] at held
    split at held
    · rename_i same
      simp only [Function.update_apply] at held
      split at held
      · cases held
      · rw [same]
        exact held
    · exact held
  · intro t' node' task' found'
    exact ⟨sound.numbered t' node' task' found', Or.inr ⟨task', found', rfl, fun _ => ⟨rfl, rfl⟩⟩⟩

theorem finish (sound : Sound g) (found : g.tasks t = some (node, task)) {left : Option Task}
    (remains : left = none ∨ left = task.left) : Sound (g.finish t node left) := by
  refine sound.quieter ⟨g.finish_claimed .., g.finish_connected .., fun node cp e held => ?_, ?_⟩
  · rw [Cluster.finish_registry] at held
    exact held
  intro t' node' task' found'
  rw [Cluster.finish_nextTask]
  rw [Cluster.finish_tasks, Function.update_apply] at found'
  split at found'
  · rename_i same
    rw [same]
    refine ⟨sound.numbered t node task found, Or.inr ?_⟩
    obtain ⟨task'', eq, pair⟩ := Option.map_eq_some_iff.mp found'
    obtain ⟨rfl, rfl⟩ := Prod.mk.inj pair
    rcases remains with rfl | rfl
    · cases eq
    · refine ⟨task, found, Task.claiming_left eq, ?_⟩
      rw [Task.locks_left eq]
      nofun
  · rename_i other
    refine ⟨sound.numbered t' node' task' found', Or.inr ⟨task', found', rfl, fun locks => ⟨rfl, ?_⟩⟩⟩
    exact g.finish_lock t node left other (sound.locked t' node' task' found' locks)

theorem locks (sound : Sound g) (found : g.tasks t = some (node, .registers c)) (free : g.lock node = none) :
    Sound ((g.setLock node (some t)).setTask t (some (node, .claims c))) := by
  have tasks : ∀ t' node' task',
      ((g.setLock node (some t)).setTask t (some (node, .claims c))).tasks t' = some (node', task') →
      t' = t ∧ node' = node ∧ task' = .claims c ∨ t' ≠ t ∧ g.tasks t' = some (node', task') := by
    intro t' node' task' found'
    simp only [Cluster.setLock, Cluster.setTask, Function.update_apply] at found'
    split at found'
    · rename_i same
      obtain ⟨rfl, rfl⟩ := Prod.mk.inj (Option.some.inj found')
      exact Or.inl ⟨same, rfl, rfl⟩
    · rename_i other
      exact Or.inr ⟨other, found'⟩
  have claiming : ∀ t' node' task' id,
      ((g.setLock node (some t)).setTask t (some (node, .claims c))).tasks t' = some (node', task') →
      task'.claiming? = some id → ∃ before, g.tasks t' = some (node', before) ∧ before.claiming? = some id := by
    intro t' node' task' id found' claims
    rcases tasks t' node' task' found' with ⟨rfl, rfl, rfl⟩ | ⟨-, was⟩
    · exact ⟨.registers c, found, claims⟩
    · exact ⟨task', was, claims⟩
  constructor
  · exact sound.distinct
  · exact sound.generated
  · intro t' node' task' id found' claims
    obtain ⟨before, was, own⟩ := claiming t' node' task' id found' claims
    exact sound.fresh t' node' before id was own
  · intro t₁ t₂ node₁ node₂ task₁ task₂ id found₁ found₂ claims₁ claims₂
    obtain ⟨before₁, was₁, own₁⟩ := claiming t₁ node₁ task₁ id found₁ claims₁
    obtain ⟨before₂, was₂, own₂⟩ := claiming t₂ node₂ task₂ id found₂ claims₂
    exact sound.single t₁ t₂ node₁ node₂ before₁ before₂ id was₁ was₂ own₁ own₂
  · intro t' node' task' found'
    rcases tasks t' node' task' found' with ⟨rfl, -, -⟩ | ⟨-, was⟩
    · exact sound.numbered t' node _ found
    · exact sound.numbered t' node' task' was
  · exact sound.entered
  · intro t' node' task' found' locks
    change Function.update g.lock node (some t) node' = some t'
    rcases tasks t' node' task' found' with ⟨rfl, rfl, rfl⟩ | ⟨-, was⟩
    · exact Function.update_self ..
    · have held := sound.locked t' node' task' was locks
      have elsewhere : node' ≠ node := by
        rintro rfl
        rw [free] at held
        cases held
      rw [Function.update_of_ne elsewhere]
      exact held
  · intro t' node' c' found'
    rcases tasks t' node' (.claimed c') found' with ⟨-, -, impossible⟩ | ⟨-, was⟩
    · cases impossible
    · exact sound.entering t' node' c' was

theorem enter (sound : Sound g) (found : g.tasks t = some (node, .claimed c)) (leaseTask : Nat) :
    Sound (g.setEntry node c.chargePointIdentity (some ⟨c, leaseTask⟩)) := by
  have entries : ∀ node' cp e,
      (g.setEntry node c.chargePointIdentity (some ⟨c, leaseTask⟩)).registry node' cp = some e →
      node' = node ∧ e.connection = c ∨ g.registry node' cp = some e := by
    intro node' cp e held
    simp only [Cluster.setEntry, Function.update_apply] at held
    split at held
    · rename_i same
      simp only [Function.update_apply] at held
      split at held
      · obtain rfl := Option.some.inj held
        exact Or.inl ⟨same, rfl⟩
      · rw [same]
        exact Or.inr held
    · exact Or.inr held
  refine ⟨sound.distinct, sound.generated, sound.fresh, sound.single, sound.numbered, ?_, sound.locked, ?_⟩
  · intro node' cp e held
    rcases entries node' cp e held with ⟨-, rfl⟩ | was
    · exact (sound.entering t node _ found).1
    · exact sound.entered node' cp e was
  · intro t' node' c' found'
    obtain ⟨member, older⟩ := sound.entering t' node' c' found'
    refine ⟨member, fun e held => ?_⟩
    rcases entries node' _ e held with ⟨rfl, rfl⟩ | was
    · -- two registers of one node do not both hold its lock
      have own := sound.locked t node' _ found rfl
      have own' := sound.locked t' node' _ found' rfl
      obtain rfl : t' = t := Option.some.inj (own'.symm.trans own)
      obtain ⟨-, eq⟩ := Prod.mk.inj (Option.some.inj (found'.symm.trans found))
      left
      injection eq with eq
      rw [eq]
    · exact older e was

theorem stop (sound : Sound g) (node : N) : Sound (g.stop node) := by
  refine sound.quieter ⟨rfl, rfl, ?_, ?_⟩
  · intro node' cp e held
    simp only [Cluster.stop, Function.update_apply] at held
    split at held
    · cases held
    · exact held
  · intro t' node' task' found'
    obtain ⟨⟨node'', task''⟩, found, remains⟩ := Option.bind_eq_some_iff.mp found'
    refine ⟨sound.numbered t' node'' task'' found, Or.inr ?_⟩
    simp only at remains
    split at remains
    · rename_i here
      obtain ⟨left, eq, pair⟩ := Option.map_eq_some_iff.mp remains
      obtain ⟨rfl, rfl⟩ := Prod.mk.inj pair
      refine ⟨task'', here ▸ found, Task.claiming_left eq, ?_⟩
      rw [Task.locks_left eq]
      nofun
    · rename_i elsewhere
      obtain ⟨rfl, rfl⟩ := Prod.mk.inj (Option.some.inj remains)
      exact ⟨task'', found, rfl, fun _ => ⟨rfl, Function.update_of_ne elsewhere _ _⟩⟩

/-! ### Every move -/

variable (store : RedisGatewayStore) (settings : N → LeaseSettings)

theorem carry (sound : Sound g) (t : Nat) : Sound (g.carry store settings t) := by
  unfold Cluster.carry
  split
  · rename_i node c found
    split
    · exact (sound.claim found rfl (Or.inr ⟨rfl, rfl⟩)).setRows _
    · rename_i rows failed
      exact (sound.setRows rows).finish (g := g.setRows rows) found (Or.inl rfl)
  · rename_i node c found
    split
    · exact (sound.claim found rfl (Or.inl rfl)).setRows _
    · exact (sound.ends found).setRows _
  · rename_i node cp id removed found
    exact (sound.goesOn found ⟨rfl, rfl⟩).setRows _
  · rename_i node cp id found
    exact (sound.ends found).setRows _
  · rename_i node c found
    split
    · exact (sound.goesOn found ⟨rfl, rfl⟩).setRows _
    · rename_i rows failed
      exact (sound.setRows rows).finish (g := g.setRows rows) found (Or.inl rfl)
  · rename_i node c found
    split
    · exact (sound.goesOn found ⟨rfl, rfl⟩).setRows _
    · exact (sound.goesOn found ⟨rfl, rfl⟩).setRows _
  · rename_i node c found
    exact (sound.ends found).setRows _
  · exact sound

theorem cancel (sound : Sound g) (t : Nat) : Sound (g.cancel t) := by
  unfold Cluster.cancel
  split
  · rename_i node task found
    exact sound.finish found (Or.inr rfl)
  · exact sound

theorem resume (sound : Sound g) (t : Nat) : Sound (g.resume settings t) := by
  unfold Cluster.resume
  split
  · rename_i node c found
    split
    · rename_i free
      exact sound.locks found free
    · exact sound
  · rename_i node c found
    have below := sound.numbered t node _ found
    have spawned : Sound ((g.setEntry node c.chargePointIdentity (some ⟨c, g.nextTask⟩)).spawn node
        (.leaseSleeps c (g.renewsNext settings node))) := (sound.enter found g.nextTask).spawn ⟨rfl, rfl⟩
    have still : ((g.setEntry node c.chargePointIdentity (some ⟨c, g.nextTask⟩)).spawn node
        (.leaseSleeps c (g.renewsNext settings node))).tasks t = some (node, .claimed c) := by
      simp only [Cluster.spawn, Cluster.setTask, Cluster.setEntry, Function.update_apply]
      rw [if_neg (by omega)]
      exact found
    exact spawned.finish still (Or.inl rfl)
  · rename_i node cp id found
    split
    · split
      · exact (sound.goesOn found ⟨rfl, rfl⟩).setEntry_none node cp
      · exact sound.goesOn found ⟨rfl, rfl⟩
    · exact sound
  · rename_i node cp id removed found
    split
    · rename_i leaseTask
      -- the lease task may be the one that unregisters
      cases still : (g.cancel leaseTask).tasks t with
      | none =>
        have same : (g.cancel leaseTask).setTask t none = g.cancel leaseTask := by
          simp only [Cluster.setTask]
          rw [Function.update_eq_self_iff.mpr still.symm]
        rw [same]
        exact sound.cancel leaseTask
      | some => exact (sound.cancel leaseTask).ends still
    · exact sound.ends found
  · rename_i node cp found
    split
    · split
      · exact sound.goesOn found ⟨rfl, rfl⟩
      · exact sound.ends found
    · exact sound
  · rename_i node c retained found
    split
    · exact sound.ends found
    · exact sound.goesOn found ⟨rfl, rfl⟩
  · rename_i node c wakesAt found
    split
    · exact sound.goesOn found ⟨rfl, rfl⟩
    · exact sound
  · rename_i node c retained found
    split
    · exact sound.goesOn found ⟨rfl, rfl⟩
    · exact sound.goesOn found ⟨rfl, rfl⟩
  · exact sound

theorem fail (sound : Sound g) (t : Nat) : Sound (g.fail t) := by
  unfold Cluster.fail
  split
  · rename_i node cp id removed found
    exact (sound.goesOn found ⟨rfl, rfl⟩).spawn ⟨rfl, rfl⟩
  · rename_i node c found
    exact (sound.goesOn found ⟨rfl, rfl⟩).spawn ⟨rfl, rfl⟩
  · rename_i node c retained found
    exact sound.goesOn found ⟨rfl, rfl⟩
  · rename_i found
    exact sound.finish found (Or.inr rfl)
  · exact sound

theorem next (move : Move N) (sound : Sound g) : Sound (g.next store settings move) := by
  cases move with
  | wait => exact ⟨sound.distinct, sound.generated, sound.fresh, sound.single, sound.numbered,
      sound.entered, sound.locked, sound.entering⟩
  | register node c =>
    unfold Cluster.next
    simp only
    split
    · exact sound
    · rename_i new
      exact sound.register new
  | unregister => exact sound.spawn ⟨rfl, rfl⟩
  | get => exact sound.spawn ⟨rfl, rfl⟩
  | carry t => exact sound.carry store settings t
  | resume t => exact sound.resume settings t
  | fail t => exact sound.fail t
  | cancel t => exact sound.cancel t
  | stop node => exact sound.stop node

end Locks

end Sound
end VtsaCsms.Gateway
