import VtsaCsms.Charging.PrepaidMoves

/-!
# Every step makes lifecycle moves

The system refines the lifecycle: from any rows, a step leaves what moves lead to. What is
sound of the tables is so after every run.
-/
namespace VtsaCsms.Charging
open Foundation Foundation.Action Billing

theorem Move.mono {p p' : Permits} (late : p.late → p'.late) (expiry : p.expiry → p'.expiry)
    (rejection : p.rejection → p'.rejection) {c c' : Core} (move : Move p c c') : Move p' c c' := by
  cases move with
  | noted row standing measures => exact .noted row standing measures
  | measured row standing permitted => exact .measured row standing fun completed => late (permitted completed)
  | driven row before delivering transaction started =>
    exact .driven row before delivering transaction started
  | reconstructed fresh placed delivering transaction started =>
    exact .reconstructed fresh placed delivering transaction started
  | requested fresh placed starting unstarted free freshCommand command session type =>
    exact .requested fresh placed starting unstarted free freshCommand command session type
  | stopRequested row before known stopping evidence freshCommand command session type state expected =>
    exact .stopRequested row before known stopping evidence freshCommand command session type state expected
  | commandMoved row live => exact .commandMoved row live
  | stopExpired permitted expired => exact .stopExpired (expiry permitted) expired
  | stopRejected permitted rejected => exact .stopRejected (rejection permitted) rejected
  | resumed command type row stopping allowed back evidence =>
    exact .resumed command type row stopping allowed back evidence
  | ended row before evidence record closing => exact .ended row before evidence record closing
  | reviewed row before review evidence => exact .reviewed row before review evidence
  | withdrawn row before closed evidence => exact .withdrawn row before closed evidence
  | prepaid fresh placed unsettled single idle known held =>
    exact .prepaid fresh placed unsettled single idle known held
  | settled row unsettled closed session paid cause =>
    exact .settled row unsettled closed session paid cause
  | alerted row same => exact .alerted row same
  | funded holds => exact .funded holds

theorem Moves.mono {p p' : Permits} (late : p.late → p'.late) (expiry : p.expiry → p'.expiry)
    (rejection : p.rejection → p'.rejection) {c c' : Core} (moves : Moves p c c') : Moves p' c c' := by
  induction moves with
  | refl => exact .refl
  | tail _ move ih => exact ih.tail (move.mono late expiry rejection)

/-! ### Wallet calls of others -/

theorem credit_holds {subject book reference : String} {amount : Int} {accountId : Option String}
    {w w' : Wallet} {u : Unit}
    (success : Returns (PrepaidWallet.credit subject book reference amount accountId) w u w') :
    w'.reservations = w.reservations := by
  obtain ⟨-, _, _, opened, isOpen, replayed | credited⟩ := PrepaidWallet.credit_returns success
  · rw [replayed.1, opened_reservations isOpen]
  · have kept := opened_reservations isOpen
    rw [credited.rows]
    exact kept

theorem setLimit_holds {actor accountId type targetId : String} {amount : Option Int} {w w' : Wallet}
    {u : Unit} (success : Returns (PrepaidWallet.setLimit actor accountId type targetId amount) w u w') :
    w'.reservations = w.reservations := by
  obtain ⟨_, _, opened, isOpen, rows⟩ := PrepaidWallet.setLimit_returns success
  have kept := opened_reservations isOpen
  rw [rows]
  exact kept

theorem onWallet_moves {p : Permits} (call : WalletCall) (s : Store)
    (holds : ∀ w, Returns call.perform s.wallet () w → w.reservations = s.wallet.reservations) :
    Moves p s.core (after (onWallet call.perform) s).core := by
  have rows : (after (onWallet call.perform) s) = { s with wallet := after call.perform s.wallet } := rfl
  rw [rows]
  rcases after_perform call s.wallet with returned | unchanged
  · exact .single (.funded (holds _ returned))
  · rw [unchanged]

namespace Step

theorem after_discard {α : Type} (m : Charge α) (s : Store) : after (discard m) s = after m s := by
  unfold discard after
  show ((m >>= fun _ => pure ()) s).2 = (m s).2
  rcases run : m s with ⟨out, s'⟩
  cases out with
  | ok =>
    simp only [Bind.bind, run]
    rfl
  | error => simp only [Bind.bind, run]

/-- The step lets a remote stop expire that a stopping session waits for. -/
def StrandsStop (env : Environment) (s : Store) : Step → Prop
  | dispatch commandId => StrandedStop s commandId fun c => DispatchChargerCommand.past env c = true
  | expireCommand commandId => StrandedStop s commandId fun c => c.expiresAt ≤ env.now
  | _ => False

/-- The step is an event that measures a completed session. -/
def Remeasures (env : Environment) (s : Store) : Step → Prop
  | event e => OcppEventConsumer.RemeasuresCompleted env s e
  | _ => False

/-- A step rejects one remote stop, or lets one expire, and does no more, or its moves do neither. -/
theorem refines (env : Environment) (step : Step) (s : Store) :
    StopRejection s.core (step.next env s).core ∨
      StopExpiry (step.StrandsStop env s) s.core (step.next env s).core ∨
        Moves ⟨step.Remeasures env s, False, False⟩ s.core (step.next env s).core := by
  have moves : ∀ {α : Type} {m : Charge α} {p : Permits}, Atomic m →
      (∀ a s', Returns m s a s' → Moves p s.core s'.core) → Moves p s.core (after m s).core :=
    fun atomic body => after_atomic (P := fun s' : Store => Moves _ s.core s'.core) atomic .refl body
  unfold next
  cases step with
  | event e =>
    unfold perform
    rw [after_discard]
    exact Or.inr (Or.inr (OcppEventConsumer.consume_moves env e s fun late => late))
  | remoteStart =>
    unfold perform
    rw [after_discard]
    exact Or.inr (Or.inr (moves (RemoteStartService.request_atomic _ _ _ _ _) fun _ _ success =>
      (RemoteStartService.request_moves success).1))
  | remoteStop =>
    exact Or.inr (Or.inr (moves (RemoteStopService.request_atomic _ _ _ _ _) fun _ _ success =>
      RemoteStopService.request_moves success))
  | dispatch =>
    refine Or.inr (after_atomic (P := fun s' : Store => StopExpiry _ s.core s'.core ∨ Moves _ s.core s'.core)
      (atomic_transaction _) (Or.inr .refl) ?_)
    exact fun _ _ success => DispatchChargerCommand.begin_moves success
  | applyTerminal =>
    exact Or.inr (Or.inr (moves (atomic_transaction _) fun _ _ success =>
      DispatchChargerCommand.applyTerminal_moves success))
  | gatewayAnswer commandId answer =>
    exact (DispatchChargerCommand.complete_moves env commandId answer s).imp_right Or.inr
  | expireCommand =>
    refine Or.inr (after_atomic (P := fun s' : Store => StopExpiry _ s.core s'.core ∨ Moves _ s.core s'.core)
      (atomic_transaction _) (Or.inr .refl) ?_)
    exact fun _ _ success => ExpireChargingOperations.expireCommand_moves success
  | expireSession =>
    exact Or.inr (Or.inr (moves (atomic_transaction _) fun _ _ success =>
      ExpireChargingOperations.expireSession_moves success))
  | cancelSession =>
    exact Or.inr (Or.inr (moves (atomic_transaction _) fun _ _ success =>
      SessionLifecycleService.cancel_moves success))
  | openReview =>
    exact Or.inr (Or.inr (moves (atomic_transaction _) fun _ _ success =>
      ManualSessionReviewService.openReview_moves success))
  | resolveReview sessionId decision notes adjustments =>
    exact Or.inr (Or.inr
      (ManualSessionReviewService.resolve_moves env sessionId decision notes adjustments s))
  | quote => exact Or.inr (Or.inr .refl)
  | credit subject book reference amount accountId =>
    exact Or.inr (Or.inr (onWallet_moves (.credit subject book reference amount accountId) s
      fun _ success => credit_holds success))
  | setLimit actor accountId type targetId amount =>
    exact Or.inr (Or.inr (onWallet_moves (.setLimit actor accountId type targetId amount) s
      fun _ success => setLimit_holds success))
  | customerStart =>
    unfold perform
    rw [after_discard]
    exact Or.inr (Or.inr (moves (atomic_transaction _) fun _ _ success =>
      CustomerCharging.start_moves success))
  | customerCancel =>
    exact Or.inr (Or.inr (moves (atomic_transaction _) fun _ _ success =>
      CustomerCharging.cancel_moves success))
  | reconcile =>
    exact Or.inr (Or.inr (moves (atomic_transaction _) fun _ _ success =>
      PrepaidChargingMonitor.reconcile_moves success))

theorem moves (env : Environment) (step : Step) (s : Store) :
    Moves ⟨step.Remeasures env s, True, True⟩ s.core (step.next env s).core := by
  rcases refines env step s with rejection | expiry | moves
  · exact .single (.stopRejected trivial rejection)
  · exact .single (.stopExpired trivial expiry)
  · refine Moves.mono ?_ ?_ ?_ moves
    · exact fun late => late
    · exact fun impossible => impossible.elim
    · exact fun impossible => impossible.elim

/-! ### Runs -/

/-- Every step of the run meets the condition in the rows before it. -/
def Along (condition : Environment → Store → Step → Prop) : List (Environment × Step) → Store → Prop
  | [], _ => True
  | (env, step) :: rest, s => condition env s step ∧ Along condition rest (step.next env s)

/-- The condition computed along a run, where a check decides it. -/
def checkAlong (check : Environment → Store → Step → Bool) : List (Environment × Step) → Store → Bool
  | [], _ => true
  | (env, step) :: rest, s => check env s step && checkAlong check rest (step.next env s)

theorem along_of_check {condition : Environment → Store → Step → Prop}
    {check : Environment → Store → Step → Bool}
    (sound : ∀ env s step, check env s step = true → condition env s step)
    (steps : List (Environment × Step)) (s : Store) (passed : checkAlong check steps s = true) :
    Along condition steps s := by
  induction steps generalizing s with
  | nil => trivial
  | cons _ _ ih =>
    simp only [checkAlong, Bool.and_eq_true] at passed
    exact ⟨sound _ _ _ passed.1, ih _ passed.2⟩

/-- What every step that meets the condition keeps holds after a run whose steps all meet it. -/
theorem run_along {condition : Environment → Store → Step → Prop} {P : Store → Prop}
    (keeps : ∀ env step s, condition env s step → P s → P (step.next env s))
    (steps : List (Environment × Step)) (s : Store) (met : Along condition steps s) (holds : P s) :
    P (run steps s) := by
  induction steps generalizing s with
  | nil => exact holds
  | cons _ _ ih => exact ih _ met.2 (keeps _ _ _ met.1 holds)

theorem run_keeps {P : Core → Prop} (start : P Store.empty.core)
    (keeps : ∀ {p : Permits} {c c' : Core}, Move p c c' → P c → P c')
    (steps : List (Environment × Step)) : P (run steps Store.empty).core := by
  refine run_invariant (P := fun s => P s.core) start ?_ steps
  intro env step s holds
  exact (moves env step s).keep keeps holds

theorem sound (steps : List (Environment × Step)) : Sound (run steps Store.empty).core :=
  run_keeps sound_empty sound_move steps

end Step
end VtsaCsms.Charging
