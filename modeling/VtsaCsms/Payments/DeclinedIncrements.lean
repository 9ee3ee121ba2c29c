import VtsaCsms.Payments.PaymentAmounts

/-!
# Declined increments

`ChargingPaymentCollector.php` raises the authorization of a session's intent to the final total and
captures what is missing. An increment that the provider declines, or whose outcome is unknown,
takes the authorization that is in force out of reach; a declined capture leaves the intent
authorized.
-/
namespace VtsaCsms.Payments
open Foundation Foundation.Action PaymentIntentService

/-- The provider's answers to a final charge. -/
structure Attempt where
  environment : Environment
  incremented : Except Throwable PaymentResult
  captured : Except Throwable PaymentResult

/-- `PaymentFactsQuery::findForBillable` for a charging session. -/
def Store.intentOf (s : Store) (sessionId : String) : Option (Nat × StoredIntent) :=
  s.intents.last? fun _ i => i.1.billableType = "charging_session" && i.1.billableId = sessionId

namespace ChargingPaymentCollector

def collectable : List PaymentIntentState := [.authorized, .partiallyCaptured]

/-- The capture of what is missing, once the authorization covers it. -/
def captureConfirmed (attempt : Attempt) (key : Nat) (totalMinor : Int) : Pay PaymentIntent := do
  let intent ← findIntent key
  throwIf (intent.state ∉ collectable)
    (.invalidArgument "Final charge cannot be captured until authorization is confirmed.")
  doIf (0 < totalMinor - intent.amountCapturedMinor)
    (capture attempt.environment key (totalMinor - intent.amountCapturedMinor) attempt.captured)
  findIntent key

/-- The intent as it is after the capture. -/
def captureFinalCharge (attempt : Attempt) (sessionId : String) (totalMinor : Int) : Pay (Nat × PaymentIntent) := do
  let fact ← read fun s => s.intentOf sessionId
  let found ← orThrow fact (.invalidArgument "Charging payment intent was not found.")
  doIf (found.2.1.amountAuthorizedMinor < totalMinor)
    (incrementAuthorization attempt.environment found.1 totalMinor attempt.incremented)
  let intent ← captureConfirmed attempt found.1 totalMinor
  pure (found.1, intent)

end ChargingPaymentCollector
open ChargingPaymentCollector

variable {env : Environment} {key : Nat} {s s' : Store} {i : StoredIntent}
  {answer : Except Throwable PaymentResult} {newTotalMinor : Int}

/-- Every amount up to this one can be captured, whatever the provider answers then. -/
def CapturableTo (key : Nat) (amountMinor : Int) (s : Store) : Prop :=
  ∀ (env : Environment) (a : Int) (answer : Except Throwable PaymentResult),
    (∀ i, s.intents.get? key = some i → methodFound env i.1 = true) → 0 < a → a ≤ amountMinor →
    ∃ s', Returns (capture env key a answer) s () s'

/-- No charge of the session can be collected. -/
def Uncollectable (key : Nat) (s : Store) : Prop :=
  ∀ (attempt : Attempt) (sessionId : String) (totalMinor : Int) (i : StoredIntent),
    s.intentOf sessionId = some (key, i) →
    ∃ e s', Throws (captureFinalCharge attempt sessionId totalMinor) s e s'

theorem capture_refused (env : Environment) (amountMinor : Int) (answer : Except Throwable PaymentResult)
    (stored : s.intents.get? key = some i) (state : i.1.state ∉ capturable) :
    ∃ e, Throws (capture env key amountMinor answer) s e s := by
  unfold PaymentIntentService.capture
  exact ⟨_, .after_returns (findIntent_returns stored) (Throws.throwIf state).bind⟩

theorem uncollectable_of_state (stored : s.intents.get? key = some i) (state : i.1.state ∉ capturable) :
    Uncollectable key s := by
  intro attempt sessionId totalMinor j found
  have same := (Table.last?_some found).1
  rw [stored] at same
  cases same
  have states : i.1.state ∉ collectable ∧ i.1.state ≠ .authorized := by
    unfold collectable
    unfold capturable at state
    simp only [List.mem_cons, List.not_mem_nil, or_false, not_or] at state ⊢
    exact ⟨⟨state.1, state.2.1⟩, state.1⟩
  have fact : Returns (read fun s : Store => s.intentOf sessionId : Pay _) s (some (key, i)) s :=
    (returns_read ..).mpr ⟨found.symm, rfl⟩
  unfold captureFinalCharge
  by_cases covered : totalMinor ≤ i.1.amountAuthorizedMinor
  · obtain ⟨e, thrown⟩ : ∃ e, Throws (captureConfirmed attempt key totalMinor) s e s := by
      unfold captureConfirmed
      exact ⟨_, .after_returns (findIntent_returns stored) (Throws.throwIf states.1).bind⟩
    refine ⟨e, s, .after_returns fact (.after_returns ((returns_orThrow ..).mpr ⟨rfl, rfl⟩) ?_)⟩
    exact .after_returns (.skip (not_lt.mpr covered)) thrown.bind
  · obtain ⟨e, thrown⟩ : ∃ e, Throws
        (incrementAuthorization attempt.environment key totalMinor attempt.incremented) s e s := by
      unfold incrementAuthorization
      exact ⟨_, .after_returns (findIntent_returns stored) (Throws.throwIf (Or.inl states.2)).bind⟩
    refine ⟨e, s, .after_returns fact (.after_returns ((returns_orThrow ..).mpr ⟨rfl, rfl⟩) (Throws.bind ?_))⟩
    exact .doIf (not_le.mp covered) thrown

theorem method_kept {u : Unit} {i : PaymentIntent} (returned : Returns (method env i) s u s') : s' = s := by
  unfold method at returned
  split at returned
  · exact ((returns_pure ..).mp returned).2
  · exact ((returns_lift ..).mp returned).2

theorem operated_declined (env : Environment) (newTotalMinor : Int) (i : PaymentIntent)
    (declined : (call answer).succeeded = false) :
    (operated env.now .incrementAuthorization newTotalMinor (call answer) i).amountAuthorizedMinor =
        i.amountAuthorizedMinor ∧
      (operated env.now .incrementAuthorization newTotalMinor (call answer) i).state ∉ capturable := by
  unfold operated
  by_cases unknown : (call answer).outcome = "outcome_unknown"
  · rw [if_pos unknown]
    exact ⟨rfl, by simp [capturable]⟩
  · rw [if_neg unknown, if_pos declined]
    exact ⟨rfl, by simp [capturable]⟩

/-- An increment that does not go through leaves the amount, in a state nothing is captured in. -/
theorem incrementAuthorization_declined (stored : s.intents.get? key = some i)
    (returned : Returns (incrementAuthorization env key newTotalMinor answer) s () s')
    (declined : (call answer).succeeded = false) :
    ∃ j : StoredIntent, s'.intents.get? key = some j ∧
      j.1.amountAuthorizedMinor = i.1.amountAuthorizedMinor ∧ j.1.state ∉ capturable := by
  unfold incrementAuthorization at returned
  obtain ⟨_, _, read, checked⟩ := (returns_bind ..).mp returned
  obtain ⟨rfl, rfl⟩ := read.unique (findIntent_returns stored)
  obtain ⟨_, _, guard, operates⟩ := (returns_bind ..).mp checked
  obtain ⟨-, rfl⟩ := (returns_throwIf ..).mp guard
  obtain ⟨_, _, found, applied⟩ := (returns_bind ..).mp operates
  cases method_kept found
  unfold applyOperation at applied
  rw [returns_transaction] at applied
  obtain ⟨authorized, state⟩ := operated_declined env newTotalMinor i.1 declined
  by_cases ordered : (operated env.now .incrementAuthorization newTotalMinor (call answer) i.1).AmountsOrdered
  · obtain ⟨-, rfl⟩ := applied.unique (saveIntent_ordered stored ordered)
    exact ⟨⟨_, ordered⟩, by rw [Table.get?_update_self, stored, Option.map_some], authorized, state⟩
  · have refused := saveIntent_refused stored ordered
    cases applied.symm.trans refused

/-- After an increment that is declined or unknown, the authorization can be captured only if there is none, and
no final charge can be collected. -/
theorem declined_increment_capturable_iff (stored : s.intents.get? key = some i)
    (returned : Returns (incrementAuthorization env key newTotalMinor answer) s () s')
    (declined : (call answer).succeeded = false) :
    (CapturableTo key i.1.amountAuthorizedMinor s' ↔ i.1.amountAuthorizedMinor ≤ 0) ∧ Uncollectable key s' := by
  obtain ⟨j, kept, amount, state⟩ := incrementAuthorization_declined stored returned declined
  refine ⟨⟨fun capturable => ?_, fun none env a answer _ positive within => ?_⟩, uncollectable_of_state kept state⟩
  · by_contra positive
    have unhindered : ∀ i, s'.intents.get? key = some i →
        methodFound ⟨0, .ok (), fun _ => .ok ()⟩ i.1 = true := by
      intro i _
      unfold methodFound
      split <;> rfl
    obtain ⟨s'', captured⟩ := capturable ⟨0, .ok (), fun _ => .ok ()⟩ i.1.amountAuthorizedMinor answer unhindered
      (not_le.mp positive) (le_refl _)
    obtain ⟨e, thrown⟩ := capture_refused ⟨0, .ok (), fun _ => .ok ()⟩ i.1.amountAuthorizedMinor answer kept state
    cases captured.symm.trans thrown
  · exact absurd (positive.trans_le within) (not_lt.mpr none)

def authorizedHundred : List (Environment × Step) :=
  let env : Environment := ⟨0, .ok (), fun _ => .ok ()⟩
  [(env, .create "P" "charging_session" "S" 100 "PHP" "intent-1" none),
    (env, .authorize 0 (.ok ⟨"succeeded", "authorized", some "ref", none, none⟩))]

def declinedIncrement : Pay Unit :=
  incrementAuthorization ⟨0, .ok (), fun _ => .ok ()⟩ 0 150 (.ok ⟨"failed", "declined", some "ref", none, none⟩)

theorem declinedIncrement_returns : ∃ (s : Store) (i : StoredIntent) (s' : Store),
    s.intents.get? 0 = some i ∧ i.1.amountAuthorizedMinor = 100 ∧ Returns declinedIncrement s () s' := by
  have facts : ((Runs.reached Step.next authorizedHundred Store.empty).intents.get? 0).any (fun i =>
        i.1.amountAuthorizedMinor = 100) = true ∧
      (declinedIncrement (Runs.reached Step.next authorizedHundred Store.empty)).1.toBool = true := by decide +kernel
  obtain ⟨i, stored, amount⟩ := (Option.any_eq_true _ _).mp facts.1
  exact ⟨_, i, _, stored, of_decide_eq_true amount, returns_of_toBool facts.2⟩

theorem declined_increment_capturable_hundred : ∃ (i : StoredIntent) (s' : Store),
    i.1.amountAuthorizedMinor = 100 ∧
    (CapturableTo 0 i.1.amountAuthorizedMinor s' ↔ i.1.amountAuthorizedMinor ≤ 0) ∧ Uncollectable 0 s' := by
  obtain ⟨s, i, s', stored, amount, returned⟩ := declinedIncrement_returns
  exact ⟨i, s', amount, declined_increment_capturable_iff stored returned rfl⟩

/-- Nothing of the hundred can be captured any more. -/
theorem declined_increment_strands : ¬ ∀ env key newTotalMinor answer s (i : StoredIntent) s',
    s.intents.get? key = some i → Returns (incrementAuthorization env key newTotalMinor answer) s () s' →
    (call answer).succeeded = false → CapturableTo key i.1.amountAuthorizedMinor s' := by
  intro always
  obtain ⟨s, i, s', stored, amount, returned⟩ := declinedIncrement_returns
  obtain ⟨j, kept, -, state⟩ := incrementAuthorization_declined stored returned rfl
  obtain ⟨s'', captured⟩ := always _ _ _ _ s i s' stored returned rfl ⟨0, .ok (), fun _ => .ok ()⟩ 100
    (.ok ⟨"succeeded", "captured", some "ref", none, none⟩) (fun i _ => by unfold methodFound; split <;> rfl)
    (by decide) (le_of_eq amount.symm)
  obtain ⟨e, thrown⟩ := capture_refused ⟨0, .ok (), fun _ => .ok ()⟩ 100
    (.ok ⟨"succeeded", "captured", some "ref", none, none⟩) kept state
  cases captured.symm.trans thrown

end VtsaCsms.Payments
