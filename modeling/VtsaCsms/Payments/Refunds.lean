import VtsaCsms.Payments.PaymentAmounts

/-!
# Refunds

What the refunds of an intent lay claim to, and the refunds that claim more than was captured.
A refund whose outcome is unknown keeps its claim; `amount_refunded_minor` does not count it.
-/
namespace VtsaCsms.Payments
open Foundation Foundation.Action

variable {env : Environment} {key : Nat} {s s' : Store} {i : StoredIntent}
  {answer : Except Throwable PaymentResult} {amountMinor : Int} {idempotencyKey reasonCode : String}
  {notes : Option String}

/-- The money was returned, or may have been. -/
def PaymentRefund.Outstanding (r : PaymentRefund) : Prop :=
  r.state ∈ ["pending", "completed", "outcome_unknown"]
  deriving Decidable

/-- What a refund claims of an intent. -/
def PaymentRefund.claimOn (key : Nat) (r : PaymentRefund) : Int :=
  if r.paymentIntentId = key ∧ r.Outstanding then r.amountMinor else 0

/-- What all refunds together claim of an intent. -/
def refundClaims (s : Store) (key : Nat) : Int := s.refunds.sumOver fun _ r => r.claimOn key

/-- No intent's refunds claim more than was captured of it. -/
def RefundsCovered (s : Store) : Prop :=
  ∀ key i, s.intents.get? key = some i → refundClaims s key ≤ i.1.amountCapturedMinor

/-- Every refund is one of a stored intent. -/
def RefundsPlaced (s : Store) : Prop :=
  ∀ id r, s.refunds.get? id = some r → ∃ i, s.intents.get? r.paymentIntentId = some i

/-! ### The refund table -/

theorem keeps_findIntent : Keeps Store.refunds (findIntent key) :=
  (keeps_read _).bind fun _ => (keeps_orThrow _ _).bind fun _ => keeps_pure _

theorem keeps_saveIntent {f : PaymentIntent → PaymentIntent} : Keeps Store.refunds (saveIntent key f) := by
  refine (keeps_read _).bind fun stored => ?_
  cases stored with
  | none => exact keeps_pure _
  | some i =>
    by_cases ordered : (f i.1).AmountsOrdered
    · simp only [dif_pos ordered]
      exact keeps_write fun _ => rfl
    · simp only [dif_neg ordered]
      exact keeps_raise _

theorem keeps_method {i : PaymentIntent} : Keeps Store.refunds (method env i) := by
  unfold method
  cases i.paymentMethodId with
  | none => exact keeps_pure _
  | some => exact keeps_lift _

theorem keeps_applyOperation {operation : ProviderOperation} {result : PaymentResult} :
    Keeps Store.refunds (PaymentIntentService.applyOperation env key operation amountMinor result) :=
  keeps_saveIntent.transaction

namespace Step
open PaymentIntentService PaymentWebhookService

theorem keeps_refunds {step : Step}
    (other : ∀ key amountMinor idempotencyKey reasonCode notes answer,
      step ≠ refund key amountMinor idempotencyKey reasonCode notes answer) :
    Keeps Store.refunds (step.perform env) := by
  cases step with
  | create =>
    refine (keeps_lift _).bind fun _ => (keeps_throwIf _ _).bind fun _ => (keeps_read _).bind fun existing => ?_
    cases existing with
    | none => exact keeps_write fun _ => rfl
    | some => exact keeps_throwIf _ _
  | authorize =>
    refine keeps_findIntent.bind fun intent => (keeps_pure _).ite ?_
    exact (keeps_throwIf _ _).bind fun _ => keeps_method.bind fun _ => keeps_saveIntent.bind fun _ =>
      keeps_applyOperation
  | incrementAuthorization =>
    exact keeps_findIntent.bind fun intent => (keeps_throwIf _ _).bind fun _ => keeps_method.bind fun _ =>
      keeps_applyOperation
  | capture =>
    exact keeps_findIntent.bind fun intent => (keeps_throwIf _ _).bind fun _ => (keeps_throwIf _ _).bind fun _ =>
      keeps_saveIntent.bind fun _ => keeps_method.bind fun _ => keeps_applyOperation
  | void =>
    exact keeps_findIntent.bind fun intent => (keeps_throwIf _ _).bind fun _ => keeps_saveIntent.bind fun _ =>
      keeps_method.bind fun _ => keeps_applyOperation
  | refund key amountMinor idempotencyKey reasonCode notes answer =>
    exact absurd rfl (other key amountMinor idempotencyKey reasonCode notes answer)
  | retrieve =>
    exact keeps_findIntent.bind fun intent => keeps_method.bind fun _ => keeps_applyOperation
  | webhook =>
    refine (keeps_lift _).bind fun event => (keeps_read _).bind fun existing => ?_
    cases existing with
    | some => exact keeps_pure _
    | none =>
      apply Keeps.transaction
      apply Keeps.bind
      · exact keeps_write fun _ => rfl
      · intro _
        cases event.resourceReference with
        | none => exact keeps_write fun _ => rfl
        | some =>
          refine (keeps_read _).bind fun found => ?_
          cases found with
          | none => exact keeps_write fun _ => rfl
          | some => exact keeps_saveIntent.bind fun _ => keeps_write fun _ => rfl

end Step

/-! ### What a refund does -/

namespace PaymentIntentService

/-- The refund is for no more than is left by the refunds that went through, under a key of its own. -/
def Refundable (s : Store) (i : StoredIntent) (amountMinor : Int) (idempotencyKey : String) : Prop :=
  0 < amountMinor ∧ amountMinor ≤ i.1.amountCapturedMinor - i.1.amountRefundedMinor ∧
    s.refunds.first? (fun _ r => r.idempotencyKey = idempotencyKey) = none

/-- The provider was asked and said no. -/
def Declined (env : Environment) (i : StoredIntent) (answer : Except Throwable PaymentResult) : Prop :=
  methodFound env i.1 = true ∧ (call answer).succeeded = false ∧ (call answer).outcome ≠ "outcome_unknown"

variable (env reasonCode notes answer) in
theorem refund_refused
    (refused : ∀ i, s.intents.get? key = some i → ¬ Refundable s i amountMinor idempotencyKey) :
    after (refund env key amountMinor idempotencyKey reasonCode notes answer) s = s := by
  unfold refund
  cases stored : s.intents.get? key with
  | none => rw [after_findIntent_missing stored]
  | some i =>
    rw [after_findIntent stored, after_throwIf]
    split
    · rfl
    · rename_i within
      rw [after_read]
      cases used : s.refunds.first? fun _ r => decide (r.idempotencyKey = idempotencyKey) with
      | some => rfl
      | none => exact absurd ⟨by omega, by omega, used⟩ (refused i stored)

theorem saveRefund_returns {id : Nat} {f : PaymentRefund → PaymentRefund} :
    Returns (saveRefund id f) s () { s with refunds := s.refunds.update id f } := rfl

variable (env reasonCode notes answer) in
theorem refund_rows (stored : s.intents.get? key = some i)
    (refundable : Refundable s i amountMinor idempotencyKey) :
    ∃ r : PaymentRefund, (after (refund env key amountMinor idempotencyKey reasonCode notes answer) s).refunds =
        s.refunds.create r ∧
      r.paymentIntentId = key ∧ r.amountMinor = amountMinor ∧ (r.Outstanding ↔ ¬ Declined env i answer) := by
  obtain ⟨positive, within, unused⟩ := refundable
  unfold refund
  rw [after_findIntent stored, after_throwIf, if_neg (by omega), after_read, unused]
  simp only
  rw [after_read, after_write, after_method]
  by_cases found : methodFound env i.1 = true
  · rw [if_pos found]
    by_cases succeeded : (call answer).succeeded = true
    · have ordered : (refunded amountMinor i.1).AmountsOrdered := by
        refine ⟨i.2.1, ?_⟩
        show i.1.amountRefundedMinor + amountMinor ≤ i.1.amountCapturedMinor
        omega
      rw [if_pos succeeded, Returns.after_eq ((returns_transaction _ _ _ _).mpr
        ((returns_bind _ _ _ _ _).mpr ⟨_, _,
          saveIntent_ordered (s := { s with refunds := s.refunds.create _ }) stored ordered,
          saveRefund_returns⟩))]
      simp only [Table.update_create]
      refine ⟨_, rfl, rfl, rfl, ?_⟩
      simp [PaymentRefund.Outstanding, Declined, succeeded]
    · rw [if_neg succeeded, Returns.after_eq ((returns_transaction _ _ _ _).mpr saveRefund_returns)]
      simp only [Table.update_create]
      refine ⟨_, rfl, rfl, rfl, ?_⟩
      by_cases unknown : (call answer).outcome = "outcome_unknown" <;>
        simp [PaymentRefund.Outstanding, Declined, found, succeeded, unknown]
  · rw [if_neg found]
    exact ⟨_, rfl, rfl, rfl, (by simp [PaymentRefund.Outstanding, Declined, found])⟩

end PaymentIntentService

/-! ### Runs -/

theorem Amended.stored {g : StoredIntent → StoredIntent} {k : Nat} {j : StoredIntent}
    (amends : Amended key g s s') (stored : s.intents.get? k = some j) :
    ∃ j', s'.intents.get? k = some j' := by
  rw [amends k]
  split
  · rename_i here
    rw [← here, stored]
    exact ⟨g j, rfl⟩
  · exact ⟨j, stored⟩

namespace Step
open PaymentIntentService PaymentWebhookService

theorem next_stored (call : Environment × Step) {k : Nat} {j : StoredIntent}
    (stored : s.intents.get? k = some j) : ∃ j', (next call s).intents.get? k = some j' := by
  obtain ⟨env, step⟩ := call
  cases step with
  | create =>
    exact ⟨j, create_keeps stored⟩
  | authorize => exact authorize_amended.stored stored
  | incrementAuthorization => exact incrementAuthorization_amended.stored stored
  | capture => exact capture_amended.stored stored
  | void => exact void_amended.stored stored
  | retrieve => exact retrieve_amended.stored stored
  | refund _ _ _ _ _ answer =>
    obtain ⟨g, amends, -⟩ := refund_amended env s answer
    exact amends.stored stored
  | webhook =>
    obtain ⟨key, g, amends, -⟩ := handle_amended env s
    exact amends.stored stored

/-- The refund passes the checks, is not declined, and claims more than the other claims leave:
the check counts only what went through. -/
def OverRefunds (env : Environment) (step : Step) (s : Store) : Prop :=
  match step with
  | refund key amountMinor idempotencyKey _ _ answer => ∃ i, s.intents.get? key = some i ∧
      PaymentIntentService.Refundable s i amountMinor idempotencyKey ∧ ¬ Declined env i answer ∧
      i.1.amountCapturedMinor < refundClaims s key + amountMinor
  | _ => False

theorem refundClaims_create {r : PaymentRefund} (entered : s'.refunds = s.refunds.create r) (k : Nat) :
    refundClaims s' k = refundClaims s k + r.claimOn k := by
  unfold refundClaims
  rw [entered, Table.sumOver_create]

theorem next_refunds (call : Environment × Step) (s : Store) :
    (next call s).refunds = s.refunds ∨ ∃ r key i, s.intents.get? key = some i ∧
      r.paymentIntentId = key ∧ (next call s).refunds = s.refunds.create r := by
  obtain ⟨env, step⟩ := call
  by_cases refunding : ∃ key amountMinor idempotencyKey reasonCode notes answer,
      step = refund key amountMinor idempotencyKey reasonCode notes answer
  · obtain ⟨key, amountMinor, idempotencyKey, reasonCode, notes, answer, rfl⟩ := refunding
    by_cases refundable : ∃ i, s.intents.get? key = some i ∧
        PaymentIntentService.Refundable s i amountMinor idempotencyKey
    · obtain ⟨i, stored, refundable⟩ := refundable
      obtain ⟨r, entered, placed, -, -⟩ := refund_rows env answer reasonCode notes
        stored refundable
      exact Or.inr ⟨r, key, i, stored, placed, entered⟩
    · refine Or.inl (congrArg Store.refunds (refund_refused env answer reasonCode notes
        fun i stored refundable' => ?_))
      exact refundable ⟨i, stored, refundable'⟩
  · refine Or.inl (keeps_refunds ?_ s)
    intro key amountMinor idempotencyKey reasonCode notes answer same
    exact refunding ⟨key, amountMinor, idempotencyKey, reasonCode, notes, answer, same⟩

theorem next_placed (call : Environment × Step) (s : Store) (before : RefundsPlaced s) :
    RefundsPlaced (next call s) := by
  intro id r stored
  rcases next_refunds call s with same | ⟨q, key, i, intent, placed, entered⟩
  · rw [same] at stored
    obtain ⟨i, intent⟩ := before id r stored
    exact next_stored call intent
  · rw [entered] at stored
    rcases Table.get?_create_cases stored with ⟨-, rfl⟩ | old
    · rw [placed]
      exact next_stored call intent
    · obtain ⟨i, intent⟩ := before id r old
      exact next_stored call intent

theorem refundClaims_fresh {k : Nat} (placed : RefundsPlaced s) (fresh : s.intents.get? k = none) :
    refundClaims s k = 0 := by
  have none' : ∀ id r, s.refunds.get? id = some r → r.claimOn k = 0 := by
    intro id r stored
    unfold PaymentRefund.claimOn
    rw [if_neg]
    rintro ⟨here, -⟩
    obtain ⟨i, intent⟩ := placed id r stored
    rw [here, fresh] at intent
    contradiction
  unfold refundClaims
  rw [Table.sumOver_congr _ none', Table.sumOver_zero]

theorem covered_of_unrefunded (call : Environment × Step) (placed : RefundsPlaced s)
    (before : RefundsCovered s) (same : (next call s).refunds = s.refunds) :
    RefundsCovered (next call s) := by
  have claims : ∀ k, refundClaims (next call s) k = refundClaims s k := by
    intro k
    unfold refundClaims
    rw [same]
  intro k j stored
  rw [claims k]
  rcases next_captures call s stored with ⟨fresh, none'⟩ | ⟨i, old, grows⟩
  · rw [refundClaims_fresh placed fresh, none']
  · exact le_trans (before k i old) grows

theorem refund_captured {k : Nat} {j : StoredIntent}
    (stored : (after (PaymentIntentService.refund env key amountMinor idempotencyKey reasonCode notes answer)
      s).intents.get? k = some j) :
    ∃ i, s.intents.get? k = some i ∧ j.1.amountCapturedMinor = i.1.amountCapturedMinor := by
  obtain ⟨g, amends, rows⟩ := refund_amended env s answer
  rw [amends k] at stored
  split at stored
  · rename_i here
    obtain ⟨i, old, rfl⟩ := Option.map_eq_some_iff.mp stored
    refine ⟨i, by rw [here, old], ?_⟩
    rcases rows i with same | changed
    · rw [same]
    · rw [changed]
      unfold amended
      split <;> rfl
  · exact ⟨j, stored, rfl⟩

theorem refund_covered (stored : s.intents.get? key = some i)
    (refundable : PaymentIntentService.Refundable s i amountMinor idempotencyKey) (before : RefundsCovered s) :
    RefundsCovered (after (PaymentIntentService.refund env key amountMinor idempotencyKey reasonCode notes
      answer) s) ↔ Declined env i answer ∨ refundClaims s key + amountMinor ≤ i.1.amountCapturedMinor := by
  obtain ⟨r, entered, placed, amount, counts⟩ := refund_rows env answer reasonCode notes
    stored refundable
  have claims := refundClaims_create entered
  have other : ∀ k, k ≠ key → r.claimOn k = 0 := by
    intro k different
    unfold PaymentRefund.claimOn
    rw [if_neg fun both => different (both.1.symm.trans placed)]
  constructor
  · intro covered
    by_cases declined : Declined env i answer
    · exact Or.inl declined
    · have own : r.claimOn key = amountMinor := by
        unfold PaymentRefund.claimOn
        rw [if_pos ⟨placed, counts.mpr declined⟩, amount]
      obtain ⟨j, kept⟩ := next_stored (env, refund key amountMinor idempotencyKey reasonCode notes answer)
        stored
      obtain ⟨i', old, same⟩ := refund_captured kept
      have within := covered key j kept
      rw [stored] at old
      cases old
      rw [claims key, own, same] at within
      exact Or.inr within
  · rintro within k j kept
    obtain ⟨i', old, same⟩ := refund_captured kept
    have within' := before k i' old
    rw [claims k, same]
    by_cases here : k = key
    · subst here
      rw [stored] at old
      cases old
      unfold PaymentRefund.claimOn
      split
      · rename_i own
        rcases within with declined | within
        · exact absurd declined (counts.mp own.2)
        · rw [amount]
          exact within
      · omega
    · rw [other k here]
      omega

theorem next_covered (call : Environment × Step) (s : Store) (placed : RefundsPlaced s)
    (before : RefundsCovered s) : RefundsCovered (next call s) ↔ ¬ call.2.OverRefunds call.1 s := by
  obtain ⟨env, step⟩ := call
  by_cases refunding : ∃ key amountMinor idempotencyKey reasonCode notes answer,
      step = refund key amountMinor idempotencyKey reasonCode notes answer
  · obtain ⟨key, amountMinor, idempotencyKey, reasonCode, notes, answer, rfl⟩ := refunding
    by_cases refundable : ∃ i, s.intents.get? key = some i ∧
        PaymentIntentService.Refundable s i amountMinor idempotencyKey
    · obtain ⟨i, stored, refundable⟩ := refundable
      refine (refund_covered stored refundable before).trans ?_
      constructor
      · rintro within ⟨i', stored', -, counted, excess⟩
        rw [stored] at stored'
        cases stored'
        rcases within with declined | within
        · exact counted declined
        · omega
      · intro kept
        by_contra excess
        push Not at excess
        exact kept ⟨i, stored, refundable, excess.1, excess.2⟩
    · have same := refund_refused env answer reasonCode notes
        fun i stored refundable' => refundable ⟨i, stored, refundable'⟩
      have covered : RefundsCovered (next (env, refund key amountMinor idempotencyKey reasonCode notes
          answer) s) := by
        show RefundsCovered (after _ s)
        rw [perform, same]
        exact before
      refine ⟨fun _ => ?_, fun _ => covered⟩
      rintro ⟨i, stored, refundable', -⟩
      exact refundable ⟨i, stored, refundable'⟩
  · have other : ∀ key amountMinor idempotencyKey reasonCode notes answer,
        step ≠ refund key amountMinor idempotencyKey reasonCode notes answer := by
      intro key amountMinor idempotencyKey reasonCode notes answer same
      exact refunding ⟨key, amountMinor, idempotencyKey, reasonCode, notes, answer, same⟩
    have covered := covered_of_unrefunded (env, step) placed before (keeps_refunds other s)
    refine ⟨fun _ excess => ?_, fun _ => covered⟩
    cases step with
    | refund => exact other _ _ _ _ _ _ rfl
    | _ => exact excess

/-- A run never claims more in refunds than was captured exactly as long as no refund that is
entered asks for more than the refunds before it leave, the undecided ones included. -/
theorem refunds_covered_iff (calls : List (Environment × Step)) :
    Runs.Throughout next RefundsCovered calls Store.empty ↔
      Runs.Met next (fun call s => ¬ call.2.OverRefunds call.1 s) calls Store.empty := by
  refine Runs.throughout_iff_met next_placed next_covered calls Store.empty ?_ ?_
  · intro id r stored
    cases stored
  · intro key i stored
    cases stored

/-- A hundred is captured; two refunds of all of it are asked for, and neither answer arrives. -/
def undecidedRun : List (Environment × Step) :=
  let env : Environment := ⟨0, .ok (), fun _ => .ok ()⟩
  let unknown : Except Throwable PaymentResult := .ok ⟨"outcome_unknown", "timeout", none, none, none⟩
  [(env, .create "P" "charging_session" "S" 100 "PHP" "intent-1" none),
    (env, .authorize 0 (.ok ⟨"succeeded", "authorized", some "ref", none, none⟩)),
    (env, .capture 0 100 (.ok ⟨"succeeded", "captured", some "ref", none, none⟩)),
    (env, .refund 0 100 "refund-1" "requested_by_customer" none unknown),
    (env, .refund 0 100 "refund-2" "requested_by_customer" none unknown)]

/-- Both refunds may have been made. -/
theorem undecided_refunds_exceed : ¬ ∀ calls, Runs.Throughout next RefundsCovered calls Store.empty := by
  intro all
  have stored : ((Runs.reached next undecidedRun Store.empty).intents.get? 0).any (fun i =>
      i.1.amountCapturedMinor < refundClaims (Runs.reached next undecidedRun Store.empty) 0) = true := by
    decide +kernel
  obtain ⟨i, found, excess⟩ := (Option.any_eq_true _ _).mp stored
  have within := (all undecidedRun).last 0 i found
  have excess := of_decide_eq_true excess
  omega

end Step
end VtsaCsms.Payments
