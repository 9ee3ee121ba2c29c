import VtsaCsms.Payments.PaymentIntents

/-!
# Payment amounts

What each call makes of an intent's row, and the calls that leave an intent authorized or
canceled although money was captured. The order of the amounts is a constraint of the table.
-/
namespace VtsaCsms.Payments
open Foundation Foundation.Action

variable {env : Environment} {key : Nat} {s s₁ s₂ : Store} {i : StoredIntent}
  {f : PaymentIntent → PaymentIntent} {g g' : StoredIntent → StoredIntent}
  {answer : Except Throwable PaymentResult}

/-! ### One row changes -/

/-- The row under the key is `g` of what it was, the others are as they were. -/
def Amended (key : Nat) (g : StoredIntent → StoredIntent) (s s' : Store) : Prop :=
  ∀ k, s'.intents.get? k = if k = key then (s.intents.get? key).map g else s.intents.get? k

/-- The row a save leaves; the constraint may refuse it. -/
def amended (f : PaymentIntent → PaymentIntent) (i : StoredIntent) : StoredIntent :=
  if ordered : (f i.1).AmountsOrdered then ⟨f i.1, ordered⟩ else i

theorem amended_ordered (ordered : (f i.1).AmountsOrdered) : (amended f i).1 = f i.1 := by
  unfold amended
  rw [dif_pos ordered]

theorem amended_refused (refused : ¬ (f i.1).AmountsOrdered) : amended f i = i := by
  unfold amended
  rw [dif_neg refused]

namespace Amended

theorem unchanged (same : ∀ i, s.intents.get? key = some i → g i = i) : Amended key g s s := by
  intro k
  split
  · rename_i here
    subst here
    cases stored : s.intents.get? k with
    | none => rfl
    | some i => rw [Option.map_some, same i stored]
  · rfl

theorem absent (missing : s.intents.get? key = none) : Amended key g s s :=
  unchanged fun i stored => by rw [missing] at stored; cases stored

theorem congr (amends : Amended key g s s₁)
    (same : ∀ i, s.intents.get? key = some i → g i = g' i) : Amended key g' s s₁ := by
  intro k
  rw [amends k]
  split
  · cases stored : s.intents.get? key with
    | none => rfl
    | some i => rw [Option.map_some, Option.map_some, same i stored]
  · rfl

theorem found {s' : Store} (stored : s.intents.get? key = some i) (amends : Amended key g s s')
    (same : g i = g' i) : Amended key g' s s' :=
  amends.congr fun j stored' => by
    rw [stored] at stored'
    cases stored'
    exact same

theorem skip (stored : s.intents.get? key = some i) (same : g i = i) : Amended key g s s :=
  unchanged fun j stored' => by
    rw [stored] at stored'
    cases stored'
    exact same

theorem trans (first : Amended key g s s₁) (second : Amended key g' s₁ s₂) :
    Amended key (fun i => g' (g i)) s s₂ := by
  intro k
  rw [second k, first key, first k, if_pos rfl]
  split
  · rw [Option.map_map]
    rfl
  · rfl

theorem intents_eq {s' : Store} (amends : Amended key g s s₁) (same : s'.intents = s₁.intents) :
    Amended key g s s' := by
  intro k
  rw [same]
  exact amends k

end Amended

theorem findIntent_returns (stored : s.intents.get? key = some i) :
    Returns (findIntent key) s i.1 s := by
  unfold findIntent
  rw [returns_bind]
  exact ⟨_, _, rfl, by simp [stored, orThrow]⟩

theorem after_findIntent {α : Type} {rest : PaymentIntent → Pay α}
    (stored : s.intents.get? key = some i) :
    after (findIntent key >>= rest) s = after (rest i.1) s :=
  after_bind_of_returns (findIntent_returns stored)

theorem after_findIntent_missing {α : Type} {rest : PaymentIntent → Pay α}
    (missing : s.intents.get? key = none) : after (findIntent key >>= rest) s = s := by
  have thrown : findIntent key s = (.error (.modelNotFound "PaymentIntent"), s) := by
    simp only [findIntent, Action.read, Bind.bind, missing]
    rfl
  rw [after_bind_of_throws (e := .modelNotFound "PaymentIntent") (by rw [thrown]), after, thrown]

theorem saveIntent_missing (missing : s.intents.get? key = none) : saveIntent key f s = (.ok (), s) := by
  simp only [saveIntent, Action.read, Bind.bind, missing]
  rfl

theorem saveIntent_ordered (stored : s.intents.get? key = some i) (ordered : (f i.1).AmountsOrdered) :
    saveIntent key f s =
      (.ok (), { s with intents := s.intents.update key fun _ => ⟨f i.1, ordered⟩ }) := by
  simp only [saveIntent, Action.read, Bind.bind, stored, dif_pos ordered]
  rfl

theorem saveIntent_refused (stored : s.intents.get? key = some i) (refused : ¬ (f i.1).AmountsOrdered) :
    saveIntent key f s = (.error pay_intent_amounts_chk, s) := by
  simp only [saveIntent, Action.read, Bind.bind, stored, dif_neg refused]
  rfl

theorem saveIntent_amended (key : Nat) (f : PaymentIntent → PaymentIntent) (s : Store) :
    Amended key (amended f) s (after (saveIntent key f) s) := by
  cases stored : s.intents.get? key with
  | none =>
    rw [after, saveIntent_missing stored]
    exact .absent stored
  | some i =>
    by_cases ordered : (f i.1).AmountsOrdered
    · rw [after, saveIntent_ordered stored ordered]
      intro k
      show (s.intents.update key _).get? k = _
      rw [Table.get?_update, stored]
      split
      · rename_i here
        rw [here, stored, Option.map_some, Option.map_some]
        exact congrArg some (Subtype.ext (amended_ordered ordered).symm)
      · rfl
    · rw [after, saveIntent_refused stored ordered]
      refine .unchanged fun j stored' => ?_
      rw [stored] at stored'
      cases stored'
      exact amended_refused ordered

theorem saveIntent_returned {u : Unit} (success : Returns (saveIntent key f) s u s₁) :
    Amended key (amended f) s s₁ := by
  have amends := saveIntent_amended key f s
  rw [after, success] at amends
  exact amends

theorem saveIntent_atomic (key : Nat) (f : PaymentIntent → PaymentIntent) : Atomic (saveIntent key f) := by
  intro s e thrown
  cases stored : s.intents.get? key with
  | none =>
    rw [saveIntent_missing stored] at thrown
    cases thrown
  | some i =>
    by_cases ordered : (f i.1).AmountsOrdered
    · rw [saveIntent_ordered stored ordered] at thrown
      cases thrown
    · rw [saveIntent_refused stored ordered]

theorem applyOperation_amended (operation : ProviderOperation) (amountMinor : Int)
    (result : PaymentResult) :
    Amended key (amended (PaymentIntentService.operated env.now operation amountMinor result)) s
      (after (PaymentIntentService.applyOperation env key operation amountMinor result) s) := by
  have saved := saveIntent_amended key (PaymentIntentService.operated env.now operation amountMinor result) s
  unfold PaymentIntentService.applyOperation
  rcases transaction_cases (saveIntent key
    (PaymentIntentService.operated env.now operation amountMinor result)) s with
    ⟨_, s', returned, run⟩ | ⟨e, thrown, run⟩
  · rw [after, returned] at saved
    rwa [after, run]
  · rw [after, saveIntent_atomic _ _ s e thrown] at saved
    rwa [after, run]

/-! ### What each call makes of its row -/

/-- The payment method of the intent, if any, is still there. -/
def methodFound (env : Environment) (i : PaymentIntent) : Bool :=
  match i.paymentMethodId with
  | none => true
  | some id => (env.requireMethod id).isOk

theorem after_method {rest : Unit → Pay Unit} (i : PaymentIntent) :
    after (method env i >>= rest) s = if methodFound env i = true then after (rest ()) s else s := by
  unfold method methodFound
  cases i.paymentMethodId with
  | none => rfl
  | some id =>
    cases found : env.requireMethod id with
    | ok => simp [after, lift, Bind.bind, found, Except.isOk, Except.toBool]
    | error => simp [after, lift, Bind.bind, found, Except.isOk, Except.toBool]

/-- Changing the state alone is never refused. -/
def restated (state : PaymentIntentState) (i : StoredIntent) : StoredIntent :=
  ⟨{ i.1 with state }, i.2⟩

theorem amended_state (state : PaymentIntentState) (i : StoredIntent) :
    amended (fun i => { i with state }) i = restated state i :=
  Subtype.ext (amended_ordered (f := fun i => { i with state }) (i := i) i.2)

theorem after_restate {rest : Unit → Pay Unit} {state : PaymentIntentState}
    (stored : s.intents.get? key = some i)
    (later : ∀ s', s'.intents.get? key = some (restated state i) → Amended key g s' (after (rest ()) s')) :
    Amended key (fun i => g (restated state i)) s
      (after (saveIntent key (fun i => { i with state }) >>= rest) s) := by
  have run := saveIntent_ordered (f := fun i => { i with state }) stored i.2
  have amends := saveIntent_amended key (fun i => { i with state }) s
  rw [after, run] at amends
  rw [after_bind_of_returns run]
  have moved := amends key
  rw [if_pos rfl, stored, Option.map_some, amended_state] at moved
  refine (amends.trans (later _ moved)).congr ?_
  intro j _
  rw [amended_state]

namespace PaymentIntentService

def settled (env : Environment) (operation : ProviderOperation) (amountMinor : Int)
    (answer : Except Throwable PaymentResult) (i : StoredIntent) : StoredIntent :=
  amended (operated env.now operation amountMinor (call answer)) i

def authorizeRow (env : Environment) (answer : Except Throwable PaymentResult) (i : StoredIntent) :
    StoredIntent :=
  if i.1.state ∈ authorizable ∧ methodFound env i.1 = true then
    settled env .authorize i.1.amountRequestedMinor answer (restated .authorizationPending i)
  else i

def incrementRow (env : Environment) (newTotalMinor : Int) (answer : Except Throwable PaymentResult)
    (i : StoredIntent) : StoredIntent :=
  if i.1.state = .authorized ∧ i.1.amountAuthorizedMinor < newTotalMinor ∧ methodFound env i.1 = true then
    settled env .incrementAuthorization newTotalMinor answer i
  else i

def captureRow (env : Environment) (amountMinor : Int) (answer : Except Throwable PaymentResult)
    (i : StoredIntent) : StoredIntent :=
  if i.1.state ∈ capturable ∧ 0 < amountMinor ∧
      i.1.amountCapturedMinor + amountMinor ≤ i.1.amountAuthorizedMinor then
    if methodFound env i.1 = true then
      settled env .capture amountMinor answer (restated .capturePending i)
    else restated .capturePending i
  else i

def voidRow (env : Environment) (answer : Except Throwable PaymentResult) (i : StoredIntent) :
    StoredIntent :=
  if i.1.state ∈ voidable then
    if methodFound env i.1 = true then
      settled env .void i.1.amountAuthorizedMinor answer (restated .cancelPending i)
    else restated .cancelPending i
  else i

def retrieveRow (env : Environment) (answer : Except Throwable PaymentResult) (i : StoredIntent) :
    StoredIntent :=
  if methodFound env i.1 = true then settled env .retrieve 0 answer i else i

theorem authorize_amended :
    Amended key (authorizeRow env answer) s (after (authorize env key answer) s) := by
  unfold authorize
  cases stored : s.intents.get? key with
  | none =>
    rw [after_findIntent_missing stored]
    exact .absent stored
  | some i =>
    rw [after_findIntent stored]
    by_cases already : i.1.state = .authorized
    · rw [if_pos already]
      have settled' : i.1.state ∉ authorizable := by
        rw [already]
        decide
      exact .skip stored (if_neg fun both => settled' both.1)
    · rw [if_neg already, after_throwIf]
      by_cases allowed : i.1.state ∈ authorizable
      · rw [if_neg (not_not.mpr allowed), after_method]
        by_cases found : methodFound env i.1 = true
        · rw [if_pos found]
          refine .found stored (after_restate stored fun s' _ => applyOperation_amended _ _ _) ?_
          exact (if_pos ⟨allowed, found⟩).symm
        · rw [if_neg found]
          exact .skip stored (if_neg fun both => found both.2)
      · rw [if_pos allowed]
        exact .skip stored (if_neg fun both => allowed both.1)

theorem incrementAuthorization_amended {newTotalMinor : Int} :
    Amended key (incrementRow env newTotalMinor answer) s
      (after (incrementAuthorization env key newTotalMinor answer) s) := by
  unfold incrementAuthorization
  cases stored : s.intents.get? key with
  | none =>
    rw [after_findIntent_missing stored]
    exact .absent stored
  | some i =>
    rw [after_findIntent stored, after_throwIf]
    by_cases refused : i.1.state ≠ .authorized ∨ newTotalMinor ≤ i.1.amountAuthorizedMinor
    · rw [if_pos refused]
      refine .skip stored (if_neg ?_)
      rintro ⟨state, higher, -⟩
      rcases refused with other | lower
      · exact other state
      · omega
    · rw [if_neg refused, after_method]
      push Not at refused
      by_cases found : methodFound env i.1 = true
      · rw [if_pos found]
        refine .found stored (applyOperation_amended _ _ _) ?_
        exact (if_pos ⟨refused.1, refused.2, found⟩).symm
      · rw [if_neg found]
        exact .skip stored (if_neg fun all => found all.2.2)

theorem capture_amended {amountMinor : Int} :
    Amended key (captureRow env amountMinor answer) s (after (capture env key amountMinor answer) s) := by
  unfold capture
  cases stored : s.intents.get? key with
  | none =>
    rw [after_findIntent_missing stored]
    exact .absent stored
  | some i =>
    rw [after_findIntent stored, after_throwIf]
    by_cases allowed : i.1.state ∈ capturable
    · rw [if_neg (not_not.mpr allowed), after_throwIf]
      by_cases excess : amountMinor ≤ 0 ∨
          i.1.amountAuthorizedMinor < i.1.amountCapturedMinor + amountMinor
      · rw [if_pos excess]
        refine .skip stored (if_neg ?_)
        rintro ⟨-, positive, within⟩
        omega
      · rw [if_neg excess]
        push Not at excess
        refine .found stored (after_restate (g := fun j => if methodFound env i.1 = true then
          settled env .capture amountMinor answer j else j) stored ?_) ?_
        · intro s' moved
          rw [after_method]
          by_cases found : methodFound env i.1 = true
          · simp only [if_pos found]
            exact applyOperation_amended _ _ _
          · simp only [if_neg found]
            exact .unchanged fun _ _ => rfl
        · exact (if_pos ⟨allowed, excess.1, excess.2⟩).symm
    · rw [if_pos allowed]
      exact .skip stored (if_neg fun all => allowed all.1)

theorem void_amended : Amended key (voidRow env answer) s (after (void env key answer) s) := by
  unfold void
  cases stored : s.intents.get? key with
  | none =>
    rw [after_findIntent_missing stored]
    exact .absent stored
  | some i =>
    rw [after_findIntent stored, after_throwIf]
    by_cases allowed : i.1.state ∈ voidable
    · rw [if_neg (not_not.mpr allowed)]
      refine .found stored (after_restate (g := fun j => if methodFound env i.1 = true then
        settled env .void i.1.amountAuthorizedMinor answer j else j) stored ?_) ?_
      · intro s' moved
        rw [after_method]
        by_cases found : methodFound env i.1 = true
        · simp only [if_pos found]
          exact applyOperation_amended _ _ _
        · simp only [if_neg found]
          exact .unchanged fun _ _ => rfl
      · exact (if_pos allowed).symm
    · rw [if_pos allowed]
      exact .skip stored (if_neg allowed)

theorem retrieve_amended : Amended key (retrieveRow env answer) s (after (retrieve env key answer) s) := by
  unfold retrieve
  cases stored : s.intents.get? key with
  | none =>
    rw [after_findIntent_missing stored]
    exact .absent stored
  | some i =>
    rw [after_findIntent stored, after_method]
    by_cases found : methodFound env i.1 = true
    · rw [if_pos found]
      exact .found stored (applyOperation_amended _ _ _) (if_pos found).symm
    · rw [if_neg found]
      exact .skip stored (if_neg found)

variable (env s answer) in
theorem refund_amended {amountMinor : Int} {idempotencyKey reasonCode : String} {notes : Option String} :
    ∃ g, Amended key g s (after (refund env key amountMinor idempotencyKey reasonCode notes answer) s) ∧
      ∀ i, g i = i ∨ g i = amended (refunded amountMinor) i := by
  have nothing : ∀ s', s'.intents = s.intents → ∃ g, Amended key g s s' ∧
      ∀ i, g i = i ∨ g i = amended (refunded amountMinor) i := fun s' same =>
    ⟨id, (Amended.unchanged fun _ _ => rfl).intents_eq same, fun _ => Or.inl rfl⟩
  unfold refund
  cases stored : s.intents.get? key with
  | none =>
    rw [after_findIntent_missing stored]
    exact nothing s rfl
  | some i =>
    rw [after_findIntent stored, after_throwIf]
    split
    · exact nothing s rfl
    · rw [after_read]
      split
      · exact nothing s rfl
      · rw [after_read, after_write, after_method]
        split
        · refine after_transaction (P := fun s' : Store => ∃ g, Amended key g s s' ∧
            ∀ i, g i = i ∨ g i = amended (refunded amountMinor) i) (nothing _ rfl) ?_
          intro _ s' success
          rw [returns_ite] at success
          rcases success with ⟨-, success⟩ | ⟨-, success⟩
          · rw [returns_bind] at success
            obtain ⟨_, s₁, saved, success⟩ := success
            simp only [saveRefund, returns_write] at success
            have amends : Amended key (amended (refunded amountMinor)) s s₁ :=
              fun k => saveIntent_returned saved k
            exact ⟨_, amends.intents_eq (by rw [success]), fun _ => Or.inr rfl⟩
          · simp only [saveRefund, returns_write] at success
            exact nothing s' (by rw [success])
        · exact nothing _ rfl

end PaymentIntentService

namespace PaymentWebhookService

variable (env s) in
theorem handle_amended {configuration : String} {verified : Except Throwable VerifiedWebhook} :
    ∃ key g, Amended key g s (after (handle env configuration verified) s) ∧
      ∀ i, g i = i ∨ ∃ event, g i = amended (applyMonotonicStatus env.now event) i := by
  have nothing : ∀ s', s'.intents = s.intents → ∃ key g, Amended key g s s' ∧
      ∀ i, g i = i ∨ ∃ event, g i = amended (applyMonotonicStatus env.now event) i := fun s' same =>
    ⟨0, id, (Amended.unchanged fun _ _ => rfl).intents_eq same, fun _ => Or.inl rfl⟩
  unfold handle
  cases told : verified with
  | error =>
    rw [after_lift_error rfl]
    exact nothing s rfl
  | ok event =>
    rw [after_lift_ok rfl, after_read]
    split
    · exact nothing s rfl
    · refine after_transaction (P := fun s' : Store => ∃ key g, Amended key g s s' ∧
        ∀ i, g i = i ∨ ∃ event, g i = amended (applyMonotonicStatus env.now event) i) (nothing _ rfl) ?_
      intro _ s' success
      rw [returns_bind] at success
      obtain ⟨_, s₁, received, success⟩ := success
      rw [returns_write] at received
      split at success
      · simp only [saveReceipt, returns_write] at success
        exact nothing s' (by rw [success, received])
      · rw [returns_bind] at success
        obtain ⟨found, _, looked, success⟩ := success
        rw [returns_read] at looked
        obtain ⟨-, rfl⟩ := looked
        split at success
        · simp only [saveReceipt, returns_write] at success
          exact nothing s' (by rw [success, received])
        · rename_i key before
          rw [returns_bind] at success
          obtain ⟨_, s₂, saved, success⟩ := success
          simp only [saveReceipt, returns_write] at success
          rw [received] at saved
          have amends : Amended key (amended (applyMonotonicStatus env.now event)) s s₂ :=
            fun k => saveIntent_returned saved k
          exact ⟨key, _, amends.intents_eq (by rw [success]), fun _ => Or.inr ⟨event, rfl⟩⟩

end PaymentWebhookService

theorem PaymentIntentService.create_rows {configuration billableType billableId currency idempotencyKey : String}
    {amountMinor : Int} {paymentMethodId : Option String} {k : Nat} {i : StoredIntent}
    (stored : (after (create env configuration billableType billableId amountMinor currency idempotencyKey
      paymentMethodId) s).intents.get? k = some i) :
    s.intents.get? k = some i ∨ (i.1.amountCapturedMinor = 0 ∧ i.1.state ≠ .authorized) := by
  unfold create at stored
  cases allowed : env.kycAllowed with
  | error =>
    rw [after_lift_error allowed] at stored
    exact Or.inl stored
  | ok =>
    rw [after_lift_ok allowed, after_throwIf] at stored
    split at stored
    · exact Or.inl stored
    · rw [after_read] at stored
      split at stored
      · rw [after_throwIf_only] at stored
        exact Or.inl stored
      · rcases Table.get?_create_cases stored with ⟨-, rfl⟩ | old
        · refine Or.inr ⟨rfl, ?_⟩
          show (if paymentMethodId = none then PaymentIntentState.requiresPaymentMethod else .created) ≠
            .authorized
          split <;> decide
        · exact Or.inl old

theorem PaymentIntentService.create_keeps {configuration billableType billableId currency idempotencyKey : String}
    {amountMinor : Int} {paymentMethodId : Option String} {k : Nat} {i : StoredIntent}
    (stored : s.intents.get? k = some i) :
    (after (create env configuration billableType billableId amountMinor currency idempotencyKey
      paymentMethodId) s).intents.get? k = some i := by
  unfold create
  cases allowed : env.kycAllowed with
  | error =>
    rw [after_lift_error rfl]
    exact stored
  | ok =>
    rw [after_lift_ok rfl, after_throwIf]
    split
    · exact stored
    · rw [after_read]
      split
      · rw [after_throwIf_only]
        exact stored
      · exact Table.get?_create_of_some _ _ stored

/-! ### Honest states -/

/-- Nothing has been captured of an intent that says authorized or canceled. -/
def PaymentIntent.Honest (i : PaymentIntent) : Prop :=
  i.state = .authorized ∨ i.state = .canceled → i.amountCapturedMinor = 0

theorem PaymentIntent.Honest.of_state {i : PaymentIntent} (settled : i.state ≠ .authorized ∧ i.state ≠ .canceled) :
    i.Honest := by
  rintro (authorized | canceled)
  · exact absurd authorized settled.1
  · exact absurd canceled settled.2

theorem PaymentIntent.honest_iff {i : PaymentIntent} (open' : i.state = .authorized ∨ i.state = .canceled) :
    i.Honest ↔ i.amountCapturedMinor = 0 :=
  ⟨fun honest => honest open', fun none' _ => none'⟩

theorem amended_honest (before : i.1.Honest) (after' : (f i.1).AmountsOrdered → (f i.1).Honest) :
    (amended f i).1.Honest := by
  unfold amended
  split
  · rename_i ordered
    exact after' ordered
  · exact before

namespace PaymentIntentService

/-- The answer says that the operation went through, at once. -/
def wentThrough (answer : Except Throwable PaymentResult) : Bool := (call answer).outcome = "succeeded"

/-- The answer says that it did not. -/
def wasRefused (answer : Except Throwable PaymentResult) : Bool :=
  (call answer).outcome ∉ ["outcome_unknown", "succeeded", "requires_action"]

/-- The statuses that stand for an untouched or a returned authorization. -/
def uncaptured : List String := ["authorized", "requires_capture", "canceled"]

variable {amountMinor : Int}

theorem settled_honest {operation : ProviderOperation} (honest : i.1.Honest) :
    (settled env operation amountMinor answer i).1.Honest ↔
      ¬ ((operated env.now operation amountMinor (call answer) i.1).AmountsOrdered ∧
        ¬ (operated env.now operation amountMinor (call answer) i.1).Honest) := by
  unfold settled
  constructor
  · rintro kept ⟨ordered, strays⟩
    rw [amended_ordered ordered] at kept
    exact strays kept
  · intro all
    refine amended_honest honest fun ordered => ?_
    by_contra strays
    exact all ⟨ordered, strays⟩

theorem restated_honest {state : PaymentIntentState} (settled : state ≠ .authorized ∧ state ≠ .canceled) :
    (restated state i).1.Honest :=
  .of_state settled

theorem outcome_cases (answer : Except Throwable PaymentResult) :
    (call answer).outcome = "outcome_unknown" ∨ wasRefused answer = true ∨
      (call answer).outcome = "requires_action" ∨ wentThrough answer = true := by
  unfold wasRefused wentThrough
  simp only [List.mem_cons, List.not_mem_nil, or_false, decide_not, Bool.not_eq_true', decide_eq_false_iff_not,
    decide_eq_true_eq]
  tauto

theorem operated_unknown {operation : ProviderOperation} {i : PaymentIntent}
    (unknown : (call answer).outcome = "outcome_unknown") :
    (operated env.now operation amountMinor (call answer) i).Honest := by
  apply PaymentIntent.Honest.of_state
  unfold operated
  rw [if_pos unknown]
  by_cases capturing : operation = .capture <;> simp [capturing]

theorem operated_refused (env : Environment) (operation : ProviderOperation) (amountMinor : Int) (i : PaymentIntent)
    (refused : wasRefused answer = true) (operates : operation ≠ .refund) :
    (operated env.now operation amountMinor (call answer) i).state =
        (if operation = .capture then .authorized else .failed) ∧
      (operated env.now operation amountMinor (call answer) i).amountCapturedMinor = i.amountCapturedMinor ∧
      ((operated env.now operation amountMinor (call answer) i).AmountsOrdered ↔ i.AmountsOrdered) := by
  unfold wasRefused at refused
  simp only [List.mem_cons, List.not_mem_nil, or_false, not_or, decide_eq_true_eq] at refused
  have failed : (call answer).succeeded = false := by
    unfold PaymentResult.succeeded
    simp [refused.2.1, refused.2.2]
  unfold operated
  rw [if_neg refused.1, if_pos failed]
  refine ⟨?_, rfl, Iff.rfl⟩
  cases operation <;> simp_all

theorem succeeded_of_action (action : (call answer).outcome = "requires_action") :
    (call answer).succeeded = true := by
  unfold PaymentResult.succeeded
  rw [action]
  decide

theorem succeeded_of_through (through : wentThrough answer = true) : (call answer).succeeded = true := by
  unfold wentThrough at through
  unfold PaymentResult.succeeded
  rw [of_decide_eq_true through]
  decide

theorem succeeded_known (succeeded : (call answer).succeeded = true) :
    (call answer).outcome ≠ "outcome_unknown" ∧ ¬ (call answer).succeeded = false ∧ wasRefused answer = false := by
  refine ⟨?_, by simp [succeeded], ?_⟩
  · intro unknown
    unfold PaymentResult.succeeded at succeeded
    rw [unknown] at succeeded
    contradiction
  · unfold PaymentResult.succeeded at succeeded
    unfold wasRefused
    simp only [List.mem_cons, List.not_mem_nil, or_false, decide_eq_true_eq] at succeeded
    rcases succeeded with through | action
    · rw [through]
      decide
    · rw [action]
      decide

theorem operated_authorized (env : Environment) (operation : ProviderOperation) (amountMinor : Int) (i : PaymentIntent)
    (authorizes : operation = .authorize ∨ operation = .incrementAuthorization)
    (through : wentThrough answer = true) :
    (operated env.now operation amountMinor (call answer) i).state = .authorized ∧
      (operated env.now operation amountMinor (call answer) i).amountCapturedMinor = i.amountCapturedMinor ∧
      ((operated env.now operation amountMinor (call answer) i).AmountsOrdered ↔
        i.amountCapturedMinor ≤ amountMinor ∧ i.amountRefundedMinor ≤ i.amountCapturedMinor) := by
  have known := succeeded_known (succeeded_of_through through)
  have immediate : ¬ (call answer).outcome = "requires_action" := by
    unfold wentThrough at through
    rw [of_decide_eq_true through]
    decide
  unfold operated
  rw [if_neg known.1, if_neg known.2.1]
  rcases authorizes with rfl | rfl <;>
  · simp only [if_neg immediate]
    exact ⟨trivial, trivial, Iff.rfl⟩

theorem operated_action (env : Environment) (operation : ProviderOperation) (amountMinor : Int) (i : PaymentIntent)
    (authorizes : operation = .authorize ∨ operation = .incrementAuthorization)
    (action : (call answer).outcome = "requires_action") :
    (operated env.now operation amountMinor (call answer) i).state = .requiresAction := by
  have known := succeeded_known (succeeded_of_action action)
  unfold operated
  rw [if_neg known.1, if_neg known.2.1]
  rcases authorizes with rfl | rfl <;> simp only [if_pos action]

theorem operated_captured {i : PaymentIntent} (succeeded : (call answer).succeeded = true) :
    (operated env.now .capture amountMinor (call answer) i).Honest := by
  have known := succeeded_known succeeded
  apply PaymentIntent.Honest.of_state
  unfold operated
  rw [if_neg known.1, if_neg known.2.1]
  by_cases all : i.amountCapturedMinor + amountMinor = i.amountAuthorizedMinor <;> simp [all]

theorem operated_voided (env : Environment) (amountMinor : Int) (i : PaymentIntent)
    (succeeded : (call answer).succeeded = true) :
    (operated env.now .void amountMinor (call answer) i).state = .canceled ∧
      (operated env.now .void amountMinor (call answer) i).amountCapturedMinor = i.amountCapturedMinor ∧
      ((operated env.now .void amountMinor (call answer) i).AmountsOrdered ↔ i.AmountsOrdered) := by
  have known := succeeded_known succeeded
  unfold operated
  rw [if_neg known.1, if_neg known.2.1]
  exact ⟨rfl, rfl, Iff.rfl⟩

theorem retrievedChanges_honest {now : Instant} {result : PaymentResult} {i : PaymentIntent}
    (ordered : i.AmountsOrdered) (honest : i.Honest) :
    ((retrievedChanges now result i).AmountsOrdered ∧ ¬ (retrievedChanges now result i).Honest) ↔
      result.providerStatus ∈ uncaptured ∧ i.amountCapturedMinor ≠ 0 := by
  have settled : ∀ {j : PaymentIntent}, j.Honest → result.providerStatus ∉ uncaptured →
      ((j.AmountsOrdered ∧ ¬ j.Honest) ↔ result.providerStatus ∈ uncaptured ∧ i.amountCapturedMinor ≠ 0) :=
    fun kept other => ⟨fun both => absurd kept both.2, fun both => absurd both.1 other⟩
  obtain ⟨captured, refunded⟩ := ordered
  unfold retrievedChanges
  split
  · rename_i authorized
    have told : result.providerStatus ∈ uncaptured := by
      simp only [List.mem_cons, List.not_mem_nil, or_false] at authorized
      rcases authorized with told | told <;> simp [uncaptured, told]
    simp only [told, true_and, PaymentIntent.AmountsOrdered, PaymentIntent.Honest, true_or, forall_const]
    constructor
    · exact fun both => both.2
    · exact fun some' => ⟨⟨le_trans captured (le_max_left _ _), refunded⟩, some'⟩
  · rename_i notAuthorized
    simp only [List.mem_cons, List.not_mem_nil, or_false, not_or] at notAuthorized
    have others : result.providerStatus ≠ "canceled" → result.providerStatus ∉ uncaptured := by
      intro notCanceled member
      simp only [uncaptured, List.mem_cons, List.not_mem_nil, or_false] at member
      rcases member with told | told | told
      · exact notAuthorized.1 told
      · exact notAuthorized.2 told
      · exact notCanceled told
    split
    · rename_i told
      refine settled (.of_state ⟨by simp, by simp⟩) (others ?_)
      rintro canceled
      rw [canceled] at told
      simp at told
    · split
      · rename_i told
        exact settled (.of_state ⟨by simp, by simp⟩) (others (by rw [told]; decide))
      · split
        · rename_i told
          exact settled (.of_state ⟨by simp, by simp⟩) (others (by rw [told]; decide))
        · split
          · rename_i told
            simp only [told, PaymentIntent.AmountsOrdered, PaymentIntent.Honest, or_true, forall_const]
            constructor
            · exact fun both => ⟨by decide, both.2⟩
            · exact fun both => ⟨⟨captured, refunded⟩, both.2⟩
          · rename_i notCanceled
            split
            · exact settled (.of_state ⟨by simp, by simp⟩) (others notCanceled)
            · exact settled honest (others notCanceled)

theorem operated_retrieved {i : PaymentIntent} (ordered : i.AmountsOrdered)
    (honest : i.Honest) (succeeded : (call answer).succeeded = true) :
    ((operated env.now .retrieve amountMinor (call answer) i).AmountsOrdered ∧
      ¬ (operated env.now .retrieve amountMinor (call answer) i).Honest) ↔
      (call answer).providerStatus ∈ uncaptured ∧ i.amountCapturedMinor ≠ 0 := by
  have known := succeeded_known succeeded
  unfold operated
  rw [if_neg known.1, if_neg known.2.1]
  exact retrievedChanges_honest ordered honest

/-! ### The calls that stray -/

theorem honest_of_reached {reached : Prop} [Decidable reached] {strays : Prop} {j : StoredIntent}
    (honest : i.1.Honest) (settled : reached → (j.1.Honest ↔ ¬ strays)) :
    (if reached then j else i).1.Honest ↔ ¬ (reached ∧ strays) := by
  by_cases here : reached
  · rw [if_pos here, settled here]
    simp [here]
  · rw [if_neg here]
    simp [here, honest]

theorem authorizeRow_honest (honest : i.1.Honest) :
    (authorizeRow env answer i).1.Honest ↔
      ¬ ((i.1.state ∈ authorizable ∧ methodFound env i.1 = true) ∧ wentThrough answer = true ∧
        i.1.amountCapturedMinor ≠ 0 ∧ i.1.amountCapturedMinor ≤ i.1.amountRequestedMinor) := by
  unfold authorizeRow
  refine honest_of_reached honest fun _ => ?_
  rw [settled_honest (restated_honest ⟨by decide, by decide⟩), not_iff_not]
  rcases outcome_cases answer with unknown | refused | action | through
  · refine iff_of_false (fun both => both.2 (operated_unknown unknown)) ?_
    rintro ⟨through, -⟩
    exact (succeeded_known (succeeded_of_through through)).1 unknown
  · have failed := (operated_refused env .authorize i.1.amountRequestedMinor
      (restated .authorizationPending i).1 refused (by decide)).1
    refine iff_of_false (fun both => both.2 (.of_state ?_)) ?_
    · rw [failed]
      decide
    · rintro ⟨through, -⟩
      rw [(succeeded_known (succeeded_of_through through)).2.2] at refused
      contradiction
  · have pending := operated_action env .authorize i.1.amountRequestedMinor
      (restated .authorizationPending i).1 (Or.inl rfl) action
    refine iff_of_false (fun both => both.2 (.of_state ?_)) ?_
    · rw [pending]
      decide
    · rintro ⟨through, -⟩
      unfold wentThrough at through
      rw [action] at through
      contradiction
  · obtain ⟨state, captured, ordered⟩ := operated_authorized env .authorize
      i.1.amountRequestedMinor (restated .authorizationPending i).1 (Or.inl rfl) through
    rw [PaymentIntent.honest_iff (Or.inl state), captured, ordered]
    constructor
    · exact fun both => ⟨through, both.2, both.1.1⟩
    · exact fun all => ⟨⟨all.2.2, i.2.2⟩, all.2.1⟩

theorem incrementRow_honest {newTotalMinor : Int} (honest : i.1.Honest) :
    (incrementRow env newTotalMinor answer i).1.Honest := by
  unfold incrementRow
  split
  · rename_i reached
    have untouched := honest (Or.inl reached.1)
    rw [settled_honest honest]
    rintro ⟨-, strays⟩
    apply strays
    rcases outcome_cases answer with unknown | refused | action | through
    · exact operated_unknown unknown
    · intro _
      rw [(operated_refused _ _ _ _ refused (by decide)).2.1, untouched]
    · apply PaymentIntent.Honest.of_state
      rw [operated_action _ _ _ _ (Or.inr rfl) action]
      decide
    · intro _
      rw [(operated_authorized _ _ _ _ (Or.inr rfl) through).2.1, untouched]
  · exact honest

theorem captureRow_honest (honest : i.1.Honest) : (captureRow env amountMinor answer i).1.Honest ↔
      ¬ ((i.1.state ∈ capturable ∧ 0 < amountMinor ∧
          i.1.amountCapturedMinor + amountMinor ≤ i.1.amountAuthorizedMinor) ∧
        methodFound env i.1 = true ∧ wasRefused answer = true ∧ i.1.amountCapturedMinor ≠ 0) := by
  unfold captureRow
  refine honest_of_reached honest fun _ => ?_
  refine honest_of_reached (restated_honest ⟨by decide, by decide⟩) fun _ => ?_
  rw [settled_honest (restated_honest ⟨by decide, by decide⟩), not_iff_not]
  have unrefused : ∀ {c : Prop}, (call answer).succeeded = true → ¬ (wasRefused answer = true ∧ c) := by
    rintro c succeeded ⟨refused, -⟩
    rw [(succeeded_known succeeded).2.2] at refused
    contradiction
  rcases outcome_cases answer with unknown | refused | action | through
  · refine iff_of_false (fun both => both.2 (operated_unknown unknown)) ?_
    rintro ⟨refused, -⟩
    unfold wasRefused at refused
    rw [unknown] at refused
    contradiction
  · obtain ⟨state, captured, ordered⟩ := operated_refused env .capture amountMinor
      (restated .capturePending i).1 refused (by decide)
    rw [PaymentIntent.honest_iff (Or.inl state), captured, ordered]
    constructor
    · exact fun both => ⟨refused, both.2⟩
    · exact fun both => ⟨i.2, both.2⟩
  · exact iff_of_false (fun both => both.2 (operated_captured (succeeded_of_action action)))
      (unrefused (succeeded_of_action action))
  · exact iff_of_false (fun both => both.2 (operated_captured (succeeded_of_through through)))
      (unrefused (succeeded_of_through through))

theorem voidRow_honest (honest : i.1.Honest) :
    (voidRow env answer i).1.Honest ↔
      ¬ (i.1.state ∈ voidable ∧ methodFound env i.1 = true ∧ (call answer).succeeded = true ∧
        i.1.amountCapturedMinor ≠ 0) := by
  unfold voidRow
  refine honest_of_reached honest fun _ => ?_
  refine honest_of_reached (restated_honest ⟨by decide, by decide⟩) fun _ => ?_
  rw [settled_honest (restated_honest ⟨by decide, by decide⟩), not_iff_not]
  by_cases succeeded : (call answer).succeeded = true
  · obtain ⟨state, captured, ordered⟩ := operated_voided env
      i.1.amountAuthorizedMinor (restated .cancelPending i).1 succeeded
    rw [PaymentIntent.honest_iff (Or.inr state), captured, ordered]
    constructor
    · exact fun both => ⟨succeeded, both.2⟩
    · exact fun both => ⟨i.2, both.2⟩
  · refine iff_of_false (fun both => both.2 ?_) fun both => succeeded both.1
    rcases outcome_cases answer with unknown | refused | action | through
    · exact operated_unknown unknown
    · apply PaymentIntent.Honest.of_state
      rw [(operated_refused _ _ _ _ refused (by decide)).1]
      decide
    · exact absurd (succeeded_of_action action) succeeded
    · exact absurd (succeeded_of_through through) succeeded

theorem retrieveRow_honest (honest : i.1.Honest) :
    (retrieveRow env answer i).1.Honest ↔
      ¬ (methodFound env i.1 = true ∧ (call answer).succeeded = true ∧
        (call answer).providerStatus ∈ uncaptured ∧ i.1.amountCapturedMinor ≠ 0) := by
  unfold retrieveRow
  refine honest_of_reached honest fun _ => ?_
  rw [settled_honest honest, not_iff_not]
  by_cases succeeded : (call answer).succeeded = true
  · rw [operated_retrieved i.2 honest succeeded]
    simp [succeeded]
  · refine iff_of_false (fun both => both.2 ?_) fun all => succeeded all.1
    rcases outcome_cases answer with unknown | refused | action | through
    · exact operated_unknown unknown
    · apply PaymentIntent.Honest.of_state
      rw [(operated_refused _ _ _ _ refused (by decide)).1]
      decide
    · exact absurd (succeeded_of_action action) succeeded
    · exact absurd (succeeded_of_through through) succeeded

theorem refunded_honest (i : PaymentIntent) : (refunded amountMinor i).Honest := by
  apply PaymentIntent.Honest.of_state
  unfold refunded
  by_cases all : i.amountRefundedMinor + amountMinor = i.amountCapturedMinor <;> simp [all]

end PaymentIntentService

theorem PaymentWebhookService.applyMonotonicStatus_honest {now : Instant} {event : VerifiedWebhook}
    {i : PaymentIntent} (honest : i.Honest) (captured : 0 ≤ i.amountCapturedMinor) :
    (applyMonotonicStatus now event i).Honest := by
  unfold applyMonotonicStatus
  dsimp only
  split
  · exact honest
  · split
    · split
      · exact honest
      · intro _
        show i.amountCapturedMinor = 0
        omega
    · split
      · apply PaymentIntent.Honest.of_state
        constructor <;> (simp only []; split <;> decide)
      · split
        · exact .of_state ⟨by simp, by simp⟩
        · split
          · exact .of_state ⟨by simp, by simp⟩
          · split
            · split
              · exact .of_state ⟨by simp, by simp⟩
              · exact honest
            · split
              · split
                · exact honest
                · intro _
                  show i.amountCapturedMinor = 0
                  omega
              · exact honest

/-! ### No capture is taken back -/

theorem amended_captures (grows : i.1.amountCapturedMinor ≤ (f i.1).amountCapturedMinor) :
    i.1.amountCapturedMinor ≤ (amended f i).1.amountCapturedMinor := by
  unfold amended
  split
  · exact grows
  · exact le_refl _

namespace PaymentIntentService

theorem retrievedChanges_captured {now : Instant} {result : PaymentResult} {i : PaymentIntent} :
    i.amountCapturedMinor ≤ (retrievedChanges now result i).amountCapturedMinor := by
  unfold retrievedChanges
  repeat' split
  all_goals first | exact le_refl _ | exact le_max_left _ _

variable {amountMinor : Int}

theorem operated_captures {operation : ProviderOperation} {result : PaymentResult}
    {i : PaymentIntent} (positive : operation = .capture → 0 < amountMinor) :
    i.amountCapturedMinor ≤ (operated env.now operation amountMinor result i).amountCapturedMinor := by
  unfold operated
  split
  · exact le_refl _
  · split
    · exact le_refl _
    · cases operation with
      | authorize | incrementAuthorization =>
        simp only
        split <;> exact le_refl _
      | capture =>
        have more := positive rfl
        show i.amountCapturedMinor ≤ i.amountCapturedMinor + amountMinor
        omega
      | retrieve => exact retrievedChanges_captured
      | _ => exact le_refl _

theorem settled_captures {operation : ProviderOperation} (positive : operation = .capture → 0 < amountMinor) :
    i.1.amountCapturedMinor ≤ (settled env operation amountMinor answer i).1.amountCapturedMinor :=
  amended_captures (operated_captures positive)

theorem authorizeRow_captures :
    i.1.amountCapturedMinor ≤ (authorizeRow env answer i).1.amountCapturedMinor := by
  unfold authorizeRow
  split
  · exact settled_captures (i := restated .authorizationPending i) fun capturing => by cases capturing
  · exact le_refl _

theorem incrementRow_captures {newTotalMinor : Int} :
    i.1.amountCapturedMinor ≤ (incrementRow env newTotalMinor answer i).1.amountCapturedMinor := by
  unfold incrementRow
  split
  · exact settled_captures fun capturing => by cases capturing
  · exact le_refl _

theorem captureRow_captures :
    i.1.amountCapturedMinor ≤ (captureRow env amountMinor answer i).1.amountCapturedMinor := by
  unfold captureRow
  split
  · rename_i within
    split
    · exact settled_captures (i := restated .capturePending i) fun _ => within.2.1
    · exact le_refl _
  · exact le_refl _

theorem voidRow_captures : i.1.amountCapturedMinor ≤ (voidRow env answer i).1.amountCapturedMinor := by
  unfold voidRow
  split
  · split
    · exact settled_captures (i := restated .cancelPending i) fun capturing => by cases capturing
    · exact le_refl _
  · exact le_refl _

theorem retrieveRow_captures : i.1.amountCapturedMinor ≤ (retrieveRow env answer i).1.amountCapturedMinor := by
  unfold retrieveRow
  split
  · exact settled_captures fun capturing => by cases capturing
  · exact le_refl _

end PaymentIntentService

theorem PaymentWebhookService.applyMonotonicStatus_captures {now : Instant} {event : VerifiedWebhook}
    {i : PaymentIntent} : i.amountCapturedMinor ≤ (applyMonotonicStatus now event i).amountCapturedMinor := by
  unfold applyMonotonicStatus
  dsimp only
  repeat' split
  all_goals first | exact le_refl _ | exact le_max_left _ _

/-! ### Runs -/

/-- Every stored intent has the property. -/
def AllIntents (P : PaymentIntent → Prop) (s : Store) : Prop :=
  ∀ key i, s.intents.get? key = some i → P i.1

theorem Amended.all {P : PaymentIntent → Prop} (amends : Amended key g s s₁) (before : AllIntents P s) :
    AllIntents P s₁ ↔ ∀ i, s.intents.get? key = some i → P (g i).1 := by
  constructor
  · intro all i stored
    refine all key (g i) ?_
    rw [amends key, if_pos rfl, stored, Option.map_some]
  · intro changed k j stored
    rw [amends k] at stored
    split at stored
    · obtain ⟨i, old, rfl⟩ := Option.map_eq_some_iff.mp stored
      exact changed i old
    · exact before k j stored

namespace Step
open PaymentIntentService PaymentWebhookService

/-- The call leaves an intent authorized or canceled of which something was captured: the row
is reached by the call's checks, the provider answers so, and nothing looks at the capture. -/
def Strays (env : Environment) (step : Step) (s : Store) : Prop :=
  match step with
  | authorize key answer => ∃ i, s.intents.get? key = some i ∧
      (i.1.state ∈ authorizable ∧ methodFound env i.1 = true) ∧ wentThrough answer = true ∧
        i.1.amountCapturedMinor ≠ 0 ∧ i.1.amountCapturedMinor ≤ i.1.amountRequestedMinor
  | capture key amountMinor answer => ∃ i, s.intents.get? key = some i ∧
      (i.1.state ∈ capturable ∧ 0 < amountMinor ∧
        i.1.amountCapturedMinor + amountMinor ≤ i.1.amountAuthorizedMinor) ∧
      methodFound env i.1 = true ∧ wasRefused answer = true ∧ i.1.amountCapturedMinor ≠ 0
  | void key answer => ∃ i, s.intents.get? key = some i ∧
      i.1.state ∈ voidable ∧ methodFound env i.1 = true ∧ (call answer).succeeded = true ∧
        i.1.amountCapturedMinor ≠ 0
  | retrieve key answer => ∃ i, s.intents.get? key = some i ∧
      methodFound env i.1 = true ∧ (call answer).succeeded = true ∧
        (call answer).providerStatus ∈ uncaptured ∧ i.1.amountCapturedMinor ≠ 0
  | _ => False

/-- A new intent has captured nothing, and of the others no call takes a capture back. -/
theorem next_captures (call : Environment × Step) (s : Store) {k : Nat} {j : StoredIntent}
    (stored : (next call s).intents.get? k = some j) :
    (s.intents.get? k = none ∧ j.1.amountCapturedMinor = 0) ∨
      ∃ i, s.intents.get? k = some i ∧ i.1.amountCapturedMinor ≤ j.1.amountCapturedMinor := by
  -- one row is amended, and its capture does not shrink
  have amends : ∀ {key g s'}, Amended key g s s' → s'.intents.get? k = some j →
      (∀ i, i.1.amountCapturedMinor ≤ (g i).1.amountCapturedMinor) →
      ∃ i, s.intents.get? k = some i ∧ i.1.amountCapturedMinor ≤ j.1.amountCapturedMinor := by
    intro key g s' amends stored grows
    rw [amends k] at stored
    split at stored
    · rename_i here
      obtain ⟨i, old, rfl⟩ := Option.map_eq_some_iff.mp stored
      subst here
      exact ⟨i, old, grows i⟩
    · exact ⟨j, stored, le_refl _⟩
  obtain ⟨env, step⟩ := call
  cases step with
  | create =>
    cases old : s.intents.get? k with
    | some i =>
      have kept := Option.some.inj (stored.symm.trans (create_keeps old))
      exact Or.inr ⟨i, rfl, by rw [kept]⟩
    | none =>
      rcases create_rows stored with same | ⟨none', -⟩
      · rw [old] at same
        contradiction
      · exact Or.inl ⟨rfl, none'⟩
  | authorize => exact Or.inr (amends authorize_amended stored fun _ => authorizeRow_captures)
  | incrementAuthorization =>
    exact Or.inr (amends incrementAuthorization_amended stored fun _ => incrementRow_captures)
  | capture => exact Or.inr (amends capture_amended stored fun _ => captureRow_captures)
  | void => exact Or.inr (amends void_amended stored fun _ => voidRow_captures)
  | retrieve => exact Or.inr (amends retrieve_amended stored fun _ => retrieveRow_captures)
  | refund _ _ _ _ _ answer =>
    obtain ⟨g, refunds, rows⟩ := refund_amended env s answer
    refine Or.inr (amends refunds stored fun i => ?_)
    rcases rows i with same | changed
    · rw [same]
    · rw [changed]
      exact amended_captures (le_refl _)
  | webhook =>
    obtain ⟨key, g, notified, rows⟩ := handle_amended env s
    refine Or.inr (amends notified stored fun i => ?_)
    rcases rows i with same | ⟨event, changed⟩
    · rw [same]
    · rw [changed]
      exact amended_captures applyMonotonicStatus_captures

theorem next_captured (call : Environment × Step) (s : Store)
    (before : AllIntents (fun i => 0 ≤ i.amountCapturedMinor) s) :
    AllIntents (fun i => 0 ≤ i.amountCapturedMinor) (next call s) := by
  intro k j stored
  rcases next_captures call s stored with ⟨-, none'⟩ | ⟨i, old, grows⟩
  · omega
  · exact le_trans (before k i old) grows

theorem honest_next {g : StoredIntent → StoredIntent} {strays : StoredIntent → Prop}
    (amends : Amended key g s s₁) (before : AllIntents PaymentIntent.Honest s)
    (exact' : ∀ i, s.intents.get? key = some i → ((g i).1.Honest ↔ ¬ strays i)) :
    AllIntents PaymentIntent.Honest s₁ ↔ ¬ ∃ i, s.intents.get? key = some i ∧ strays i := by
  rw [amends.all before]
  constructor
  · rintro kept ⟨i, stored, strayed⟩
    exact (exact' i stored).mp (kept i stored) strayed
  · intro none' i stored
    exact (exact' i stored).mpr fun strayed => none' ⟨i, stored, strayed⟩

theorem next_honest (call : Environment × Step) (s : Store)
    (captured : AllIntents (fun i => 0 ≤ i.amountCapturedMinor) s)
    (before : AllIntents PaymentIntent.Honest s) :
    AllIntents PaymentIntent.Honest (next call s) ↔ ¬ call.2.Strays call.1 s := by
  obtain ⟨env, step⟩ := call
  have always : ∀ {s' : Store}, AllIntents PaymentIntent.Honest s' →
      (AllIntents PaymentIntent.Honest s' ↔ ¬ False) := fun kept => ⟨fun _ => id, fun _ => kept⟩
  cases step with
  | create =>
    refine always fun k i stored => ?_
    rcases create_rows stored with old | ⟨none', -⟩
    · exact before k i old
    · exact fun _ => none'
  | authorize key answer =>
    exact honest_next authorize_amended before fun i stored => authorizeRow_honest (before key i stored)
  | incrementAuthorization key =>
    exact always ((incrementAuthorization_amended.all before).mpr fun i stored =>
      incrementRow_honest (before key i stored))
  | capture key amountMinor answer =>
    exact honest_next capture_amended before fun i stored => captureRow_honest (before key i stored)
  | void key answer =>
    exact honest_next void_amended before fun i stored => voidRow_honest (before key i stored)
  | retrieve key answer =>
    exact honest_next retrieve_amended before fun i stored => retrieveRow_honest (before key i stored)
  | refund key _ _ _ _ answer =>
    obtain ⟨g, amends, rows⟩ := refund_amended env s answer
    refine always ((amends.all before).mpr fun i stored => ?_)
    rcases rows i with same | changed
    · rw [same]
      exact before key i stored
    · rw [changed]
      exact amended_honest (before key i stored) fun _ => refunded_honest i.1
  | webhook =>
    obtain ⟨key, g, amends, rows⟩ := handle_amended env s
    refine always ((amends.all before).mpr fun i stored => ?_)
    rcases rows i with same | ⟨event, changed⟩
    · rw [same]
      exact before key i stored
    · rw [changed]
      exact amended_honest (before key i stored) fun _ =>
        applyMonotonicStatus_honest (before key i stored) (captured key i stored)

/-- The amounts are in order and the state does not deny a capture. -/
def InOrder (s : Store) : Prop :=
  AllIntents (fun i => i.amountRefundedMinor ≤ i.amountCapturedMinor ∧
    i.amountCapturedMinor ≤ i.amountAuthorizedMinor ∧
    (i.state = .authorized ∨ i.state = .canceled → i.amountCapturedMinor = 0)) s

theorem inOrder_iff (s : Store) : InOrder s ↔ AllIntents PaymentIntent.Honest s :=
  ⟨fun all k i stored => (all k i stored).2.2, fun all k i stored => ⟨i.2.2, i.2.1, all k i stored⟩⟩

/-- A run keeps amounts and states in order exactly as long as none of its calls strays: while
something is captured, no authorization comes through, no capture is refused, no void succeeds
and no provider reports an uncaptured authorization. -/
theorem payments_in_order_iff (calls : List (Environment × Step)) :
    Runs.Throughout next InOrder calls Store.empty ↔
      Runs.Met next (fun call s => ¬ call.2.Strays call.1 s) calls Store.empty := by
  have empty : ∀ P : PaymentIntent → Prop, AllIntents P Store.empty := fun P k i stored => by cases stored
  refine Runs.throughout_iff_met next_captured ?_ calls Store.empty (empty _)
    ((inOrder_iff _).mpr (empty _))
  intro call s captured before
  rw [inOrder_iff] at before ⊢
  exact next_honest call s captured before

/-- A hundred is authorized; forty of it are captured, thirty more are refused. -/
def refusedRun : List (Environment × Step) :=
  let env : Environment := ⟨0, .ok (), fun _ => .ok ()⟩
  [(env, .create "P" "charging_session" "S" 100 "PHP" "intent-1" none),
    (env, .authorize 0 (.ok ⟨"succeeded", "authorized", some "ref", none, none⟩)),
    (env, .capture 0 40 (.ok ⟨"succeeded", "captured", some "ref", none, none⟩)),
    (env, .capture 0 30 (.ok ⟨"failed", "capture_failed", some "ref", none, none⟩))]

/-- The intent is authorized again, with forty captured. -/
theorem capture_refused_after_capture : ¬ ∀ calls, Runs.Throughout next InOrder calls Store.empty := by
  intro all
  have stored : ((Runs.reached next refusedRun Store.empty).intents.get? 0).any (fun i =>
      i.1.state = .authorized ∧ i.1.amountCapturedMinor = 40) = true := by decide +kernel
  obtain ⟨i, found, facts⟩ := (Option.any_eq_true _ _).mp stored
  have facts := of_decide_eq_true facts
  have none' := ((all refusedRun).last 0 i found).2.2 (Or.inl facts.1)
  omega

end Step
end VtsaCsms.Payments
