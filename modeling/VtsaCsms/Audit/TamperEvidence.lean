import Mathlib.Logic.Equiv.List
import VtsaCsms.Audit.AuditChain
import VtsaCsms.Foundation.JsonText

/-!
# What the last hash holds fast

`AuditChainVerifier::verify` on any rows of a tenant, whoever wrote them: a JSON column may hold any text. Two sets of
rows that both pass and end in the same content hash tell the same history, as the `array` cast reads it.
-/
namespace VtsaCsms.Audit
open Foundation

/-- SHA-256 of the previous hash, a line break and the JSON text; `number` writes what has a fraction or an exponent. -/
def Php.onTexts (php : Php) (number : Rat → String) (sha256 : String → String) : Php :=
  { php with sha256 := fun previousHash json => sha256 (previousHash ++ "\n" ++ json.text number) }

def castNullable (json : Option Json) : Mixed := (json.map Json.jsonDecode).getD .null

/-- The payload of any row. -/
def AuditEvent.stored (event : AuditEvent) : Payload := { event.payload with
  changes := event.changes.jsonDecode
  before := castNullable event.before
  after := castNullable event.after
  metadata := event.metadata.jsonDecode }

/-- The loop of `verify`, on the events that are left. -/
def passesFrom (php : Php) (previousHash : Option String) : List AuditEvent → Bool
  | [] => true
  | event :: rest =>
    if event.previousHash ≠ previousHash then false
    else if hash php previousHash (event.stored.toMixed php) ≠ some event.contentHash then false
    else passesFrom php (some event.contentHash) rest

def passes (php : Php) (events : List AuditEvent) : Bool := passesFrom php none (oldest events)

/-- Where the columns hold what was written, nothing is lost and this is the verifier of the recorded rows. -/
theorem passes_eq_verify (php : Php) (events : List AuditEvent) (kept : ∀ e ∈ events, e.stored = e.payload) :
    passes php events = verify php events := by
  have general : ∀ (previousHash : Option String) (rows : List AuditEvent), (∀ e ∈ rows, e.stored = e.payload) →
      passesFrom php previousHash rows = verifyFrom php previousHash rows := by
    intro previousHash rows all
    induction rows generalizing previousHash with
    | nil => rfl
    | cons event rest ih =>
      rw [passesFrom, verifyFrom, all event List.mem_cons_self,
        ih (some event.contentHash) fun e member => all e (List.mem_cons_of_mem event member)]
  exact general none _ fun e member => kept e (mem_oldest.mp member)

section
variable (php : Php) (number : Rat → String)

/-- The same recorded fields, JSON columns as they are cast. -/
structure Agree (a b : AuditEvent) : Prop where
  tenantId : a.tenantId = b.tenantId
  occurredAt : a.occurredAt = b.occurredAt
  actorType : a.actorType = b.actorType
  actorId : a.actorId = b.actorId
  action : a.action = b.action
  targetType : a.targetType = b.targetType
  targetId : a.targetId = b.targetId
  result : a.result = b.result
  reason : a.reason = b.reason
  changes : Mixed.Same php.plain number a.changes.jsonDecode b.changes.jsonDecode
  before : Mixed.Same php.plain number (castNullable a.before) (castNullable b.before)
  after : Mixed.Same php.plain number (castNullable a.after) (castNullable b.after)
  metadata : Mixed.Same php.plain number a.metadata.jsonDecode b.metadata.jsonDecode
  sourceIp : a.sourceIp = b.sourceIp
  userAgent : a.userAgent = b.userAgent
  correlationId : a.correlationId = b.correlationId

end

variable {php : Php} {number : Rat → String} {sha256 : String → String}

/-! ### One event -/

theorem text_inj {s t : Option String} (same : Mixed.Same php.plain number (text s) (text t)) : s = t := by
  cases s with
  | none =>
    cases t with
    | none => rfl
    | some t =>
      cases same with
      | number isDigits => cases isDigits
  | some s =>
    cases t with
    | none =>
      cases same with
      | number isDigits => cases isDigits
    | some t => rw [same.string_inj]

theorem ActorType.value_inj {s t : ActorType} (same : s.value = t.value) : s = t := by
  cases s <;> cases t <;> first | rfl | exact absurd same (by decide)

theorem AuditResult.value_inj {s t : AuditResult} (same : s.value = t.value) : s = t := by
  cases s <;> cases t <;> first | rfl | exact absurd same (by decide)

theorem agree_of_same (format : ∀ s t, php.format s = php.format t → s = t) {a b : AuditEvent}
    (same : Mixed.Same php.plain number (a.stored.toMixed php) (b.stored.toMixed php)) : Agree php number a b := by
  unfold Payload.toMixed at same
  have fields := same.fields rfl (by simp)
  simp only [List.forall₂_cons, List.forall₂_nil_left_iff, and_true] at fields
  obtain ⟨tenantId, occurredAt, actorType, actorId, action, targetType, targetId, result, reason, changes, before,
    after, metadata, sourceIp, userAgent, correlationId⟩ := fields
  exact {
    tenantId := tenantId.string_inj
    occurredAt := format _ _ occurredAt.string_inj
    actorType := ActorType.value_inj actorType.string_inj
    actorId := text_inj actorId
    action := action.string_inj
    targetType := targetType.string_inj
    targetId := text_inj targetId
    result := AuditResult.value_inj result.string_inj
    reason := text_inj reason
    changes := changes
    before := before
    after := after
    metadata := metadata
    sourceIp := text_inj sourceIp
    userAgent := text_inj userAgent
    correlationId := correlationId.string_inj }

def Matches (php : Php) (event : AuditEvent) : Prop :=
  hash php event.previousHash (event.stored.toMixed php) = some event.contentHash

theorem passesFrom_iff (previousHash : Option String) (events : List AuditEvent) :
    passesFrom php previousHash events = true ↔ Linked previousHash events ∧ ∀ e ∈ events, Matches php e := by
  induction events generalizing previousHash with
  | nil => simp [passesFrom, Linked]
  | cons event rest ih =>
    rw [passesFrom, Linked]
    by_cases linked : event.previousHash = previousHash
    · by_cases hashed : hash php previousHash (event.stored.toMixed php) = some event.contentHash
      · have own : Matches php event := by
          rw [Matches, linked]
          exact hashed
        rw [if_neg (not_not.mpr linked), if_neg (not_not.mpr hashed), ih, List.forall_mem_cons]
        exact ⟨fun holds => ⟨⟨linked, holds.1⟩, own, holds.2⟩, fun holds => ⟨holds.1.2, holds.2.2⟩⟩
      · rw [if_neg (not_not.mpr linked), if_pos hashed]
        refine ⟨fun holds => (by cases holds), fun holds => absurd ?_ hashed⟩
        rw [← linked]
        exact holds.2 event List.mem_cons_self
    · rw [if_pos linked]
      exact ⟨fun holds => (by cases holds), fun holds => absurd holds.1.1 linked⟩

/-! ### The chain -/

section
variable (numbers : ∀ q, Numeric (number q).toList) (format : ∀ s t, php.format s = php.format t → s = t)
  (collisionFree : ∀ s t, sha256 s = sha256 t → s = t)
  (digest : ∀ text, sha256 text ≠ "" ∧ ∀ c ∈ (sha256 text).toList, c ≠ '\n')

theorem matches_iff {event : AuditEvent} : Matches (php.onTexts number sha256) event ↔
    ∃ json, ((event.stored.toMixed php).sortRecursively php.keyLe).encode php.plain = some json ∧
      sha256 (event.previousHash.getD "" ++ "\n" ++ json.text number) = event.contentHash :=
  Option.map_eq_some_iff

variable {as bs : List AuditEvent} (hashed : ∀ e ∈ as, Matches (php.onTexts number sha256) e)
  (hashed' : ∀ e ∈ bs, Matches (php.onTexts number sha256) e)

include digest hashed in
theorem lastHash_cases : lastHash none as = none ∨
    ∃ hash, lastHash none as = some hash ∧ hash ≠ "" ∧ ∀ c ∈ hash.toList, c ≠ '\n' := by
  unfold lastHash
  cases last : as.getLast? with
  | none => exact Or.inl rfl
  | some event =>
    obtain ⟨json, -, isHash⟩ := matches_iff.mp (hashed event (List.mem_of_getLast? last))
    refine Or.inr ⟨event.contentHash, rfl, ?_⟩
    rw [← isHash]
    exact digest _

include digest hashed in
theorem lastHash_free : ∀ c ∈ ((lastHash none as).getD "").toList, c ≠ '\n' := by
  rcases lastHash_cases digest hashed with missing | ⟨hash, there, -, free⟩
  · rw [missing]
    intro c member
    cases member
  · rw [there]
    exact free

include digest hashed hashed' in
theorem lastHash_inj (same : (lastHash none as).getD "" = (lastHash none bs).getD "") :
    lastHash none as = lastHash none bs := by
  rcases lastHash_cases digest hashed with missing | ⟨hash, there, some, -⟩ <;>
    rcases lastHash_cases digest hashed' with missing' | ⟨hash', there', some', -⟩
  · rw [missing, missing']
  · rw [missing, there'] at same
    exact absurd same.symm some'
  · rw [there, missing'] at same
    exact absurd same some
  · rw [there, there'] at same ⊢
    exact congrArg _ same

include numbers format collisionFree digest hashed hashed' in
theorem last_agrees {a b : AuditEvent} (left : a.previousHash = lastHash none as)
    (right : b.previousHash = lastHash none bs) (own : Matches (php.onTexts number sha256) a)
    (own' : Matches (php.onTexts number sha256) b) (same : a.contentHash = b.contentHash) :
    lastHash none as = lastHash none bs ∧ Agree php number a b := by
  obtain ⟨json, isJson, isHash⟩ := matches_iff.mp own
  obtain ⟨json', isJson', isHash'⟩ := matches_iff.mp own'
  have texts := collisionFree _ _ (isHash.trans (same.trans isHash'.symm))
  rw [left, right] at texts
  have characters := congrArg String.toList texts
  rw [String.toList_append, String.toList_append, String.toList_append, String.toList_append, List.append_assoc,
    List.append_assoc] at characters
  obtain ⟨hashes, payloads⟩ := split_first (lastHash_free digest hashed) (lastHash_free digest hashed') characters
  refine ⟨lastHash_inj digest hashed hashed' (String.toList_injective hashes), agree_of_same format ?_⟩
  exact Mixed.told _ isJson isJson' (Json.text_alike numbers (String.toList_injective payloads))

include numbers format collisionFree digest in
/-- The induction is on the last row; the hash that it names is the last one of the rows before. -/
theorem histories_agree (as bs : List AuditEvent) (left : Linked none as) (right : Linked none bs)
    (hashed : ∀ e ∈ as, Matches (php.onTexts number sha256) e)
    (hashed' : ∀ e ∈ bs, Matches (php.onTexts number sha256) e) (last : lastHash none as = lastHash none bs) :
    List.Forall₂ (Agree php number) as bs := by
  induction as using List.reverseRecOn generalizing bs with
  | nil =>
    rcases List.eq_nil_or_concat bs with rfl | ⟨bs, b, rfl⟩
    · exact List.Forall₂.nil
    · simp [lastHash] at last
  | append_singleton as a ih =>
    rcases List.eq_nil_or_concat bs with rfl | ⟨bs, b, rfl⟩
    · simp [lastHash] at last
    · rw [List.concat_eq_append] at *
      have contents : a.contentHash = b.contentHash := by simpa [lastHash] using last
      obtain ⟨linked, named, -⟩ := (linked_append none as _).mp left
      obtain ⟨linked', named', -⟩ := (linked_append none bs _).mp right
      have before : ∀ e ∈ as, Matches (php.onTexts number sha256) e := fun e member => hashed e (by simp [member])
      have before' : ∀ e ∈ bs, Matches (php.onTexts number sha256) e := fun e member => hashed' e (by simp [member])
      obtain ⟨same, agree⟩ := last_agrees numbers format collisionFree digest before before' named named'
        (hashed a (by simp)) (hashed' b (by simp)) contents
      exact List.rel_append (ih bs linked linked' before before' same) (List.Forall₂.cons agree List.Forall₂.nil)

end

/-! ### The whole history -/

/-- Two sets of rows that pass and end in one content hash are as long as each other and agree row by row. -/
theorem last_hash_tells_history (php : Php) (number : Rat → String) (sha256 : String → String)
    (numbers : ∀ q, Numeric (number q).toList) (format : ∀ s t, php.format s = php.format t → s = t)
    (collisionFree : ∀ s t, sha256 s = sha256 t → s = t)
    (digest : ∀ text, sha256 text ≠ "" ∧ ∀ c ∈ (sha256 text).toList, c ≠ '\n') (as bs : List AuditEvent)
    (left : passes (php.onTexts number sha256) as = true) (right : passes (php.onTexts number sha256) bs = true)
    (last : lastHash none (oldest as) = lastHash none (oldest bs)) :
    as.length = bs.length ∧ List.Forall₂ (Agree php number) (oldest as) (oldest bs) := by
  obtain ⟨linked, hashed⟩ := (passesFrom_iff none _).mp left
  obtain ⟨linked', hashed'⟩ := (passesFrom_iff none _).mp right
  have agree := histories_agree numbers format collisionFree digest _ _ linked linked' hashed hashed' last
  refine ⟨?_, agree⟩
  rw [← (List.perm_insertionSort NotLater as).length_eq, ← (List.perm_insertionSort NotLater bs).length_eq]
  exact agree.length_eq

/-! ### An object without members -/

/-- A function that spells one value in a way that is known, and others by their code. -/
def tabulated {α : Type} [DecidableEq α] (code : α → Nat) (value : α) (known : String) (x : α) : String :=
  if x = value then known else keyText (code x)

theorem keyText_ne_known {n : Nat} {known : String} {c : Char} (letter : c ∈ known.toList) (other : c.isDigit = false) :
    keyText n ≠ known := by
  rintro rfl
  rw [keyText_isDigit letter] at other
  cases other

theorem tabulated_injective {α : Type} [DecidableEq α] {code : α → Nat} {value : α} {known : String} {c : Char}
    (injective : ∀ x y, code x = code y → x = y) (letter : c ∈ known.toList) (other : c.isDigit = false) (x y : α)
    (same : tabulated code value known x = tabulated code value known y) : x = y := by
  unfold tabulated at same
  split at same
  · split at same
    · rename_i isX isY
      rw [isX, isY]
    · exact absurd same.symm (keyText_ne_known letter other)
  · split at same
    · exact absurd same (keyText_ne_known letter other)
    · exact injective _ _ (keyText_injective same)

def settingsJson : Json :=
  .object [("action", .string "settings.updated"), ("actor_id", .string "01J0ACTOR"), ("actor_type", .string "human"),
    ("after", .null), ("before", .null), ("changes", .list []), ("correlation_id", .string "01J0CORRELATION"),
    ("metadata", .list []), ("occurred_at", .string "2026-07-20T08:00:00.000000Z"), ("reason", .null),
    ("result", .string "succeeded"), ("source_ip", .string "10.0.0.1"), ("target_id", .null),
    ("target_type", .string "setting"), ("tenant_id", .string "01J0TENANT"), ("user_agent", .null)]

def largeNumber (_ : Rat) : String := "1.0e+25"

def settingsDigest : String := "9139d2abb27fb4f7b5d419263fd4d7b47febfef5b96605319faa134e1e1f5e09"

def settingsTime : Instant := 1784534400000000

def codeOfText (s : String) : Nat := Encodable.encode (s.toList.map Char.toNat)

def digestOf : String → String := 
  tabulated codeOfText ("" ++ "\n" ++ settingsJson.text largeNumber) settingsDigest

def formatOf : Instant → String := tabulated Encodable.encode settingsTime "2026-07-20T08:00:00.000000Z"

def settingsPhp : Php where
  plain := fun _ => true
  keyLe := fun a b => decide (a ≤ b)
  sha256 := fun _ _ => ""
  format := formatOf
  limit := id

def settingsEvent (changes : Json) : AuditEvent where
  id := 1
  tenantId := "01J0TENANT"
  occurredAt := settingsTime
  actorType := .human
  actorId := some "01J0ACTOR"
  action := "settings.updated"
  targetType := "setting"
  targetId := none
  result := .succeeded
  reason := none
  changes := changes
  before := none
  after := none
  metadata := .list []
  sourceIp := some "10.0.0.1"
  userAgent := none
  correlationId := "01J0CORRELATION"
  previousHash := none
  contentHash := settingsDigest

theorem codeOfText_injective (s t : String) (same : codeOfText s = codeOfText t) : s = t :=
  String.toList_injective (List.map_injective_iff.mpr (fun _ _ => Char.toNat_inj.mp) (Encodable.encode_injective same))

theorem passes_settings {changes : Json} (empty : changes = .object [] ∨ changes = .list []) :
    passes (settingsPhp.onTexts largeNumber digestOf) [settingsEvent changes] = true := by
  have written : (((settingsEvent changes).stored.toMixed settingsPhp).sortRecursively settingsPhp.keyLe).encode
      settingsPhp.plain = some settingsJson := by
    rcases empty with rfl | rfl <;> rfl
  refine (passesFrom_iff none _).mpr ⟨⟨rfl, trivial⟩, fun event member => ?_⟩
  obtain rfl := List.mem_singleton.mp member
  have digest : digestOf ("" ++ "\n" ++ settingsJson.text largeNumber) = settingsDigest := by
    rw [digestOf, tabulated, if_pos rfl]
  exact matches_iff.mpr ⟨settingsJson, written, digest⟩

mutual

/-- One JSON value up to the order of the keys of its objects. -/
inductive Reordered : Json → Json → Prop
  | null : Reordered .null .null
  | bool (b : Bool) : Reordered (.bool b) (.bool b)
  | int (n : Int) : Reordered (.int n) (.int n)
  | float (q : Rat) : Reordered (.float q) (.float q)
  | string (s : String) : Reordered (.string s) (.string s)
  | list {items items' : List Json} (reordered : ReorderedItems items items') : Reordered (.list items) (.list items')
  | object {a b p : List (String × Json)} (order : p.Perm a) (members : ReorderedMembers p b) :
    Reordered (.object a) (.object b)

inductive ReorderedItems : List Json → List Json → Prop
  | nil : ReorderedItems [] []
  | cons {a b : Json} {p q : List Json} (first : Reordered a b) (later : ReorderedItems p q) :
    ReorderedItems (a :: p) (b :: q)

inductive ReorderedMembers : List (String × Json) → List (String × Json) → Prop
  | nil : ReorderedMembers [] []
  | cons {key : String} {a b : Json} {p q : List (String × Json)} (first : Reordered a b)
      (later : ReorderedMembers p q) : ReorderedMembers ((key, a) :: p) ((key, b) :: q)

end

theorem digestOf_collisionFree (s t : String) (same : digestOf s = digestOf t) : s = t :=
  tabulated_injective codeOfText_injective (by decide : 'd' ∈ settingsDigest.toList) (by decide) s t same

theorem digestOf_free (text : String) : digestOf text ≠ "" ∧ ∀ c ∈ (digestOf text).toList, c ≠ '\n' := by
  unfold digestOf tabulated
  split
  · have free : settingsDigest.toList.all (· != '\n') = true := by decide
    exact ⟨by decide, fun c member => bne_iff_ne.mp (List.all_eq_true.mp free c member)⟩
  · have some := (numeric_int (codeOfText text)).1
    refine ⟨fun empty => some (congrArg String.toList empty), fun c member newline => ?_⟩
    rw [newline] at member
    exact absurd (keyText_isDigit member) (by decide)

theorem formatOf_injective (s t : Instant) (same : formatOf s = formatOf t) : s = t :=
  tabulated_injective (fun _ _ same => Encodable.encode_injective same)
    (by decide : 'T' ∈ "2026-07-20T08:00:00.000000Z".toList) (by decide) s t same

theorem largeNumber_numeric (q : Rat) : Numeric (largeNumber q).toList := by
  unfold largeNumber
  have numeric : "1.0e+25".toList.all isNumeric = true := by decide
  exact ⟨by decide, List.all_eq_true.mp numeric⟩

theorem passes_tells_settings : [settingsEvent (.object [])].length = [settingsEvent (.list [])].length ∧
    List.Forall₂ (Agree settingsPhp largeNumber) (oldest [settingsEvent (.object [])])
      (oldest [settingsEvent (.list [])]) :=
  last_hash_tells_history settingsPhp largeNumber digestOf largeNumber_numeric formatOf_injective
    digestOf_collisionFree digestOf_free [settingsEvent (.object [])] [settingsEvent (.list [])]
    (passes_settings (Or.inl rfl)) (passes_settings (Or.inr rfl)) rfl

/-- An object without members for a list without items: the chain passes as before. -/
theorem emptyObject_passes_for_emptyList :
    (∀ s t, digestOf s = digestOf t → s = t) ∧
    passes (settingsPhp.onTexts largeNumber digestOf) [settingsEvent (.object [])] = true ∧
    passes (settingsPhp.onTexts largeNumber digestOf) [settingsEvent (.list [])] = true ∧
    lastHash none (oldest [settingsEvent (.object [])]) = lastHash none (oldest [settingsEvent (.list [])]) ∧
    ¬ Reordered (settingsEvent (.object [])).changes (settingsEvent (.list [])).changes :=
  ⟨digestOf_collisionFree, passes_settings (Or.inl rfl), passes_settings (Or.inr rfl), rfl,
    fun reordered => by cases reordered⟩

end VtsaCsms.Audit
