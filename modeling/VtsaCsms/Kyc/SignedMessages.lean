import Mathlib.Data.Rat.Floor
import VtsaCsms.Foundation.Php
import VtsaCsms.Foundation.Redis

/-!
# Signed messages

`security.py` of the KYC service, and of the platform `KycSignature.php`, the signing of `KycClient.php` and the
checks of `KycCallbackController.php`. SHA-256 and HMAC are functions; the clock of a check and the instant at which
the store carries out the nonce are apart, since the check comes first and the command waits for its turn. The path
and the query of a message are the ones that its framework reports.
-/
namespace VtsaCsms.Kyc.Security
open Foundation

/-- The methods of the signed routes. -/
inductive Method where
  | put | post
  deriving DecidableEq

def Method.value : Method → String
  | put => "PUT"
  | post => "POST"

/-- A message that arrives, with its three headers. -/
structure Message where
  method : Method
  path : String
  query : Option String
  timestamp : String
  nonce : String
  signature : String
  body : List UInt8

def isHex (c : Char) : Bool := c ∈ ['0', '1', '2', '3', '4', '5', '6', '7', '8', '9', 'a', 'b', 'c', 'd', 'e', 'f']

/-- Thirty-two lower case hexadecimal digits. -/
def isNonce (characters : List Char) : Bool := decide (characters.length = 32) && characters.all isHex

/-- What a side signs: `KycClient::request` or `signed_headers`. -/
structure Signed where
  method : Method
  path : String
  seconds : Nat
  nonce : String
  drawn : isNonce nonce.toList = true
  body : List UInt8

section Signatures
variable (sha256 : List UInt8 → String) (hmac : String → String → String)

def canonical (method path timestamp nonce : String) (body : List UInt8) : String :=
  strToUpper method ++ "\n" ++ (path ++ "\n" ++ (timestamp ++ "\n" ++ (nonce ++ "\n" ++ sha256 body)))

def signature (secret method path timestamp nonce : String) (body : List UInt8) : String :=
  hmac secret (canonical sha256 method path timestamp nonce body)

def Signed.text (m : Signed) : String := canonical sha256 m.method.value m.path (keyText m.seconds) m.nonce m.body

/-! ### The two sides that authenticate -/

/-- `abs(now - sent) > 300`. -/
def stale (now : ℚ) (sent : Int) : Bool := decide (300 < |⌊now⌋ - sent|)

/-- `str.isdigit` on the characters of a header. -/
def pyIsDigit (text : String) : Bool :=
  !text.toList.isEmpty && text.toList.all fun c => c.isDigit || c ∈ ['²', '³', '¹']

/-- `int(text)`; of the characters above only the decimal ones do not raise. -/
def pyInt (text : String) : Option Int :=
  if ctypeDigit text then some (text.toList.foldl (fun n c => 10 * n + (c.toNat - '0'.toNat)) 0 : Nat) else none

/-- `authenticate` up to the signature. -/
def authenticates (secret : String) (now : ℚ) (m : Message) : Bool :=
  pyIsDigit m.timestamp && (pyInt m.timestamp).any (fun sent => !stale now sent) && isNonce m.nonce.toList &&
    decide (m.query.getD "" = "") &&
      decide (m.signature = signature sha256 hmac secret m.method.value m.path m.timestamp m.nonce m.body)

/-- `/^[a-f0-9]{32}$/`, whose end may be before a last line break. -/
def pregNonce (nonce : String) : Bool :=
  isNonce nonce.toList || decide (nonce.toList.getLast? = some '\n') && isNonce nonce.toList.dropLast

/-- The checks of `KycCallbackController` up to the signature; its route takes POST. -/
def acceptsCallback (secret : String) (now : ℚ) (m : Message) : Bool :=
  decide (m.method = .post) && decide (m.body.length ≤ 32768) && decide (32 ≤ secret.utf8ByteSize) &&
    ctypeDigit m.timestamp && !stale now (intOfDigits m.timestamp) && pregNonce m.nonce && decide (m.query = none) &&
      decide (m.signature = signature sha256 hmac secret "POST" m.path m.timestamp m.nonce m.body)

inductive Side where
  | service | platform
  deriving DecidableEq

namespace Side

def checks : Side → String → ℚ → Message → Bool
  | service => authenticates sha256 hmac
  | platform => acceptsCallback sha256 hmac

def nonceKey : Side → String → String
  | service, nonce => "kyc:nonce:" ++ nonce
  | platform, nonce => "kyc:callback:" ++ nonce

end Side

/-- What becomes of the command to the store of nonces. -/
inductive StoreCall where
  | answered | unanswered | unsent
  deriving DecidableEq

/-- A message, when it is checked, and when its nonce is consumed; `allowed` is what follows the nonce, which on the
service is the limit of requests. -/
structure Attempt where
  message : Message
  checkedAt : ℚ
  consumedAt : ℚ
  store : StoreCall := .answered
  allowed : Bool := true

/-- Whether an attempt passes, and the nonces after it. -/
def attempt (side : Side) (secret : String) (a : Attempt) (nonces : Redis.Keyspace String String) :
    Bool × Redis.Keyspace String String :=
  if side.checks sha256 hmac secret a.checkedAt a.message ∧ a.store ≠ .unsent then
    match Redis.setIfAbsent a.consumedAt (side.nonceKey a.message.nonce) "1" 610 nonces with
    | (.ok added, nonces') => (added && decide (a.store = .answered) && a.allowed, nonces')
    | (.error _, nonces') => (false, nonces')
  else (false, nonces)

/-- The attempts that pass, in the order in which the store carries out their commands. -/
def passed (side : Side) (secret : String) : List Attempt → Redis.Keyspace String String → List Attempt
  | [], _ => []
  | a :: rest, nonces =>
    let out := attempt sha256 hmac side secret a nonces
    if out.1 then a :: passed side secret rest out.2 else passed side secret rest out.2

end Signatures

/-- The message has the method, the path, the timestamp, the nonce and the body that were signed. -/
def Message.Copies (message : Message) (m : Signed) : Prop :=
  message.method = m.method ∧ message.path = m.path ∧ message.timestamp = keyText m.seconds ∧
    message.nonce = m.nonce ∧ message.body = m.body

instance (message : Message) (m : Signed) : Decidable (message.Copies m) :=
  inferInstanceAs (Decidable (_ ∧ _ ∧ _ ∧ _ ∧ _))

/-! ### The canonical text -/

theorem isNonce_free {characters : List Char} (nonce : isNonce characters = true) : ∀ c ∈ characters, c ≠ '\n' := by
  rintro c member rfl
  unfold isNonce at nonce
  rw [Bool.and_eq_true, List.all_eq_true] at nonce
  exact absurd (nonce.2 '\n' member) (by decide)

theorem pregNonce_cases {nonce : String} (matched : pregNonce nonce = true) :
    isNonce nonce.toList = true ∨ ∃ before, nonce.toList = before ++ ['\n'] ∧ isNonce before = true := by
  unfold pregNonce at matched
  rw [Bool.or_eq_true, Bool.and_eq_true, decide_eq_true_eq] at matched
  rcases matched with whole | ⟨ends, front⟩
  · exact Or.inl whole
  · exact Or.inr ⟨_, (List.dropLast_append_getLast? _ ends).symm, front⟩

theorem digits_free {text : String} (digits : ctypeDigit text = true) : ∀ c ∈ text.toList, c ≠ '\n' := by
  rintro c member rfl
  unfold ctypeDigit at digits
  rw [Bool.and_eq_true, List.all_eq_true] at digits
  exact absurd (digits.2 '\n' member) (by decide)

theorem keyText_free {n : Nat} : ∀ c ∈ (keyText n).toList, c ≠ '\n' := by
  rintro c member rfl
  exact absurd (keyText_isDigit member) (by decide)

theorem method_free (method : Method) : ∀ c ∈ (strToUpper method.value).toList, c ≠ '\n' := by
  have plain : ((strToUpper method.value).toList.all fun c => decide (c ≠ '\n')) = true := by
    cases method <;> decide
  exact fun c member => of_decide_eq_true (List.all_eq_true.mp plain c member)

variable {sha256 : List UInt8 → String} {hmac : String → String → String}

theorem canonical_parts (lines : ∀ body, ∀ c ∈ (sha256 body).toList, c ≠ '\n') {m : Signed} {method : Method}
    {path timestamp nonce : String} {body : List UInt8} (digits : ctypeDigit timestamp = true)
    (matched : pregNonce nonce = true)
    (same : canonical sha256 method.value path timestamp nonce body = m.text sha256) :
    strToUpper method.value = strToUpper m.method.value ∧ path = m.path ∧ timestamp = keyText m.seconds ∧
      nonce = m.nonce ∧ sha256 body = sha256 m.body := by
  have characters := congrArg String.toList same
  unfold Signed.text canonical at characters
  simp only [String.toList_append, String.reduceToList, List.append_assoc, List.singleton_append] at characters
  obtain ⟨methods, tails⟩ := split_first (method_free method) (method_free m.method) characters
  have tails : ((path.toList ++ '\n' :: timestamp.toList) ++ '\n' :: nonce.toList) ++ '\n' :: (sha256 body).toList =
      ((m.path.toList ++ '\n' :: (keyText m.seconds).toList) ++ '\n' :: m.nonce.toList) ++
        '\n' :: (sha256 m.body).toList := by
    simpa only [List.append_assoc, List.cons_append] using tails
  obtain ⟨fronts, digests⟩ := split_last (lines body) (lines m.body) tails
  have drawn := isNonce_free m.drawn
  rcases pregNonce_cases matched with whole | ⟨before, ends, -⟩
  · obtain ⟨fronts, nonces⟩ := split_last (isNonce_free whole) drawn fronts
    obtain ⟨paths, timestamps⟩ := split_last (digits_free digits) keyText_free fronts
    exact ⟨String.toList_injective methods, String.toList_injective paths, String.toList_injective timestamps,
      String.toList_injective nonces, String.toList_injective digests⟩
  · rw [ends, ← List.cons_append, ← List.append_assoc] at fronts
    obtain ⟨-, empty⟩ := split_last (fun c member => by cases member) drawn fronts
    have length := m.drawn
    rw [← empty] at length
    exact absurd length (by decide)

/-! ### One attempt -/

/-- The time a side reads in a timestamp. -/
def Side.sent : Side → String → Int
  | service, timestamp => (pyInt timestamp).getD 0
  | platform, timestamp => intOfDigits timestamp

variable {side : Side} {secret : String} {now : ℚ} {a : Attempt} {nonces : Redis.Keyspace String String}

theorem checks_spec {message : Message} (checked : side.checks sha256 hmac secret now message = true) :
    ctypeDigit message.timestamp = true ∧ pregNonce message.nonce = true ∧
      stale now (side.sent message.timestamp) = false ∧
      message.signature = hmac secret
        (canonical sha256 message.method.value message.path message.timestamp message.nonce message.body) := by
  cases side with
  | service =>
    simp only [Side.checks, authenticates, Bool.and_eq_true, decide_eq_true_eq, Option.any_eq_true] at checked
    obtain ⟨⟨⟨⟨-, sent, read, fresh⟩, nonce⟩, -⟩, signed⟩ := checked
    have digits : ctypeDigit message.timestamp = true := by
      unfold pyInt at read
      split at read
      · assumption
      · cases read
    refine ⟨digits, ?_, ?_, signed⟩
    · unfold pregNonce
      rw [nonce, Bool.true_or]
    · rw [Side.sent, read]
      simpa using fresh
  | platform =>
    simp only [Side.checks, acceptsCallback, Bool.and_eq_true, decide_eq_true_eq] at checked
    obtain ⟨⟨⟨⟨⟨⟨⟨method, -⟩, -⟩, digits⟩, fresh⟩, nonce⟩, -⟩, signed⟩ := checked
    refine ⟨digits, nonce, (Bool.not_eq_true' _).mp fresh, ?_⟩
    rw [method]
    exact signed

theorem fresh_window {sent : Int} (fresh : stale now sent = false) : (sent : ℚ) - 300 ≤ now ∧ now < sent + 301 := by
  unfold stale at fresh
  rw [decide_eq_false_iff_not, not_lt, abs_le] at fresh
  have below : ((⌊now⌋ : Int) : ℚ) ≤ now := Int.floor_le now
  have above : now < ⌊now⌋ + 1 := Int.lt_floor_add_one now
  have lower : (sent : ℚ) - 300 ≤ ⌊now⌋ := by exact_mod_cast (by omega : sent - 300 ≤ ⌊now⌋)
  have upper : (⌊now⌋ : ℚ) ≤ sent + 300 := by exact_mod_cast (by omega : ⌊now⌋ ≤ sent + 300)
  constructor <;> linarith

/-- The nonce is stored until 310 seconds after the timestamp at least. -/
def Spent (side : Side) (nonce : String) (sent : Int) (nonces : Redis.Keyspace String String) : Prop :=
  ∃ e t, nonces (side.nonceKey nonce) = some e ∧ e.expiresAt = some t ∧ (sent : ℚ) + 310 ≤ t

theorem attempt_cases (sha256 : List UInt8 → String) (hmac : String → String → String) (side : Side)
    (secret : String) (a : Attempt) (nonces : Redis.Keyspace String String) :
    ((attempt sha256 hmac side secret a nonces).1 = false ∧ (attempt sha256 hmac side secret a nonces).2 = nonces) ∨
      side.checks sha256 hmac secret a.checkedAt a.message = true ∧
        Redis.find a.consumedAt nonces (side.nonceKey a.message.nonce) = none ∧
        (attempt sha256 hmac side secret a nonces).2 =
          Redis.put nonces (side.nonceKey a.message.nonce) ⟨"1", some (a.consumedAt + 610)⟩ := by
  unfold attempt Redis.setIfAbsent
  by_cases checked : side.checks sha256 hmac secret a.checkedAt a.message = true ∧ a.store ≠ .unsent
  · rw [if_pos checked]
    by_cases accepted : Redis.accepts a.consumedAt 610
    · rw [if_pos accepted]
      cases found : Redis.find a.consumedAt nonces (side.nonceKey a.message.nonce) with
      | some => exact Or.inl ⟨rfl, rfl⟩
      | none => exact Or.inr ⟨checked.1, rfl, rfl⟩
    · rw [if_neg accepted]
      exact Or.inl ⟨rfl, rfl⟩
  · rw [if_neg checked]
    exact Or.inl ⟨rfl, rfl⟩

/-- A consumed nonce stays consumed: it is written again only after it has expired, for longer. -/
theorem attempt_keeps (sha256 : List UInt8 → String) (hmac : String → String → String) (secret : String)
    {nonce : String} {sent : Int} (spent : Spent side nonce sent nonces) (a : Attempt) :
    Spent side nonce sent (attempt sha256 hmac side secret a nonces).2 := by
  rcases attempt_cases sha256 hmac side secret a nonces with ⟨-, same⟩ | ⟨-, missing, left⟩
  · rwa [same]
  · obtain ⟨e, t, stored, expires, long⟩ := spent
    rw [left]
    by_cases here : side.nonceKey nonce = side.nonceKey a.message.nonce
    · rw [here] at stored
      have ended : t ≤ a.consumedAt := by
        by_contra alive
        have found := Redis.find_some.mpr ⟨stored, (by simpa [Redis.Entry.live, expires] using alive :
          e.live a.consumedAt = true)⟩
        rw [missing] at found
        cases found
      refine ⟨_, _, by rw [here]; exact Function.update_self .., rfl, ?_⟩
      linarith
    · exact ⟨e, t, by rw [Redis.put_of_ne here, stored], expires, long⟩

theorem attempt_spends (order : a.checkedAt ≤ a.consumedAt)
    (passes : (attempt sha256 hmac side secret a nonces).1 = true) :
    side.checks sha256 hmac secret a.checkedAt a.message = true ∧
      Spent side a.message.nonce (side.sent a.message.timestamp) (attempt sha256 hmac side secret a nonces).2 := by
  rcases attempt_cases sha256 hmac side secret a nonces with ⟨refused, -⟩ | ⟨checked, -, left⟩
  · rw [passes] at refused
    cases refused
  · refine ⟨checked, ?_⟩
    have early := (fresh_window (checks_spec checked).2.2.1).1
    rw [left]
    refine ⟨_, _, Function.update_self .., rfl, ?_⟩
    linarith

theorem attempt_refused (prompt : a.consumedAt ≤ a.checkedAt + 9)
    (spent : Spent side a.message.nonce (side.sent a.message.timestamp) nonces) :
    (attempt sha256 hmac side secret a nonces).1 = false := by
  rcases attempt_cases sha256 hmac side secret a nonces with ⟨refused, -⟩ | ⟨checked, missing, -⟩
  · exact refused
  · obtain ⟨e, t, stored, expires, long⟩ := spent
    have late := (fresh_window (checks_spec checked).2.2.1).2
    have alive : e.live a.consumedAt = true := by
      simp only [Redis.Entry.live, expires, decide_eq_true_eq]
      linarith
    rw [Redis.find_some.mpr ⟨stored, alive⟩] at missing
    cases missing

/-! ### Many attempts -/

/-- The nonce is consumed after the check, and within nine seconds. -/
def Attempt.Prompt (a : Attempt) : Prop := a.checkedAt ≤ a.consumedAt ∧ a.consumedAt ≤ a.checkedAt + 9
  deriving Decidable

theorem mem_passed {attempts : List Attempt} (member : a ∈ passed sha256 hmac side secret attempts nonces) :
    a ∈ attempts ∧ side.checks sha256 hmac secret a.checkedAt a.message = true := by
  induction attempts generalizing nonces with
  | nil => cases member
  | cons b rest ih =>
    rw [passed] at member
    split at member
    · rename_i passes
      rcases List.mem_cons.mp member with rfl | later
      · rcases attempt_cases sha256 hmac side secret a nonces with ⟨refused, -⟩ | ⟨checked, -⟩
        · rw [refused] at passes
          cases passes
        · exact ⟨List.mem_cons_self .., checked⟩
      · exact ⟨List.mem_cons_of_mem _ (ih later).1, (ih later).2⟩
    · exact ⟨List.mem_cons_of_mem _ (ih member).1, (ih member).2⟩

theorem none_passed {m : Signed} {attempts : List Attempt} (prompt : ∀ a ∈ attempts, a.Prompt)
    (spent : Spent side m.nonce (side.sent (keyText m.seconds)) nonces) :
    (passed sha256 hmac side secret attempts nonces).countP (fun a => decide (a.message.Copies m)) = 0 := by
  induction attempts generalizing nonces with
  | nil => rfl
  | cons b rest ih =>
    have later := ih (fun a member => prompt a (List.mem_cons_of_mem _ member))
      (attempt_keeps sha256 hmac secret spent b)
    rw [passed]
    split
    · rename_i passes
      rw [List.countP_cons_of_neg, later]
      simp only [decide_eq_true_eq]
      rintro ⟨-, -, timestamp, nonce, -⟩
      rw [← timestamp, ← nonce] at spent
      rw [attempt_refused (prompt b (List.mem_cons_self ..)).2 spent] at passes
      cases passes
    · exact later

theorem one_passes (m : Signed) {attempts : List Attempt} (prompt : ∀ a ∈ attempts, a.Prompt) :
    (passed sha256 hmac side secret attempts nonces).countP (fun a => decide (a.message.Copies m)) ≤ 1 := by
  induction attempts generalizing nonces with
  | nil => exact Nat.zero_le 1
  | cons b rest ih =>
    have others : ∀ a ∈ rest, a.Prompt := fun a member => prompt a (List.mem_cons_of_mem _ member)
    rw [passed]
    split
    · rename_i passes
      by_cases copy : b.message.Copies m
      · have spent := (attempt_spends (prompt b (List.mem_cons_self ..)).1 passes).2
        obtain ⟨-, -, timestamp, nonce, -⟩ := id copy
        rw [timestamp, nonce] at spent
        rw [List.countP_cons_of_pos (by simpa using copy), none_passed others spent]
      · rw [List.countP_cons_of_neg (by simpa using copy)]
        exact ih others
    · exact ih others

/-- Where every nonce is consumed within nine seconds of the check, one copy of a signed message passes at most, and
what passes is as it was signed. -/
theorem passes_once_as_signed (side : Side) (secret : String)
    (collisionFree : ∀ body body', sha256 body = sha256 body' → body = body')
    (lines : ∀ body, ∀ c ∈ (sha256 body).toList, c ≠ '
') (signed : List Signed) (attempts : List Attempt)
    (unforgeable : ∀ a ∈ attempts, ∀ text, a.message.signature = hmac secret text →
      ∃ m ∈ signed, m.text sha256 = text)
    (prompt : ∀ a ∈ attempts, a.Prompt) (nonces : Redis.Keyspace String String) :
    (∀ m ∈ signed, (passed sha256 hmac side secret attempts nonces).countP
        (fun a => decide (a.message.Copies m)) ≤ 1) ∧
      ∀ a ∈ passed sha256 hmac side secret attempts nonces, ∃ m ∈ signed, a.message.Copies m := by
  refine ⟨fun m _ => one_passes m prompt, fun a member => ?_⟩
  obtain ⟨among, checked⟩ := mem_passed member
  obtain ⟨digits, nonce, -, made⟩ := checks_spec checked
  obtain ⟨m, isSigned, same⟩ := unforgeable a among _ made
  obtain ⟨method, path, timestamp, nonce, digest⟩ := canonical_parts lines digits nonce same.symm
  have methods : a.message.method = m.method := by
    generalize a.message.method = first at method
    generalize m.method = second at method
    cases first <;> cases second <;> first | rfl | exact absurd method (by decide)
  exact ⟨m, isSigned, methods, path, timestamp, nonce, collisionFree _ _ digest⟩

/-! ### One snapshot request -/

def requestSecret : String := "kyc-request-secret-of-one-tenant-0"

/-- `{"tenant_id":"01K0"}`. -/
def scopeBody : List UInt8 := [123, 34, 116, 101, 110, 97, 110, 116, 95, 105, 100, 34, 58, 34, 48, 49, 75, 48, 34, 125]

def snapshotRequest : Signed where
  method := .post
  path := "/api/v1/verifications/01K0M0VV1V0M0VV1V0M0VV1V0M/snapshot"
  seconds := 1790000000
  nonce := "0123456789abcdef0123456789abcdef"
  drawn := by decide
  body := scopeBody

def knownSha256 (body : List UInt8) : String :=
  if body = scopeBody then "0af924ea8f147ea30309224e9016cffee35a014ceeec2aa4714f48e8e4f0e37d"
  else String.ofList (body.map fun b => Char.ofNat (256 + b.toNat))

def knownHmac (secret text : String) : String :=
  if secret = requestSecret ∧ text = snapshotRequest.text knownSha256 then
    "06056efd2d2ef35d755e571e3db074960e00031863b3d62ff35bad6f6db6d705"
  else secret ++ text

def snapshotMessage : Message where
  method := .post
  path := snapshotRequest.path
  query := none
  timestamp := "1790000000"
  nonce := snapshotRequest.nonce
  signature := "06056efd2d2ef35d755e571e3db074960e00031863b3d62ff35bad6f6db6d705"
  body := scopeBody

theorem byteChar_toNat (b : UInt8) : (Char.ofNat (256 + b.toNat)).toNat = 256 + b.toNat := by
  have small := b.toNat_lt
  have valid : Nat.isValidChar (256 + b.toNat) := Or.inl (by omega)
  unfold Char.ofNat
  rw [dif_pos valid]
  rfl

theorem knownSha256_collisionFree (body body' : List UInt8) (same : knownSha256 body = knownSha256 body') :
    body = body' := by
  have apart : ∀ body : List UInt8, String.ofList (body.map fun b => Char.ofNat (256 + b.toNat)) ≠
      "0af924ea8f147ea30309224e9016cffee35a014ceeec2aa4714f48e8e4f0e37d" := by
    intro body same
    have characters := congrArg String.toList same
    rw [String.toList_ofList] at characters
    cases body with
    | nil => cases characters
    | cons b rest =>
      have first := congrArg (fun cs => cs.head?.map Char.toNat) characters
      simp only [List.map_cons, List.head?_cons, Option.map_some, byteChar_toNat] at first
      have digit : (256 + b.toNat) = 48 := Option.some.inj first
      omega
  unfold knownSha256 at same
  split at same
  · rename_i here
    split at same
    · rename_i here'
      exact here.trans here'.symm
    · exact absurd same.symm (apart body')
  · split at same
    · exact absurd same (apart body)
    · have characters := String.ofList_injective same
      refine List.map_injective_iff.mpr (fun b b' same => ?_) characters
      have numbers := congrArg Char.toNat same
      rw [byteChar_toNat, byteChar_toNat] at numbers
      exact UInt8.toNat_inj.mp (by omega)

theorem knownSha256_lines (body : List UInt8) : ∀ c ∈ (knownSha256 body).toList, c ≠ '\n' := by
  unfold knownSha256
  split
  · have plain : ("0af924ea8f147ea30309224e9016cffee35a014ceeec2aa4714f48e8e4f0e37d".toList.all fun c =>
        decide (c ≠ '\n')) = true := by decide
    exact fun c member => of_decide_eq_true (List.all_eq_true.mp plain c member)
  · intro c member
    rw [String.toList_ofList] at member
    obtain ⟨b, -, rfl⟩ := List.mem_map.mp member
    intro same
    have number := congrArg Char.toNat same
    rw [byteChar_toNat] at number
    have small : '\n'.toNat = 10 := rfl
    omega

/-- A copy that is checked 300 seconds before the timestamp, and its nonce consumed at once. -/
def earlyCopy : Attempt := { message := snapshotMessage, checkedAt := 1789999700, consumedAt := 1789999700 }

/-- A copy that is checked 300 seconds after it, and its nonce consumed some seconds later. -/
def lateCopy (delay : ℚ) : Attempt :=
  { message := snapshotMessage, checkedAt := 1790000300, consumedAt := 1790000300 + delay }

/-- A copy whose command waits for ten seconds finds its nonce expired. -/
theorem lateCopy_passes :
    (∀ a ∈ [earlyCopy, lateCopy 10], a.checkedAt ≤ a.consumedAt) ∧
      ¬ (passed knownSha256 knownHmac .service requestSecret [earlyCopy, lateCopy 10] fun _ => none).countP
        (fun a => decide (a.message.Copies snapshotRequest)) ≤ 1 := by
  decide +kernel

theorem promptCopies_passOnce :
    (∀ m ∈ [snapshotRequest], (passed knownSha256 knownHmac .service requestSecret [earlyCopy, lateCopy 9]
        fun _ => none).countP (fun a => decide (a.message.Copies m)) ≤ 1) ∧
      ∀ a ∈ passed knownSha256 knownHmac .service requestSecret [earlyCopy, lateCopy 9] fun _ => none,
        ∃ m ∈ [snapshotRequest], a.message.Copies m := by
  refine passes_once_as_signed .service requestSecret knownSha256_collisionFree knownSha256_lines [snapshotRequest]
    [earlyCopy, lateCopy 9] (fun a member text made => ?_) (by decide +kernel) fun _ => none
  refine ⟨snapshotRequest, List.mem_singleton_self _, ?_⟩
  have sent : a.message.signature = snapshotMessage.signature := by
    simp only [List.mem_cons, List.not_mem_nil, or_false] at member
    rcases member with rfl | rfl <;> rfl
  rw [sent] at made
  unfold knownHmac at made
  split at made
  · rename_i known
    exact known.2.symm
  · have characters := congrArg (fun s => s.toList.head?) made
    simp [requestSecret, snapshotMessage] at characters

end VtsaCsms.Kyc.Security
