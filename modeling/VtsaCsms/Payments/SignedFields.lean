import VtsaCsms.Foundation.Fields
import VtsaCsms.Payments.AubQrProtocol
import VtsaCsms.Payments.TopupCredits

/-!
# What a signature binds

A signature binds the signed text, and the text can be split into fields in more than one way. What the
fields of an accepted message have in common with those that were signed.
-/
namespace VtsaCsms.Payments
open Foundation Foundation.Action AubQrProtocol

/-! ### The text of the fields -/

theorem separators_not_in_name {name : List Char} (isName : IsElementName name) : '&' ∉ name ∧ '=' ∉ name := by
  have chars := List.all_eq_true.mp isName.2
  have ampersand : nameChar '&' = false := by decide +kernel
  have equals : nameChar '=' = false := by decide +kernel
  refine ⟨fun member => ?_, fun member => ?_⟩
  · exact absurd (chars _ member) (by rw [ampersand]; exact Bool.false_ne_true)
  · exact absurd (chars _ member) (by rw [equals]; exact Bool.false_ne_true)

/-- `name=value` after `&`. -/
def aubFormat : Fields.Format Char where
  separator := '&'
  equals := '='
  IsName := IsElementName
  separator_ne := by decide
  separator_free := fun _ isName => (separators_not_in_name isName).1
  equals_free := fun _ isName => (separators_not_in_name isName).2

def characters (e : String × String) : List Char × List Char := (e.1.toList, e.2.toList)

theorem characters_injective {e e' : String × String} (same : characters e = characters e') : e = e' := by
  obtain ⟨names, values⟩ := Prod.mk.inj same
  exact Prod.ext (String.toList_inj.mp names) (String.toList_inj.mp values)

theorem written_characters {fields : List (String × String)} (some' : fields ≠ []) :
    '&' :: ("&".intercalate (fields.map fun e => e.1 ++ "=" ++ e.2)).toList =
      aubFormat.written (fields.map characters) := by
  induction fields with
  | nil => exact absurd rfl some'
  | cons _ rest ih =>
    cases rest with
    | nil => simp [characters, Fields.Format.written, aubFormat]
    | cons =>
      have later := ih (List.cons_ne_nil _ _)
      rw [List.map_cons, List.map_cons, String.intercalate_cons_cons, List.map_cons, Fields.Format.written, ← later]
      simp [characters, aubFormat]

/-! ### Fields -/

variable {name value key : String} {fields : Table String String} {sha256 : String → String}

theorem mem_canonicalFields :
    (name, value) ∈ canonicalFields fields ↔ fields.get? name = some value ∧ name ≠ "sign" ∧ value ≠ "" := by
  unfold canonicalFields
  rw [List.mem_insertionSort, List.mem_filter, Table.mem_entries]
  simp

/-- The fields with a value, `sign` apart, are the same. -/
def SameFields (fields fields' : Table String String) : Prop :=
  ∀ name value, name ≠ "sign" → value ≠ "" → (fields.get? name = some value ↔ fields'.get? name = some value)

/-- Every field has the name of an element. -/
def ElementNames (fields : Table String String) : Prop :=
  ∀ name value, fields.get? name = some value → IsElementName name.toList

/-- No `&name=` stands in the value. -/
def PlainValue (value : String) : Prop := aubFormat.Plain value.toList

/-- No `&name=` stands in a value that is signed. -/
def PlainFields (fields : Table String String) : Prop :=
  ∀ name value, name ≠ "sign" → fields.get? name = some value → PlainValue value

theorem plainValue_of_free (free : '&' ∉ value.toList) : PlainValue value := by
  intro before name after _ same
  rw [same] at free
  exact free (List.mem_append_right _ List.mem_cons_self)

theorem named_characters (names : ElementNames fields) :
    aubFormat.Named ((canonicalFields fields).map characters) := by
  intro field member
  obtain ⟨e, there, rfl⟩ := List.mem_map.mp member
  exact names e.1 e.2 (mem_canonicalFields.mp there).1

theorem plain_characters (plain : PlainFields fields) :
    ∀ field ∈ (canonicalFields fields).map characters, aubFormat.Plain field.2 := by
  intro field member
  obtain ⟨e, there, rfl⟩ := List.mem_map.mp member
  obtain ⟨stored, unsigned, -⟩ := mem_canonicalFields.mp there
  exact plain e.1 e.2 unsigned stored

theorem written_eq_of_text {fields' : Table String String} (same : signedText fields = signedText fields')
    (some' : canonicalFields fields ≠ []) :
    aubFormat.written ((canonicalFields fields).map characters) =
      aubFormat.written ((canonicalFields fields').map characters) := by
  rw [← written_characters some']
  by_cases none' : canonicalFields fields' = []
  · have empty : signedText fields' = "" := by
      unfold signedText
      rw [none']
      rfl
    have text := written_characters some'
    rw [show "&".intercalate ((canonicalFields fields).map fun e => e.1 ++ "=" ++ e.2) = signedText fields from rfl, same,
      empty] at text
    obtain ⟨e, rest, fields_eq⟩ := List.exists_cons_of_ne_nil some'
    rw [fields_eq] at text
    simp [Fields.Format.written] at text
  · rw [← written_characters none']
    exact congrArg (fun text => '&' :: String.toList text) same

/-! ### Accepted messages -/

theorem readFields_names {nodes : List DOMNode} {read : Table String String} (names : ElementNames fields)
    (success : readFields nodes fields = .ok read) : ElementNames read := by
  induction nodes generalizing fields with
  | nil =>
    cases success
    exact names
  | cons node rest ih =>
    cases node with
    | other => exact ih names success
    | element node =>
      unfold readFields at success
      split at success
      · cases success
      · split at success
        · cases success
        · refine ih ?_ success
          intro name value stored
          rw [Table.get?_put] at stored
          split at stored
          · rename_i same
            rw [same]
            exact node.isName
          · exact names name value stored

/-- What `verify` has found when it returns the fields. -/
structure Verified (sha256 : String → String) (key : String) (fields : Table String String) : Prop where
  names : ElementNames fields
  signType : (fields.get? "sign_type").getD "" = "SHA256"
  signature : sign sha256 fields key = (fields.get? "sign").getD ""

theorem verify_returns {loadXML : String → Option DOMDocument} {xml : String}
    (success : verify loadXML sha256 xml key = .ok fields) :
    Verified sha256 key fields := by
  unfold verify at success
  split at success
  · cases success
  · split at success
    · cases success
    · rename_i doc loaded
      split at success
      · cases success
      · cases found : readFields doc.childNodes Table.empty with
        | error =>
          rw [found] at success
          cases success
        | ok read =>
          rw [found] at success
          simp only [Bind.bind, Except.bind] at success
          split at success
          · cases success
          · rename_i signed
            cases success
            push Not at signed
            refine ⟨readFields_names ?_ found, signed.1, signed.2⟩
            intro name value stored
            cases stored

theorem Verified.fields_ne_nil (verified : Verified sha256 key fields) : canonicalFields fields ≠ [] := by
  cases found : fields.get? "sign_type" with
  | none =>
    have missing := verified.signType
    rw [found] at missing
    exact absurd missing (by decide)
  | some value =>
    have type := verified.signType
    rw [found] at type
    have member : ("sign_type", value) ∈ canonicalFields fields :=
      mem_canonicalFields.mpr ⟨found, by decide, by rw [show value = "SHA256" from type]; decide⟩
    exact List.ne_nil_of_mem member

/-! ### What the signature binds -/

/-- The lower-case digits of `hash`. -/
def hexits : List Char := "0123456789abcdef".toList

theorem toUpper_hexits {text text' : List Char} (hex : ∀ c ∈ text, c ∈ hexits) (hex' : ∀ c ∈ text', c ∈ hexits)
    (same : text.map Char.toUpper = text'.map Char.toUpper) : text = text' := by
  have checked : (hexits.all fun c => hexits.all fun d => c.toUpper ≠ d.toUpper || c = d) = true := by decide +kernel
  have digits : ∀ c ∈ hexits, ∀ d ∈ hexits, c.toUpper = d.toUpper → c = d := by
    intro c member d member' upper
    simpa [upper] using List.all_eq_true.mp (List.all_eq_true.mp checked c member) d member'
  induction text generalizing text' with
  | nil => exact (List.map_eq_nil_iff.mp same.symm).symm
  | cons c _ ih =>
    cases text' with
    | nil => cases same
    | cons d =>
      obtain ⟨first, rest⟩ := List.cons.inj same
      obtain ⟨digit, later⟩ := List.forall_mem_cons.mp hex
      obtain ⟨digit', later'⟩ := List.forall_mem_cons.mp hex'
      rw [digits c digit d digit' first, ih later later' rest]

/-- The hash as its texts are used: lower-case digits, and none of the texts collide. -/
structure Hashes (sha256 : String → String) (texts : Set String) : Prop where
  hex : ∀ text ∈ texts, ∀ c ∈ (sha256 text).toList, c ∈ hexits
  collisionFree : Set.InjOn sha256 texts

theorem hashedText_eq {fields' : Table String String}
    {texts : Set String} (hashes : Hashes sha256 texts) (member : hashedText key fields ∈ texts)
    (member' : hashedText key fields' ∈ texts) (same : sign sha256 fields key = sign sha256 fields' key) :
    signedText fields = signedText fields' := by
  have uppers := congrArg String.toList same
  unfold sign strToUpper at uppers
  rw [String.toList_ofList, String.toList_ofList] at uppers
  have hashed := String.toList_inj.mp (toUpper_hexits (hashes.hex _ member) (hashes.hex _ member') uppers)
  have texts' := congrArg String.toList (hashes.collisionFree member member' hashed)
  unfold hashedText at texts'
  simp only [String.toList_append, List.append_assoc] at texts'
  exact String.toList_inj.mp (List.append_cancel_right texts')

/-- The fields of an accepted message, and fields that were signed. -/
structure BoundTo (fields signed : Table String String) : Prop where
  text : signedText fields = signedText signed
  begins : PlainFields signed → ∀ name value, name ≠ "sign" → value ≠ "" → fields.get? name = some value →
    ∃ value', signed.get? name = some value' ∧ value'.toList <+: value.toList
  values : PlainFields signed → ∀ name value, name ≠ "sign" → value ≠ "" → fields.get? name = some value →
    PlainValue value → signed.get? name = some value
  same : PlainFields signed → (SameFields fields signed ↔ PlainFields fields)

theorem characters_mem (unsigned : name ≠ "sign") (some' : value ≠ "")
    (stored : fields.get? name = some value) :
    (name.toList, value.toList) ∈ (canonicalFields fields).map characters :=
  List.mem_map.mpr ⟨(name, value), mem_canonicalFields.mpr ⟨stored, unsigned, some'⟩, rfl⟩

theorem of_characters_mem {value : List Char}
    (member : (name.toList, value) ∈ (canonicalFields fields).map characters) :
    fields.get? name = some (String.ofList value) := by
  obtain ⟨e, there, same⟩ := List.mem_map.mp member
  obtain ⟨names, rfl⟩ := Prod.mk.inj same
  have stored := (mem_canonicalFields.mp (show (e.1, e.2) ∈ canonicalFields fields from there)).1
  rw [String.toList_inj.mp names] at stored
  rw [String.ofList_toList]
  exact stored

theorem Verified.boundTo {signed : Table String String}
    (verified : Verified sha256 key fields) (names : ElementNames signed)
    (text : signedText fields = signedText signed) : BoundTo fields signed := by
  have merged : PlainFields signed → aubFormat.Merged ((canonicalFields signed).map characters)
      ((canonicalFields fields).map characters) := fun plain =>
    Fields.Format.merged_of_written_eq (plain_characters plain) (named_characters names)
      (named_characters verified.names) (written_eq_of_text text verified.fields_ne_nil)
  have values : PlainFields signed → ∀ name value, name ≠ "sign" → value ≠ "" → fields.get? name = some value →
      PlainValue value → signed.get? name = some value := by
    intro plain name value unsigned some' stored plainValue
    have there := (merged plain).mem_of_plain (named_characters names) (characters_mem unsigned some' stored)
      (by exact plainValue)
    have found := of_characters_mem there
    rw [String.ofList_toList] at found
    exact found
  refine ⟨text, ?_, values, ?_⟩
  · intro plain name value unsigned some' stored
    obtain ⟨value', taken, there, -, value_eq⟩ := (merged plain).begins (characters_mem unsigned some' stored)
    refine ⟨String.ofList value', of_characters_mem there, ?_⟩
    rw [String.toList_ofList, show value.toList = value' ++ aubFormat.written taken from value_eq]
    exact List.prefix_append _ _
  · intro plain
    constructor
    · intro same name value unsigned stored
      by_cases empty : value = ""
      · subst empty
        exact plainValue_of_free (by decide)
      · exact plain name value unsigned ((same name value unsigned empty).mp stored)
    · intro plain' name value unsigned some'
      have lists := (merged plain).eq_of_plain (named_characters names) (plain_characters plain')
      have pairs := List.map_injective_iff.mpr (fun _ _ => characters_injective) lists
      have member : (name, value) ∈ canonicalFields fields ↔ (name, value) ∈ canonicalFields signed := by rw [pairs]
      rw [mem_canonicalFields, mem_canonicalFields] at member
      exact ⟨fun stored => (member.mp ⟨stored, unsigned, some'⟩).1, fun stored => (member.mpr ⟨stored, unsigned, some'⟩).1⟩

/-! ### What a notification confirms -/

theorem confirm_rows (env : TopupEnvironment) (order book transaction' merchant evidence : String) (amount : Int)
    (s : Topups) {id : String} {row : QrTopup}
    (stored : (after (QrTopups.confirm env order book amount transaction' merchant evidence) s).rows.get? id = some row) :
    s.rows.get? id = some row ∨
      (id = order ∧ row.amountMinor = amount ∧ row.transactionId = some transaction') := by
  have atomic : Atomic (QrTopups.confirm env order book amount transaction' merchant evidence) := atomic_transaction _
  obtain ⟨same, -⟩ | success := after_cases atomic s
  · rw [same] at stored
    exact Or.inl stored
  · generalize after (QrTopups.confirm env order book amount transaction' merchant evidence) s = s' at stored success
    unfold QrTopups.confirm at success
    simp only [returns_transaction, returns_bind, returns_read, returns_orThrow, returns_throwIf] at success
    obtain ⟨found, s, ⟨rfl, rfl⟩, row', s, ⟨looked, rfl⟩, _, s, ⟨matches', rfl⟩, success⟩ := success
    obtain ⟨known, -⟩ := Option.filter_eq_some_iff.mp looked
    push Not at matches'
    split at success
    · rw [returns_throwIf] at success
      rw [success.2] at stored
      exact Or.inl stored
    · simp only [returns_bind, returns_read, returns_throwIf, onWallet_returns, saveTopup,
        returns_write] at success
      obtain ⟨_, _, ⟨w, -, rfl⟩, clash, _, ⟨-, rfl⟩, _, _, ⟨-, rfl⟩, rfl⟩ := success
      obtain ⟨rfl, r, old, rfl⟩ | ⟨-, old⟩ := Table.get?_update_cases stored
      · cases known.symm.trans old
        exact Or.inr ⟨rfl, matches'.1, rfl⟩
      · exact Or.inl old

/-- A notification pays the order it names, at the amount it names, under the transaction it names. -/
theorem notify_rows (env : TopupEnvironment) (raw : String) (s : Topups) {id : String} {row : QrTopup}
    (stored : (after (QrTopups.notify env raw) s).rows.get? id = some row) :
    s.rows.get? id = some row ∨ ∃ fields, env.verify raw = .ok fields ∧ QrTopups.PaymentFact fields ∧
      id = field fields "out_trade_no" ∧ row.amountMinor = intOfDigits (field fields "total_fee") ∧
        row.transactionId = some (field fields "transaction_id") := by
  unfold QrTopups.notify at stored
  cases verified : env.verify raw with
  | error =>
    rw [after_lift_error (by rw [verified]; rfl)] at stored
    exact Or.inl stored
  | ok fields =>
    rw [after_lift_ok (a := fields) (by rw [verified]; rfl), after_throwIf] at stored
    by_cases fact : QrTopups.PaymentFact fields
    · rw [if_neg (not_not.mpr fact)] at stored
      obtain old | ⟨order, amount, transaction'⟩ := confirm_rows env _ _ _ _ _ _ s stored
      · exact Or.inl old
      · exact Or.inr ⟨fields, rfl, fact, order, amount, transaction'⟩
    · rw [if_pos fact] at stored
      exact Or.inl stored

/-- A field that a payment fact needs is one that was signed, where no signed value holds another field. -/
theorem BoundTo.field_eq {signed : Table String String} (bound : BoundTo fields signed)
    (plain : PlainFields signed) (unsigned : name ≠ "sign") (some' : field fields.entries name ≠ "")
    (free : '&' ∉ (field fields.entries name).toList) : field fields.entries name = field signed.entries name := by
  cases found : fields.get? name with
  | none =>
    have missing : field fields.entries name = "" := by
      unfold field
      rw [show fields.entries.lookup name = none from found]
      rfl
    exact absurd missing some'
  | some value =>
    have value_eq : field fields.entries name = value := by
      unfold field
      rw [show fields.entries.lookup name = some value from found]
      rfl
    rw [value_eq] at some' free
    have there := bound.values plain name value unsigned some' found (plainValue_of_free free)
    rw [value_eq]
    unfold field
    rw [show signed.entries.lookup name = some value from there]
    rfl

theorem digitsBetween_field {low high : Nat} (digits : digitsBetween (low + 1) high value = true) :
    value ≠ "" ∧ '&' ∉ value.toList := by
  unfold digitsBetween at digits
  rw [Bool.and_eq_true, List.all_eq_true] at digits
  constructor
  · rintro rfl
    have length := of_decide_eq_true digits.1
    simp at length
  · intro member
    exact absurd (digits.2 _ member) (by decide)

theorem isUlid_field (ulid : isUlid value = true) : value ≠ "" ∧ '&' ∉ value.toList := by
  unfold isUlid at ulid
  rw [Bool.and_eq_true, Bool.and_eq_true, List.all_eq_true] at ulid
  constructor
  · rintro rfl
    have length := of_decide_eq_true ulid.1.1
    simp at length
  · intro member
    exact absurd (ulid.1.2 _ member) (by decide +kernel)

theorem isTransactionId_field (isId : isTransactionId value = true) :
    value ≠ "" ∧ '&' ∉ value.toList := by
  unfold isTransactionId at isId
  rw [Bool.and_eq_true, List.all_eq_true] at isId
  constructor
  · rintro rfl
    have length := of_decide_eq_true isId.1
    simp at length
  · intro member
    exact absurd (isId.2 _ member) (by decide)

/-- Whoever sends a message whose signature was made under the key sends a text that was signed; where no
signed value holds another field, the values are signed ones and a notification confirms what was signed. -/
theorem verified_boundTo (loadXML : String → Option DOMDocument) (sha256 : String → String) (xml key : String)
    (fields : Table String String) (signed : Set (Table String String))
    (accepted : verify loadXML sha256 xml key = .ok fields)
    (unforged : ∃ made ∈ signed, (fields.get? "sign").getD "" = sign sha256 made key)
    (hashes : Hashes sha256 (Set.image (hashedText key) (insert fields signed)))
    (names : ∀ made ∈ signed, ElementNames made) :
    ∃ made ∈ signed, BoundTo fields made ∧
      (PlainFields made → ∀ (env : TopupEnvironment) (s : Topups) (id : String) (row : QrTopup),
        env.verify xml = (verify loadXML sha256 xml key).map Table.entries →
          (after (QrTopups.notify env xml) s).rows.get? id = some row →
            s.rows.get? id = some row ∨ (id = field made.entries "out_trade_no" ∧
              row.amountMinor = intOfDigits (field made.entries "total_fee") ∧
                row.transactionId = some (field made.entries "transaction_id"))) := by
  obtain ⟨made, member, signature⟩ := unforged
  have verified := verify_returns accepted
  have text := hashedText_eq hashes (Set.mem_image_of_mem _ (Set.mem_insert ..))
    (Set.mem_image_of_mem _ (Set.mem_insert_of_mem _ member)) (verified.signature.trans signature)
  have bound := verified.boundTo (names made member) text
  refine ⟨made, member, bound, ?_⟩
  intro plain env s id row reads stored
  rw [accepted] at reads
  obtain old | ⟨read, found, fact, order, amount, transaction'⟩ := notify_rows env xml s stored
  · exact Or.inl old
  · cases reads.symm.trans found
    have fee := digitsBetween_field fact.2.2.2.2.2.1
    have ulid := isUlid_field fact.2.2.2.2.2.2.1
    have reference := isTransactionId_field fact.2.2.2.2.2.2.2
    rw [bound.field_eq plain (by decide) ulid.1 ulid.2] at order
    rw [bound.field_eq plain (by decide) fee.1 fee.2] at amount
    rw [bound.field_eq plain (by decide) reference.1 reference.2] at transaction'
    exact Or.inr ⟨order, amount, transaction'⟩

/-! One signed text, split as it was signed and split otherwise. -/

def oneDigest (text : String) : String :=
  if text = "fee_type=PHP&mch_id=m1&sign_type=SHA256&key=k" then
    "c8a5f67f151f16ac4a77241b1b33b6a0c7077dfa32a1fe5004cd26b936f678bf"
  else ""

def twoFields : Table String String :=
  ⟨[("fee_type", "PHP"), ("mch_id", "m1"), ("sign_type", "SHA256"),
    ("sign", "C8A5F67F151F16AC4A77241B1B33B6A0C7077DFA32A1FE5004CD26B936F678BF")], by decide⟩

def oneField : Table String String :=
  ⟨[("fee_type", "PHP&mch_id=m1"), ("sign_type", "SHA256"),
    ("sign", "C8A5F67F151F16AC4A77241B1B33B6A0C7077DFA32A1FE5004CD26B936F678BF")], by decide⟩

def element (tagName : String) (isName : IsElementName tagName.toList) (textContent : String) : DOMNode :=
  .element { tagName, isName, textContent }

def signatureElement : DOMNode :=
  element "sign" (by decide) "C8A5F67F151F16AC4A77241B1B33B6A0C7077DFA32A1FE5004CD26B936F678BF"

def bodyOfOne : String :=
  "<xml><fee_type>PHP&amp;mch_id=m1</fee_type><sign_type>SHA256</sign_type>" ++
    "<sign>C8A5F67F151F16AC4A77241B1B33B6A0C7077DFA32A1FE5004CD26B936F678BF</sign></xml>"

def loadBody (xml : String) : Option DOMDocument :=
  if xml = bodyOfOne then
    some ⟨some "xml", false, [element "fee_type" (by decide) "PHP&mch_id=m1",
      element "sign_type" (by decide) "SHA256", signatureElement]⟩
  else none

theorem accepted_of_entries {outcome : Except WalletException (Table String String)}
    (same : outcome.toOption.map Table.entries = some fields.entries) : outcome = .ok fields := by
  cases outcome with
  | error => cases same
  | ok read =>
    obtain ⟨entries, nodup⟩ := read
    obtain ⟨entries', nodup'⟩ := fields
    obtain rfl : entries = entries' := Option.some.inj same
    rfl

theorem oneField_accepted : verify loadBody oneDigest bodyOfOne "k" = .ok oneField :=
  accepted_of_entries (by decide +kernel)

theorem elementNames_twoFields : ElementNames twoFields := by
  intro name value stored
  have listed := (Table.mem_entries _ _ _).mpr stored
  simp only [twoFields, List.mem_cons, Prod.mk.injEq, List.not_mem_nil, or_false] at listed
  obtain ⟨rfl, -⟩ | ⟨rfl, -⟩ | ⟨rfl, -⟩ | ⟨rfl, -⟩ := listed <;> decide

theorem oneDigest_hashes : Hashes oneDigest (Set.image (hashedText "k") {oneField, twoFields}) := by
  have one : hashedText "k" oneField = "fee_type=PHP&mch_id=m1&sign_type=SHA256&key=k" := by decide +kernel
  have two : hashedText "k" twoFields = "fee_type=PHP&mch_id=m1&sign_type=SHA256&key=k" := by decide +kernel
  have only : ∀ text ∈ Set.image (hashedText "k") {oneField, twoFields},
      text = "fee_type=PHP&mch_id=m1&sign_type=SHA256&key=k" := by
    rintro text ⟨fields, rfl | rfl, rfl⟩
    · exact one
    · exact two
  have digits : ((oneDigest "fee_type=PHP&mch_id=m1&sign_type=SHA256&key=k").toList.all fun c => hexits.elem c) = true := by
    decide +kernel
  refine ⟨?_, ?_⟩
  · intro text member
    rw [only text member]
    exact fun c member => List.elem_iff.mp (List.all_eq_true.mp digits c member)
  · intro text member text' member' _
    rw [only text member, only text' member']

theorem verified_boundTo_split : ∃ made ∈ ({twoFields} : Set (Table String String)), BoundTo oneField made ∧
    (PlainFields made → ∀ (env : TopupEnvironment) (s : Topups) (id : String) (row : QrTopup),
      env.verify bodyOfOne = (verify loadBody oneDigest bodyOfOne "k").map Table.entries →
        (after (QrTopups.notify env bodyOfOne) s).rows.get? id = some row →
          s.rows.get? id = some row ∨ (id = field made.entries "out_trade_no" ∧
            row.amountMinor = intOfDigits (field made.entries "total_fee") ∧
              row.transactionId = some (field made.entries "transaction_id"))) :=
  verified_boundTo loadBody oneDigest bodyOfOne "k" oneField {twoFields} oneField_accepted
    ⟨twoFields, rfl, by decide +kernel⟩ oneDigest_hashes
    (fun made member => by rw [Set.mem_singleton_iff.mp member]; exact elementNames_twoFields)

theorem verified_sameFields_fails : ¬ ∀ (loadXML : String → Option DOMDocument) (sha256 : String → String)
    (xml key : String) (fields : Table String String) (signed : Set (Table String String)),
    verify loadXML sha256 xml key = .ok fields →
      (∃ made ∈ signed, (fields.get? "sign").getD "" = sign sha256 made key) →
        Hashes sha256 (Set.image (hashedText key) (insert fields signed)) → (∀ made ∈ signed, ElementNames made) →
          ∃ made ∈ signed, SameFields fields made := by
  intro always
  obtain ⟨made, member, same⟩ := always loadBody oneDigest bodyOfOne "k" oneField {twoFields} oneField_accepted
    ⟨twoFields, rfl, by decide +kernel⟩ oneDigest_hashes
    (fun made member => by rw [Set.mem_singleton_iff.mp member]; exact elementNames_twoFields)
  rw [Set.mem_singleton_iff.mp member] at same
  have merchant := (same "mch_id" "m1" (by decide) (by decide)).mpr (by decide +kernel)
  exact absurd merchant (by decide +kernel)

end VtsaCsms.Payments
