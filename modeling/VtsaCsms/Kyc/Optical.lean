import VtsaCsms.Foundation.Texts
import VtsaCsms.Kyc.Service

/-!
# Passports that are read by eye

`optical.py` reads a Philippine passport from the two lines of its machine-readable zone, wherever they are among the
lines that were recognised. Every part that has a check digit is checked, and so are all of them together. What is
printed for a passport is read as it was, unless its optional data is empty and has no check digit of its own, or its
holder was born in a year whose century the two digits do not tell.
-/
namespace VtsaCsms.Kyc.Optical
open Foundation.Texts

def alphabet : List Char := "0123456789ABCDEFGHIJKLMNOPQRSTUVWXYZ".toList

/-- What a character counts; `alphabet.index` raises for any other. -/
def characterValue (char : Char) : Option Nat := if char = '<' then some 0 else alphabet.idxOf? char

/-- The sum in `digit`, of the characters from the `i`-th. -/
def weigh (i : Nat) : List Char → Option Nat
  | [] => some 0
  | char :: rest => do
    let value ← characterValue char
    let later ← weigh (i + 1) rest
    return value * [7, 3, 1].getD (i % 3) 0 + later

def digit (value : List Char) : Option (List Char) := (weigh 0 value).map fun sum => [Nat.digitChar (sum % 10)]

def daysInMonth (year month : Nat) : Nat :=
  if month = 2 then if year % 4 = 0 ∧ (year % 100 ≠ 0 ∨ year % 400 = 0) then 29 else 28
  else if month ∈ [4, 6, 9, 11] then 30 else 31

/-- `datetime.date`. -/
structure Date where
  year : Nat
  month : Nat
  day : Nat
  valid : (1 ≤ year ∧ year ≤ 9999) ∧ (1 ≤ month ∧ month ≤ 12) ∧ 1 ≤ day ∧ day ≤ daysInMonth year month

/-- The constructor of `date`, which raises for a day that is not in the calendar. -/
def Date.of? (year month day : Nat) : Option Date :=
  if valid : (1 ≤ year ∧ year ≤ 9999) ∧ (1 ≤ month ∧ month ≤ 12) ∧ 1 ≤ day ∧ day ≤ daysInMonth year month then
    some ⟨year, month, day, valid⟩
  else none

def Date.isoformat (d : Date) : List Char := padded 4 d.year ++ ('-' :: padded 2 d.month ++ '-' :: padded 2 d.day)

def fullYear (today : Date) (digits : Nat) (birth : Bool) : Nat :=
  let year := 2000 + digits
  if birth = true ∧ today.year < year then year - 100 else year

def mrzDate (today : Date) (value : List Char) (birth : Bool) : Option (List Char) :=
  if value.length = 6 ∧ value.all Char.isDigit = true then
    (Date.of? (fullYear today (number (slice 0 2 value)) birth) (number (slice 2 4 value)) (number (slice 4 6 value))).map
      Date.isoformat
  else none

/-- `[A-Z<]`. -/
def isNameCharacter (c : Char) : Bool := c.isUpper || c == '<'

/-- `[A-Z0-9<]`. -/
def isMrzCharacter (c : Char) : Bool := c.isUpper || c.isDigit || c == '<'

/-- `P[A-Z<]PHL[A-Z<]{39}`. -/
def isFirstLine : List Char → Bool
  | 'P' :: kind :: 'P' :: 'H' :: 'L' :: name => isNameCharacter kind && name.length == 39 && name.all isNameCharacter
  | _ => false

/-- `[A-Z0-9<]{44}`. -/
def isSecondLine (line : List Char) : Bool := line.length == 44 && line.all isMrzCharacter

/-- Fields by their names; `none` where there is no value. -/
abbrev Extracted := List (String × Option (List Char))

section Reading
variable (upper : Char → List Char)

/-- The lines of a text in capitals, without blanks; `upper` has the capitals of a character. -/
def linesOf (text : List Char) : List (List Char) :=
  (splitlines text).map fun line => (line.flatMap upper).filter (! isSpace ·)

def pairsOf (text : List Char) : List (List Char × List Char) :=
  ((linesOf upper text).zip (linesOf upper text).tail).filter fun pair => isFirstLine pair.1 && isSecondLine pair.2

/-- What is checked in the second line, with the digits that check it. -/
def checkedParts (second : List Char) : List (List Char × List Char) :=
  [(slice 0 9 second, slice 9 10 second),
    (slice 13 19 second, slice 19 20 second),
    (slice 21 27 second, slice 27 28 second),
    (slice 28 42 second, slice 42 43 second),
    (slice 0 10 second ++ slice 13 20 second ++ slice 21 43 second, slice 43 44 second)]

/-- `any(digit(value) != check …)`, up to the first that is wrong. -/
def anyWrong : List (List Char × List Char) → Option Bool
  | [] => some false
  | (value, check) :: parts => do
    let expected ← digit value
    if expected ≠ check then some true else anyWrong parts

/-- `replace("<", " ")`. -/
def unfilled (c : Char) : Char := if c = '<' then ' ' else c

def fieldsOf (today : Date) (surname given second : List Char) : Extracted :=
  [("full_name", some ([' '].intercalate (split ((given ++ ' ' :: surname).map unfilled)))),
    ("birth_date", mrzDate today (slice 13 19 second) true),
    ("expiration_date", mrzDate today (slice 21 27 second) false),
    ("document_number", some (rstrip '<' (slice 0 9 second))),
    ("issuing_country", some ['P', 'H']),
    ("nationality", if slice 10 13 second = ['P', 'H', 'L'] then some ['P', 'H'] else none)]

/-- `all(fields.values())`. -/
def Extracted.complete (fields : Extracted) : Bool := fields.all fun field => field.2.any (! ·.isEmpty)

/-- `None` stands for an exception. -/
def passport (today : Date) (text : List Char) : Option (Extracted × Check) :=
  match pairsOf upper text with
  | [(first, second)] =>
    match anyWrong (checkedParts second) with
    | none => none
    | some true => some ([], .failed)
    | some false =>
      let (surname, separator, given) := partition ['<', '<'] (first.drop 5)
      if separator = [] ∨ strip '<' surname = [] ∨ strip '<' given = [] then some ([], .unavailable)
      else
        let fields := fieldsOf today surname given second
        some (fields, if fields.complete then .passed else .unavailable)
  | _ => some ([], .unavailable)

end Reading

/-! ### What is printed -/

/-- A letter counts from 10 on, a filler nothing. -/
def printedValue (c : Char) : Nat := if c.isDigit then c.toNat - 48 else if c.isUpper then c.toNat - 55 else 0

/-- The characters weigh 7, 3 and 1 in turn. -/
def weighted : List Char → Nat
  | a :: b :: c :: rest => 7 * printedValue a + 3 * printedValue b + printedValue c + weighted rest
  | [a, b] => 7 * printedValue a + 3 * printedValue b
  | [a] => 7 * printedValue a
  | [] => 0

def checkDigit (value : List Char) : Char := Nat.digitChar (weighted value % 10)

def filled (width : Nat) (value : List Char) : List Char := value ++ List.replicate (width - value.length) '<'

def nameOf (primary secondary : List (List Char)) : List Char :=
  ['<'].intercalate primary ++ '<' :: '<' :: ['<'].intercalate secondary

def Date.stamp (d : Date) : Nat := 10000 * d.year + 100 * d.month + d.day

def digitsOf (d : Date) : List Char := padded 2 (d.year % 100) ++ (padded 2 d.month ++ padded 2 d.day)

/-- A Philippine passport that can be printed: its name fits, what is not a letter or a digit of its number or its
optional data is a filler, and it expires in this century. -/
structure Passport where
  kind : Char
  primary : List (List Char)
  secondary : List (List Char)
  number : List Char
  birth : Date
  expiry : Date
  sex : Char
  optional : List Char
  kind_printed : isNameCharacter kind = true
  primary_named : primary ≠ []
  secondary_named : secondary ≠ []
  words_printed : ∀ word ∈ primary ++ secondary, word ≠ [] ∧ ∀ c ∈ word, c.isUpper = true
  name_fits : (nameOf primary secondary).length ≤ 39
  number_fits : 1 ≤ number.length ∧ number.length ≤ 9
  number_printed : ∀ c ∈ number, isMrzCharacter c = true
  number_ends : number.getLast? ≠ some '<'
  expires : 2000 ≤ expiry.year ∧ expiry.year ≤ 2099
  sex_printed : sex ∈ ['M', 'F', '<']
  optional_fits : optional.length ≤ 14
  optional_printed : ∀ c ∈ optional, isMrzCharacter c = true

namespace Passport
variable (p : Passport)

def firstLine : List Char := 'P' :: p.kind :: 'P' :: 'H' :: 'L' :: filled 39 (nameOf p.primary p.secondary)

/-- A date as it is printed, with the digit that checks it. -/
def dated (d : Date) : List Char := digitsOf d ++ [checkDigit (digitsOf d)]

def numbered : List Char := filled 9 p.number ++ [checkDigit (filled 9 p.number)]

def extra (check : Char) : List Char := filled 14 p.optional ++ [check]

/-- What is checked all together. -/
def composite (check : Char) : List Char := p.numbered ++ dated p.birth ++ (dated p.expiry ++ p.extra check)

def secondLine (check : Char) : List Char :=
  p.numbered ++ (['P', 'H', 'L'] ++ (dated p.birth ++ ([p.sex] ++ (dated p.expiry ++ (p.extra check ++
    [checkDigit (p.composite check)])))))

/-- The check digit of optional data; where there is none, a filler may stand for it. -/
def MayCheck (check : Char) : Prop :=
  check = checkDigit (filled 14 p.optional) ∨ (∀ c ∈ p.optional, c = '<') ∧ check = '<'

def BornBefore (today : Date) : Prop := p.birth.stamp ≤ today.stamp ∧ today.stamp < p.birth.stamp + 1000000

/-- The two lines are among those of the text, and no other is like the first. -/
def ReadIn (upper : Char → List Char) (text : List Char) (check : Char) : Prop :=
  ∃ before after, linesOf upper text = before ++ p.firstLine :: p.secondLine check :: after ∧
    ∀ line ∈ before ++ after, isFirstLine line = false

def fields : Extracted :=
  [("full_name", some ([' '].intercalate (p.secondary ++ p.primary))),
    ("birth_date", some p.birth.isoformat),
    ("expiration_date", some p.expiry.isoformat),
    ("document_number", some p.number),
    ("issuing_country", some ['P', 'H']),
    ("nationality", some ['P', 'H'])]

end Passport

/-! ### Check digits -/

theorem isUpper_code {c : Char} (letter : c.isUpper = true) : 65 ≤ c.toNat ∧ c.toNat ≤ 90 := by
  have both : 65 ≤ c.val ∧ c.val ≤ 90 := of_decide_eq_true letter
  exact ⟨UInt32.le_iff_toNat_le.mp both.1, UInt32.le_iff_toNat_le.mp both.2⟩

theorem character_cases {c : Char} (printed : isMrzCharacter c = true) : c.toNat < 128 := by
  simp only [isMrzCharacter, Char.isDigit, Bool.or_eq_true, Bool.and_eq_true, decide_eq_true_eq,
    beq_iff_eq] at printed
  obtain (letter | ⟨-, upper⟩) | rfl := printed
  · exact Nat.lt_of_le_of_lt (isUpper_code letter).2 (by decide)
  · exact Nat.lt_of_le_of_lt (UInt32.le_iff_toNat_le.mp upper) (by decide)
  · decide

theorem value_table : ∀ n < 128, isMrzCharacter (Char.ofNat n) = true →
    characterValue (Char.ofNat n) = some (printedValue (Char.ofNat n)) := by decide

theorem characterValue_printed {c : Char} (printed : isMrzCharacter c = true) :
    characterValue c = some (printedValue c) := by
  have same : Char.ofNat c.toNat = c := Char.ofNat_toNat c
  rw [← same] at printed ⊢
  exact value_table c.toNat (character_cases (same ▸ printed)) printed

theorem weigh_printed : ∀ {value : List Char} {i : Nat}, (∀ c ∈ value, isMrzCharacter c = true) → i % 3 = 0 →
    weigh i value = some (weighted value)
  | [], _, _, _ => rfl
  | [a], i, printed, start => by
    simp [weigh, weighted, characterValue_printed (printed a (by simp)), start, Nat.mul_comm]
  | [a, b], i, printed, start => by
    have second : (i + 1) % 3 = 1 := by omega
    simp [weigh, weighted, characterValue_printed (printed a (by simp)), characterValue_printed (printed b (by simp)),
      start, second, Nat.mul_comm]
  | a :: b :: c :: rest, i, printed, start => by
    have second : (i + 1) % 3 = 1 := by omega
    have third : (i + 1 + 1) % 3 = 2 := by omega
    have later : weigh (i + 1 + 1 + 1) rest = some (weighted rest) :=
      weigh_printed (fun d stands => printed d (by simp [stands])) (by omega)
    simp [weigh, weighted, characterValue_printed (printed a (by simp)), characterValue_printed (printed b (by simp)),
      characterValue_printed (printed c (by simp)), start, second, third, later, Nat.mul_comm, Nat.add_assoc]

theorem digit_printed {value : List Char} (printed : ∀ c ∈ value, isMrzCharacter c = true) :
    digit value = some [checkDigit value] := by
  rw [digit, weigh_printed printed (Nat.zero_mod 3)]
  rfl

theorem checkDigit_isDigit (value : List Char) : (checkDigit value).isDigit = true :=
  (digitChar_toNat _ (Nat.mod_lt _ (by decide))).2

/-! ### Dates -/

theorem day_small (d : Date) : d.month ≤ 12 ∧ d.day ≤ 31 := by
  obtain ⟨-, ⟨-, month⟩, -, day⟩ := d.valid
  refine ⟨month, day.trans ?_⟩
  unfold daysInMonth
  split_ifs <;> decide

theorem fullYear_birth {today birth : Date} (past : birth.stamp ≤ today.stamp) :
    fullYear today (birth.year % 100) true = birth.year ↔
      2000 ≤ birth.year ∧ birth.year ≤ 2099 ∨ 1900 ≤ birth.year ∧ birth.year ≤ 1999 ∧ today.year < birth.year + 100 := by
  have small := day_small today
  simp only [Date.stamp] at past
  simp only [fullYear, true_and]
  split_ifs <;> omega

theorem fullYear_expiry {today expiry : Date} (century : 2000 ≤ expiry.year ∧ expiry.year ≤ 2099) :
    fullYear today (expiry.year % 100) false = expiry.year := by
  simp only [fullYear, Bool.false_eq_true, false_and, if_false]
  omega

theorem isoformat_year {d d' : Date} (same : d.isoformat = d'.isoformat) : d.year = d'.year := by
  have years := (List.append_inj same (by simp)).1
  have bound (d : Date) : d.year < 10 ^ 4 := Nat.lt_succ_of_le d.valid.1.2
  exact padded_inj (bound d) (bound d') years

theorem mrzDate_digits (today d : Date) (birth : Bool) :
    mrzDate today (digitsOf d) birth =
      (Date.of? (fullYear today (d.year % 100) birth) d.month d.day).map Date.isoformat := by
  have small := day_small d
  have length : (digitsOf d).length = 6 := by simp [digitsOf]
  have digits : (digitsOf d).all Char.isDigit = true := by
    rw [List.all_eq_true]
    intro c stands
    rw [digitsOf, List.mem_append, List.mem_append] at stands
    obtain year | month | day := stands
    · exact padded_digits _ _ c year
    · exact padded_digits _ _ c month
    · exact padded_digits _ _ c day
  have year : slice 0 2 (digitsOf d) = padded 2 (d.year % 100) := slice_parts [] (List.prefix_append _ _) rfl (by simp)
  have month : slice 2 4 (digitsOf d) = padded 2 d.month :=
    slice_parts (padded 2 (d.year % 100)) (by simp [digitsOf]) (by simp) (by simp)
  have day : slice 4 6 (digitsOf d) = padded 2 d.day :=
    slice_parts (padded 2 (d.year % 100) ++ padded 2 d.month) (by simp [digitsOf]) (by simp) (by simp)
  have short : d.year % 100 < 10 ^ 2 := Nat.mod_lt _ (by decide)
  rw [mrzDate, if_pos ⟨length, digits⟩, year, month, day, number_padded short, number_padded (by omega),
    number_padded (by omega)]

theorem of?_self (d : Date) : Date.of? d.year d.month d.day = some d := dif_pos d.valid

theorem mrzDate_reads (today d : Date) (birth : Bool) :
    mrzDate today (digitsOf d) birth = some d.isoformat ↔ fullYear today (d.year % 100) birth = d.year := by
  rw [mrzDate_digits]
  constructor
  · intro read
    obtain ⟨d', made, same⟩ := Option.map_eq_some_iff.mp read
    rw [Date.of?] at made
    split_ifs at made
    cases made
    exact isoformat_year same
  · intro told
    rw [told, of?_self, Option.map_some]

/-! ### Lines -/

section Lines
variable {upper : Char → List Char} {text : List Char}

theorem isFirstLine_characters {line : List Char} (first : isFirstLine line = true) :
    ∀ c ∈ line, isNameCharacter c = true := by
  unfold isFirstLine at first
  split at first
  next kind name =>
    simp only [Bool.and_eq_true, List.all_eq_true] at first
    intro c stands
    simp only [List.mem_cons] at stands
    obtain rfl | rfl | rfl | rfl | rfl | stands := stands
    · rfl
    · exact first.1.1
    · rfl
    · rfl
    · rfl
    · exact first.2 c stands
  next => cases first

theorem filter_zip_nil {p q : List Char → Bool} {lines lines' : List (List Char)} (none : ∀ line ∈ lines, p line = false) :
    (lines.zip lines').filter (fun pair => p pair.1 && q pair.2) = [] := by
  rw [List.filter_eq_nil_iff]
  intro pair stands
  have left := none pair.1 (List.of_mem_zip stands).1
  simp [left]

theorem filter_zip_before {p q : List Char → Bool} {before lines : List (List Char)}
    (none : ∀ line ∈ before, p line = false) :
    ((before ++ lines).zip (before ++ lines).tail).filter (fun pair => p pair.1 && q pair.2) =
      (lines.zip lines.tail).filter fun pair => p pair.1 && q pair.2 := by
  induction before with
  | nil => rfl
  | cons line before ih =>
    have skipped := none line List.mem_cons_self
    have later := ih fun l stands => none l (List.mem_cons_of_mem _ stands)
    rw [List.cons_append, List.tail_cons]
    cases rest : before ++ lines with
    | nil =>
      rw [rest] at later
      rw [← later]
      rfl
    | cons next rest' =>
      rw [rest] at later
      rw [List.zip_cons_cons, List.filter_cons_of_neg (by simp [skipped])]
      exact later

theorem pairsOf_single {before after : List (List Char)} {first second : List Char}
    (lines : linesOf upper text = before ++ first :: second :: after) (opens : isFirstLine first = true)
    (follows : isSecondLine second = true) (other : isFirstLine second = false)
    (none : ∀ line ∈ before ++ after, isFirstLine line = false) : pairsOf upper text = [(first, second)] := by
  have later : ∀ line ∈ second :: after, isFirstLine line = false := by
    intro line stands
    obtain rfl | stands := List.mem_cons.mp stands
    · exact other
    · exact none line (List.mem_append_right _ stands)
  rw [pairsOf, lines, filter_zip_before fun line stands => none line (List.mem_append_left _ stands), List.tail_cons,
    List.zip_cons_cons, List.filter_cons_of_pos (by simp [opens, follows]), filter_zip_nil later]

end Lines

/-! ### The printed lines -/

theorem length_filled {width : Nat} {value : List Char} (fits : value.length ≤ width) :
    (filled width value).length = width := by
  rw [filled, List.length_append, List.length_replicate]
  omega

theorem mem_filled {width : Nat} {value : List Char} {c : Char} (stands : c ∈ filled width value) :
    c ∈ value ∨ c = '<' :=
  (List.mem_append.mp stands).imp_right List.eq_of_mem_replicate

theorem mem_intercalate {words : List (List Char)} {c : Char} (stands : c ∈ ['<'].intercalate words) :
    (∃ word ∈ words, c ∈ word) ∨ c = '<' := by
  induction words with
  | nil => cases stands
  | cons word words ih =>
    cases words with
    | nil => exact .inl ⟨word, List.mem_cons_self, by rwa [List.intercalate_singleton] at stands⟩
    | cons second words =>
      rw [List.intercalate_cons_cons, List.mem_append, List.mem_append, List.mem_singleton] at stands
      obtain (first | filler) | later := stands
      · exact .inl ⟨word, List.mem_cons_self, first⟩
      · exact .inr filler
      · exact (ih later).imp_left fun ⟨w, among, inside⟩ => ⟨w, List.mem_cons_of_mem _ among, inside⟩

theorem digit_mrz {c : Char} (digit : c.isDigit = true) : isMrzCharacter c = true := by
  simp [isMrzCharacter, digit]

theorem digit_name {c : Char} (digit : c.isDigit = true) : isNameCharacter c = false := by
  rw [← Bool.not_eq_true]
  intro named
  simp only [isNameCharacter, Char.isDigit, Bool.or_eq_true, Bool.and_eq_true, decide_eq_true_eq,
    beq_iff_eq] at named digit
  obtain letter | rfl := named
  · have below := UInt32.le_iff_toNat_le.mp digit.2
    exact absurd ((isUpper_code letter).1.trans below) (by decide)
  · exact absurd digit (by decide)

theorem digitsOf_digits (d : Date) : ∀ c ∈ digitsOf d, c.isDigit = true := by
  intro c stands
  rw [digitsOf, List.mem_append, List.mem_append] at stands
  obtain year | month | day := stands
  · exact padded_digits _ _ c year
  · exact padded_digits _ _ c month
  · exact padded_digits _ _ c day

theorem length_digitsOf (d : Date) : (digitsOf d).length = 6 := by simp [digitsOf]

namespace Passport
variable {p : Passport} {check : Char}

theorem numbered_length : p.numbered.length = 10 := by
  rw [numbered, List.length_append, length_filled p.number_fits.2, List.length_singleton]

theorem dated_length (d : Date) : (dated d).length = 7 := by
  rw [dated, List.length_append, length_digitsOf, List.length_singleton]

theorem extra_length : (p.extra check).length = 15 := by
  rw [extra, List.length_append, length_filled p.optional_fits, List.length_singleton]

theorem check_mrz (may : p.MayCheck check) : isMrzCharacter check = true := by
  obtain rfl | ⟨-, rfl⟩ := may
  · exact digit_mrz (checkDigit_isDigit _)
  · decide

theorem check_ne_filler (may : p.MayCheck check) : check = checkDigit (filled 14 p.optional) ↔ check ≠ '<' := by
  constructor
  · rintro rfl filler
    have digit := checkDigit_isDigit (filled 14 p.optional)
    rw [filler] at digit
    exact absurd digit (by decide)
  · exact fun proper => may.resolve_right fun filler => proper filler.2

theorem filled_mrz {width : Nat} {value : List Char} (printed : ∀ c ∈ value, isMrzCharacter c = true) :
    ∀ c ∈ filled width value, isMrzCharacter c = true := by
  intro c stands
  obtain among | rfl := mem_filled stands
  · exact printed c among
  · decide

theorem numbered_mrz : ∀ c ∈ p.numbered, isMrzCharacter c = true := by
  intro c stands
  obtain among | last := List.mem_append.mp stands
  · exact filled_mrz p.number_printed c among
  · rw [List.mem_singleton.mp last]
    exact digit_mrz (checkDigit_isDigit _)

theorem dated_digits (d : Date) : ∀ c ∈ dated d, c.isDigit = true := by
  intro c stands
  obtain among | last := List.mem_append.mp stands
  · exact digitsOf_digits d c among
  · rw [List.mem_singleton.mp last]
    exact checkDigit_isDigit _

theorem extra_mrz (may : p.MayCheck check) : ∀ c ∈ p.extra check, isMrzCharacter c = true := by
  intro c stands
  obtain among | last := List.mem_append.mp stands
  · exact filled_mrz p.optional_printed c among
  · rw [List.mem_singleton.mp last]
    exact check_mrz may

theorem composite_mrz (may : p.MayCheck check) : ∀ c ∈ p.composite check, isMrzCharacter c = true := by
  intro c stands
  rw [composite, List.mem_append, List.mem_append, List.mem_append] at stands
  obtain (number | birth) | expiry | extra := stands
  · exact numbered_mrz c number
  · exact digit_mrz (dated_digits _ c birth)
  · exact digit_mrz (dated_digits _ c expiry)
  · exact extra_mrz may c extra

theorem sex_mrz : isMrzCharacter p.sex = true := by
  have cases := p.sex_printed
  simp only [List.mem_cons, List.not_mem_nil, or_false] at cases
  obtain sex | sex | sex := cases <;> (rw [sex]; decide)

theorem secondLine_matches (may : p.MayCheck check) : isSecondLine (p.secondLine check) = true := by
  rw [isSecondLine, Bool.and_eq_true, beq_iff_eq, List.all_eq_true]
  refine ⟨?_, fun c stands => ?_⟩
  · simp [secondLine, numbered_length, dated_length, extra_length]
  · rw [secondLine] at stands
    simp only [List.mem_append, List.mem_singleton] at stands
    obtain number | country | birth | rfl | expiry | extra | rfl := stands
    · exact numbered_mrz c number
    · simp only [List.mem_cons, List.not_mem_nil, or_false] at country
      obtain rfl | rfl | rfl := country <;> decide
    · exact digit_mrz (dated_digits _ c birth)
    · exact sex_mrz
    · exact digit_mrz (dated_digits _ c expiry)
    · exact extra_mrz may c extra
    · exact digit_mrz (checkDigit_isDigit _)

theorem secondLine_other : isFirstLine (p.secondLine check) = false := by
  rw [← Bool.not_eq_true]
  intro first
  have digit := checkDigit_isDigit (filled 9 p.number)
  have stands : checkDigit (filled 9 p.number) ∈ p.secondLine check := by simp [secondLine, numbered]
  have named := isFirstLine_characters first _ stands
  rw [digit_name digit] at named
  cases named

/-! ### Their parts -/

theorem slice_number : slice 0 9 (p.secondLine check) = filled 9 p.number :=
  slice_parts [] (by simp [secondLine, numbered]) rfl (by rw [length_filled p.number_fits.2])

theorem slice_number_check : slice 9 10 (p.secondLine check) = [checkDigit (filled 9 p.number)] :=
  slice_parts (filled 9 p.number) (by simp [secondLine, numbered]) (length_filled p.number_fits.2) rfl

theorem slice_numbered : slice 0 10 (p.secondLine check) = p.numbered :=
  slice_parts [] (List.prefix_append _ _) rfl (by rw [numbered_length])

theorem slice_country : slice 10 13 (p.secondLine check) = ['P', 'H', 'L'] :=
  slice_parts p.numbered (by simp [secondLine]) numbered_length rfl

def lead (p : Passport) : List Char := p.numbered ++ ['P', 'H', 'L']

theorem lead_length : p.lead.length = 13 := by
  rw [lead, List.length_append, numbered_length, List.length_cons, List.length_cons, List.length_singleton]

theorem secondLine_lead : p.secondLine check =
    p.lead ++ (dated p.birth ++ ([p.sex] ++ (dated p.expiry ++ (p.extra check ++ [checkDigit (p.composite check)])))) := by
  rw [secondLine, lead, List.append_assoc]

theorem slice_birth : slice 13 19 (p.secondLine check) = digitsOf p.birth :=
  slice_parts p.lead (by simp [secondLine_lead, dated]) lead_length (by rw [length_digitsOf])

theorem slice_birth_check : slice 19 20 (p.secondLine check) = [checkDigit (digitsOf p.birth)] :=
  slice_parts (p.lead ++ digitsOf p.birth) (by simp [secondLine_lead, dated])
    (by rw [List.length_append, lead_length, length_digitsOf]) rfl

theorem slice_dated : slice 13 20 (p.secondLine check) = dated p.birth :=
  slice_parts p.lead (by simp [secondLine_lead]) lead_length (by rw [dated_length])

def start (p : Passport) : List Char := p.lead ++ (dated p.birth ++ [p.sex])

theorem start_length : p.start.length = 21 := by
  rw [start, List.length_append, List.length_append, lead_length, dated_length, List.length_singleton]

theorem secondLine_start : p.secondLine check =
    p.start ++ (dated p.expiry ++ (p.extra check ++ [checkDigit (p.composite check)])) := by
  rw [secondLine_lead, start, List.append_assoc, List.append_assoc]

theorem slice_expiry : slice 21 27 (p.secondLine check) = digitsOf p.expiry :=
  slice_parts p.start (by simp [secondLine_start, dated]) start_length (by rw [length_digitsOf])

theorem slice_expiry_check : slice 27 28 (p.secondLine check) = [checkDigit (digitsOf p.expiry)] :=
  slice_parts (p.start ++ digitsOf p.expiry) (by simp [secondLine_start, dated])
    (by rw [List.length_append, start_length, length_digitsOf]) rfl

theorem slice_extra : slice 28 42 (p.secondLine check) = filled 14 p.optional :=
  slice_parts (p.start ++ dated p.expiry) (by simp [secondLine_start, extra])
    (by rw [List.length_append, start_length, dated_length]) (by rw [length_filled p.optional_fits])

theorem slice_extra_check : slice 42 43 (p.secondLine check) = [check] :=
  slice_parts (p.start ++ (dated p.expiry ++ filled 14 p.optional)) (by simp [secondLine_start, extra])
    (by rw [List.length_append, List.length_append, start_length, dated_length, length_filled p.optional_fits]) rfl

theorem slice_rest : slice 21 43 (p.secondLine check) = dated p.expiry ++ p.extra check :=
  slice_parts p.start (by simp [secondLine_start]) start_length
    (by rw [List.length_append, dated_length, extra_length])

theorem slice_composite_check : slice 43 44 (p.secondLine check) = [checkDigit (p.composite check)] :=
  slice_parts (p.start ++ (dated p.expiry ++ p.extra check)) (by simp [secondLine_start])
    (by rw [List.length_append, List.length_append, start_length, dated_length, extra_length]) rfl

/-- All is checked right but for a filler that stands for the check digit of no optional data. -/
theorem anyWrong_printed (may : p.MayCheck check) :
    anyWrong (checkedParts (p.secondLine check)) = some (decide (check = '<')) := by
  have number : digit (filled 9 p.number) = _ := digit_printed (filled_mrz p.number_printed)
  have birth := digit_printed fun c stands => digit_mrz (digitsOf_digits p.birth c stands)
  have expiry := digit_printed fun c stands => digit_mrz (digitsOf_digits p.expiry c stands)
  have optional : digit (filled 14 p.optional) = _ := digit_printed (filled_mrz p.optional_printed)
  have together := digit_printed (composite_mrz may)
  have parts : p.numbered ++ dated p.birth ++ (dated p.expiry ++ p.extra check) = p.composite check := rfl
  simp only [checkedParts, slice_number, slice_number_check, slice_birth, slice_birth_check, slice_expiry,
    slice_expiry_check, slice_extra, slice_extra_check, slice_numbered, slice_dated, slice_rest, slice_composite_check,
    parts]
  by_cases proper : check = '<'
  · have wrong : checkDigit (filled 14 p.optional) ≠ check := fun same => (check_ne_filler may).mp same.symm proper
    simp only [anyWrong, number, birth, expiry, optional, Option.bind_eq_bind, Option.bind_some, ne_eq,
      List.singleton_inj, not_true_eq_false, if_false, wrong, not_false_eq_true, if_true, decide_eq_true proper]
  · have right : checkDigit (filled 14 p.optional) = check := ((check_ne_filler may).mpr proper).symm
    simp only [anyWrong, number, birth, expiry, optional, together, right, Option.bind_eq_bind, Option.bind_some, ne_eq,
      not_true_eq_false, if_false, decide_eq_false proper]

/-! ### The name -/

theorem primary_printed (word : List Char) (among : word ∈ p.primary) : word ≠ [] ∧ ∀ c ∈ word, c.isUpper = true :=
  p.words_printed word (List.mem_append_left _ among)

theorem secondary_printed (word : List Char) (among : word ∈ p.secondary) : word ≠ [] ∧ ∀ c ∈ word, c.isUpper = true :=
  p.words_printed word (List.mem_append_right _ among)

theorem letter_ne_filler {c : Char} (letter : c.isUpper = true) : c ≠ '<' := by
  rintro rfl
  exact absurd letter (by decide)

theorem letter_not_blank {c : Char} (letter : c.isUpper = true) : isSpace c = false := by
  have table : ∀ n < 128, (Char.ofNat n).isUpper = true → isSpace (Char.ofNat n) = false := by decide
  have printed : isMrzCharacter c = true := by simp [isMrzCharacter, letter]
  have same : Char.ofNat c.toNat = c := Char.ofNat_toNat c
  rw [← same] at letter ⊢
  exact table c.toNat (character_cases printed) letter

theorem firstLine_matches : isFirstLine p.firstLine = true := by
  have length : (filled 39 (nameOf p.primary p.secondary)).length = 39 := length_filled p.name_fits
  have words {words : List (List Char)} (printed : ∀ word ∈ words, ∀ c ∈ word, c.isUpper = true) {c : Char}
      (stands : c ∈ ['<'].intercalate words) : isNameCharacter c = true := by
    obtain ⟨word, among, inside⟩ | rfl := mem_intercalate stands
    · simp [isNameCharacter, printed word among c inside]
    · decide
  have characters : (filled 39 (nameOf p.primary p.secondary)).all isNameCharacter = true := by
    rw [List.all_eq_true]
    intro c stands
    obtain among | rfl := mem_filled stands
    · rw [nameOf, List.mem_append, List.mem_cons, List.mem_cons] at among
      obtain primary | rfl | rfl | secondary := among
      · exact words (fun word among => (primary_printed word among).2) primary
      · decide
      · decide
      · exact words (fun word among => (secondary_printed word among).2) secondary
    · decide
  simp [firstLine, isFirstLine, p.kind_printed, length, characters]

def fillers (p : Passport) : List Char := List.replicate (39 - (nameOf p.primary p.secondary).length) '<'

theorem partition_name : partition ['<', '<'] (p.firstLine.drop 5) =
    (['<'].intercalate p.primary, ['<', '<'], ['<'].intercalate p.secondary ++ p.fillers) := by
  have name : p.firstLine.drop 5 =
      ['<'].intercalate p.primary ++ '<' :: '<' :: (['<'].intercalate p.secondary ++ p.fillers) := by
    simp only [firstLine, filled, nameOf, fillers, List.drop_succ_cons, List.drop_zero, List.append_assoc,
      List.cons_append]
  rw [name]
  exact partition_intercalate p.primary_named (fun word among => (primary_printed word among).1)
    (fun word among c inside => letter_ne_filler ((primary_printed word among).2 c inside)) _

theorem strip_words {words : List (List Char)} (named : words ≠ [])
    (printed : ∀ word ∈ words, word ≠ [] ∧ ∀ c ∈ word, c.isUpper = true) (text : List Char) :
    strip '<' (['<'].intercalate words ++ text) ≠ [] := by
  cases words with
  | nil => exact absurd rfl named
  | cons word words =>
    obtain ⟨first, letters⟩ := printed word List.mem_cons_self
    cases word with
    | nil => exact absurd rfl first
    | cons c word =>
      have other := letter_ne_filler (letters c List.mem_cons_self)
      cases words with
      | nil =>
        rw [List.intercalate_singleton]
        exact strip_ne_nil other
      | cons second words =>
        rw [List.intercalate_cons_cons]
        exact strip_ne_nil other

theorem map_word {word : List Char} (letters : ∀ c ∈ word, c.isUpper = true) : word.map unfilled = word := by
  exact (List.map_congr_left fun c inside => if_neg (letter_ne_filler (letters c inside))).trans (List.map_id word)

theorem map_words {words : List (List Char)} (printed : ∀ word ∈ words, ∀ c ∈ word, c.isUpper = true) :
    (['<'].intercalate words).map unfilled = [' '].intercalate words := by
  induction words with
  | nil => rfl
  | cons word words ih =>
    have first := map_word (printed word List.mem_cons_self)
    have later := ih fun w among => printed w (List.mem_cons_of_mem _ among)
    cases words with
    | nil => rw [List.intercalate_singleton, List.intercalate_singleton, first]
    | cons second words =>
      rw [List.intercalate_cons_cons, List.intercalate_cons_cons, List.map_append, List.map_append, first, later]
      rfl

theorem split_words {words : List (List Char)}
    (printed : ∀ word ∈ words, word ≠ [] ∧ ∀ c ∈ word, c.isUpper = true) :
    split ([' '].intercalate words) = words :=
  split_intercalate (by decide) (fun word among => (printed word among).1) fun word among c inside =>
    letter_not_blank ((printed word among).2 c inside)

theorem split_name : split ((['<'].intercalate p.secondary ++ p.fillers ++ ' ' :: ['<'].intercalate p.primary).map
    unfilled) = p.secondary ++ p.primary := by
  have blanks : p.fillers.map unfilled = List.replicate (39 - (nameOf p.primary p.secondary).length) ' ' := by
    rw [fillers, List.map_replicate]
    rfl
  rw [List.map_append, List.map_append, List.map_cons, blanks, map_words fun word among => (primary_printed word among).2,
    map_words fun word among => (secondary_printed word among).2]
  have blank : unfilled ' ' = ' ' := rfl
  rw [blank, split_append _ _ (by decide), split_trailing (by decide), split_words primary_printed,
    split_words secondary_printed]

/-! ### What is read -/

def fieldsRead (p : Passport) (today : Date) : Extracted :=
  [("full_name", some ([' '].intercalate (p.secondary ++ p.primary))),
    ("birth_date", mrzDate today (digitsOf p.birth) true),
    ("expiration_date", some p.expiry.isoformat),
    ("document_number", some p.number),
    ("issuing_country", some ['P', 'H']),
    ("nationality", some ['P', 'H'])]

theorem fieldsOf_printed (today : Date) :
    fieldsOf today (['<'].intercalate p.primary) (['<'].intercalate p.secondary ++ p.fillers) (p.secondLine check) =
      p.fieldsRead today := by
  have expiry : mrzDate today (digitsOf p.expiry) false = some p.expiry.isoformat :=
    (mrzDate_reads today p.expiry false).mpr (fullYear_expiry p.expires)
  have number : rstrip '<' (filled 9 p.number) = p.number := rstrip_fill p.number_ends _
  rw [fieldsOf, split_name, slice_birth, slice_expiry, slice_number, slice_country, expiry, number, fieldsRead]
  rfl

variable {upper : Char → List Char} {today : Date} {text : List Char}

theorem passport_printed (may : p.MayCheck check) (readIn : p.ReadIn upper text check) :
    passport upper today text =
      if check = '<' then some ([], .failed)
      else some (p.fieldsRead today, if (p.fieldsRead today).complete then .passed else .unavailable) := by
  obtain ⟨before, after, lines, none⟩ := readIn
  have pair := pairsOf_single lines firstLine_matches (secondLine_matches may) secondLine_other none
  have surname : strip '<' (['<'].intercalate p.primary) ≠ [] := by
    simpa using strip_words p.primary_named primary_printed []
  have given := strip_words p.secondary_named secondary_printed p.fillers
  rw [passport, pair]
  simp only [anyWrong_printed may]
  by_cases filler : check = '<'
  · rw [decide_eq_true filler, if_pos filler]
  · rw [decide_eq_false filler, if_neg filler]
    simp only [partition_name, fieldsOf_printed, List.cons_ne_nil, surname, given, or_self, if_false]

theorem complete_fields : p.fields.complete = true := by
  have name : [' '].intercalate (p.secondary ++ p.primary) ≠ [] := by
    have named := p.secondary_named
    have printed := secondary_printed (p := p)
    cases words : p.secondary with
    | nil => exact absurd words named
    | cons word rest =>
      have first := (printed word (words ▸ List.mem_cons_self)).1
      rw [List.cons_append]
      cases rest ++ p.primary with
      | nil => rwa [List.intercalate_singleton]
      | cons second later => simp [List.intercalate_cons_cons]
  have number : p.number ≠ [] := List.ne_nil_of_length_pos p.number_fits.1
  simp [fields, Extracted.complete, name, number, Date.isoformat]

theorem fieldsRead_iff (past : p.birth.stamp ≤ today.stamp) :
    p.fieldsRead today = p.fields ↔ 2000 ≤ p.birth.year ∧ p.birth.year ≤ 2099 ∨
      1900 ≤ p.birth.year ∧ p.birth.year ≤ 1999 ∧ today.year < p.birth.year + 100 := by
  rw [← fullYear_birth past, ← mrzDate_reads]
  simp [fieldsRead, fields]

end Passport

/-! ### What is passed -/

/-- Every check digit of a second line is right. -/
structure Checked (second : List Char) : Prop where
  number : slice 9 10 second = [checkDigit (slice 0 9 second)]
  birth : slice 19 20 second = [checkDigit (slice 13 19 second)]
  expiry : slice 27 28 second = [checkDigit (slice 21 27 second)]
  optional : slice 42 43 second = [checkDigit (slice 28 42 second)]
  composite : slice 43 44 second = [checkDigit (slice 0 10 second ++ slice 13 20 second ++ slice 21 43 second)]

theorem anyWrong_false {parts : List (List Char × List Char)} (right : anyWrong parts = some false) :
    ∀ part ∈ parts, digit part.1 = some part.2 := by
  induction parts with
  | nil => exact fun part absent => absurd absent List.not_mem_nil
  | cons part parts ih =>
    obtain ⟨value, check⟩ := part
    rw [anyWrong] at right
    obtain ⟨expected, known, later⟩ := Option.bind_eq_some_iff.mp right
    by_cases same : expected = check
    · rw [if_neg (not_not.mpr same)] at later
      intro part stands
      obtain rfl | stands := List.mem_cons.mp stands
      · exact known.trans (congrArg some same)
      · exact ih later part stands
    · rw [if_pos same] at later
      cases later

theorem slice_characters {second : List Char} (matched : isSecondLine second = true) (start stop : Nat) :
    ∀ c ∈ slice start stop second, isMrzCharacter c = true := by
  rw [isSecondLine, Bool.and_eq_true, List.all_eq_true] at matched
  exact fun c stands => matched.2 c (List.mem_of_mem_take (List.mem_of_mem_drop stands))

theorem checked_of_right {second : List Char} (matched : isSecondLine second = true)
    (right : anyWrong (checkedParts second) = some false) : Checked second := by
  have each := anyWrong_false right
  have told {value check : List Char} (stands : (value, check) ∈ checkedParts second)
      (printed : ∀ c ∈ value, isMrzCharacter c = true) : check = [checkDigit value] :=
    (Option.some.inj ((digit_printed printed).symm.trans (each _ stands))).symm
  have characters := slice_characters matched
  refine ⟨told (by simp [checkedParts]) (characters 0 9), told (by simp [checkedParts]) (characters 13 19),
    told (by simp [checkedParts]) (characters 21 27), told (by simp [checkedParts]) (characters 28 42),
    told (by simp [checkedParts]) fun c stands => ?_⟩
  rw [List.mem_append, List.mem_append] at stands
  obtain (number | birth) | rest := stands
  · exact characters 0 10 c number
  · exact characters 13 20 c birth
  · exact characters 21 43 c rest

theorem passed_checked {upper : Char → List Char} {today : Date} {text : List Char} {fields : Extracted}
    (passed : passport upper today text = some (fields, .passed)) :
    ∃ first second, pairsOf upper text = [(first, second)] ∧ Checked second := by
  rw [passport] at passed
  split at passed
  next first second single =>
    have matched : isSecondLine second = true := by
      have stands : (first, second) ∈ pairsOf upper text := by rw [single]; exact List.mem_singleton_self _
      have both := (List.mem_filter.mp stands).2
      exact (Bool.and_eq_true_iff.mp both).2
    split at passed
    · cases passed
    · cases passed
    next right => exact ⟨first, second, single, checked_of_right matched right⟩
  next => cases passed

/-- A printed passport is read as it is if and only if a digit checks its optional data and its holder was born in a
year that its two last digits tell; and what is passed has no wrong check digit. -/
theorem passport_read_iff (upper : Char → List Char) (today : Date) :
    (∀ (p : Passport) (check : Char) (text : List Char), p.MayCheck check → p.BornBefore today →
      p.ReadIn upper text check →
      (passport upper today text = some (p.fields, .passed) ↔ check ≠ '<' ∧
        (2000 ≤ p.birth.year ∧ p.birth.year ≤ 2099 ∨
          1900 ≤ p.birth.year ∧ p.birth.year ≤ 1999 ∧ today.year < p.birth.year + 100))) ∧
    ∀ text fields, passport upper today text = some (fields, .passed) →
      ∃ first second, pairsOf upper text = [(first, second)] ∧ Checked second := by
  refine ⟨fun p check text may born readIn => ?_, fun text fields passed => passed_checked passed⟩
  rw [Passport.passport_printed may readIn, ← Passport.fieldsRead_iff born.1]
  by_cases filler : check = '<'
  · simp [filler]
  · rw [if_neg filler, Option.some_inj, Prod.mk.injEq]
    refine ⟨fun read => ⟨filler, read.1⟩, fun read => ⟨read.2, ?_⟩⟩
    rw [read.2, Passport.complete_fields]
    rfl

/-! ### A passport -/

namespace SamplePassport

def today : Date := ⟨2026, 10, 1, by decide⟩

/-- A passport without optional data whose holder was born on that date. -/
def bornOn (birth : Date) : Passport where
  kind := '<'
  primary := [['S', 'Y', 'N', 'T', 'H', 'E', 'T', 'I', 'C']]
  secondary := [['T', 'E', 'S', 'T'], ['P', 'E', 'R', 'S', 'O', 'N']]
  number := ['T', 'S', 'T', '0', '0', '0', '0', '0', '1']
  birth := birth
  expiry := ⟨2031, 1, 1, by decide⟩
  sex := 'M'
  optional := []
  kind_printed := by decide
  primary_named := by decide
  secondary_named := by decide
  words_printed := by simp
  name_fits := by decide
  number_fits := by decide
  number_printed := List.all_eq_true.mp (by decide)
  number_ends := by decide
  expires := by decide
  sex_printed := by decide
  optional_fits := by decide
  optional_printed := fun _ stands => nomatch stands

def capital (c : Char) : List Char := [c.toUpper]

def textOf (p : Passport) (check : Char) : List Char := p.firstLine ++ '\n' :: p.secondLine check

def in1990 : Date := ⟨1990, 1, 1, by decide⟩

def in1926 : Date := ⟨1926, 12, 31, by decide⟩

end SamplePassport

open SamplePassport in
theorem sample_passport_read :
    passport capital today (textOf (bornOn in1990) '0') = some ((bornOn in1990).fields, .passed) :=
  ((passport_read_iff capital today).1 (bornOn in1990) '0' (textOf (bornOn in1990) '0') (.inl (by decide))
    ⟨by decide, by decide⟩ ⟨[], [], by decide, by decide⟩).mpr ⟨by decide, .inr (by decide)⟩

open SamplePassport in
/-- A filler for the check digit of no optional data fails; and who was born in 1926 is read as born in 2026. -/
theorem sample_passport_misread :
    ((bornOn in1990).MayCheck '<' ∧ (bornOn in1990).BornBefore today ∧
        (bornOn in1990).ReadIn capital (textOf (bornOn in1990) '<') '<' ∧
        passport capital today (textOf (bornOn in1990) '<') = some ([], .failed)) ∧
      (bornOn in1926).MayCheck '0' ∧ (bornOn in1926).BornBefore today ∧
        (bornOn in1926).ReadIn capital (textOf (bornOn in1926) '0') '0' ∧
        passport capital today (textOf (bornOn in1926) '0') ≠ some ((bornOn in1926).fields, .passed) := by
  have blank : ∀ c ∈ (bornOn in1990).optional, c = '<' := fun _ stands => nomatch stands
  refine ⟨⟨.inr ⟨blank, rfl⟩, ⟨by decide, by decide⟩, ⟨[], [], by decide, by decide⟩, by decide⟩,
    .inl (by decide), ⟨by decide, by decide⟩, ⟨[], [], by decide, by decide⟩, by decide⟩

end VtsaCsms.Kyc.Optical
