import VtsaCsms.Foundation.Doubles
import VtsaCsms.Foundation.Json

/-!
# JSON as it is written and read

What `json_decode` makes of any tree, and the characters that `json_encode` writes for one, slashes and Unicode
unescaped. Trees that are written alike are alike: two lists, or two objects with the same keys in the same order, of
trees that are alike, or numbers of the same digits. So two values whose sorted arrays are written alike have the same
entries, in any order of the keys.
-/
namespace VtsaCsms.Foundation

/-! ### Reading -/

namespace Mixed

/-- `$entries[$key] = $value`; a key that is there keeps its place. -/
def assign (entries : List (String × Mixed)) (entry : String × Mixed) : List (String × Mixed) :=
  match entries with
  | [] => [entry]
  | first :: rest => if first.1 = entry.1 then entry :: rest else first :: assign rest entry

end Mixed

namespace Json

mutual

/-- Of members with one key the last counts; an integer that is too large for the type is a double. -/
def read : Json → Mixed
  | null => .null
  | bool b => .bool b
  | int n => if phpIntMin ≤ n ∧ n ≤ phpIntMax then .int n else .float (Double.ofRat n)
  | float q => .float (Double.ofRat q)
  | string s => .string s
  | list items => .array ((Mixed.positions items.length).zip (readItems items))
  | object members => .array ((readMembers members).foldl Mixed.assign [])

def readItems : List Json → List Mixed
  | [] => []
  | item :: items => read item :: readItems items

def readMembers : List (String × Json) → List (String × Mixed)
  | [] => []
  | member :: members => readMember member :: readMembers members

def readMember : String × Json → String × Mixed
  | (key, json) => (key, read json)

end

mutual

/-- How many arrays and objects are in one another. -/
def depth : Json → Nat
  | list items => itemsDepth items + 1
  | object members => membersDepth members + 1
  | _ => 0

def itemsDepth : List Json → Nat
  | [] => 0
  | item :: items => max (depth item) (itemsDepth items)

def membersDepth : List (String × Json) → Nat
  | [] => 0
  | member :: members => max (memberDepth member) (membersDepth members)

def memberDepth : String × Json → Nat
  | (_, json) => depth json

end

/-- `json_decode` into arrays, whose depth is 512 at most. -/
def jsonDecode (json : Json) : Mixed := if json.depth ≤ 512 then json.read else .null

end Json

/-! ### Strings -/

def hex4 (n : Nat) : List Char :=
  [Nat.digitChar (n / 4096 % 16), Nat.digitChar (n / 256 % 16), Nat.digitChar (n / 16 % 16), Nat.digitChar (n % 16)]

/-- The characters that are written as one letter after a backslash. -/
def shortEscapes : List (Char × Char) :=
  [('\x22', '\x22'), ('\\', '\\'), ('\x08', 'b'), ('\x0c', 'f'), ('\n', 'n'), ('\x0d', 'r'), ('\t', 't')]

/-- One character of a string. Other control characters and the two line separators are spelt in hexadecimal digits. -/
def escape (c : Char) : List Char :=
  match shortEscapes.lookup c with
  | some letter => ['\\', letter]
  | none => if c.toNat < 32 ∨ c.toNat = 0x2028 ∨ c.toNat = 0x2029 then '\\' :: 'u' :: hex4 c.toNat else [c]

def quoted (s : String) : List Char := '\x22' :: (s.toList.flatMap escape ++ ['\x22'])

theorem hex4_injective {m n : Nat} (small : m < 65536) (small' : n < 65536) (same : hex4 m = hex4 n) : m = n := by
  have digit : ∀ a b : Fin 16, Nat.digitChar a = Nat.digitChar b → a = b := by decide
  have digits : ∀ a b : Nat, Nat.digitChar (a % 16) = Nat.digitChar (b % 16) → a % 16 = b % 16 := fun a b alike =>
    congrArg Fin.val (digit ⟨a % 16, Nat.mod_lt _ (by decide)⟩ ⟨b % 16, Nat.mod_lt _ (by decide)⟩ alike)
  simp only [hex4, List.cons.injEq, and_true] at same
  obtain ⟨first, second, third, fourth⟩ := same
  have := digits _ _ first
  have := digits _ _ second
  have := digits _ _ third
  have := digits _ _ fourth
  omega

theorem shortEscapes_mem {c letter : Char} (short : shortEscapes.lookup c = some letter) :
    (c, letter) ∈ shortEscapes := by
  obtain ⟨before, after, parts, -⟩ := List.lookup_eq_some_iff.mp short
  rw [parts]
  simp

theorem shortEscapes_injective {c d letter : Char} (left : shortEscapes.lookup c = some letter)
    (right : shortEscapes.lookup d = some letter) : c = d := by
  have table : ∀ p ∈ shortEscapes, ∀ q ∈ shortEscapes, p.2 = q.2 → p.1 = q.1 := by decide
  exact table _ (shortEscapes_mem left) _ (shortEscapes_mem right) rfl

theorem shortEscapes_ne {c letter : Char} (short : shortEscapes.lookup c = some letter) : letter ≠ 'u' := by
  have table : ∀ p ∈ shortEscapes, p.2 ≠ 'u' := by decide
  exact table _ (shortEscapes_mem short)

theorem escape_cases (c : Char) :
    (∃ letter, shortEscapes.lookup c = some letter ∧ escape c = ['\\', letter]) ∨
      (c.toNat < 65536 ∧ escape c = '\\' :: 'u' :: hex4 c.toNat) ∨
      (c ≠ '\x22' ∧ c ≠ '\\' ∧ ¬ c.toNat < 32 ∧ escape c = [c]) := by
  unfold escape
  cases short : shortEscapes.lookup c with
  | some letter => exact Or.inl ⟨letter, rfl, rfl⟩
  | none =>
    refine Or.inr ?_
    simp only
    split
    · exact Or.inl ⟨by omega, rfl⟩
    · rename_i other
      refine Or.inr ⟨?_, ?_, fun control => other (Or.inl control), rfl⟩
      · rintro rfl
        exact absurd short (by decide)
      · rintro rfl
        exact absurd short (by decide)

/-- What a character is written as is not the beginning of what another is written as. -/
theorem escape_split {c d : Char} {rest rest' : List Char} (same : escape c ++ rest = escape d ++ rest') :
    c = d ∧ rest = rest' := by
  rcases escape_cases c with ⟨letter, short, isC⟩ | ⟨small, isC⟩ | ⟨-, other, -, isC⟩ <;>
    rcases escape_cases d with ⟨letter', short', isD⟩ | ⟨small', isD⟩ | ⟨-, other', -, isD⟩ <;>
    rw [isC, isD] at same
  · obtain ⟨-, letters⟩ := List.cons.inj same
    obtain ⟨rfl, rests⟩ := List.cons.inj letters
    exact ⟨shortEscapes_injective short short', rests⟩
  · obtain ⟨-, letters⟩ := List.cons.inj same
    exact absurd (List.cons.inj letters).1 (shortEscapes_ne short)
  · exact absurd (List.cons.inj same).1.symm other'
  · obtain ⟨-, letters⟩ := List.cons.inj same
    exact absurd (List.cons.inj letters).1.symm (shortEscapes_ne short')
  · simp only [List.cons_append, List.cons.injEq, true_and] at same
    obtain ⟨digits, rests⟩ := List.append_inj same rfl
    exact ⟨Char.toNat_inj.mp (hex4_injective small small' digits), rests⟩
  · exact absurd (List.cons.inj same).1.symm other'
  · exact absurd (List.cons.inj same).1 other
  · exact absurd (List.cons.inj same).1 other
  · exact List.cons.inj same

theorem escape_ne_quote {c : Char} {rest rest' : List Char} : escape c ++ rest ≠ '\x22' :: rest' := by
  intro same
  rcases escape_cases c with ⟨letter, -, isC⟩ | ⟨-, isC⟩ | ⟨other, -, -, isC⟩ <;> rw [isC] at same
  · exact absurd (List.cons.inj same).1 (by decide)
  · exact absurd (List.cons.inj same).1 (by decide)
  · exact absurd (List.cons.inj same).1 other

theorem quoted_split {s t : String} {rest rest' : List Char} (same : quoted s ++ rest = quoted t ++ rest') :
    s = t ∧ rest = rest' := by
  have general : ∀ characters characters' : List Char,
      characters.flatMap escape ++ '\x22' :: rest = characters'.flatMap escape ++ '\x22' :: rest' →
        characters = characters' ∧ rest = rest' := by
    intro characters
    induction characters with
    | nil =>
      intro characters' same
      cases characters' with
      | nil => exact ⟨rfl, (List.cons.inj same).2⟩
      | cons c =>
        rw [List.flatMap_cons, List.append_assoc] at same
        exact absurd same.symm escape_ne_quote
    | cons c characters ih =>
      intro characters' same
      cases characters' with
      | nil =>
        rw [List.flatMap_cons, List.append_assoc] at same
        exact absurd same escape_ne_quote
      | cons d characters' =>
        rw [List.flatMap_cons, List.flatMap_cons, List.append_assoc, List.append_assoc] at same
        obtain ⟨rfl, others⟩ := escape_split same
        obtain ⟨rfl, rests⟩ := ih characters' others
        exact ⟨rfl, rests⟩
  simp only [quoted, List.cons_append, List.append_assoc, List.cons.injEq, true_and, List.nil_append] at same
  obtain ⟨characters, rests⟩ := general _ _ same
  exact ⟨String.toList_injective characters, rests⟩

/-! ### Numbers -/

def isNumeric (c : Char) : Bool := c.isDigit || c = '-' || c = '+' || c = '.' || c = 'e'

/-- A text of digits, signs, points and exponents. -/
def Numeric (text : List Char) : Prop := text ≠ [] ∧ ∀ c ∈ text, isNumeric c = true

/-- What can stand after a number. -/
def Ends (rest : List Char) : Prop := ∀ c ∈ rest.head?, isNumeric c = false

theorem numeric_split {digits digits' rest rest' : List Char} (numeric : Numeric digits) (numeric' : Numeric digits')
    (ends : Ends rest) (ends' : Ends rest') (same : digits ++ rest = digits' ++ rest') :
    digits = digits' ∧ rest = rest' := by
  have front : ∀ {digits rest : List Char}, Numeric digits → Ends rest →
      (digits ++ rest).takeWhile isNumeric = digits := by
    intro digits rest numeric ends
    rw [List.takeWhile_append_of_pos numeric.2]
    cases rest with
    | nil => rw [List.takeWhile_nil, List.append_nil]
    | cons c =>
      rw [List.takeWhile_cons_of_neg (by rw [ends c rfl]; decide), List.append_nil]
  have digitsSame : digits = digits' := by rw [← front numeric ends, same, front numeric' ends']
  subst digitsSame
  exact ⟨rfl, List.append_cancel_left same⟩

theorem numeric_int (n : Int) : Numeric (toString n).toList := by
  have natural : ∀ n : Nat, Numeric (keyText n).toList := by
    intro n
    refine ⟨?_, fun c member => ?_⟩
    · unfold keyText
      rw [Nat.toList_repr]
      exact Nat.toDigits_ne_nil
    · rw [isNumeric, keyText_isDigit member]
      rfl
  cases n with
  | ofNat n => exact natural n
  | negSucc n =>
    have text : (toString (Int.negSucc n)).toList = '-' :: (keyText (n + 1)).toList := by
      rw [show toString (Int.negSucc n) = "-" ++ keyText (n + 1) from rfl, String.toList_append]
      rfl
    rw [text]
    refine ⟨List.cons_ne_nil _ _, fun c member => ?_⟩
    rcases List.mem_cons.mp member with rfl | member
    · rfl
    · exact (natural (n + 1)).2 c member

/-! ### Trees -/

namespace Json

variable (number : Rat → String)

/-- The digits of a number; `number` writes those with a fraction or an exponent. -/
def digits : Json → Option String
  | int n => some (toString n)
  | float q => some (number q)
  | _ => none

mutual

def characters : Json → List Char
  | null => ['n', 'u', 'l', 'l']
  | bool true => ['t', 'r', 'u', 'e']
  | bool false => ['f', 'a', 'l', 's', 'e']
  | int n => (toString n).toList
  | float q => (number q).toList
  | string s => quoted s
  | list [] => ['[', ']']
  | list (item :: items) => '[' :: (characters item ++ itemsCharacters items)
  | object [] => ['\x7b', '\x7d']
  | object (member :: members) => '\x7b' :: (memberCharacters member ++ membersCharacters members)

/-- The items after the first. -/
def itemsCharacters : List Json → List Char
  | [] => [']']
  | item :: items => ',' :: (characters item ++ itemsCharacters items)

def membersCharacters : List (String × Json) → List Char
  | [] => ['\x7d']
  | member :: members => ',' :: (memberCharacters member ++ membersCharacters members)

def memberCharacters : String × Json → List Char
  | (key, value) => quoted key ++ ':' :: characters value

end

def text (json : Json) : String := String.ofList (json.characters number)

mutual

/-- Trees that are one up to how the value of a number is given. -/
inductive Alike : Json → Json → Prop
  | null : Alike null null
  | bool (b : Bool) : Alike (bool b) (bool b)
  | number {a b : Json} {digits : String} (left : a.digits number = some digits)
      (right : b.digits number = some digits) : Alike a b
  | string (s : String) : Alike (string s) (string s)
  | list {items items' : List Json} (alike : AlikeItems items items') : Alike (list items) (list items')
  | object {members members' : List (String × Json)} (alike : AlikeMembers members members') :
    Alike (object members) (object members')

inductive AlikeItems : List Json → List Json → Prop
  | nil : AlikeItems [] []
  | cons {item item' : Json} {items items' : List Json} (first : Alike item item') (later : AlikeItems items items') :
    AlikeItems (item :: items) (item' :: items')

inductive AlikeMembers : List (String × Json) → List (String × Json) → Prop
  | nil : AlikeMembers [] []
  | cons {key : String} {value value' : Json} {members members' : List (String × Json)} (first : Alike value value')
      (later : AlikeMembers members members') : AlikeMembers ((key, value) :: members) ((key, value') :: members')

end

/-- The first character of what is not a number. -/
def lead : Json → Char
  | null => 'n'
  | bool true => 't'
  | bool false => 'f'
  | string _ => '\x22'
  | list _ => '['
  | object _ => '\x7b'
  | int _ => '-'
  | float _ => '-'

section Split
variable {number : Rat → String}

theorem itemsCharacters_ends (items : List Json) (rest : List Char) :
    Ends (itemsCharacters number items ++ rest) := by
  cases items <;> (intro c first; cases first; decide)

theorem membersCharacters_ends (members : List (String × Json)) (rest : List Char) :
    Ends (membersCharacters number members ++ rest) := by
  cases members <;> (intro c first; cases first; decide)

theorem characters_lead {a : Json} (other : a.digits number = none) :
    ∃ characters, a.characters number = a.lead :: characters ∧ isNumeric a.lead = false := by
  cases a with
  | int n => cases other
  | float q => cases other
  | bool b => cases b <;> exact ⟨_, rfl, rfl⟩
  | list items => cases items <;> exact ⟨_, rfl, rfl⟩
  | object members => cases members <;> exact ⟨_, rfl, rfl⟩
  | _ => exact ⟨_, rfl, rfl⟩

theorem of_lead {a : Json} (other : a.digits number = none) :
    (a.lead = 'n' → a = null) ∧ (a.lead = 't' → a = bool true) ∧ (a.lead = 'f' → a = bool false) ∧
      (a.lead = '\x22' → ∃ s, a = string s) ∧ (a.lead = '[' → ∃ items, a = list items) ∧
      (a.lead = '\x7b' → ∃ members, a = object members) := by
  cases a with
  | int n => cases other
  | float q => cases other
  | bool b => cases b <;> simp [lead]
  | _ => simp [lead]

section Numbers
variable (numbers : ∀ q, Numeric (number q).toList)
include numbers

theorem digits_numeric {a : Json} {digits : String} (isDigits : a.digits number = some digits) :
    a.characters number = digits.toList ∧ Numeric digits.toList := by
  cases a with
  | int n =>
    cases isDigits
    exact ⟨by rw [characters], numeric_int n⟩
  | float q =>
    cases isDigits
    exact ⟨by rw [characters], numbers q⟩
  | _ => cases isDigits

theorem digits_head {a : Json} {digits : String} (isDigits : a.digits number = some digits) :
    ∃ c characters, a.characters number = c :: characters ∧ isNumeric c = true := by
  obtain ⟨written, some, numeric⟩ := digits_numeric numbers isDigits
  cases first : digits.toList with
  | nil => exact absurd first some
  | cons c characters => exact ⟨c, characters, written.trans first, numeric c (by rw [first]; exact List.mem_cons_self)⟩

theorem characters_ne_close {a : Json} {rest rest' : List Char} : a.characters number ++ rest ≠ ']' :: rest' := by
  intro same
  cases isDigits : a.digits number with
  | none =>
    obtain ⟨later, written, -⟩ := characters_lead isDigits
    rw [written] at same
    have lead := (List.cons.inj same).1
    cases a with
    | bool b => cases b <;> exact absurd lead (by decide)
    | _ => exact absurd lead (by simp [Json.lead])
  | some digits =>
    obtain ⟨c, later, written, numeric⟩ := digits_head numbers isDigits
    rw [written] at same
    rw [(List.cons.inj same).1] at numeric
    cases numeric

theorem digits_none {a b : Json} {rest rest' : List Char} (other : a.digits number = none)
    (same : a.characters number ++ rest = b.characters number ++ rest') :
    b.digits number = none ∧ a.lead = b.lead := by
  obtain ⟨later, written, lead⟩ := characters_lead other
  rw [written] at same
  cases isDigits : b.digits number with
  | none =>
    obtain ⟨later', written', -⟩ := characters_lead isDigits
    rw [written'] at same
    exact ⟨rfl, (List.cons.inj same).1⟩
  | some digits =>
    obtain ⟨c, later', written', numeric⟩ := digits_head numbers isDigits
    rw [written'] at same
    rw [(List.cons.inj same).1, numeric] at lead
    cases lead

theorem number_split {a b : Json} {digits : String} {rest rest' : List Char} (ends : Ends rest) (ends' : Ends rest')
    (isDigits : a.digits number = some digits) (same : a.characters number ++ rest = b.characters number ++ rest') :
    Alike number a b ∧ rest = rest' := by
  cases isDigits' : b.digits number with
  | none =>
    rw [(digits_none numbers isDigits' same.symm).1] at isDigits
    cases isDigits
  | some digits' =>
    obtain ⟨written, numeric⟩ := digits_numeric numbers isDigits
    obtain ⟨written', numeric'⟩ := digits_numeric numbers isDigits'
    rw [written, written'] at same
    obtain ⟨texts, rests⟩ := numeric_split numeric numeric' ends ends' same
    rw [← String.toList_injective texts] at isDigits'
    exact ⟨Alike.number isDigits isDigits', rests⟩

end Numbers

mutual

/-- Where one text begins with what two trees are written as, the trees are alike. -/
theorem characters_split (numbers : ∀ q, Numeric (number q).toList) : ∀ (a b : Json) {rest rest' : List Char},
    Ends rest → Ends rest' → a.characters number ++ rest = b.characters number ++ rest' →
      Alike number a b ∧ rest = rest'
  | int n, _, _, _, ends, ends', same => number_split numbers ends ends' rfl same
  | float q, _, _, _, ends, ends', same => number_split numbers ends ends' rfl same
  | null, b, _, _, _, _, same => by
    obtain ⟨other, lead⟩ := digits_none numbers rfl same
    obtain rfl := (of_lead other).1 lead.symm
    exact ⟨Alike.null, List.append_cancel_left same⟩
  | bool true, b, _, _, _, _, same => by
    obtain ⟨other, lead⟩ := digits_none numbers rfl same
    obtain rfl := (of_lead other).2.1 lead.symm
    exact ⟨Alike.bool true, List.append_cancel_left same⟩
  | bool false, b, _, _, _, _, same => by
    obtain ⟨other, lead⟩ := digits_none numbers rfl same
    obtain rfl := (of_lead other).2.2.1 lead.symm
    exact ⟨Alike.bool false, List.append_cancel_left same⟩
  | string s, b, _, _, _, _, same => by
    obtain ⟨other, lead⟩ := digits_none numbers rfl same
    obtain ⟨t, rfl⟩ := (of_lead other).2.2.2.1 lead.symm
    obtain ⟨rfl, rests⟩ := quoted_split same
    exact ⟨Alike.string s, rests⟩
  | list items, b, _, _, _, _, same => by
    obtain ⟨other, lead⟩ := digits_none numbers rfl same
    obtain ⟨items', rfl⟩ := (of_lead other).2.2.2.2.1 lead.symm
    obtain ⟨alike, rests⟩ := list_split numbers items items' same
    exact ⟨Alike.list alike, rests⟩
  | object members, b, _, _, _, _, same => by
    obtain ⟨other, lead⟩ := digits_none numbers rfl same
    obtain ⟨members', rfl⟩ := (of_lead other).2.2.2.2.2 lead.symm
    obtain ⟨alike, rests⟩ := object_split numbers members members' same
    exact ⟨Alike.object alike, rests⟩

theorem list_split (numbers : ∀ q, Numeric (number q).toList) :
    ∀ (items items' : List Json) {rest rest' : List Char},
    (list items).characters number ++ rest = (list items').characters number ++ rest' →
    AlikeItems number items items' ∧ rest = rest'
  | [], [], _, _, same => ⟨AlikeItems.nil, List.append_cancel_left same⟩
  | [], item' :: items', _, _, same => by
    simp only [characters, List.cons_append, List.append_assoc, List.cons.injEq, true_and] at same
    exact absurd same.symm (characters_ne_close numbers)
  | item :: items, [], _, _, same => by
    simp only [characters, List.cons_append, List.append_assoc, List.cons.injEq, true_and] at same
    exact absurd same (characters_ne_close numbers)
  | item :: items, item' :: items', _, _, same => by
    simp only [characters, List.cons_append, List.append_assoc, List.cons.injEq, true_and] at same
    obtain ⟨first, others⟩ := characters_split numbers item item' (itemsCharacters_ends items _)
      (itemsCharacters_ends items' _) same
    obtain ⟨later, rests⟩ := items_split numbers items items' others
    exact ⟨AlikeItems.cons first later, rests⟩

theorem items_split (numbers : ∀ q, Numeric (number q).toList) :
    ∀ (items items' : List Json) {rest rest' : List Char},
    itemsCharacters number items ++ rest = itemsCharacters number items' ++ rest' →
    AlikeItems number items items' ∧ rest = rest'
  | [], [], _, _, same => ⟨AlikeItems.nil, List.append_cancel_left same⟩
  | [], item' :: items', _, _, same => absurd (List.cons.inj same).1 (by decide)
  | item :: items, [], _, _, same => absurd (List.cons.inj same).1 (by decide)
  | item :: items, item' :: items', _, _, same => by
    simp only [itemsCharacters, List.cons_append, List.append_assoc, List.cons.injEq, true_and] at same
    obtain ⟨first, others⟩ := characters_split numbers item item' (itemsCharacters_ends items _)
      (itemsCharacters_ends items' _) same
    obtain ⟨later, rests⟩ := items_split numbers items items' others
    exact ⟨AlikeItems.cons first later, rests⟩

theorem object_split (numbers : ∀ q, Numeric (number q).toList) :
    ∀ (members members' : List (String × Json)) {rest rest' : List Char},
    (object members).characters number ++ rest = (object members').characters number ++ rest' →
    AlikeMembers number members members' ∧ rest = rest'
  | [], [], _, _, same => ⟨AlikeMembers.nil, List.append_cancel_left same⟩
  | [], (key', value') :: members', _, _, same =>
    absurd (List.cons.inj (List.cons.inj same).2).1 (by decide)
  | (key, value) :: members, [], _, _, same =>
    absurd (List.cons.inj (List.cons.inj same).2).1 (by decide)
  | (key, value) :: members, (key', value') :: members', _, _, same => by
    simp only [characters, memberCharacters, List.cons_append, List.append_assoc, List.cons.injEq, true_and] at same
    obtain ⟨rfl, values⟩ := quoted_split same
    obtain ⟨first, others⟩ := characters_split numbers value value' (membersCharacters_ends members _)
      (membersCharacters_ends members' _) (List.cons.inj values).2
    obtain ⟨later, rests⟩ := members_split numbers members members' others
    exact ⟨AlikeMembers.cons first later, rests⟩

theorem members_split (numbers : ∀ q, Numeric (number q).toList) :
    ∀ (members members' : List (String × Json)) {rest rest' : List Char},
    membersCharacters number members ++ rest = membersCharacters number members' ++ rest' →
    AlikeMembers number members members' ∧ rest = rest'
  | [], [], _, _, same => ⟨AlikeMembers.nil, List.append_cancel_left same⟩
  | [], (key', value') :: members', _, _, same => absurd (List.cons.inj same).1 (by decide)
  | (key, value) :: members, [], _, _, same => absurd (List.cons.inj same).1 (by decide)
  | (key, value) :: members, (key', value') :: members', _, _, same => by
    simp only [membersCharacters, memberCharacters, List.cons_append, List.append_assoc, List.cons.injEq,
      true_and] at same
    obtain ⟨rfl, values⟩ := quoted_split same
    obtain ⟨first, others⟩ := characters_split numbers value value' (membersCharacters_ends members _)
      (membersCharacters_ends members' _) (List.cons.inj values).2
    obtain ⟨later, rests⟩ := members_split numbers members members' others
    exact ⟨AlikeMembers.cons first later, rests⟩

end

theorem text_alike (numbers : ∀ q, Numeric (number q).toList) {a b : Json} (same : a.text number = b.text number) :
    Alike number a b := by
  have written : a.characters number ++ [] = b.characters number ++ [] := by
    rw [List.append_nil, List.append_nil]
    simpa [text] using congrArg String.toList same
  exact (characters_split numbers a b (fun _ none => by cases none) (fun _ none => by cases none) written).1

end Split

end Json

/-! ### Sorted arrays -/

namespace Mixed
variable (plain : Rat → Bool) (number : Rat → String)

/-- The digits that `json_encode` writes a number with. -/
def digits : Mixed → Option String
  | .int n => some (toString n)
  | .float (.finite q) => some (if q.den = 1 ∧ plain q = true then toString q.num else number q)
  | _ => none

mutual

/-- The same value up to the order of keys, at any depth; numbers are the same that are written alike. -/
inductive Same : Mixed → Mixed → Prop
  | null : Same .null .null
  | bool (b : Bool) : Same (.bool b) (.bool b)
  | number {a b : Mixed} {text : String} (left : a.digits plain number = some text)
      (right : b.digits plain number = some text) : Same a b
  | string (s : String) : Same (.string s) (.string s)
  | array {a b p q : List (String × Mixed)} (left : p.Perm a) (right : q.Perm b) (entries : SameEntries p q) :
    Same (.array a) (.array b)

inductive SameEntries : List (String × Mixed) → List (String × Mixed) → Prop
  | nil : SameEntries [] []
  | cons {key : String} {v w : Mixed} {p q : List (String × Mixed)} (first : Same v w) (later : SameEntries p q) :
    SameEntries ((key, v) :: p) ((key, w) :: q)

end

variable {plain number} {keyLe : String → String → Bool}

theorem sortEntries_eq_map (entries : List (String × Mixed)) :
    sortEntries keyLe entries = entries.map (sortEntry keyLe) := by
  induction entries with
  | nil => rfl
  | cons entry _ ih => rw [sortEntries, ih, List.map_cons]

theorem sortEntry_fst (entry : String × Mixed) : (sortEntry keyLe entry).1 = entry.1 := by
  cases entry
  rfl

theorem arrange_perm (entries : List (String × Mixed)) : (arrange keyLe entries).Perm entries := by
  unfold arrange
  split
  · exact List.Perm.refl _
  · exact List.perm_insertionSort _ _

/-- Whether an array is sorted first or its values are makes no difference. -/
theorem arrange_sortEntries (entries : List (String × Mixed)) :
    arrange keyLe (sortEntries keyLe entries) = sortEntries keyLe (arrange keyLe entries) := by
  have keys : (sortEntries keyLe entries).map Prod.fst = entries.map Prod.fst := by
    rw [sortEntries_eq_map, List.map_map]
    exact List.map_congr_left fun entry _ => sortEntry_fst entry
  unfold arrange
  rw [isList_of_keys keys]
  split
  · rfl
  · rw [sortEntries_eq_map, sortEntries_eq_map]
    refine (List.map_insertionSort _ _ _ _ fun a _ b _ => ?_).symm
    rw [sortEntry_fst, sortEntry_fst]

/-- A sorted array is written as a list under its positions, or as an object. -/
theorem array_encoded {entries : List (String × Mixed)} {json : Json}
    (encoded : encode plain (sortRecursively keyLe (.array entries)) = some json) :
    ∃ members, encodeEntries plain (sortEntries keyLe (arrange keyLe entries)) = some members ∧
      (json = .list (members.map Prod.snd) ∧ members.map Prod.fst = positions members.length ∨
        json = .object members) := by
  rw [sortRecursively, encode, arrange_sortEntries] at encoded
  obtain ⟨members, isMembers, rfl⟩ := Option.map_eq_some_iff.mp encoded
  refine ⟨members, isMembers, ?_⟩
  split
  · rename_i list
    have keys := encodeEntries_keys isMembers
    have length := congrArg List.length keys
    rw [List.length_map, List.length_map] at length
    exact Or.inl ⟨rfl, by rw [keys, length]; exact of_decide_eq_true list⟩
  · exact Or.inr rfl

variable (plain number keyLe) in
/-- What a value is that is written, sorted, as a tree. -/
def Spelt (value : Mixed) : Json → Prop
  | .null => value = .null
  | .bool b => value = .bool b
  | .string s => value = .string s
  | .int n => value.digits plain number = some (toString n)
  | .float q => value.digits plain number = some (number q)
  | .list items => ∃ entries members, value = .array entries ∧
      encodeEntries plain (sortEntries keyLe (arrange keyLe entries)) = some members ∧
      items = members.map Prod.snd ∧ members.map Prod.fst = positions members.length
  | .object members => ∃ entries, value = .array entries ∧
      encodeEntries plain (sortEntries keyLe (arrange keyLe entries)) = some members

theorem encoded_spelt {value : Mixed} {json : Json}
    (encoded : encode plain (sortRecursively keyLe value) = some json) : Spelt plain number keyLe value json := by
  cases value with
  | array entries =>
    obtain ⟨members, isMembers, ⟨rfl, keys⟩ | rfl⟩ := array_encoded encoded
    · exact ⟨entries, members, rfl, isMembers, rfl, keys⟩
    · exact ⟨entries, rfl, isMembers⟩
  | float x =>
    cases x with
    | finite q =>
      cases encoded
      by_cases whole : q.den = 1 ∧ plain q = true
      · rw [if_pos whole]
        simp only [Spelt, digits, if_pos whole]
      · rw [if_neg whole]
        simp only [Spelt, digits, if_neg whole]
    | infinite => cases encoded
  | _ =>
    cases encoded
    rfl

theorem encoded_digits {value : Mixed} {json : Json} {text : String}
    (encoded : encode plain (sortRecursively keyLe value) = some json) (isDigits : json.digits number = some text) :
    value.digits plain number = some text := by
  have spelt : Spelt plain number keyLe value json := encoded_spelt encoded
  cases json with
  | int n => exact spelt.trans isDigits
  | float q => exact spelt.trans isDigits
  | _ => cases isDigits

theorem alikeMembers_of_items {members members' : List (String × Json)}
    (keys : members.map Prod.fst = members'.map Prod.fst)
    (items : Json.AlikeItems number (members.map Prod.snd) (members'.map Prod.snd)) :
    Json.AlikeMembers number members members' := by
  induction members generalizing members' with
  | nil =>
    cases members' with
    | nil => exact Json.AlikeMembers.nil
    | cons => cases keys
  | cons member members ih =>
    cases members' with
    | nil => cases keys
    | cons member' members' =>
      obtain ⟨key, value⟩ := member
      obtain ⟨key', value'⟩ := member'
      obtain ⟨rfl, later⟩ := List.cons.inj keys
      cases items with
      | cons first others => exact Json.AlikeMembers.cons first (ih later others)

theorem alikeItems_length {items items' : List Json} (alike : Json.AlikeItems number items items') :
    items.length = items'.length := by
  induction items generalizing items' with
  | nil =>
    cases alike
    rfl
  | cons _ _ ih =>
    cases alike with
    | cons _ later => rw [List.length_cons, List.length_cons, ih later]

variable (plain number keyLe) in
/-- Whatever is written like the value, both sorted, is the same. -/
def Told (value : Mixed) : Prop :=
  ∀ {other : Mixed} {json json' : Json}, encode plain (sortRecursively keyLe value) = some json →
    encode plain (sortRecursively keyLe other) = some json' → Json.Alike number json json' →
    Same plain number value other

theorem sameEntries_of_members {p q : List (String × Mixed)} {members members' : List (String × Json)}
    (told : ∀ entry ∈ p, Told plain number keyLe entry.2)
    (isMembers : encodeEntries plain (sortEntries keyLe p) = some members)
    (isMembers' : encodeEntries plain (sortEntries keyLe q) = some members')
    (alike : Json.AlikeMembers number members members') : SameEntries plain number p q := by
  induction p generalizing q members members' with
  | nil =>
    cases isMembers
    cases alike
    cases q with
    | nil => exact SameEntries.nil
    | cons entry q =>
      rw [sortEntries, encodeEntries] at isMembers'
      obtain ⟨member, -, more⟩ := Option.bind_eq_some_iff.mp isMembers'
      obtain ⟨others, -, same⟩ := Option.map_eq_some_iff.mp more
      cases same
  | cons entry p ih =>
    obtain ⟨key, value⟩ := entry
    rw [sortEntries, sortEntry, encodeEntries, encodeEntry] at isMembers
    obtain ⟨member, first, more⟩ := Option.bind_eq_some_iff.mp isMembers
    obtain ⟨json, isJson, rfl⟩ := Option.map_eq_some_iff.mp first
    obtain ⟨others, isOthers, rfl⟩ := Option.map_eq_some_iff.mp more
    cases alike with
    | cons firstAlike laterAlike =>
      cases q with
      | nil => cases isMembers'
      | cons entry' q =>
        obtain ⟨key', value'⟩ := entry'
        rw [sortEntries, sortEntry, encodeEntries, encodeEntry] at isMembers'
        obtain ⟨member', first', more'⟩ := Option.bind_eq_some_iff.mp isMembers'
        obtain ⟨json', isJson', rfl⟩ := Option.map_eq_some_iff.mp first'
        obtain ⟨others', isOthers', same⟩ := Option.map_eq_some_iff.mp more'
        cases same
        exact SameEntries.cons (told _ List.mem_cons_self isJson isJson' firstAlike)
          (ih (fun e member => told e (List.mem_cons_of_mem _ member)) isOthers isOthers' laterAlike)

theorem told_of_entries {value : Mixed}
    (told : ∀ entries, value = .array entries → ∀ entry ∈ entries, Told plain number keyLe entry.2) :
    Told plain number keyLe value := by
  intro other json json' encoded encoded' alike
  have spelt : Spelt plain number keyLe value json := encoded_spelt encoded
  have spelt' : Spelt plain number keyLe other json' := encoded_spelt encoded'
  cases alike with
  | null =>
    cases spelt
    cases spelt'
    exact Same.null
  | bool b =>
    cases spelt
    cases spelt'
    exact Same.bool b
  | string s =>
    cases spelt
    cases spelt'
    exact Same.string s
  | number left right => exact Same.number (encoded_digits encoded left) (encoded_digits encoded' right)
  | list alike =>
    obtain ⟨entries, members, isArray, isMembers, rfl, keys⟩ := spelt
    obtain ⟨entries', members', rfl, isMembers', rfl, keys'⟩ := spelt'
    have length := alikeItems_length alike
    rw [List.length_map, List.length_map] at length
    rw [isArray]
    refine Same.array (arrange_perm entries) (arrange_perm entries')
      (sameEntries_of_members (fun entry member => ?_) isMembers isMembers'
        (alikeMembers_of_items (by rw [keys, keys', length]) alike))
    exact told entries isArray entry ((arrange_perm entries).mem_iff.mp member)
  | object alike =>
    obtain ⟨entries, isArray, isMembers⟩ := spelt
    obtain ⟨entries', rfl, isMembers'⟩ := spelt'
    rw [isArray]
    refine Same.array (arrange_perm entries) (arrange_perm entries')
      (sameEntries_of_members (fun entry member => ?_) isMembers isMembers' alike)
    exact told entries isArray entry ((arrange_perm entries).mem_iff.mp member)

mutual

/-- Values whose sorted arrays are written alike are the same up to the order of keys. -/
theorem told : ∀ value : Mixed, Told plain number keyLe value
  | .array entries => told_of_entries fun entries' isArray => by
    cases isArray
    exact told_entries entries
  | .null => told_of_entries fun _ isArray => by cases isArray
  | .bool _ => told_of_entries fun _ isArray => by cases isArray
  | .int _ => told_of_entries fun _ isArray => by cases isArray
  | .float _ => told_of_entries fun _ isArray => by cases isArray
  | .string _ => told_of_entries fun _ isArray => by cases isArray
termination_by structural value => value

theorem told_entries : ∀ entries : List (String × Mixed), ∀ entry ∈ entries, Told plain number keyLe entry.2
  | [], _, member => by cases member
  | first :: rest, entry, member => by
    rcases List.mem_cons.mp member with same | member
    · rw [same]
      exact told_entry first
    · exact told_entries rest entry member
termination_by structural entries => entries

theorem told_entry : ∀ entry : String × Mixed, Told plain number keyLe entry.2
  | (_, value) => told value
termination_by structural entry => entry

end

theorem SameEntries.field {p q : List (String × Mixed)} (same : SameEntries plain number p q) {key : String} {v : Mixed}
    (member : (key, v) ∈ p) : ∃ w, (key, w) ∈ q ∧ Same plain number v w := by
  induction p generalizing q with
  | nil => cases member
  | cons entry p ih =>
    cases same with
    | cons first later =>
      rcases List.mem_cons.mp member with isFirst | member
      · cases isFirst
        exact ⟨_, List.mem_cons_self, first⟩
      · obtain ⟨w, there, alike⟩ := ih later member
        exact ⟨w, List.mem_cons_of_mem _ there, alike⟩

/-- Two arrays that are the same, of the same keys in the same order, have the same values. -/
theorem Same.fields {a b : List (String × Mixed)} (same : Same plain number (.array a) (.array b))
    (keys : a.map Prod.fst = b.map Prod.fst) (unique : (b.map Prod.fst).Nodup) :
    List.Forall₂ (fun x y => Same plain number x.2 y.2) a b := by
  have length : a.length = b.length := by simpa using congrArg List.length keys
  refine List.forall₂_iff_get.mpr ⟨length, fun i left right => ?_⟩
  have key : (a.get ⟨i, left⟩).1 = (b.get ⟨i, right⟩).1 := by
    have at_i := congrArg (fun keys => keys[i]?) keys
    simpa [left, right] using at_i
  cases same with
  | number isDigits => cases isDigits
  | array permuted permuted' entries =>
    obtain ⟨w, there, alike⟩ := entries.field (permuted.mem_iff.mpr (List.get_mem a ⟨i, left⟩))
    have found := List.inj_on_of_nodup_map unique (List.get_mem b ⟨i, right⟩) (permuted'.mem_iff.mp there) key.symm
    rw [found]
    exact alike

theorem Same.string_inj {s t : String} (same : Same plain number (.string s) (.string t)) : s = t := by
  cases same with
  | string => rfl
  | number isDigits => cases isDigits

end Mixed

end VtsaCsms.Foundation
