import Mathlib.Data.List.DropRight
import Mathlib.Algebra.GroupWithZero.Nat

/-!
# Texts of characters

The methods of a Python `str` that its readers use, over the characters of the text, and what they make of words that
were joined: `split` has the words again, and `partition` what stands before the first separator. A number that is
written with leading zeros is read again.
-/
namespace VtsaCsms.Foundation.Texts

/-- `str.isspace` of a character, which is what `\s` matches. -/
def isSpace (c : Char) : Bool :=
  let n := c.toNat
  9 ≤ n && n ≤ 13 || 28 ≤ n && n ≤ 32 || 0x2000 ≤ n && n ≤ 0x200A ||
    [0x85, 0xA0, 0x1680, 0x2028, 0x2029, 0x202F, 0x205F, 0x3000].contains n

def isLineBreak (c : Char) : Bool :=
  let n := c.toNat
  10 ≤ n && n ≤ 13 || 28 ≤ n && n ≤ 30 || [0x85, 0x2028, 0x2029].contains n

/-- `str.splitlines`. -/
def splitlines : List Char → List (List Char)
  | [] => []
  | '\r' :: '\n' :: text => [] :: splitlines text
  | c :: text =>
    if isLineBreak c then [] :: splitlines text
    else
      match splitlines text with
      | [] => [[c]]
      | line :: lines => (c :: line) :: lines

/-- `str.split` at blanks. -/
def split (text : List Char) : List (List Char) := (text.splitOnP isSpace).filter (! ·.isEmpty)

/-- `str.partition`: what stands before the separator, the separator, and what stands after it. -/
def partition (separator : List Char) : List Char → List Char × List Char × List Char
  | [] => ([], [], [])
  | c :: text =>
    if separator.isPrefixOf (c :: text) then ([], separator, (c :: text).drop separator.length)
    else
      let (before, found, after) := partition separator text
      (c :: before, found, after)

/-- `str.rstrip` of one character. -/
def rstrip (c : Char) (text : List Char) : List Char := text.rdropWhile (· == c)

/-- `str.strip` of one character. -/
def strip (c : Char) (text : List Char) : List Char := rstrip c (text.dropWhile (· == c))

/-- `text[start:stop]`. -/
def slice (start stop : Nat) (text : List Char) : List Char := (text.take stop).drop start

/-- The number in so many digits, as in `f'{n:02d}'`. -/
def padded : Nat → Nat → List Char
  | 0, _ => []
  | width + 1, n => padded width (n / 10) ++ [Nat.digitChar (n % 10)]

/-- `int` of ASCII digits. -/
def number (digits : List Char) : Nat := digits.foldl (fun n c => 10 * n + (c.toNat - 48)) 0

/-! ### Words -/

theorem split_append (text text' : List Char) {c : Char} (blank : isSpace c = true) :
    split (text ++ c :: text') = split text ++ split text' := by
  simp only [split, List.splitOnP_append_cons text text' blank, List.filter_append]

theorem split_word {word : List Char} (named : word ≠ []) (plain : ∀ c ∈ word, isSpace c = false) :
    split word = [word] := by
  rw [split, List.splitOnP_eq_singleton plain]
  cases word with
  | nil => exact absurd rfl named
  | cons c word => rfl

theorem split_blanks {c : Char} (blank : isSpace c = true) (n : Nat) : split (List.replicate n c) = [] := by
  induction n with
  | zero => rfl
  | succ n ih => exact (split_append [] (List.replicate n c) blank).trans ih

theorem split_trailing {c : Char} (blank : isSpace c = true) (text : List Char) (n : Nat) :
    split (text ++ List.replicate n c) = split text := by
  cases n with
  | zero => rw [List.replicate_zero, List.append_nil]
  | succ n => rw [List.replicate_succ, split_append _ _ blank, split_blanks blank, List.append_nil]

theorem split_intercalate {c : Char} (blank : isSpace c = true) {words : List (List Char)}
    (named : ∀ word ∈ words, word ≠ []) (plain : ∀ word ∈ words, ∀ c ∈ word, isSpace c = false) :
    split ([c].intercalate words) = words := by
  induction words with
  | nil => rfl
  | cons word words ih =>
    have first : split word = [word] := split_word (named word List.mem_cons_self) (plain word List.mem_cons_self)
    have later := ih (fun w later => named w (List.mem_cons_of_mem _ later)) fun w later =>
      plain w (List.mem_cons_of_mem _ later)
    cases words with
    | nil => rw [List.intercalate_singleton, first]
    | cons second words =>
      have joined : [c].intercalate (word :: second :: words) = word ++ c :: [c].intercalate (second :: words) := by
        rw [List.intercalate_cons_cons, List.append_assoc, List.singleton_append]
      rw [joined, split_append _ _ blank, first, later, List.singleton_append]

/-! ### Separators -/

section Partition
variable {c : Char}

theorem partition_skip {first : Char} {text : List Char} (later : ([c, c].isPrefixOf (first :: text)) = false) :
    partition [c, c] (first :: text) =
      (first :: (partition [c, c] text).1, (partition [c, c] text).2) := by
  rw [partition, later]
  rfl

theorem partition_here (text : List Char) : partition [c, c] (c :: c :: text) = ([], [c, c], text) := by
  simp [partition, List.isPrefixOf]

theorem partition_word {word : List Char} (other : ∀ first ∈ word, first ≠ c) (text : List Char) :
    partition [c, c] (word ++ text) =
      (word ++ (partition [c, c] text).1, (partition [c, c] text).2) := by
  induction word with
  | nil => rfl
  | cons first word ih =>
    have ne : (c == first) = false := by simpa using (other first List.mem_cons_self).symm
    have skipped : [c, c].isPrefixOf (first :: (word ++ text)) = false := by simp [List.isPrefixOf, ne]
    rw [List.cons_append, partition_skip skipped, ih fun d later => other d (List.mem_cons_of_mem _ later)]
    rfl

/-- Of words with one separator between them, two separators after them are the first two in a row. -/
theorem partition_intercalate {words : List (List Char)} (some : words ≠ []) (named : ∀ word ∈ words, word ≠ [])
    (other : ∀ word ∈ words, ∀ first ∈ word, first ≠ c) (text : List Char) :
    partition [c, c] ([c].intercalate words ++ c :: c :: text) = ([c].intercalate words, [c, c], text) := by
  induction words with
  | nil => exact absurd rfl some
  | cons word words ih =>
    have first := other word List.mem_cons_self
    cases words with
    | nil =>
      rw [List.intercalate_singleton, partition_word first, partition_here]
      simp
    | cons second words =>
      have later := ih (List.cons_ne_nil _ _) (fun w later => named w (List.mem_cons_of_mem _ later)) fun w later =>
        other w (List.mem_cons_of_mem _ later)
      have joined : [c].intercalate (word :: second :: words) = word ++ c :: [c].intercalate (second :: words) := by
        rw [List.intercalate_cons_cons, List.append_assoc, List.singleton_append]
      have single : [c, c].isPrefixOf (c :: ([c].intercalate (second :: words) ++ c :: c :: text)) = false := by
        have next := named second (List.mem_cons_of_mem _ List.mem_cons_self)
        cases second with
        | nil => exact absurd rfl next
        | cons d second =>
          have ne : (c == d) = false := by
            simpa using (other (d :: second) (List.mem_cons_of_mem _ List.mem_cons_self) d List.mem_cons_self).symm
          cases words <;> simp [List.isPrefixOf, ne, List.intercalate_cons_cons]
      rw [joined, List.append_assoc, List.cons_append, partition_word first, partition_skip single, later]

end Partition

theorem rstrip_fill {c : Char} {text : List Char} (last : text.getLast? ≠ some c) (n : Nat) :
    rstrip c (text ++ List.replicate n c) = text := by
  induction n with
  | zero =>
    rw [List.replicate_zero, List.append_nil, rstrip, List.rdropWhile_eq_self_iff]
    intro named same
    rw [List.getLast?_eq_some_getLast named] at last
    exact last (congrArg some (by simpa using same))
  | succ n ih =>
    rw [List.replicate_succ', ← List.append_assoc, rstrip, List.rdropWhile_concat_pos (· == c) _ c (beq_self_eq_true c)]
    exact ih

theorem strip_ne_nil {c first : Char} {text : List Char} (other : first ≠ c) : strip c (first :: text) ≠ [] := by
  have kept : (first :: text).dropWhile (· == c) = first :: text :=
    List.dropWhile_cons_of_neg (by simpa using other)
  rw [strip, kept, rstrip, ne_eq, List.rdropWhile_eq_nil_iff]
  intro all
  exact other (by simpa using all first List.mem_cons_self)

theorem slice_parts (before : List Char) {text part : List Char} {start stop : Nat} (parts : before ++ part <+: text)
    (first : before.length = start) (last : start + part.length = stop) : slice start stop text = part := by
  obtain ⟨after, rfl⟩ := parts
  subst first last
  rw [slice, List.take_append_of_le_length (by simp), List.take_of_length_le (by simp), List.drop_left]

/-! ### Digits -/

theorem digitChar_toNat : ∀ n < 10, (Nat.digitChar n).toNat - 48 = n ∧ (Nat.digitChar n).isDigit = true := by decide

@[simp]
theorem length_padded (width n : Nat) : (padded width n).length = width := by
  induction width generalizing n with
  | zero => rfl
  | succ width ih => rw [padded, List.length_append, ih, List.length_singleton]

theorem number_padded {width n : Nat} (fits : n < 10 ^ width) : number (padded width n) = n := by
  induction width generalizing n with
  | zero => exact (Nat.lt_one_iff.mp fits).symm
  | succ width ih =>
    have digit := (digitChar_toNat (n % 10) (Nat.mod_lt n (by decide))).1
    have start : number (padded width (n / 10)) = n / 10 := ih (Nat.div_lt_of_lt_mul (by rwa [← Nat.pow_succ']))
    rw [number] at start
    rw [padded, number, List.foldl_append, start, List.foldl_cons, List.foldl_nil, digit]
    exact Nat.div_add_mod n 10

theorem padded_digits (width n : Nat) : ∀ c ∈ padded width n, c.isDigit = true := by
  induction width generalizing n with
  | zero => exact fun c absent => absurd absent List.not_mem_nil
  | succ width ih =>
    intro c stands
    rw [padded, List.mem_append, List.mem_singleton] at stands
    obtain before | rfl := stands
    · exact ih _ c before
    · exact (digitChar_toNat (n % 10) (Nat.mod_lt n (by decide))).2

theorem padded_inj {width n n' : Nat} (fits : n < 10 ^ width) (fits' : n' < 10 ^ width)
    (same : padded width n = padded width n') : n = n' := by
  rw [← number_padded fits, same, number_padded fits']

end VtsaCsms.Foundation.Texts
