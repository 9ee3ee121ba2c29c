import Mathlib.Data.Int.Init
import Mathlib.Data.Nat.Log
import Mathlib.Algebra.GroupWithZero.Nat
import Mathlib.Algebra.Ring.Int.Defs

/-!
# The PHP runtime

Exceptions, 64-bit integers and the silent widening of an overflowing sum to a double,
string folding, and the clock. Texts are compared as the code compares them.
-/
namespace VtsaCsms.Foundation

inductive ExceptionClass where
  | domain | invalidArgument | logic | overflow | validation
  | modelNotFound | uniqueConstraint | query | type | error
  deriving DecidableEq, Repr

structure Throwable where
  type : ExceptionClass
  message : String
  deriving DecidableEq, Repr

namespace Throwable

def domain (message : String) : Throwable := ⟨.domain, message⟩
def invalidArgument (message : String) : Throwable := ⟨.invalidArgument, message⟩
def logic (message : String) : Throwable := ⟨.logic, message⟩
def overflow (message : String) : Throwable := ⟨.overflow, message⟩
def validation (message : String) : Throwable := ⟨.validation, message⟩

/-- `firstOrFail` on a query without rows. -/
def modelNotFound (model : String) : Throwable :=
  ⟨.modelNotFound, "No query results for model [" ++ model ++ "]."⟩

/-- A unique index refuses the row. -/
def uniqueConstraint (index : String) : Throwable := ⟨.uniqueConstraint, index⟩

/-- The database refuses a value outside a bigint column. -/
def bigintOutOfRange : Throwable := ⟨.query, "bigint out of range"⟩

end Throwable

/-! ### Integers -/

def phpIntMax : Int := 2 ^ 63 - 1

def phpIntMin : Int := -(2 ^ 63)

/-- Nearest double to an integer, ties to the even significand. Integers from 2^63 on,
the only ones that leave the integer type, are still far below the largest double here. -/
def nearestDouble (n : Int) : Int :=
  let m := n.natAbs
  let excess := Nat.log2 m + 1 - 53
  let unit := 2 ^ excess
  let q := m / unit
  let r := m % unit
  let rounded := if 2 * r > unit ∨ (2 * r = unit ∧ q % 2 = 1) then q + 1 else q
  n.sign * (rounded * unit : Nat)

/-- A PHP number: an integer, or the integral double an overflowing sum becomes. -/
inductive Number where
  | int (n : Int)
  | float (n : Int)
  deriving DecidableEq, Repr

/-- `$total += $n`. -/
def Number.addInt : Number → Int → Number
  | .int a, b =>
    if phpIntMin ≤ a + b ∧ a + b ≤ phpIntMax then .int (a + b)
    else .float (nearestDouble (nearestDouble a + nearestDouble b))
  | .float a, b => .float (nearestDouble (a + nearestDouble b))

theorem Number.addInt_of_range {a b : Int} (h : phpIntMin ≤ a + b ∧ a + b ≤ phpIntMax) :
    Number.addInt (.int a) b = .int (a + b) := if_pos h

/-! ### Texts -/

/-- `mb_strtolower` as far as an ASCII text can tell: A to Z, and the Kelvin sign. -/
def lowerChar (c : Char) : Char := if c = '\u212a' then 'k' else c.toLower

def mbStrToLower (s : String) : String := String.ofList (s.toList.map lowerChar)

/-- `strtoupper`. -/
def strToUpper (s : String) : String := String.ofList (s.toList.map Char.toUpper)

/-- `ctype_digit`. -/
def ctypeDigit (s : String) : Bool := !s.toList.isEmpty && s.toList.all Char.isDigit

/-- `(int) $digits` for a text of digits: saturates at the largest integer. -/
def intOfDigits (s : String) : Int :=
  min phpIntMax (s.toList.foldl (fun n c => 10 * n + (c.toNat - '0'.toNat)) 0 : Nat)

/-- The text of a generated key. -/
def keyText (key : Nat) : String := Nat.repr key

theorem keyText_injective {m n : Nat} (same : keyText m = keyText n) : m = n := by
  unfold keyText at same
  have digits : Nat.toDigits 10 m = Nat.toDigits 10 n := by
    rw [← Nat.toList_repr, ← Nat.toList_repr, same]
  have value := congrArg (fun cs => Nat.ofDigitChars 10 cs 0) digits
  simpa using value

theorem keyText_isDigit {n : Nat} {c : Char} (member : c ∈ (keyText n).toList) : c.isDigit = true := by
  unfold keyText at member
  rw [Nat.toList_repr] at member
  exact Nat.isDigit_of_mem_toDigits (by decide) (by decide) member

theorem keyText_ne_colon {n : Nat} {c : Char} (member : c ∈ (keyText n).toList) : c ≠ ':' := by
  rintro rfl
  have digit := keyText_isDigit member
  simp [Char.isDigit] at digit

/-- Of two texts of parts, each closed by a separator that no part holds, one starts with the other
only part by part. -/
theorem separated_prefix {α : Type} {separator : α} {part part' rest rest' : List α}
    (free : ∀ c ∈ part, c ≠ separator) (free' : ∀ c ∈ part', c ≠ separator)
    (starts : part ++ separator :: rest <+: part' ++ separator :: rest') : part = part' ∧ rest <+: rest' := by
  induction part generalizing part' with
  | nil =>
    cases part' with
    | nil => exact ⟨rfl, (List.cons_prefix_cons.mp starts).2⟩
    | cons c =>
      have same := (List.cons_prefix_cons.mp starts).1
      exact absurd same.symm (free' c (by simp))
  | cons c _ ih =>
    cases part' with
    | nil =>
      have same := (List.cons_prefix_cons.mp starts).1
      exact absurd same (free c (by simp))
    | cons =>
      obtain ⟨rfl, later⟩ := List.cons_prefix_cons.mp starts
      obtain ⟨rfl, tail⟩ := ih (fun d member => free d (by simp [member]))
        (fun d member => free' d (by simp [member])) later
      exact ⟨rfl, tail⟩

section Split
variable {α : Type} {separator : α} {part part' rest rest' : List α}

theorem split_first (free : ∀ c ∈ part, c ≠ separator) (free' : ∀ c ∈ part', c ≠ separator)
    (same : part ++ separator :: rest = part' ++ separator :: rest') : part = part' ∧ rest = rest' := by
  have starts : part ++ separator :: rest <+: part' ++ separator :: rest' := same ▸ List.prefix_refl _
  obtain ⟨rfl, -⟩ := separated_prefix free free' starts
  have tails := List.append_cancel_left same
  exact ⟨rfl, List.tail_eq_of_cons_eq tails⟩

theorem split_last (free : ∀ c ∈ part, c ≠ separator) (free' : ∀ c ∈ part', c ≠ separator)
    (same : rest ++ separator :: part = rest' ++ separator :: part') : rest = rest' ∧ part = part' := by
  have mirrored := congrArg List.reverse same
  simp only [List.reverse_append, List.reverse_cons, List.append_assoc, List.singleton_append] at mirrored
  obtain ⟨parts, rests⟩ := split_first (fun c member => free c (List.mem_reverse.mp member))
    (fun c member => free' c (List.mem_reverse.mp member)) mirrored
  exact ⟨List.reverse_inj.mp rests, List.reverse_inj.mp parts⟩

end Split

theorem toString_injective_nonneg {m n : Int} (above : 0 ≤ m) (above' : 0 ≤ n) (same : toString m = toString n) :
    m = n := by
  obtain ⟨a, rfl⟩ := Int.eq_ofNat_of_zero_le above
  obtain ⟨b, rfl⟩ := Int.eq_ofNat_of_zero_le above'
  have texts : keyText a = keyText b := same
  rw [keyText_injective texts]

/-! ### Time -/

/-- A UTC instant in microseconds. -/
abbrev Instant := Int

namespace Instant

/-- What a column without fractional seconds keeps of an instant. -/
def toSecond (t : Instant) : Instant := t / 1000000 * 1000000

def addSeconds (t : Instant) (seconds : Int) : Instant := t + seconds * 1000000

/-- `(int) $from->diffInSeconds($to)`: signed, truncated towards zero. -/
def diffInSeconds (start stop : Instant) : Int := (stop - start).tdiv 1000000

theorem toSecond_toSecond (t : Instant) : t.toSecond.toSecond = t.toSecond := by
  unfold toSecond
  rw [Int.mul_ediv_cancel _ (by decide)]

theorem toSecond_addSeconds (t : Instant) (seconds : Int) :
    (t.addSeconds seconds).toSecond = t.toSecond.addSeconds seconds := by
  unfold toSecond addSeconds
  show @Eq Int _ _
  omega

theorem addSeconds_addSeconds (t : Instant) (a b : Int) : (t.addSeconds a).addSeconds b = t.addSeconds (a + b) := by
  unfold addSeconds
  show @Eq Int _ _
  omega

theorem addSeconds_zero (t : Instant) : t.addSeconds 0 = t := by
  unfold addSeconds
  show @Eq Int _ _
  omega

theorem tdiv_million_nonpos {n : Int} (nonpos : n ≤ 0) : n.tdiv 1000000 ≤ 0 := by
  have negated : (-(-n)).tdiv 1000000 = -((-n).tdiv 1000000) := Int.neg_tdiv ..
  have nonneg : 0 ≤ (-n).tdiv 1000000 := Int.tdiv_nonneg (by omega) (by decide)
  rw [Int.neg_neg] at negated
  omega

/-- From a whole second on, the seconds to an instant are those to its second. -/
theorem diffInSeconds_toSecond {since : Int} (now : Int) (whole : Instant.toSecond since = since) :
    max 0 (Instant.diffInSeconds since now) = max 0 (Instant.diffInSeconds since (Instant.toSecond now)) := by
  have whole : @Eq Int (since / 1000000 * 1000000) since := whole
  unfold diffInSeconds toSecond
  by_cases later : since ≤ now
  · rw [Int.tdiv_eq_ediv_of_nonneg (by omega), Int.tdiv_eq_ediv_of_nonneg (by omega)]
    congr 1
    omega
  · rw [max_eq_left (tdiv_million_nonpos (by omega)), max_eq_left (tdiv_million_nonpos (by omega))]

end Instant

end VtsaCsms.Foundation
