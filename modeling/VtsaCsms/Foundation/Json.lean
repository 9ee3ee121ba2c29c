import Mathlib.Data.List.Forall2
import Mathlib.Data.List.Sort
import VtsaCsms.Foundation.Mixed

/-!
# JSON texts

What `json_encode` writes and `json_decode` reads, as the tree that the text spells out, and the sorting of arrays
by their keys. A value that went through JSON is written as before, sorted or not: only a double that was written
without a fraction comes back as another value, an integer that is written alike.
-/
namespace VtsaCsms.Foundation

/-- A number with a fraction or an exponent is told from one without. -/
inductive Json where
  | null
  | bool (b : Bool)
  | int (n : Int)
  | float (value : Rat)
  | string (s : String)
  | list (items : List Json)
  | object (members : List (String × Json))

namespace Mixed

def positions (n : Nat) : List String := (List.range n).map toString

/-- `array_is_list`. -/
def isList {α : Type} (entries : List (String × α)) : Bool := decide (entries.map Prod.fst = positions entries.length)

/-- `ksort`, by any comparison of keys. -/
def ksort {α : Type} (keyLe : String → String → Bool) (entries : List (String × α)) : List (String × α) :=
  entries.insertionSort fun a b => keyLe a.1 b.1 = true

variable (plain : Rat → Bool) (keyLe : String → String → Bool)

mutual

/-- `json_encode`; `plain` tells of which whole doubles the digits are written without an exponent. -/
def encode : Mixed → Option Json
  | .null => some .null
  | .bool b => some (.bool b)
  | .int n => some (.int n)
  | .float (.finite q) => some (if q.den = 1 ∧ plain q = true then .int q.num else .float q)
  | .float (.infinite _) => none
  | .string s => some (.string s)
  | .array entries => (encodeEntries entries).map fun members =>
    if isList entries then .list (members.map Prod.snd) else .object members

def encodeEntries : List (String × Mixed) → Option (List (String × Json))
  | [] => some []
  | entry :: rest => (encodeEntry entry).bind fun member => (encodeEntries rest).map (member :: ·)

def encodeEntry : String × Mixed → Option (String × Json)
  | (key, value) => (encode value).map fun json => (key, json)

end

mutual

/-- `json_decode` into arrays. -/
def decode : Json → Mixed
  | .null => .null
  | .bool b => .bool b
  | .int n => .int n
  | .float q => .float (.finite q)
  | .string s => .string s
  | .list items => .array ((positions items.length).zip (decodeItems items))
  | .object members => .array (decodeMembers members)

def decodeItems : List Json → List Mixed
  | [] => []
  | item :: rest => decode item :: decodeItems rest

def decodeMembers : List (String × Json) → List (String × Mixed)
  | [] => []
  | member :: rest => decodeMember member :: decodeMembers rest

def decodeMember : String × Json → String × Mixed
  | (key, json) => (key, decode json)

end

/-- A list stays as it is, any other array is sorted by its keys. -/
def arrange {α : Type} (entries : List (String × α)) : List (String × α) :=
  if isList entries then entries else ksort keyLe entries

mutual

/-- Arrays in arrays are sorted as well; as the order of keys does not depend on the values, they are first. -/
def sortRecursively : Mixed → Mixed
  | .array entries => .array (arrange keyLe (sortEntries entries))
  | .null => .null
  | .bool b => .bool b
  | .int n => .int n
  | .float x => .float x
  | .string s => .string s

def sortEntries : List (String × Mixed) → List (String × Mixed)
  | [] => []
  | entry :: rest => sortEntry entry :: sortEntries rest

def sortEntry : String × Mixed → String × Mixed
  | (key, value) => (key, sortRecursively value)

end

/-! ### Through JSON and back -/

variable {plain keyLe}

/-- Two entries of one key that are written alike. -/
def Alike (plain : Rat → Bool) (a b : String × Mixed) : Prop := a.1 = b.1 ∧ encode plain a.2 = encode plain b.2

variable {a b : List (String × Mixed)}

theorem keys_of_forall₂ (alike : List.Forall₂ (Alike plain) a b) :
    a.map Prod.fst = b.map Prod.fst := by
  induction alike with
  | nil => rfl
  | cons first _ ih => exact congrArg₂ List.cons first.1 ih

theorem isList_of_keys {α β : Type} {a : List (String × α)} {b : List (String × β)}
    (keys : a.map Prod.fst = b.map Prod.fst) : isList a = isList b := by
  have length : a.length = b.length := by simpa using congrArg List.length keys
  unfold isList
  rw [keys, length]

theorem encodeEntry_eq (entry : String × Mixed) :
    encodeEntry plain entry = (encode plain entry.2).map fun json => (entry.1, json) := by
  cases entry
  rfl

theorem encodeEntries_alike (alike : List.Forall₂ (Alike plain) a b) :
    encodeEntries plain a = encodeEntries plain b := by
  induction alike with
  | nil => rfl
  | cons first _ ih =>
    obtain ⟨key, value⟩ := first
    simp only [encodeEntries, encodeEntry_eq, ih, key, value]

theorem encode_array_alike (alike : List.Forall₂ (Alike plain) a b) :
    encode plain (.array a) = encode plain (.array b) := by
  simp only [encode, encodeEntries_alike alike, isList_of_keys (keys_of_forall₂ alike)]

theorem ksort_alike (alike : List.Forall₂ (Alike plain) a b) :
    List.Forall₂ (Alike plain) (ksort keyLe a) (ksort keyLe b) := by
  obtain ⟨length, pairs⟩ := List.forall₂_iff_zip.mp alike
  let sorted := (a.zip b).insertionSort fun x y => keyLe x.1.1 y.1.1 = true
  have first : sorted.map Prod.fst = ksort keyLe a := by
    have sorts := List.map_insertionSort (fun x y : (String × Mixed) × (String × Mixed) => keyLe x.1.1 y.1.1 = true)
      (fun x y : String × Mixed => keyLe x.1 y.1 = true) Prod.fst (a.zip b) fun _ _ _ _ => Iff.rfl
    rwa [List.map_fst_zip length.le] at sorts
  have second : sorted.map Prod.snd = ksort keyLe b := by
    have sorts := List.map_insertionSort (fun x y : (String × Mixed) × (String × Mixed) => keyLe x.1.1 y.1.1 = true)
      (fun x y : String × Mixed => keyLe x.1 y.1 = true) Prod.snd (a.zip b)
      fun x left y right => by rw [(pairs left).1, (pairs right).1]
    rwa [List.map_snd_zip length.ge] at sorts
  rw [← first, ← second, List.forall₂_map_left_iff, List.forall₂_map_right_iff, List.forall₂_same]
  exact fun x there => pairs ((List.perm_insertionSort _ _).mem_iff.mp there)

theorem arrange_alike (alike : List.Forall₂ (Alike plain) a b) :
    List.Forall₂ (Alike plain) (arrange keyLe a) (arrange keyLe b) := by
  unfold arrange
  rw [isList_of_keys (keys_of_forall₂ alike)]
  split
  · exact alike
  · exact ksort_alike alike

theorem encodeEntries_keys {entries : List (String × Mixed)} {members : List (String × Json)}
    (encoded : encodeEntries plain entries = some members) : members.map Prod.fst = entries.map Prod.fst := by
  induction entries generalizing members with
  | nil =>
    cases encoded
    rfl
  | cons entry _ ih =>
    simp only [encodeEntries, encodeEntry_eq] at encoded
    obtain ⟨member, isMember, more⟩ := Option.bind_eq_some_iff.mp encoded
    obtain ⟨json, -, rfl⟩ := Option.map_eq_some_iff.mp isMember
    obtain ⟨others, isOthers, rfl⟩ := Option.map_eq_some_iff.mp more
    exact congrArg (entry.1 :: ·) (ih isOthers)

theorem decodeMembers_eq_zip (members : List (String × Json)) :
    decodeMembers members = (members.map Prod.fst).zip (decodeItems (members.map Prod.snd)) := by
  induction members with
  | nil => rfl
  | cons member _ ih =>
    obtain ⟨key, json⟩ := member
    rw [decodeMembers, ih]
    rfl

/-- An encoded array is read back under its keys, whether it was written as a list or as an object. -/
theorem decode_encode_array {entries : List (String × Mixed)} {json : Json}
    (encoded : encode plain (.array entries) = some json) :
    ∃ members, encodeEntries plain entries = some members ∧ decode json = .array (decodeMembers members) := by
  rw [encode] at encoded
  obtain ⟨members, isMembers, rfl⟩ := Option.map_eq_some_iff.mp encoded
  refine ⟨members, isMembers, ?_⟩
  have keys := encodeEntries_keys isMembers
  split
  · rename_i list
    have length : members.length = entries.length := by simpa using congrArg List.length keys
    have positioned : members.map Prod.fst = positions members.length := by
      rw [keys, length]
      exact of_decide_eq_true list
    rw [decode, decodeMembers_eq_zip, positioned, List.length_map]
  · rw [decode]

mutual

/-- What is read back of a value is written, sorted, like the value, sorted. -/
theorem encode_sorted_decode : ∀ (value : Mixed) (json : Json), encode plain value = some json →
    encode plain (sortRecursively keyLe (decode json)) = encode plain (sortRecursively keyLe value)
  | .null, json, encoded => by
    cases encoded
    rfl
  | .bool b, json, encoded => by
    cases encoded
    rfl
  | .int n, json, encoded => by
    cases encoded
    rfl
  | .float (.finite q), json, encoded => by
    rw [encode] at encoded
    cases encoded
    split
    · rename_i whole
      rw [decode, sortRecursively, sortRecursively, encode, encode, if_pos whole]
    · rfl
  | .float (.infinite negative), json, encoded => by cases encoded
  | .string s, json, encoded => by
    cases encoded
    rfl
  | .array entries, json, encoded => by
    obtain ⟨members, isMembers, decoded⟩ := decode_encode_array encoded
    rw [decoded, sortRecursively, sortRecursively]
    exact encode_array_alike (arrange_alike (sorted_alike entries members isMembers))

theorem sorted_alike : ∀ (entries : List (String × Mixed)) (members : List (String × Json)),
    encodeEntries plain entries = some members →
    List.Forall₂ (Alike plain) (sortEntries keyLe (decodeMembers members)) (sortEntries keyLe entries)
  | [], members, encoded => by
    cases encoded
    exact List.Forall₂.nil
  | entry :: rest, members, encoded => by
    rw [encodeEntries] at encoded
    obtain ⟨member, isMember, more⟩ := Option.bind_eq_some_iff.mp encoded
    obtain ⟨members, isMembers, rfl⟩ := Option.map_eq_some_iff.mp more
    exact List.Forall₂.cons (sorted_alike_entry entry member isMember) (sorted_alike rest members isMembers)

theorem sorted_alike_entry : ∀ (entry : String × Mixed) (member : String × Json),
    encodeEntry plain entry = some member →
    Alike plain (sortEntry keyLe (decodeMember member)) (sortEntry keyLe entry)
  | (key, value), member, encoded => by
    rw [encodeEntry] at encoded
    obtain ⟨json, isJson, rfl⟩ := Option.map_eq_some_iff.mp encoded
    exact ⟨rfl, encode_sorted_decode value json isJson⟩

end

end Mixed
end VtsaCsms.Foundation
