import Mathlib.Data.List.Forall2
import VtsaCsms.Foundation.Json

/-!
# What the logs of messages show

`MessageRedactor` of `telemetry.py`: before a message is logged, what stands below a configured key is replaced, in
any depth of objects and lists. A key is known by its letters and digits, in any case. Two messages are logged alike
exactly if they differ below such keys only, and what is not below one is logged as it is.
-/
namespace VtsaCsms.Gateway
open Foundation

/-- `str.casefold`, and `str.isalnum` of a character. -/
structure CharacterTables where
  casefold : String → String
  isalnum : Char → Bool

/-- `_canonical_field_name`. -/
def CharacterTables.canonicalFieldName (tables : CharacterTables) (value : String) : String :=
  String.ofList ((tables.casefold value).toList.filter tables.isalnum)

structure MessageRedactor where
  tables : CharacterTables
  fields : List String

namespace MessageRedactor

/-- `__init__`. -/
def init (tables : CharacterTables) (fields : List String) : MessageRedactor :=
  ⟨tables, fields.map tables.canonicalFieldName⟩

variable (redactor : MessageRedactor)

def hides (key : String) : Bool := redactor.fields.contains (redactor.tables.canonicalFieldName key)

mutual

def redact : Json → Json
  | .object members => .object (redactMembers members)
  | .list items => .list (redactItems items)
  | .null => .null
  | .bool b => .bool b
  | .int n => .int n
  | .float q => .float q
  | .string s => .string s

def redactItems : List Json → List Json
  | [] => []
  | item :: items => redact item :: redactItems items

def redactMembers : List (String × Json) → List (String × Json)
  | [] => []
  | member :: members => redactMember member :: redactMembers members

def redactMember : String × Json → String × Json
  | (key, item) => (key, if redactor.hides key then .string "[REDACTED]" else redact item)

end

/-! ### Two messages -/

mutual

/-- The two values differ below hidden keys only. -/
inductive Resembles : Json → Json → Prop
  | null : Resembles .null .null
  | bool (b : Bool) : Resembles (.bool b) (.bool b)
  | int (n : Int) : Resembles (.int n) (.int n)
  | float (q : Rat) : Resembles (.float q) (.float q)
  | string (s : String) : Resembles (.string s) (.string s)
  | list {items items' : List Json} (each : ResemblesItems items items') : Resembles (.list items) (.list items')
  | object {members members' : List (String × Json)} (each : ResemblesMembers members members') :
    Resembles (.object members) (.object members')

inductive ResemblesItems : List Json → List Json → Prop
  | nil : ResemblesItems [] []
  | cons {item item' : Json} {items items' : List Json} (first : Resembles item item')
      (later : ResemblesItems items items') : ResemblesItems (item :: items) (item' :: items')

inductive ResemblesMembers : List (String × Json) → List (String × Json) → Prop
  | nil : ResemblesMembers [] []
  | hidden {key : String} {item item' : Json} {members members' : List (String × Json)}
      (below : redactor.hides key = true) (later : ResemblesMembers members members') :
    ResemblesMembers ((key, item) :: members) ((key, item') :: members')
  | shown {key : String} {item item' : Json} {members members' : List (String × Json)} (first : Resembles item item')
      (later : ResemblesMembers members members') : ResemblesMembers ((key, item) :: members) ((key, item') :: members')

end

variable {redactor}

mutual

theorem redact_resembles {v w : Json} (same : redactor.Resembles v w) : redactor.redact v = redactor.redact w := by
  cases same with
  | list each => simp only [redact, redactItems_resembles each]
  | object each => simp only [redact, redactMembers_resembles each]
  | _ => rfl

theorem redactItems_resembles {items items' : List Json} (same : redactor.ResemblesItems items items') :
    redactor.redactItems items = redactor.redactItems items' := by
  cases same with
  | nil => rfl
  | cons first later => simp only [redactItems, redact_resembles first, redactItems_resembles later]

theorem redactMembers_resembles {members members' : List (String × Json)}
    (same : redactor.ResemblesMembers members members') :
    redactor.redactMembers members = redactor.redactMembers members' := by
  cases same with
  | nil => rfl
  | hidden below later => simp only [redactMembers, redactMember, below, if_true, redactMembers_resembles later]
  | shown first later =>
    simp only [redactMembers, redactMember, redact_resembles first, redactMembers_resembles later]

end

mutual

theorem resembles_of_redact : ∀ {v w : Json}, redactor.redact v = redactor.redact w → redactor.Resembles v w
  | .null, w, same => by cases w <;> simp only [redact] at same <;> cases same; exact .null
  | .bool b, w, same => by cases w <;> simp only [redact] at same <;> cases same; exact .bool b
  | .int n, w, same => by cases w <;> simp only [redact] at same <;> cases same; exact .int n
  | .float q, w, same => by cases w <;> simp only [redact] at same <;> cases same; exact .float q
  | .string s, w, same => by cases w <;> simp only [redact] at same <;> cases same; exact .string s
  | .list items, w, same => by
    cases w with
    | list items' => exact .list (resemblesItems_of_redact (Json.list.inj same))
    | _ => simp only [redact] at same; cases same
  | .object members, w, same => by
    cases w with
    | object members' => exact .object (resemblesMembers_of_redact (Json.object.inj same))
    | _ => simp only [redact] at same; cases same

theorem resemblesItems_of_redact : ∀ {items items' : List Json},
    redactor.redactItems items = redactor.redactItems items' → redactor.ResemblesItems items items'
  | [], [], _ => .nil
  | [], _ :: _, same => by cases same
  | _ :: _, [], same => by cases same
  | _ :: _, _ :: _, same =>
    have parts := List.cons.inj same
    .cons (resembles_of_redact parts.1) (resemblesItems_of_redact parts.2)

theorem resemblesMembers_of_redact : ∀ {members members' : List (String × Json)},
    redactor.redactMembers members = redactor.redactMembers members' → redactor.ResemblesMembers members members'
  | [], [], _ => .nil
  | [], _ :: _, same => by cases same
  | _ :: _, [], same => by cases same
  | (key, item) :: members, (key', item') :: members', same => by
    have parts := List.cons.inj same
    have later := resemblesMembers_of_redact parts.2
    obtain ⟨rfl, items⟩ := Prod.mk.inj parts.1
    by_cases below : redactor.hides key = true
    · exact .hidden below later
    · simp only [below, if_false, Bool.false_eq_true] at items
      exact .shown (resembles_of_redact items) later

end

/-! ### What is shown -/

variable (redactor)

mutual

/-- No key in the value is hidden, in any depth. -/
def shows : Json → Bool
  | .object members => showsMembers members
  | .list items => showsItems items
  | _ => true

def showsItems : List Json → Bool
  | [] => true
  | item :: items => shows item && showsItems items

def showsMembers : List (String × Json) → Bool
  | [] => true
  | member :: members => showsMember member && showsMembers members

def showsMember : String × Json → Bool
  | (key, item) => !redactor.hides key && shows item

end

variable {redactor}

mutual

theorem redact_of_shows : ∀ {v : Json}, redactor.shows v = true → redactor.redact v = v
  | .null, _ => rfl
  | .bool _, _ => rfl
  | .int _, _ => rfl
  | .float _, _ => rfl
  | .string _, _ => rfl
  | .list _, shown => congrArg Json.list (redactItems_of_shows shown)
  | .object _, shown => congrArg Json.object (redactMembers_of_shows shown)

theorem redactItems_of_shows : ∀ {items : List Json},
    redactor.showsItems items = true → redactor.redactItems items = items
  | [], _ => rfl
  | _ :: _, shown =>
    have parts := Bool.and_eq_true_iff.mp shown
    congrArg₂ List.cons (redact_of_shows parts.1) (redactItems_of_shows parts.2)

theorem redactMembers_of_shows : ∀ {members : List (String × Json)},
    redactor.showsMembers members = true → redactor.redactMembers members = members
  | [], _ => rfl
  | (key, item) :: members, shown => by
    have parts := Bool.and_eq_true_iff.mp shown
    obtain ⟨bare, inside⟩ := Bool.and_eq_true_iff.mp parts.1
    have unhidden : redactor.hides key = false := by simpa using bare
    simp only [redactMembers, redactMember, unhidden, redact_of_shows inside, redactMembers_of_shows parts.2,
      Bool.false_eq_true, if_false]

end

mutual

theorem resembles_redact : ∀ v : Json, redactor.Resembles (redactor.redact v) v
  | .null => .null
  | .bool b => .bool b
  | .int n => .int n
  | .float q => .float q
  | .string s => .string s
  | .list items => .list (resemblesItems_redact items)
  | .object members => .object (resemblesMembers_redact members)

theorem resemblesItems_redact : ∀ items : List Json, redactor.ResemblesItems (redactor.redactItems items) items
  | [] => .nil
  | item :: items => .cons (resembles_redact item) (resemblesItems_redact items)

theorem resemblesMembers_redact : ∀ members : List (String × Json),
    redactor.ResemblesMembers (redactor.redactMembers members) members
  | [] => .nil
  | (key, item) :: members => by
    have later := resemblesMembers_redact members
    by_cases below : redactor.hides key = true
    · exact .hidden below later
    · simp only [redactMembers, redactMember, below, if_false, Bool.false_eq_true]
      exact .shown (resembles_redact item) later

end

theorem redact_redact (v : Json) : redactor.redact (redactor.redact v) = redactor.redact v :=
  redact_resembles (resembles_redact v)

/-! ### Places in a message -/

/-- One step into an object or a list. -/
inductive Selector where
  | member (key : String)
  | item (index : Nat)

/-- What stands at the end of a path. -/
def select (v : Json) : List Selector → Option Json
  | [] => some v
  | .member key :: path =>
    match v with
    | .object members => (members.find? fun member => member.1 == key).bind fun member => select member.2 path
    | _ => none
  | .item index :: path =>
    match v with
    | .list items => items[index]?.bind fun item => select item path
    | _ => none

variable (redactor)

/-- The path goes through no hidden key. -/
def Open (path : List Selector) : Prop := ∀ key, .member key ∈ path → redactor.hides key = false

variable {redactor}

theorem redactItems_eq (items : List Json) : redactor.redactItems items = items.map redactor.redact := by
  induction items with
  | nil => rfl
  | cons item items ih => simp only [redactItems, List.map_cons, ih]

theorem redactMembers_eq (members : List (String × Json)) :
    redactor.redactMembers members = members.map redactor.redactMember := by
  induction members with
  | nil => rfl
  | cons member members ih => simp only [redactMembers, List.map_cons, ih]

theorem find_redactMembers (members : List (String × Json)) (key : String) :
    (redactor.redactMembers members).find? (fun member => member.1 == key) =
      (members.find? fun member => member.1 == key).map redactor.redactMember := by
  have keys : (fun member : String × Json => member.1 == key) ∘ redactor.redactMember =
      fun member => member.1 == key := funext fun (_, _) => by simp only [Function.comp_apply, redactMember]
  rw [redactMembers_eq, List.find?_map, keys]

theorem key_of_find {members : List (String × Json)} {key : String} {member : String × Json}
    (found : members.find? (fun member => member.1 == key) = some member) : member.1 = key := by
  simpa using List.find?_some found

theorem redactMember_shown {member : String × Json} (shown : redactor.hides member.1 = false) :
    (redactor.redactMember member).2 = redactor.redact member.2 := by
  obtain ⟨key, item⟩ := member
  simp only [redactMember, shown, Bool.false_eq_true, if_false]

theorem redactMember_hidden {member : String × Json} (below : redactor.hides member.1 = true) :
    (redactor.redactMember member).2 = .string "[REDACTED]" := by
  obtain ⟨key, item⟩ := member
  simp only [redactMember, below, if_true]

/-- Along an open path the shape of the message is kept, and what stands at its end is redacted alone. -/
theorem select_redact {path : List Selector} (clear : redactor.Open path) (v : Json) :
    select (redactor.redact v) path = (select v path).map redactor.redact := by
  induction path generalizing v with
  | nil => rfl
  | cons step path ih =>
    have rest : redactor.Open path := fun key named => clear key (List.mem_cons_of_mem _ named)
    cases step with
    | item index =>
      cases v with
      | list items =>
        simp only [redact, select, redactItems_eq, List.getElem?_map]
        cases items[index]? with
        | none => rfl
        | some item => exact ih rest item
      | _ => rfl
    | member key =>
      cases v with
      | object members =>
        simp only [redact, select, find_redactMembers]
        cases found : members.find? fun member => member.1 == key with
        | none => rfl
        | some member =>
          have shown : redactor.hides member.1 = false := by
            rw [key_of_find found]
            exact clear key List.mem_cons_self
          simp only [Option.map_some, Option.bind_some, redactMember_shown shown]
          exact ih rest member.2
      | _ => rfl

theorem select_append (v : Json) (path path' : List Selector) :
    select v (path ++ path') = (select v path).bind fun w => select w path' := by
  induction path generalizing v with
  | nil => rfl
  | cons step path ih =>
    cases step with
    | item index =>
      cases v with
      | list items => cases found : items[index]? <;> simp [select, found, ih]
      | _ => rfl
    | member key =>
      cases v with
      | object members =>
        cases found : members.find? fun member => member.1 == key <;> simp [select, found, ih]
      | _ => rfl

theorem select_hidden {path : List Selector} (clear : redactor.Open path) {key : String}
    (below : redactor.hides key = true) (v : Json) :
    select (redactor.redact v) (path ++ [.member key]) =
      (select v (path ++ [.member key])).map fun _ => .string "[REDACTED]" := by
  rw [select_append, select_append, select_redact clear]
  cases select v path with
  | none => rfl
  | some w =>
    cases w with
    | object members =>
      simp only [Option.map_some, Option.bind_some, redact, select, find_redactMembers]
      cases found : members.find? fun member => member.1 == key with
      | none => rfl
      | some member =>
        have hidden : redactor.hides member.1 = true := by rwa [key_of_find found]
        simp only [Option.map_some, Option.bind_some, redactMember_hidden hidden]
    | _ => rfl

theorem hides_init (tables : CharacterTables) (fields : List String) (key : String) :
    (init tables fields).hides key = true ↔
      ∃ field ∈ fields, tables.canonicalFieldName field = tables.canonicalFieldName key := by
  simp [hides, init, eq_comm]

/-- Two messages are logged alike exactly if they differ below configured keys only. What stands below no such key is
logged, and unchanged if it holds none; what stands at one is not; and a redacted message stays as it is. -/
theorem redaction_hides_configured (tables : CharacterTables) (fields : List String) :
    let redactor := init tables fields
    (∀ v w, redactor.redact v = redactor.redact w ↔ redactor.Resembles v w) ∧
      (∀ path, redactor.Open path → ∀ v,
        (∀ w, select v path = some w → redactor.shows w = true → select (redactor.redact v) path = some w) ∧
        select (redactor.redact v) path = (select v path).map redactor.redact ∧
        ∀ key, redactor.hides key = true → select (redactor.redact v) (path ++ [.member key]) =
          (select v (path ++ [.member key])).map fun _ => .string "[REDACTED]") ∧
      (∀ v, redactor.redact (redactor.redact v) = redactor.redact v) ∧
      ∀ key, redactor.hides key = true ↔
        ∃ field ∈ fields, tables.canonicalFieldName field = tables.canonicalFieldName key := by
  refine ⟨fun v w => ⟨resembles_of_redact, redact_resembles⟩, fun path clear v => ⟨fun w found shown => ?_,
    select_redact clear v, fun key below => select_hidden clear below v⟩, redact_redact, hides_init tables fields⟩
  rw [select_redact clear, found, Option.map_some, redact_of_shows shown]

end MessageRedactor
end VtsaCsms.Gateway
