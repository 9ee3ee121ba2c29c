import Mathlib.Data.Rat.Floor
import VtsaCsms.Foundation.Php

/-!
# Decoded JSON

A PHP value of type `mixed` as `json_decode` builds it: arrays are ordered maps, a list is
an array under its positions. Doubles carry their exact value.
-/
namespace VtsaCsms.Foundation

inductive Double where
  | finite (value : Rat)
  | infinite (negative : Bool)
  deriving DecidableEq, Repr

inductive Mixed where
  | null
  | bool (b : Bool)
  | int (n : Int)
  | float (x : Double)
  | string (s : String)
  | array (entries : List (String × Mixed))

namespace Mixed

/-- `$value[$key] ?? null` on an array; nothing else is indexed. -/
def get (value : Mixed) (key : String) : Mixed :=
  match value with
  | .array entries => (entries.lookup key).getD .null
  | _ => .null

/-- `array_key_exists($key, $value)`. -/
def hasKey (value : Mixed) (key : String) : Bool :=
  match value with
  | .array entries => (entries.lookup key).isSome
  | _ => false

def isNull : Mixed → Bool
  | .null => true
  | _ => false

def isArray : Mixed → Bool
  | .array _ => true
  | _ => false

def string? : Mixed → Option String
  | .string s => some s
  | _ => none

/-- `is_array($value) ? array_values($value) : []`. -/
def values : Mixed → List Mixed
  | .array entries => entries.map Prod.snd
  | _ => []

/-- `$value === true`. -/
def isTrue : Mixed → Bool
  | .bool b => b
  | _ => false

/-- `$value ?? $other`. -/
def orElse (value other : Mixed) : Mixed := if value.isNull then other else value

/-- `(string) $value`: an array warns, and the framework turns the warning into an exception. -/
def toText (floatText : Double → String) : Mixed → Except Throwable String
  | .null => .ok ""
  | .bool b => .ok (if b then "1" else "")
  | .int n => .ok (toString n)
  | .float x => .ok (floatText x)
  | .string s => .ok s
  | .array _ => .error ⟨.error, "Array to string conversion"⟩

/-- The consumer's `integerOrNull`. -/
def integerOrNull : Mixed → Option Int
  | .int n => if 0 ≤ n then some n else none
  | .string s => if ctypeDigit s then some (intOfDigits s) else none
  | _ => none

/-- `is_numeric` with the value it stands for; numeric texts are read by `toFloat`. -/
def numeric (toFloat : String → Option Double) : Mixed → Option Double
  | .int n => some (.finite (if n.natAbs ≤ 2 ^ 53 then n else nearestDouble n))
  | .float x => some x
  | .string s => toFloat s
  | _ => none

mutual

/-- `json_encode` refuses a double that is not finite. -/
def encodes : Mixed → Bool
  | .float (.infinite _) => false
  | .array entries => encodesEntries entries
  | _ => true

def encodesEntries : List (String × Mixed) → Bool
  | [] => true
  | entry :: rest => encodesEntry entry && encodesEntries rest

def encodesEntry : String × Mixed → Bool
  | (_, value) => encodes value

end

end Mixed

/-- `(int) round($x)`: halves away from zero. -/
def roundHalfAway (x : Rat) : Int := if 0 ≤ x then ⌊x + 1 / 2⌋ else ⌈x - 1 / 2⌉

end VtsaCsms.Foundation
