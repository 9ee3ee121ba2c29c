import Mathlib.Data.List.Sort
import VtsaCsms.Payments.QrTopups

/-!
# The signed messages of the payment gateway

`AubQrProtocol.php`. The parser and the hash are parameters: what `loadXML` makes of a body is read the
way `verify` reads it, and `sha256` is `hash('sha256', …)`.
-/
namespace VtsaCsms.Payments
open Foundation

/-! ### Documents -/

/-- `NameStartChar` of XML. -/
def nameStartChar (c : Char) : Bool :=
  c = ':' || c = '_' || c.isAlpha ||
    [(0xC0, 0xD6), (0xD8, 0xF6), (0xF8, 0x2FF), (0x370, 0x37D), (0x37F, 0x1FFF), (0x200C, 0x200D), (0x2070, 0x218F),
      (0x2C00, 0x2FEF), (0x3001, 0xD7FF), (0xF900, 0xFDCF), (0xFDF0, 0xFFFD), (0x10000, 0xEFFFF)].any
        fun range => decide (range.1 ≤ c.toNat) && decide (c.toNat ≤ range.2)

/-- `NameChar` of XML. -/
def nameChar (c : Char) : Bool :=
  nameStartChar c || c = '-' || c = '.' || c.isDigit || c.toNat = 0xB7 ||
    [(0x300, 0x36F), (0x203F, 0x2040)].any fun range => decide (range.1 ≤ c.toNat) && decide (c.toNat ≤ range.2)

def IsElementName (name : List Char) : Prop :=
  name.head?.any nameStartChar = true ∧ name.all nameChar = true
  deriving Decidable

/-- An element, with the number of its attributes and of the elements in it. -/
structure DOMElement where
  tagName : String
  isName : IsElementName tagName.toList
  attributes : Nat := 0
  elements : Nat := 0
  textContent : String

/-- Texts, comments and processing instructions are skipped. -/
inductive DOMNode where
  | element (node : DOMElement)
  | other

structure DOMDocument where
  rootName : Option String
  hasDoctype : Bool
  childNodes : List DOMNode

namespace AubQrProtocol

/-! ### Signatures -/

/-- `ksort` of the fields with a value, `sign` apart. -/
def canonicalFields (fields : Table String String) : List (String × String) :=
  (fields.entries.filter fun e => decide (e.1 ≠ "sign" ∧ e.2 ≠ "")).insertionSort fun e e' => e.1 ≤ e'.1

def signedText (fields : Table String String) : String :=
  "&".intercalate ((canonicalFields fields).map fun e => e.1 ++ "=" ++ e.2)

def hashedText (key : String) (fields : Table String String) : String := signedText fields ++ "&key=" ++ key

/-- SHA256 over the text with the key, not HMAC and not a hash of serialized XML. -/
def sign (sha256 : String → String) (fields : Table String String) (key : String) : String :=
  strToUpper (sha256 (hashedText key fields))

/-! ### Verification -/

def invalid : WalletException := ⟨"INVALID_AUB_MESSAGE", "Payment verification failed.", 400⟩

/-- `stripos($text, $needle) !== false`. -/
def holdsText (needle text : String) : Bool :=
  (text.toList.map Char.toLower).tails.any ((needle.toList.map Char.toLower).isPrefixOf ·)

def readFields : List DOMNode → Table String String → Except WalletException (Table String String)
  | [], fields => .ok fields
  | .other :: rest, fields => readFields rest fields
  | .element node :: rest, fields =>
    if 0 < node.attributes ∨ (fields.get? node.tagName).isSome then .error invalid
    else if 0 < node.elements then .error invalid
    else readFields rest (fields.put node.tagName node.textContent)

def verify (loadXML : String → Option DOMDocument) (sha256 : String → String) (xml key : String) :
    Except WalletException (Table String String) :=
  if key = "" ∨ 65536 < xml.utf8ByteSize ∨ holdsText "<!DOCTYPE" xml = true ∨ holdsText "<!ENTITY" xml = true then
    .error invalid
  else
    match loadXML xml with
    | none => .error invalid
    | some doc =>
      if doc.rootName ≠ some "xml" ∨ doc.hasDoctype = true then .error invalid
      else do
        let fields ← readFields doc.childNodes Table.empty
        if (fields.get? "sign_type").getD "" ≠ "SHA256" ∨
            sign sha256 fields key ≠ (fields.get? "sign").getD "" then .error invalid
        else .ok fields

end AubQrProtocol
end VtsaCsms.Payments
