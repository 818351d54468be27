import NanokvmRdp.Gateway.JsonText
import NanokvmRdp.Lib.Numeral

/-!
# Numbers and flags of a request

`json_long` and `json_bool` of `http_api.c` look for a key anywhere in the body
and read what stands behind the next colon. In an object as `JSON.stringify`
writes it, with numbers and flags for values, they find the value of the key:
the quotes around the keys are the only ones, so the key in quotes is found
nowhere else.
-/

namespace NanokvmRdp.Gateway

open CString

def trueText : List UInt8 := [0x74, 0x72, 0x75, 0x65]
def falseText : List UInt8 := [0x66, 0x61, 0x6c, 0x73, 0x65]

/-- `json_long`; `none` stands for a field that is not present. -/
def jsonLong (json key : List UInt8) : Option Int64 := (jsonField json key).bind strtol

def jsonBool (json key : List UInt8) (fallback : Bool) : Bool :=
  match jsonField json key with
  | none => fallback
  | some found =>
    if trueText <+: found then true else if falseText <+: found then false else fallback

-- ---------------------------------------------------------------------------
-- What a client writes
-- ---------------------------------------------------------------------------

def isLower (b : UInt8) : Bool := 97 ≤ b && b ≤ 122

structure JsonKey where
  bytes : List UInt8
  plain : (bytes.all isLower && !bytes.isEmpty && bytes.length.ble 61) = true
  deriving DecidableEq

namespace JsonKey

theorem ext {key other : JsonKey} (h : key.bytes = other.bytes) : key = other := by
  cases key
  cases other
  cases h
  rfl

theorem short (key : JsonKey) : key.bytes.length ≤ 61 := by
  have hplain := key.plain
  simp only [Bool.and_eq_true] at hplain
  exact Nat.le_of_ble_eq_true hplain.2

end JsonKey

inductive JsonScalar where
  | number (value : Int64)
  | flag (value : Bool)
  deriving DecidableEq, Repr

namespace JsonScalar

def text : JsonScalar → List UInt8
  | number value => printInt value.toInt
  | flag true => trueText
  | flag false => falseText

end JsonScalar

def fieldText (field : JsonKey × JsonScalar) : List UInt8 :=
  doubleQuote :: (field.1.bytes ++ doubleQuote :: colon :: field.2.text)

def moreText : List (JsonKey × JsonScalar) → List UInt8
  | [] => [125]
  | field :: fields => 44 :: (fieldText field ++ moreText fields)

/-- `JSON.stringify` of an object. -/
def stringify : List (JsonKey × JsonScalar) → List UInt8
  | [] => [123, 125]
  | field :: fields => 123 :: (fieldText field ++ moreText fields)

-- ---------------------------------------------------------------------------
-- The text of a value
-- ---------------------------------------------------------------------------

namespace JsonScalar

end JsonScalar

-- ---------------------------------------------------------------------------
-- The search for a key
-- ---------------------------------------------------------------------------

def JsonKey.quoted (key : JsonKey) : List UInt8 := doubleQuote :: key.bytes ++ [doubleQuote]

end NanokvmRdp.Gateway
