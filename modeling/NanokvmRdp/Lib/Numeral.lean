import Mathlib.Data.Nat.Digits.Lemmas
import NanokvmRdp.Lib.CString

/-!
# Decimal numerals

What `%u` and `%ld` print, and what `strtol` and `strtoul` read back from it
when something that is no digit follows.
-/

namespace CString

def digit (d : Nat) : UInt8 := UInt8.ofNat (48 + d)

def printNat (n : Nat) : List UInt8 := if n = 0 then [48] else (Nat.digits 10 n).reverse.map digit

def printInt (n : Int) : List UInt8 := if n < 0 then 45 :: printNat n.natAbs else printNat n.natAbs

/-- `strtol` to the base 10, for a `long` of 64 bits; `none` if there are no digits. -/
def strtol (text : List UInt8) : Option Int64 :=
  let (negative, digits) := numeral text
  if digits = [] then none
  else
    let value := decimal digits
    some (if negative then
        if value < 9223372036854775808 then -Int64.ofNat value else Int64.minValue
      else if value < 9223372036854775808 then Int64.ofNat value else Int64.maxValue)

-- ---------------------------------------------------------------------------
-- Digits
-- ---------------------------------------------------------------------------

section

variable {digits rest : List UInt8} (hne : digits ≠ []) (hdigits : ∀ b ∈ digits, isDigit b = true)
  (hrest : ∀ b ∈ rest.head?, isDigit b = false)

include hdigits hrest

include hne

end

variable {rest : List UInt8}

end CString
