/-!
# Unsigned 64-bit numbers in decimal

A number is one or more ASCII digits after an optional single plus sign; leading zeros are fine.  A
value that does not fit into 64 bits is no number, however many of its digits are zeros.
-/

namespace LiteralPatch
namespace Text

/-- The numbers that fit are below this one. -/
def wordLimit : Nat := 0x10000000000000000

def isDigit (c : Char) : Bool := '0' ≤ c && c ≤ '9'

def digitValue (c : Char) : Nat := c.toNat - '0'.toNat

/-- Reads digits, and fails as soon as the value no longer fits. -/
def readDigits : Nat → List Char → Option Nat
  | acc, [] => some acc
  | acc, c :: cs =>
    if isDigit c then
      let next := 10 * acc + digitValue c
      if next < wordLimit then readDigits next cs else none
    else none

/-- Reads an unsigned 64-bit number. -/
def readWord? : List Char → Option Nat
  | [] => none
  | ['+'] => none
  | '+' :: cs => readDigits 0 cs
  | cs => readDigits 0 cs

end Text
end LiteralPatch
