/-!
# Integers in text

Decimal integers with an optional sign, read within the range of a signed integer of 64 bits.  No
blanks, no digit grouping; leading zeros count for nothing.
-/

set_option autoImplicit false

namespace ExtensionProxy

/-- The value of a run of decimal digits, `none` for anything else and for no digits at all. -/
def digitsValue? (digits : List Char) : Option Nat :=
  if digits.isEmpty || !digits.all Char.isDigit then none
  else some (digits.foldl (fun value c => value * 10 + (c.toNat - '0'.toNat)) 0)

/-- An integer with an optional sign, of any size. -/
def readSigned? (text : List Char) : Option Int :=
  match text with
  | '-' :: digits => (digitsValue? digits).map fun value => - (value : Int)
  | '+' :: digits => (digitsValue? digits).map fun value => (value : Int)
  | digits => (digitsValue? digits).map fun value => (value : Int)

/-- Whether an integer has at most 64 bits, the sign included. -/
def fitsInt64 (value : Int) : Bool :=
  -9223372036854775808 ≤ value && value ≤ 9223372036854775807

/-- A signed integer of 64 bits; a value outside the range does not read. -/
def readInt64? (text : String) : Option Int := (readSigned? text.toList).filter fitsInt64

end ExtensionProxy
