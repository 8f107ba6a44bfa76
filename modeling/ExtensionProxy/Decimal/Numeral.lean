import ExtensionProxy.Decimal.Binary64
import ExtensionProxy.Text.Integer
import ExtensionProxy.Text.Lines

/-!
# Numerals

The texts that are read as binary numbers: digits with an optional point among or beside them and
an optional power of ten, or the names of the numbers that are not finite.
-/

set_option autoImplicit false

namespace ExtensionProxy

/-- A sign, and what follows it. -/
def readSign (text : List Char) : Bool × List Char :=
  match text with
  | '-' :: rest => (true, rest)
  | '+' :: rest => (false, rest)
  | _ => (false, text)

/-- The number of digits before and after a point and a power of ten; there has to be a digit. -/
def readDecimal? (negative : Bool) (whole fraction : List Char) (power : Int) : Option Binary64 :=
  (digitsValue? (whole ++ fraction)).map fun digits =>
    Binary64.ofDecimal negative digits (power - fraction.length)

/-- A numeral without a sign, cut at the letter before its power of ten. -/
def cutPower (text : List Char) : List Char × Option (List Char) :=
  let mantissa := text.takeWhile fun c => c ≠ 'e' ∧ c ≠ 'E'
  match text.drop mantissa.length with
  | [] => (mantissa, none)
  | _ :: power => (mantissa, some power)

/-- A finite numeral without a sign. -/
def readFinite? (negative : Bool) (text : List Char) : Option Binary64 :=
  let (mantissa, power) := cutPower text
  let (whole, fraction) := (splitFirst '.' mantissa).getD (mantissa, [])
  match power with
  | none => readDecimal? negative whole fraction 0
  | some power => (readSigned? power).bind (readDecimal? negative whole fraction)

/-- A numeral with an optional sign; the names of infinity and of what is no number are read in
either case. -/
def readNumeral? (text : String) : Option Binary64 :=
  let (negative, body) := readSign text.toList
  let name := (String.ofList body).toLower
  if name = "inf" ∨ name = "infinity" then some (.infinite negative)
  else if name = "nan" then some .notANumber
  else readFinite? negative body

end ExtensionProxy
