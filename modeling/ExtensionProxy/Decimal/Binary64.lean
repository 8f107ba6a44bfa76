/-!
# Binary numbers of 64 bits

A finite number is a significand of at most 53 bits times a power of two.  A ratio is rounded to
the nearest such number; of two that are equally near, the one with the even significand counts.
All of it is done on natural numbers, so nothing is lost on the way.
-/

set_option autoImplicit false

namespace ExtensionProxy

/-- A binary number of 64 bits. -/
inductive Binary64 where
  /-- The significand times the power of two, with a sign, which zero has too. -/
  | finite (negative : Bool) (significand : Nat) (exponent : Int)
  /-- Beyond every finite number. -/
  | infinite (negative : Bool)
  /-- No number. -/
  | notANumber
  deriving DecidableEq, Repr

namespace Binary64

/-- The bits of a significand. -/
def precision : Nat := 53

/-- The least exponent. -/
def leastExponent : Int := -1074

/-- The power of two from which on numbers are infinite. -/
def overflowExponent : Int := 1024

/-- The quotient of two numbers rounded to the nearest integer, a half to the even one. -/
def roundQuotient (num den : Nat) : Nat :=
  let below := num / den
  let twice := 2 * (num % den)
  if twice < den then below
  else if den < twice then below + 1
  else if below % 2 = 0 then below
  else below + 1

/-- A ratio times a power of two, as a ratio. -/
def scaleRatio (num den : Nat) (exponent : Int) : Nat × Nat :=
  if 0 ≤ exponent then (num * Nat.pow 2 exponent.toNat, den)
  else (num, den * Nat.pow 2 (-exponent).toNat)

/-- Whether a ratio is less than a power of two. -/
def ratioBelow (num den : Nat) (exponent : Int) : Bool :=
  let (scaled, one) := scaleRatio num den (-exponent)
  scaled < one

/-- The exponent of the greatest power of two that is not above a positive ratio. -/
def ratioExponent (num den : Nat) : Int :=
  let guess : Int := (num.log2 : Int) - den.log2
  if ratioBelow num den guess then guess - 1 else guess

/-- The number nearest to a ratio. -/
def ofRatio (negative : Bool) (num den : Nat) : Binary64 :=
  if num = 0 then .finite negative 0 0
  else
    let exponent := max (ratioExponent num den - (precision - 1)) leastExponent
    let (scaled, one) := scaleRatio num den (-exponent)
    let significand := roundQuotient scaled one
    if overflowExponent ≤ exponent + significand.log2 then .infinite negative
    else .finite negative significand exponent

/-- The number nearest to a decimal: digits times a power of ten.  Decimals far outside the range
are recognised by their size. -/
def ofDecimal (negative : Bool) (digits : Nat) (exponent : Int) : Binary64 :=
  let size : Int := exponent + (Nat.toDigits 10 digits).length
  if digits = 0 ∨ size < -400 then .finite negative 0 0
  else if 400 < size then .infinite negative
  else if 0 ≤ exponent then ofRatio negative (digits * Nat.pow 10 exponent.toNat) 1
  else ofRatio negative digits (Nat.pow 10 (-exponent).toNat)

end Binary64

end ExtensionProxy
