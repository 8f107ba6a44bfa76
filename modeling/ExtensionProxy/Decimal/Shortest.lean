import ExtensionProxy.Decimal.Binary64

/-!
# The shortest decimal of a binary number

Of all decimals that are rounded back to a number, the one with the fewest digits is written; of
several with as few digits the one nearest to the number.  The decimals with a given number of
digits form a grid, and if any point of the grid is rounded back then one of the two neighbours of
the number is.  A decimal is written in positional notation, without an exponent and without a
point where there is no fraction.
-/

set_option autoImplicit false

namespace ExtensionProxy

/-- A decimal between one tenth and one, times a power of ten: its digits and the power. -/
structure DecimalDigits where
  digits : List Char
  /-- The power of ten. -/
  point : Int
  deriving DecidableEq, Repr

namespace DecimalDigits

/-- A decimal in positional notation. -/
def positional (decimal : DecimalDigits) : List Char :=
  let count : Int := decimal.digits.length
  if decimal.point ≤ 0 then
    '0' :: '.' :: List.replicate (-decimal.point).toNat '0' ++ decimal.digits
  else if count ≤ decimal.point then
    decimal.digits ++ List.replicate (decimal.point - count).toNat '0'
  else
    decimal.digits.take decimal.point.toNat ++ '.' :: decimal.digits.drop decimal.point.toNat

end DecimalDigits

namespace Binary64

/-- The numbers that are rounded to a given one, all in quarters of its last place: from the first
to the last, the two ends included or not. -/
structure RoundingInterval where
  /-- The lower end. -/
  low : Nat
  /-- The number itself. -/
  value : Nat
  /-- The upper end. -/
  high : Nat
  /-- Whether the ends are included. -/
  closed : Bool
  deriving DecidableEq, Repr

/-- The numbers that are rounded to a positive number.  Below a power of two the grid is twice as
fine. -/
def roundingInterval (significand : Nat) (exponent : Int) : RoundingInterval :=
  let isPower := significand = Nat.pow 2 (precision - 1) ∧ leastExponent < exponent
  { low := 4 * significand - (if isPower then 1 else 2)
    value := 4 * significand
    high := 4 * significand + 2
    closed := significand % 2 = 0 }

/-- A number in quarters of the last place as a ratio. -/
def quarterRatio (quarters : Nat) (exponent : Int) : Nat × Nat :=
  scaleRatio quarters 1 (exponent - 2)

/-- A ratio divided by a power of ten. -/
def overTen (ratio : Nat × Nat) (power : Int) : Nat × Nat :=
  if 0 ≤ power then (ratio.1, ratio.2 * Nat.pow 10 power.toNat)
  else (ratio.1 * Nat.pow 10 (-power).toNat, ratio.2)

/-- Whether a whole number of steps lies in the interval; the ends are given in steps. -/
def RoundingInterval.holds (closed : Bool) (low high : Nat × Nat) (steps : Nat) : Bool :=
  if closed then low.1 ≤ steps * low.2 && steps * high.2 ≤ high.1
  else low.1 < steps * low.2 && steps * high.2 < high.1

/-- The point of the grid of the given step that is rounded back and nearest to the number. -/
def gridPoint? (interval : RoundingInterval) (exponent : Int) (step : Int) : Option Nat :=
  let low := overTen (quarterRatio interval.low exponent) step
  let value := overTen (quarterRatio interval.value exponent) step
  let high := overTen (quarterRatio interval.high exponent) step
  let below := value.1 / value.2
  let above := below + 1
  let holds := RoundingInterval.holds interval.closed low high
  match holds below, holds above with
  | false, false => none
  | true, false => some below
  | false, true => some above
  | true, true => if 2 * (value.1 % value.2) ≤ value.2 then some below else some above

/-- The first of the given numbers of digits for which the grid has a point. -/
def shortestFrom (interval : RoundingInterval) (exponent : Int) (point : Int) (count : Nat) :
    Nat → DecimalDigits
  | 0 => ⟨[], point⟩
  | rounds + 1 =>
    let step := point - count
    match gridPoint? interval exponent step with
    | some steps =>
      let digits := Nat.toDigits 10 steps
      let kept := (digits.reverse.dropWhile (· == '0')).reverse
      ⟨kept, step + digits.length⟩
    | none => shortestFrom interval exponent point (count + 1) rounds

/-- The power of ten just above a positive ratio. -/
def pointOf (ratio : Nat × Nat) : Int :=
  let guess : Int := (Nat.toDigits 10 ratio.1).length - (Nat.toDigits 10 ratio.2).length
  let (num, den) := overTen ratio guess
  if num < den then guess else guess + 1

/-- The shortest decimal of a positive number; seventeen digits are always enough. -/
def shortest (significand : Nat) (exponent : Int) : DecimalDigits :=
  let interval := roundingInterval significand exponent
  shortestFrom interval exponent (pointOf (quarterRatio interval.value exponent)) 1 17

/-- A number as it is written. -/
def display : Binary64 → String
  | .notANumber => "NaN"
  | .infinite negative => if negative then "-inf" else "inf"
  | .finite negative significand exponent =>
    let digits := if significand = 0 then ['0'] else (shortest significand exponent).positional
    String.ofList (if negative then '-' :: digits else digits)

end Binary64

end ExtensionProxy
