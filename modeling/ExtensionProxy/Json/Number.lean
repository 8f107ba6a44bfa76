import ExtensionProxy.Configuration.Value
import ExtensionProxy.Text.Integer

/-!
# Numbers in a JSON file

An integer that fits is an integer; any other number is a binary one.  Of its digits as many are
kept as fit into 64 bits, and the number they form is multiplied or divided by a power of ten that
is itself rounded.  So the last bit may differ from that of the nearest binary number.
-/

set_option autoImplicit false

namespace ExtensionProxy

namespace Binary64

/-- The absolute value of a finite number as a ratio. -/
def ratio (significand : Nat) (exponent : Int) : Nat × Nat := scaleRatio significand 1 exponent

/-- A finite number times another one. -/
def times : Binary64 → Binary64 → Binary64
  | .finite m a p, .finite n b q =>
    let (x, y) := ratio a p
    let (z, w) := ratio b q
    ofRatio (m != n) (x * z) (y * w)
  | _, _ => .notANumber

/-- A finite number divided by one that is not zero. -/
def dividedBy : Binary64 → Binary64 → Binary64
  | .finite m a p, .finite n b q =>
    let (x, y) := ratio a p
    let (z, w) := ratio b q
    if z = 0 then .notANumber else ofRatio (m != n) (x * w) (y * z)
  | _, _ => .notANumber

/-- Whether a number is zero. -/
def isZero : Binary64 → Bool
  | .finite _ significand _ => significand == 0
  | _ => false

end Binary64

namespace JsonNumber

/-- The greatest number of digits kept. -/
def mostKept : Nat := 18446744073709551615

/-- The number formed by digits, as far as they fit, and how many were left over. -/
def keepWhole (kept : Nat) : List Char → Nat × Nat
  | [] => (kept, 0)
  | c :: rest =>
    let next := kept * 10 + (c.toNat - '0'.toNat)
    if mostKept < next then (kept, rest.length + 1) else keepWhole next rest

/-- The number formed by digits behind a point, as far as they fit, and how many were kept. -/
def keepFraction (kept : Nat) : List Char → Nat × Nat
  | [] => (kept, 0)
  | c :: rest =>
    let next := kept * 10 + (c.toNat - '0'.toNat)
    if mostKept < next then (kept, 0)
    else
      let (all, count) := keepFraction next rest
      (all, count + 1)

/-- The greatest power of ten that is used at once. -/
def powerStep : Nat := 308

/-- A power of ten. -/
def powerOfTen (power : Nat) : Binary64 := .ofDecimal false 1 power

/-- A number times a power of ten; `none` if it is beyond every finite one.  Three divisions by the
greatest power leave nothing of any number. -/
def scale? : Nat → Binary64 → Int → Option Binary64
  | 0, value, _ => some value
  | rounds + 1, value, power =>
    if power.natAbs ≤ powerStep then
      if 0 ≤ power then
        match value.times (powerOfTen power.natAbs) with
        | .infinite _ => none
        | scaled => some scaled
      else some (value.dividedBy (powerOfTen power.natAbs))
    else if value.isZero then some value
    else if 0 ≤ power then none
    else scale? rounds (value.dividedBy (powerOfTen powerStep)) (power + powerStep)

/-- The number with a sign. -/
def signed (negative : Bool) : Binary64 → Binary64
  | .finite _ significand exponent => .finite negative significand exponent
  | value => value

/-- The value of a number without point and power that is kept as a whole. -/
def wholeValue (negative : Bool) (kept : Nat) : ConfigValue :=
  let value : Int := if negative then -kept else kept
  if fitsInt64 value ∧ !(negative ∧ kept = 0) then .integer value
  else .fractional (.ofRatio negative kept 1)

/-- The power of ten behind a number, without the letter before it. -/
def readPower? (text : List Char) : Option (Int × List Char) :=
  let (below, digits) : Bool × List Char := match text with
    | '-' :: rest => (true, rest)
    | '+' :: rest => (false, rest)
    | _ => (false, text)
  let power := digits.takeWhile Char.isDigit
  (digitsValue? power).map fun value =>
    (if below then -(value : Int) else value, digits.drop power.length)

/-- The digits behind a point, if there is one; there has to be a digit then. -/
def readFraction? (text : List Char) : Option (Option (List Char) × List Char) :=
  match text with
  | '.' :: rest =>
    let digits := rest.takeWhile Char.isDigit
    if digits.isEmpty then none else some (some digits, rest.drop digits.length)
  | _ => some (none, text)

/-- A power of ten, if there is one. -/
def readAnyPower? (text : List Char) : Option (Option Int × List Char) :=
  match text with
  | 'e' :: rest => (readPower? rest).map fun (power, after) => (some power, after)
  | 'E' :: rest => (readPower? rest).map fun (power, after) => (some power, after)
  | _ => some (none, text)

/-- The digits before a point: a zero stands alone. -/
def readWhole? (text : List Char) : Option (List Char × List Char) :=
  let digits := text.takeWhile Char.isDigit
  if digits.isEmpty ∨ (digits.head? = some '0' ∧ 1 < digits.length) then none
  else some (digits, text.drop digits.length)

/-- Reads a number. -/
def read? (text : List Char) : Option (ConfigValue × List Char) := do
  let (negative, body) := match text with
    | '-' :: rest => (true, rest)
    | _ => (false, text)
  let (whole, afterWhole) ← readWhole? body
  let (fraction, afterFraction) ← readFraction? afterWhole
  let (power, rest) ← readAnyPower? afterFraction
  let (kept, left) := keepWhole 0 whole
  if fraction.isNone ∧ power.isNone ∧ left = 0 then some (wholeValue negative kept, rest)
  else
    let (all, places) := keepFraction kept (fraction.getD [])
    let value ← scale? 4 (.ofRatio false all 1) ((left : Int) - places + power.getD 0)
    some (.fractional (signed negative value), rest)

end JsonNumber

end ExtensionProxy
