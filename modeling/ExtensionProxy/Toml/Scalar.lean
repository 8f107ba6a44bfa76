import ExtensionProxy.Configuration.Value
import ExtensionProxy.Decimal.Numeral
import ExtensionProxy.Toml.Text

/-!
# Scalars in a table file

A scalar without quotes is a truth value, a number, or a date, a time or both.  Low lines may stand
between the digits of a number.  Dates and times have no value of their own in a configuration:
they count as the text in which they are written in one agreed way.
-/

set_option autoImplicit false

namespace ExtensionProxy.Toml

/-! ## Numbers -/

/-- The digits of a number without the low lines between them; `none` unless there is a digit on
both sides of every low line. -/
def ungroup? (isDigit : Char → Bool) : List Char → Option (List Char)
  | [] => none
  | [c] => if isDigit c then some [c] else none
  | c :: '_' :: d :: rest =>
    if isDigit c then (ungroup? isDigit (d :: rest)).map (c :: ·) else none
  | c :: rest => if isDigit c then (ungroup? isDigit rest).map (c :: ·) else none

/-- The digits of a number that must not begin with a zero, unless it is zero. -/
def wholeDigits? (text : List Char) : Option (List Char) :=
  (ungroup? Char.isDigit text).filter fun digits => digits.length = 1 || digits.head? ≠ some '0'

/-- The value of digits of a base. -/
def valueIn (base : Nat) (digits : List Char) : Nat :=
  digits.foldl (fun value c => value * base + (hexValue? c).getD 0) 0

/-- Whether a character is a digit of a base. -/
def isDigitOf (base : Nat) (c : Char) : Bool :=
  match hexValue? c with
  | some value => value < base
  | none => false

/-- Keeps an integer if it has at most 64 bits. -/
def integerIn64? (value : Int) : Option ConfigValue :=
  if fitsInt64 value then some (.integer value) else none

/-- Reads an integer: in base ten with an optional sign, or in another base without one. -/
def readInteger? (text : List Char) : Option ConfigValue :=
  let based := fun base digits =>
    (ungroup? (isDigitOf base) digits).bind fun digits => integerIn64? (valueIn base digits)
  match text with
  | '0' :: 'x' :: digits => based 16 digits
  | '0' :: 'o' :: digits => based 8 digits
  | '0' :: 'b' :: digits => based 2 digits
  | _ =>
    let (negative, body) := readSign text
    (wholeDigits? body).bind fun digits =>
      let value : Int := valueIn 10 digits
      integerIn64? (if negative then -value else value)

/-- Keeps a number unless it is beyond every finite one. -/
def finite? : Binary64 → Option ConfigValue
  | .infinite _ => none
  | value => some (.fractional value)

/-- Reads a number with a point or a power of ten; a point has digits on both sides. -/
def readFractional? (negative : Bool) (body : List Char) : Option ConfigValue := do
  let (mantissa, power) := cutPower body
  let parts := splitFirst '.' mantissa
  let whole ← wholeDigits? (parts.getD (mantissa, [])).1
  let fraction ← match parts with
    | some (_, fraction) => ungroup? Char.isDigit fraction
    | none => if power.isSome then some [] else none
  let exponent ← match power with
    | some power =>
      let (below, digits) := readSign power
      (ungroup? Char.isDigit digits).map fun digits =>
        let value : Int := valueIn 10 digits
        if below then -value else value
    | none => some 0
  let value ← readDecimal? negative whole fraction exponent
  finite? value

/-- Reads a number that is no integer. -/
def readNumber? (text : List Char) : Option ConfigValue :=
  let (negative, body) := readSign text
  if body = ['i', 'n', 'f'] then some (.fractional (.infinite negative))
  else if body = ['n', 'a', 'n'] then some (.fractional .notANumber)
  else readFractional? negative body

/-! ## Dates and times -/

/-- Reads a number of exactly the given count of digits; gives it and what follows. -/
def readFixed? (count : Nat) (text : List Char) : Option (Nat × List Char) :=
  let digits := text.take count
  if digits.length = count ∧ digits.all Char.isDigit then
    some (valueIn 10 digits, text.drop count)
  else none

/-- Drops a character that has to come next. -/
def expect? (c : Char) (text : List Char) : Option (List Char) :=
  match text with
  | d :: rest => if d = c then some rest else none
  | [] => none

/-- The days of a month. -/
def daysIn (year month : Nat) : Nat :=
  if month = 2 then
    if (year % 4 = 0 ∧ year % 100 ≠ 0) ∨ year % 400 = 0 then 29 else 28
  else if month = 4 ∨ month = 6 ∨ month = 9 ∨ month = 11 then 30
  else 31

/-- Reads a date; gives its text and what follows. -/
def readDate? (text : List Char) : Option (List Char × List Char) := do
  let (year, afterYear) ← readFixed? 4 text
  let (month, afterMonth) ← readFixed? 2 (← expect? '-' afterYear)
  let (day, rest) ← readFixed? 2 (← expect? '-' afterMonth)
  if 1 ≤ month ∧ month ≤ 12 ∧ 1 ≤ day ∧ day ≤ daysIn year month then
    some (text.take 10, rest)
  else none

/-- The fraction of a second as it is written: at most nine digits, and no zeros at the end but for
a single one. -/
def showFraction (digits : List Char) : List Char :=
  let kept := ((digits.take 9).reverse.dropWhile (· == '0')).reverse
  '.' :: if kept.isEmpty then ['0'] else kept

/-- Reads the fraction of a second, if there is one. -/
def readFraction? (text : List Char) : Option (List Char × List Char) :=
  match text with
  | '.' :: rest =>
    let digits := rest.takeWhile Char.isDigit
    if digits.isEmpty then none else some (showFraction digits, rest.drop digits.length)
  | _ => some ([], text)

/-- Reads the second of a time, if there is one, with its fraction. -/
def readSecond? (text : List Char) : Option (List Char × List Char) :=
  match text with
  | ':' :: rest => do
    let (second, afterSecond) ← readFixed? 2 rest
    let (fraction, after) ← readFraction? afterSecond
    if second ≤ 60 then some (':' :: rest.take 2 ++ fraction, after) else none
  | _ => some ([], text)

/-- Reads a time of day; gives its text and what follows. -/
def readTime? (text : List Char) : Option (List Char × List Char) := do
  let (hour, afterHour) ← readFixed? 2 text
  let (minute, afterMinute) ← readFixed? 2 (← expect? ':' afterHour)
  let (second, rest) ← readSecond? afterMinute
  if hour ≤ 23 ∧ minute ≤ 59 then some (text.take 5 ++ second, rest) else none

/-- Reads the distance from universal time, if there is one; nothing may follow. -/
def readOffset? (text : List Char) : Option (List Char) :=
  match text with
  | [] => some []
  | ['Z'] => some ['Z']
  | ['z'] => some ['Z']
  | sign :: rest =>
    if sign = '+' ∨ sign = '-' then do
      let (hours, afterHours) ← readFixed? 2 rest
      let (minutes, after) ← readFixed? 2 (← expect? ':' afterHours)
      if hours ≤ 23 ∧ minutes ≤ 59 ∧ after.isEmpty then
        some ((if hours = 0 ∧ minutes = 0 then '+' else sign) :: rest)
      else none
    else none

/-- Reads a date, a time or both. -/
def readMoment? (text : List Char) : Option ConfigValue :=
  match readDate? text with
  | some (date, []) => some (.text (String.ofList date))
  | some (date, c :: rest) =>
    if c = 'T' ∨ c = 't' ∨ c = ' ' then do
      let (time, after) ← readTime? rest
      let offset ← readOffset? after
      some (.text (String.ofList (date ++ 'T' :: time ++ offset)))
    else none
  | none =>
    match readTime? text with
    | some (time, []) => some (.text (String.ofList time))
    | _ => none

/-! ## All of them -/

/-- Reads a scalar without quotes. -/
def readScalar? (text : List Char) : Option ConfigValue :=
  if text = "true".toList then some (.truth true)
  else if text = "false".toList then some (.truth false)
  else ((readInteger? text).or (readNumber? text)).or (readMoment? text)

/-- Whether a character may stand in a scalar without quotes. -/
def isScalarChar (c : Char) : Bool :=
  c.isAlphanum || c == '+' || c == '-' || c == '_' || c == '.' || c == ':'

/-- Takes a scalar without quotes from the front of a text.  A space goes on with a date if a digit
follows it. -/
def takeScalar (text : List Char) : List Char × List Char :=
  let first := text.takeWhile isScalarChar
  let rest := text.drop first.length
  match (readDate? first), rest with
  | some (_, []), ' ' :: c :: more =>
    if c.isDigit then
      let second := (c :: more).takeWhile isScalarChar
      (first ++ ' ' :: second, (c :: more).drop second.length)
    else (first, rest)
  | _, _ => (first, rest)

end ExtensionProxy.Toml
