import ExtensionProxy.Decimal.Numeral
import ExtensionProxy.Json.File
import ExtensionProxy.Text.Blank
import ExtensionProxy.Text.Printable

/-!
# JSON5 files

The relaxed kind of JSON file.  Comments may stand between the parts of a value, names need no
quotes, a comma may stand behind the last entry, and numbers may be written in base sixteen, with a
plus, or with a point at either end.
-/

set_option autoImplicit false

namespace ExtensionProxy.Json5

/-! ## Blanks and comments -/

/-- Whether a character may stand between the parts of a value. -/
def isSpace (c : Char) : Bool := (isBlank c && c ≠ '\u0085') || c == '\ufeff'

/-- What is being dropped. -/
inductive Skipped where
  | blanks
  /-- A comment that ends with its line. -/
  | line
  /-- A comment that a sign ends. -/
  | block
  deriving DecidableEq, Repr

/-- Drops blanks and comments; `none` if a comment is not ended. -/
def skip? : Skipped → List Char → Option (List Char)
  | .block, [] => none
  | _, [] => some []
  | .block, '*' :: '/' :: rest => skip? .blanks rest
  | .block, _ :: rest => skip? .block rest
  | .line, c :: rest => skip? (if JsonText.isLineEnd c then .blanks else .line) rest
  | .blanks, '/' :: '*' :: rest => skip? .block rest
  | .blanks, '/' :: '/' :: rest => skip? .line rest
  | .blanks, c :: rest => if isSpace c then skip? .blanks rest else some (c :: rest)

/-! ## Names -/

/-- Whether a character may begin a name without quotes. -/
def opensName (c : Char) : Bool :=
  c.isAlpha || c == '$' || c == '_' || (0x80 ≤ c.toNat && isPrintable c && !isBlank c)

/-- Whether a character may stand in a name without quotes. -/
def isNameChar (c : Char) : Bool := opensName c || c.isDigit

/-- Reads the name of an entry. -/
def readName? (text : List Char) : Option (String × List Char) :=
  match text with
  | [] => none
  | c :: _ =>
    if c = '"' ∨ c = '\'' then JsonText.read? true text
    else if opensName c then
      let name := text.takeWhile isNameChar
      some (String.ofList name, text.drop name.length)
    else none

/-! ## Numbers -/

/-- An integer without a sign in base sixteen; it has at most 32 bits. -/
def readBased? (digits : List Char) : Option ConfigValue :=
  if digits.isEmpty then none
  else (hexNumber? digits).bind fun value =>
    if value < 4294967296 then some (.integer value) else none

/-- The digits before and behind a point: a zero stands alone before it, and there is a digit on one
side of it. -/
def areDigits (whole fraction : List Char) : Bool :=
  (whole ++ fraction).all Char.isDigit && !(whole ++ fraction).isEmpty &&
    (whole.length ≤ 1 || whole.head? ≠ some '0')

/-- Reads a number in base ten without its sign. -/
def readDecimal? (negative : Bool) (text : List Char) : Option ConfigValue :=
  let (mantissa, power) := cutPower text
  let (whole, fraction) := (splitFirst '.' mantissa).getD (mantissa, [])
  if !areDigits whole fraction then none
  else if power.isNone ∧ mantissa = whole then
    (digitsValue? whole).bind fun digits =>
      let value : Int := if negative then -(digits : Int) else digits
      if fitsInt64 value then some (.integer value) else none
  else match readFinite? negative text with
    | some (.infinite _) => none
    | found => found.map .fractional

/-- Whether a character may stand in a number. -/
def isNumberChar (c : Char) : Bool := c.isAlphanum || c == '.' || c == '+' || c == '-'

/-- Reads a number. -/
def readNumber? (token : List Char) : Option ConfigValue :=
  let (negative, body) := readSign token
  if body = "Infinity".toList then some (.fractional (.infinite negative))
  else if body = "NaN".toList then some (.fractional .notANumber)
  else match token with
    | '0' :: 'x' :: digits => readBased? digits
    | '0' :: 'X' :: digits => readBased? digits
    | _ => readDecimal? negative body

/-! ## Files -/

/-- Reads a value that is no list and no object. -/
def readScalar? (text : List Char) : Option (ConfigValue × List Char) :=
  match text with
  | [] => none
  | c :: _ =>
    if c = '"' ∨ c = '\'' then
      (JsonText.read? true text).map fun (found, rest) => (.text found, rest)
    else
      let token := text.takeWhile isNumberChar
      let rest := text.drop token.length
      ((JsonFile.words.lookup (String.ofList token)).or (readNumber? token)).map fun value =>
        (value, rest)

/-- How values are written. -/
def form : BracketForm where
  skip? := skip? .blanks
  open? := JsonFile.openBracket? readName?
  scalar? := readScalar?
  endComma := true

/-- How deeply lists and objects may be nested. -/
def nestingLimit : Nat := 1000

/-- Reads a JSON5 file; `none` if anything in it is at fault, or if it holds no object. -/
def read? (text : String) : Option (List (String × ConfigValue)) :=
  match form.read? nestingLimit text with
  | some (.table entries) => some entries
  | _ => none

end ExtensionProxy.Json5
