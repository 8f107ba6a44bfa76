import ExtensionProxy.Configuration.Bracketed
import ExtensionProxy.Decimal.Numeral
import ExtensionProxy.Text.Hexadecimal

/-!
# RON files

A RON file holds one value.  A table is a map in braces, whose names are texts, or a record in
parentheses, whose names are words; a record without names is a list.  A word may stand before the
parentheses and says nothing; by itself it is an absent value.  Only a table is a configuration, and
any other value says nothing.
-/

set_option autoImplicit false

namespace ExtensionProxy.Ron

/-! ## Blanks and comments -/

/-- Whether a character may stand between the parts of a value. -/
def isSpace (c : Char) : Bool :=
  c == ' ' || (9 ≤ c.toNat && c.toNat ≤ 13) || c == '\u0085' || c == '\u200e' || c == '\u200f' ||
    c == '\u2028' || c == '\u2029'

/-- What is being dropped. -/
inductive Skipped where
  | blanks
  /-- A comment that ends with its line. -/
  | line
  /-- Comments inside each other, so many of them. -/
  | blocks (depth : Nat)
  deriving DecidableEq, Repr

/-- Drops blanks and comments; `none` if a comment is not ended. -/
def skip? : Skipped → List Char → Option (List Char)
  | .blocks _, [] => none
  | _, [] => some []
  | .blocks depth, '*' :: '/' :: rest =>
    skip? (if depth ≤ 1 then .blanks else .blocks (depth - 1)) rest
  | .blocks depth, '/' :: '*' :: rest => skip? (.blocks (depth + 1)) rest
  | .blocks depth, _ :: rest => skip? (.blocks depth) rest
  | .line, c :: rest => skip? (if c = '\n' then .blanks else .line) rest
  | .blanks, '/' :: '*' :: rest => skip? (.blocks 1) rest
  | .blanks, '/' :: '/' :: rest => skip? .line rest
  | .blanks, c :: rest => if isSpace c then skip? .blanks rest else some (c :: rest)

/-! ## Texts -/

/-- What a letter stands for after a backslash. -/
def escapedChar? (c : Char) : Option Char :=
  if c = 'n' then some '\n'
  else if c = 'r' then some '\r'
  else if c = 't' then some '\t'
  else if c = '0' then some '\x00'
  else if c = '"' ∨ c = '\'' ∨ c = '\\' then some c
  else none

/-- The character of a number in braces, and what follows. -/
def readBraced? (text : List Char) : Option (Char × List Char) := do
  let digits := text.takeWhile (· ≠ '\x7d')
  if digits.isEmpty ∨ 6 < digits.length then none
  else
    let char ← (hexNumber? digits).bind charOf?
    match text.drop digits.length with
    | _ :: rest => some (char, rest)
    | [] => none

/-- Reads one character of a text, which a backslash may escape. -/
def readChar? (text : List Char) : Option (Char × List Char) :=
  match text with
  | '\\' :: 'x' :: a :: b :: rest => do
    let number ← hexNumber? [a, b]
    if number < 0x80 then some (Char.ofNat number, rest) else none
  | '\\' :: 'u' :: '\x7b' :: rest => readBraced? rest
  | '\\' :: c :: rest => (escapedChar? c).map fun meant => (meant, rest)
  | ['\\'] => none
  | c :: rest => some (c, rest)
  | [] => none

/-- Reads a text whose opening quote is gone, at most as many characters as the fuel allows. -/
def readChars? : Nat → List Char → Option (List Char × List Char)
  | 0, _ => none
  | fuel + 1, text =>
    match text with
    | '"' :: rest => some ([], rest)
    | _ => do
      let (c, after) ← readChar? text
      let (found, rest) ← readChars? fuel after
      some (c :: found, rest)

/-- Reads a text up to a quote with the given number of hashes behind it. -/
def readRaw? (hashes : List Char) : List Char → Option (List Char × List Char)
  | [] => none
  | c :: rest =>
    if c = '"' ∧ hashes.isPrefixOf rest then some ([], rest.drop hashes.length)
    else (readRaw? hashes rest).map fun (found, after) => (c :: found, after)

/-- Reads a text between quotes, or between quotes with hashes around them. -/
def readText? (text : List Char) : Option (String × List Char) :=
  match text with
  | '"' :: rest => (readChars? (rest.length + 1) rest).map fun (found, after) =>
    (String.ofList found, after)
  | 'r' :: rest =>
    let hashes := rest.takeWhile (· == '#')
    match rest.drop hashes.length with
    | '"' :: body => (readRaw? hashes body).map fun (found, after) => (String.ofList found, after)
    | _ => none
  | _ => none

/-- Reads a single character between quotes. -/
def readSingle? (text : List Char) : Option (String × List Char) :=
  match text with
  | '\'' :: rest => do
    let (c, after) ← readChar? rest
    match after with
    | '\'' :: rest => some (String.ofList [c], rest)
    | _ => none
  | _ => none

/-! ## Numbers -/

/-- The types that may be named behind a number. -/
def numberTypes : List (List Char) :=
  ["i8", "i16", "i32", "i64", "u8", "u16", "u32", "u64", "f32", "f64"].map String.toList

/-- A number without the type named behind it. -/
def dropType (token : List Char) : List Char :=
  match numberTypes.find? fun type => type.reverse.isPrefixOf token.reverse with
  | some type => token.take (token.length - type.length)
  | none => token

/-- The integer of digits of a base, between which low lines may stand. -/
def readBased? (base : Nat) (digits : List Char) : Option Nat :=
  let digits := digits.filter (· ≠ '_')
  if digits.isEmpty then none
  else (digits.mapM hexValue?).bind fun values =>
    if values.all (· < base) then some (values.foldl (fun number value => number * base + value) 0)
    else none

/-- Keeps an integer that has a type of at most 64 bits. -/
def integer? (negative : Bool) (value : Nat) : Option ConfigValue :=
  if negative then
    if value ≤ 9223372036854775808 then some (.integer (-(value : Int))) else none
  else if value ≤ 18446744073709551615 then some (.integer value)
  else none

/-- Reads a number. -/
def readNumber? (token : List Char) : Option ConfigValue :=
  let (negative, body) := readSign token
  match body with
  | '0' :: 'x' :: digits => (readBased? 16 digits).bind (integer? negative)
  | '0' :: 'o' :: digits => (readBased? 8 (dropType digits)).bind (integer? negative)
  | '0' :: 'b' :: digits => (readBased? 2 (dropType digits)).bind (integer? negative)
  | _ =>
    let plain := (dropType body).filter (· ≠ '_')
    if plain = "inf".toList then some (.fractional (.infinite negative))
    else if plain = "NaN".toList then some (.fractional .notANumber)
    else match digitsValue? plain with
      | some value => integer? negative value
      | none => (readFinite? negative plain).map .fractional

/-- Whether a character may stand in a number. -/
def isNumberChar (c : Char) : Bool :=
  c.isAlphanum || c == '_' || c == '.' || c == '+' || c == '-'

/-! ## Words and values -/

/-- Whether a character may stand in a word. -/
def isWordChar (c : Char) : Bool := c.isAlphanum || c == '_'

/-- Takes a word. -/
def readWord? (text : List Char) : Option (String × List Char) :=
  let word := text.takeWhile isWordChar
  match word with
  | [] => none
  | c :: _ =>
    if c.isDigit then none else some (String.ofList word, text.drop word.length)

/-- Whether the parentheses of a record are open, rather than those of a list. -/
def opensRecord (text : List Char) : Bool :=
  let colon := do
    let (_, after) ← readWord? (← skip? .blanks text)
    skip? .blanks after
  match colon with
  | some (':' :: _) => true
  | _ => false

/-- What stands behind an opening parenthesis. -/
def parenthesis (rest : List Char) : Bracket :=
  ⟨if opensRecord rest then .entries readWord? else .items, ')'⟩

/-- The brackets that a value begins with, and the word before them. -/
def openBracket? (text : List Char) : Option (Bracket × List Char) :=
  match text with
  | '[' :: rest => some (⟨.items, ']'⟩, rest)
  | '\x7b' :: rest => some (⟨.entries readText?, '\x7d'⟩, rest)
  | '(' :: ')' :: _ => none
  | '(' :: rest => some (parenthesis rest, rest)
  | _ => do
    let (word, after) ← readWord? text
    match ← skip? .blanks after with
    | '(' :: rest => some (if word = "Some" then ⟨.single, ')'⟩ else parenthesis rest, rest)
    | _ => none

/-- Reads a value without brackets. -/
def readScalar? (text : List Char) : Option (ConfigValue × List Char) :=
  match text with
  | '(' :: ')' :: rest => some (.missing, rest)
  | '\'' :: _ => (readSingle? text).map fun (found, rest) => (.text found, rest)
  | _ =>
    match readText? text with
    | some (found, rest) => some (.text found, rest)
    | none =>
      match readWord? text with
      | some (word, rest) =>
        if word = "true" then some (.truth true, rest)
        else if word = "false" then some (.truth false, rest)
        else some ((readNumber? word.toList).getD .missing, rest)
      | none =>
        let token := text.takeWhile isNumberChar
        (readNumber? token).map fun value => (value, text.drop token.length)

/-- How values are written. -/
def form : BracketForm where
  skip? := skip? .blanks
  open? := openBracket?
  scalar? := readScalar?
  endComma := true

/-- How deeply values may be nested. -/
def nestingLimit : Nat := 127

/-- Reads a RON file; `none` if anything in it is at fault. -/
def read? (text : String) : Option (List (String × ConfigValue)) :=
  (form.read? nestingLimit text).map ConfigValue.entries

end ExtensionProxy.Ron
