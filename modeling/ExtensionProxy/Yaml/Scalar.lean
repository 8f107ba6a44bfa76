import ExtensionProxy.Configuration.Value
import ExtensionProxy.Decimal.Numeral
import ExtensionProxy.Text.Hexadecimal

/-!
# Scalars in a YAML file

A scalar between quotes is a text.  A plain one is what it looks like: nothing, a truth value, a
number, or else a text.

A text may go on over lines.  A single line break in it counts as a space, with the blanks around
it; of several line breaks in a row the first does not count.
-/

set_option autoImplicit false

namespace ExtensionProxy.Yaml

/-! ## Plain scalars -/

/-- An integer that a base may stand before. -/
def readInteger? (text : List Char) : Option Int :=
  let based := fun (base : Nat) (digits : List Char) =>
    if digits.isEmpty then none
    else (digits.mapM hexValue?).bind fun values =>
      if values.all (· < base) then
        some ((values.foldl (fun number value => number * base + value) 0 : Nat) : Int)
      else none
  let found : Option Int := match text with
    | '0' :: 'x' :: digits => based 16 digits
    | '0' :: 'o' :: digits => based 8 digits
    | _ => readSigned? text
  found.filter fitsInt64

/-- The names of the numbers that are not finite. -/
def specialNumbers : List String :=
  [".inf", ".Inf", ".INF"].flatMap (fun name => [name, "+" ++ name, "-" ++ name]) ++
    [".nan", ".NaN", ".NAN"]

/-- What a plain scalar says.  The names of numbers that are not finite are recognised but cannot be
kept. -/
def plainValue? (text : List Char) : Option ConfigValue :=
  let word := String.ofList text
  if word = "" ∨ word = "~" ∨ word = "null" then some .missing
  else if ["true", "True", "TRUE"].contains word then some (.truth true)
  else if ["false", "False", "FALSE"].contains word then some (.truth false)
  else if specialNumbers.contains word then none
  else match readInteger? text with
    | some value => some (.integer value)
    | none =>
      match if text.any Char.isDigit then readNumeral? word else none with
      | some value => some (.fractional value)
      | none => some (.text word)

/-! ## Line breaks -/

/-- Whether a character may stand between the words of a line. -/
def isSpace (c : Char) : Bool := c == ' ' || c == '\t'

/-- Drops the spaces at both ends. -/
def trimSpace (text : List Char) : List Char :=
  ((text.dropWhile isSpace).reverse.dropWhile isSpace).reverse

/-- What so many line breaks in a row count as. -/
def foldBreaks (count : Nat) : List Char :=
  if count ≤ 1 then [' '] else List.replicate (count - 1) '\n'

/-- Drops the blanks at the beginning, and counts the line breaks among them. -/
def skipBreaks (count : Nat) : List Char → Nat × List Char
  | [] => (count, [])
  | c :: rest =>
    if c = '\n' then skipBreaks (count + 1) rest
    else if isSpace c then skipBreaks count rest
    else (count, c :: rest)

/-- Puts what line breaks count as in their place; the text found so far is given in reverse. -/
def foldLines (found : List Char) : List Char → List Char
  | [] => found.reverse
  | c :: rest =>
    if c = '\n' then
      let (count, after) := skipBreaks 1 rest
      (found.dropWhile isSpace).reverse ++ foldBreaks count ++ foldRest (rest.length + 1) after
    else foldLines (c :: found) rest
where
  /-- Goes on behind line breaks. -/
  foldRest : Nat → List Char → List Char
    | 0, text => text
    | fuel + 1, text =>
      let line := text.takeWhile (· ≠ '\n')
      match text.drop line.length with
      | [] => line
      | _ :: rest =>
        let (count, after) := skipBreaks 1 rest
        (line.reverse.dropWhile isSpace).reverse ++ foldBreaks count ++ foldRest fuel after

/-! ## Texts between quotes -/

/-- What a letter stands for after a backslash. -/
def escapedChar? (c : Char) : Option Char :=
  [('0', '\x00'), ('a', '\x07'), ('b', '\x08'), ('t', '\t'), ('\t', '\t'), ('n', '\n'),
    ('v', '\x0b'), ('f', '\x0c'), ('r', '\r'), ('e', '\x1b'), (' ', ' '), ('"', '"'), ('/', '/'),
    ('\\', '\\'), ('N', '\u0085'), ('_', '\u00a0'), ('L', '\u2028'), ('P', '\u2029')].lookup c

/-- How many digits of a number follow a letter after a backslash. -/
def digitCount? (c : Char) : Option Nat := [('x', 2), ('u', 4), ('U', 8)].lookup c

/-- Reads a text whose opening double quote is gone, at most as many characters as the fuel allows;
the text found so far is given in reverse. -/
def readDouble? : Nat → List Char → List Char → Option (List Char × List Char)
  | 0, _, _ => none
  | fuel + 1, found, text =>
    match text with
    | [] => none
    | '"' :: rest => some (found.reverse, rest)
    | '\\' :: '\n' :: rest => readDouble? fuel found (rest.dropWhile isSpace)
    | '\\' :: c :: rest =>
      match digitCount? c with
      | some count => do
        let char ← (hexNumber? (rest.take count)).bind charOf?
        if rest.length < count then none else readDouble? fuel (char :: found) (rest.drop count)
      | none => (escapedChar? c).bind fun meant => readDouble? fuel (meant :: found) rest
    | '\n' :: rest =>
      let (count, after) := skipBreaks 1 rest
      readDouble? fuel ((foldBreaks count).reverse ++ found.dropWhile isSpace) after
    | c :: rest => readDouble? fuel (c :: found) rest

/-- Reads a text whose opening single quote is gone, with its line breaks. -/
def readSingle? : List Char → Option (List Char × List Char)
  | [] => none
  | '\'' :: '\'' :: rest => (readSingle? rest).map fun (found, after) => ('\'' :: found, after)
  | c :: rest =>
    if c = '\'' then some ([], rest)
    else (readSingle? rest).map fun (found, after) => (c :: found, after)

/-- Reads a text between quotes. -/
def readQuoted? (text : List Char) : Option (String × List Char) :=
  match text with
  | '"' :: rest => (readDouble? (rest.length + 1) [] rest).map fun (found, after) =>
    (String.ofList found, after)
  | '\'' :: rest => (readSingle? rest).map fun (found, after) =>
    (String.ofList (foldLines [] found), after)
  | _ => none

end ExtensionProxy.Yaml
