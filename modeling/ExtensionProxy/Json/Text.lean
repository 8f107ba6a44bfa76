import ExtensionProxy.Text.Hexadecimal

/-!
# Texts in a JSON file

A text stands between quotes, and a backslash escapes.  A character beyond the first plane may be
written as two numbers, the halves of a surrogate pair; half a pair is at fault.

The relaxed kind of file has single quotes as well, more escapes, and texts that go on after a
backslash at the end of a line; a backslash before any other character stands for that character.

The reader goes through the characters one by one, and keeps what it is waiting for.
-/

set_option autoImplicit false

namespace ExtensionProxy.JsonText

/-- How a text is quoted. -/
structure Quoting where
  quote : Char
  /-- Whether the file is of the relaxed kind. -/
  relaxed : Bool
  deriving DecidableEq, Repr

/-- What the reader of a text is waiting for. -/
inductive Awaiting where
  /-- Anything. -/
  | any
  /-- What a backslash escapes. -/
  | escaped
  /-- The digits of a number: how many are left, the number so far, and the first half of the pair
  that the number belongs to. -/
  | digits (left number : Nat) (high : Option Nat)
  /-- The backslash before the second half of a pair. -/
  | lowHalf (high : Nat)
  /-- The letter before the digits of the second half of a pair. -/
  | lowLetter (high : Nat)
  /-- The line feed after a carriage return that a backslash escaped, if there is one. -/
  | feed
  deriving DecidableEq, Repr

/-- What the reader has, in reverse, and what it waits for. -/
abbrev Reading := Awaiting × List Char

/-- Whether a character ends a line. -/
def isLineEnd (c : Char) : Bool := c == '\n' || c == '\r' || c == '\u2028' || c == '\u2029'

/-- What a letter stands for after a backslash. -/
def escapedChar? (relaxed : Bool) (c : Char) : Option Char :=
  if c = 'b' then some '\x08'
  else if c = 'f' then some '\x0c'
  else if c = 'n' then some '\n'
  else if c = 'r' then some '\r'
  else if c = 't' then some '\t'
  else if c = '"' ∨ c = '\\' ∨ c = '/' then some c
  else if !relaxed then none
  else if c = 'v' then some '\x0b'
  else if c = '0' then some '\x00'
  else if c.isDigit then none
  else some c

/-- Reads a character of the text itself. -/
def readPlain (quoting : Quoting) (found : List Char) (c : Char) : Option Reading :=
  if c = '\\' then some (.escaped, found)
  else if quoting.relaxed then (if isLineEnd c then none else some (.any, c :: found))
  else if c.toNat < 0x20 then none
  else some (.any, c :: found)

/-- Reads the character after a backslash. -/
def readEscaped (quoting : Quoting) (found : List Char) (c : Char) : Option Reading :=
  if c = 'u' then some (.digits 4 0 none, found)
  else if quoting.relaxed ∧ c = 'x' then some (.digits 2 0 none, found)
  else if quoting.relaxed ∧ c = '\r' then some (.feed, found)
  else if quoting.relaxed ∧ isLineEnd c then some (.any, found)
  else (escapedChar? quoting.relaxed c).map fun meant => (.any, meant :: found)

/-- What a number stands for, after the first half of a pair or by itself. -/
def readNumber (found : List Char) (number : Nat) : Option Nat → Option Reading
  | some high =>
    if 0xdc00 ≤ number ∧ number ≤ 0xdfff then
      (charOf? (0x10000 + (high - 0xd800) * 0x400 + (number - 0xdc00))).map fun meant =>
        (.any, meant :: found)
    else none
  | none =>
    if 0xd800 ≤ number ∧ number ≤ 0xdbff then some (.lowHalf number, found)
    else (charOf? number).map fun meant => (.any, meant :: found)

/-- Reads one character. -/
def readChar (quoting : Quoting) (found : List Char) (c : Char) : Awaiting → Option Reading
  | .any => readPlain quoting found c
  | .escaped => readEscaped quoting found c
  | .digits left number high =>
    (hexValue? c).bind fun value =>
      let number := number * 16 + value
      if left ≤ 1 then readNumber found number high
      else some (.digits (left - 1) number high, found)
  | .lowHalf high => if c = '\\' then some (.lowLetter high, found) else none
  | .lowLetter high => if c = 'u' then some (.digits 4 0 (some high), found) else none
  | .feed => if c = '\n' then some (.any, found) else readPlain quoting found c

/-- Whether the text ends before a quote. -/
def endsAt : Awaiting → Bool
  | .any => true
  | .feed => true
  | _ => false

/-- Reads a text whose opening quote is gone; gives the text and what follows it. -/
def readBody? (quoting : Quoting) :
    Awaiting → List Char → List Char → Option (String × List Char)
  | _, _, [] => none
  | awaiting, found, c :: rest =>
    if c = quoting.quote ∧ endsAt awaiting then some (String.ofList found.reverse, rest)
    else match readChar quoting found c awaiting with
      | some (awaiting, found) => readBody? quoting awaiting found rest
      | none => none

/-- Reads a text. -/
def read? (relaxed : Bool) (text : List Char) : Option (String × List Char) :=
  match text with
  | '"' :: rest => readBody? ⟨'"', relaxed⟩ .any [] rest
  | '\'' :: rest => if relaxed then readBody? ⟨'\'', true⟩ .any [] rest else none
  | _ => none

end ExtensionProxy.JsonText
