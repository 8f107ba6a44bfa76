import ExtensionProxy.Text.Hexadecimal

/-!
# Texts in a table file

A text stands between quotes: double quotes, between which a backslash escapes, or single ones,
between which nothing does.  Three quotes in place of one open a long text, which may go on over
lines.  A long text is closed by the first three quotes in a row; up to two more belong to it.  A
line ends at a line feed, with or without a carriage return before it, and a carriage return stands
nowhere else; a long text keeps both as they are.

The reader goes through the characters one by one, and keeps what it is waiting for.
-/

set_option autoImplicit false

namespace ExtensionProxy.Toml

/-- How a text is quoted. -/
structure Quoting where
  quote : Char
  /-- Whether a backslash escapes. -/
  escapes : Bool
  /-- Whether three quotes open and close the text. -/
  long : Bool
  deriving DecidableEq, Repr

/-- How many quotes close a text. -/
def Quoting.closing (quoting : Quoting) : Nat := if quoting.long then 3 else 1

/-- How many quotes may stand in a row at the end of a text. -/
def Quoting.most (quoting : Quoting) : Nat := if quoting.long then 5 else 1

/-- What the reader of a text is waiting for. -/
inductive Awaiting where
  /-- Anything. -/
  | any
  /-- What a backslash escapes. -/
  | escaped
  /-- The digits of the number of a character; how many are left, and the number so far. -/
  | digits (left number : Nat)
  /-- The line feed after a carriage return. -/
  | feed
  /-- The next line, once a backslash joined it to this one, or its first character. -/
  | joined (atNext : Bool)
  /-- The line feed after a carriage return between lines that a backslash joined. -/
  | joinedFeed
  /-- More quotes in a row. -/
  | quotes (count : Nat)
  deriving DecidableEq, Repr

/-- Whether a character may stand in a text or a comment: no control character but the tab. -/
def isTextChar (c : Char) : Bool := c == '\t' || (0x20 ≤ c.toNat && c.toNat ≠ 0x7f)

/-- What a letter stands for after a backslash. -/
def escapedChar? (c : Char) : Option Char :=
  if c = 'b' then some '\x08'
  else if c = 't' then some '\t'
  else if c = 'n' then some '\n'
  else if c = 'f' then some '\x0c'
  else if c = 'r' then some '\r'
  else if c = 'e' then some '\x1b'
  else if c = '"' then some '"'
  else if c = '\\' then some '\\'
  else none

/-- What the reader has, in reverse, and what it waits for. -/
abbrev Reading := Awaiting × List Char

/-- Reads a character of the text itself. -/
def readPlain (quoting : Quoting) (found : List Char) (c : Char) : Option Reading :=
  if c = quoting.quote then some (.quotes 1, found)
  else if quoting.escapes ∧ c = '\\' then some (.escaped, found)
  else if quoting.long ∧ c = '\r' then some (.feed, c :: found)
  else if isTextChar c ∨ (quoting.long ∧ c = '\n') then some (.any, c :: found)
  else none

/-- Reads the character after a backslash. -/
def readEscaped (quoting : Quoting) (found : List Char) (c : Char) : Option Reading :=
  if c = 'x' then some (.digits 2 0, found)
  else if c = 'u' then some (.digits 4 0, found)
  else if c = 'U' then some (.digits 8 0, found)
  else if quoting.long ∧ (c = ' ' ∨ c = '\t') then some (.joined false, found)
  else if quoting.long ∧ c = '\n' then some (.joined true, found)
  else if quoting.long ∧ c = '\r' then some (.joinedFeed, found)
  else (escapedChar? c).map fun meant => (.any, meant :: found)

/-- Reads a digit of the number of a character. -/
def readDigit (left number : Nat) (found : List Char) (c : Char) : Option Reading :=
  (hexValue? c).bind fun value =>
    let number := number * 16 + value
    if left ≤ 1 then (charOf? number).map fun meant => (.any, meant :: found)
    else some (.digits (left - 1) number, found)

/-- Reads a character between two joined lines, or the first one after them. -/
def readJoined (quoting : Quoting) (atNext : Bool) (found : List Char) (c : Char) :
    Option Reading :=
  if c = ' ' ∨ c = '\t' then some (.joined atNext, found)
  else if c = '\n' then some (.joined true, found)
  else if c = '\r' then some (.joinedFeed, found)
  else if atNext then readPlain quoting found c
  else none

/-- The text found, with the quotes in a row that belong to it. -/
def finish (quoting : Quoting) (found : List Char) (quotes : Nat) : String :=
  String.ofList (found.reverse ++ List.replicate (quotes - quoting.closing) quoting.quote)

/-- Reads a text whose opening quotes are gone; gives the text and what follows it. -/
def readBody (quoting : Quoting) : Awaiting → List Char → List Char → Option (String × List Char)
  | awaiting, found, [] =>
    match awaiting with
    | .quotes count =>
      if quoting.closing ≤ count then some (finish quoting found count, []) else none
    | _ => none
  | awaiting, found, c :: rest =>
    let next : Option Reading := match awaiting with
      | .any => readPlain quoting found c
      | .escaped => readEscaped quoting found c
      | .digits left number => readDigit left number found c
      | .feed => if c = '\n' then some (.any, c :: found) else none
      | .joinedFeed => if c = '\n' then some (.joined true, found) else none
      | .joined atNext => readJoined quoting atNext found c
      | .quotes count =>
        if c = quoting.quote ∧ count < quoting.most then some (.quotes (count + 1), found)
        else if quoting.closing ≤ count then none
        else readPlain quoting (List.replicate count quoting.quote ++ found) c
    match next, awaiting with
    | some (awaiting, found), _ => readBody quoting awaiting found rest
    | none, .quotes count =>
      if quoting.closing ≤ count then some (finish quoting found count, c :: rest) else none
    | none, _ => none

/-- Drops the end of the line right after the quotes that open a long text. -/
def dropFirstFeed : List Char → List Char
  | '\n' :: rest => rest
  | '\r' :: '\n' :: rest => rest
  | text => text

/-- Reads a short text. -/
def readShort? (text : List Char) : Option (String × List Char) :=
  match text with
  | '"' :: rest => readBody ⟨'"', true, false⟩ .any [] rest
  | '\'' :: rest => readBody ⟨'\'', false, false⟩ .any [] rest
  | _ => none

/-- Reads a text, short or long. -/
def readText? (text : List Char) : Option (String × List Char) :=
  match text with
  | '"' :: '"' :: '"' :: rest => readBody ⟨'"', true, true⟩ .any [] (dropFirstFeed rest)
  | '\'' :: '\'' :: '\'' :: rest => readBody ⟨'\'', false, true⟩ .any [] (dropFirstFeed rest)
  | _ => readShort? text

end ExtensionProxy.Toml
