import ExtensionProxy.Handle
import ExtensionProxy.Text.Printable

/-!
# Values shown for inspection

The text under which a value is inspected: records with named fields in braces, lists in brackets,
texts between quotes.  Between quotes a backslash escapes the quote, the backslash, and characters
that would not show; paths escape the single quote as well.
-/

set_option autoImplicit false

namespace ExtensionProxy.Inspect

/-- The escape of a character that would not show. -/
def escapeCode (c : Char) : List Char := "\\u\x7b".toList ++ Nat.toDigits 16 c.toNat ++ ['\x7d']

/-- One character between quotes. -/
def quotedChar (single : Bool) (c : Char) : List Char :=
  if c = '\x00' then ['\\', '0']
  else if c = '\t' then ['\\', 't']
  else if c = '\r' then ['\\', 'r']
  else if c = '\n' then ['\\', 'n']
  else if c = '\\' then ['\\', '\\']
  else if c = '"' then ['\\', '"']
  else if c = '\'' then (if single then ['\\', c] else [c])
  else if isPrintable c then [c]
  else escapeCode c

/-- A text between quotes. -/
def text (s : String) : String :=
  String.ofList ('"' :: s.toList.flatMap (quotedChar false) ++ ['"'])

/-- A path between quotes. -/
def path (s : String) : String :=
  String.ofList ('"' :: s.toList.flatMap (quotedChar true) ++ ['"'])

/-- A list in brackets. -/
def list (items : List String) : String := "[" ++ String.intercalate ", " items ++ "]"

/-- A record with its fields in braces. -/
def record (name : String) (fields : List (String × String)) : String :=
  name ++ " \x7b " ++ String.intercalate ", " (fields.map fun f => f.1 ++ ": " ++ f.2) ++ " \x7d"

/-- A value that may be absent. -/
def option : Option String → String
  | some value => "Some(" ++ value ++ ")"
  | none => "None"

/-- A truth value. -/
def truth (b : Bool) : String := if b then "true" else "false"

end ExtensionProxy.Inspect
