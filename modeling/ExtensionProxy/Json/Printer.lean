import ExtensionProxy.Handle
import ExtensionProxy.Json.Basic

/-!
# Printing JSON

Values on lines of their own, each level indented by two blanks more; an empty list or object stays
on one line.  In a text only the quote, the backslash and the control characters are escaped.
-/

set_option autoImplicit false

namespace ExtensionProxy.Json

/-- The escape of a control character. -/
def escapeControl (c : Char) : List Char :=
  let digits := (hexDigits c.toNat).toList
  '\\' :: 'u' :: List.replicate (4 - digits.length) '0' ++ digits

/-- A character as it stands in a text. -/
def escapeChar (c : Char) : List Char :=
  match c with
  | '"' => ['\\', '"']
  | '\\' => ['\\', '\\']
  | '\n' => ['\\', 'n']
  | '\r' => ['\\', 'r']
  | '\t' => ['\\', 't']
  | '\x08' => ['\\', 'b']
  | '\x0c' => ['\\', 'f']
  | c => if c.toNat < 0x20 then escapeControl c else [c]

/-- A text between quotes. -/
def quote (s : String) : String :=
  String.ofList ('"' :: s.toList.flatMap escapeChar ++ ['"'])

/-- The blanks before a line at a level. -/
def indent (level : Nat) : String := String.ofList (List.replicate (2 * level) ' ')

/-- Lines between an opening and a closing bracket, which stand at the level. -/
def enclose (opening closing : String) (level : Nat) : List String → String
  | [] => opening ++ closing
  | lines => opening ++ "\n" ++ ",\n".intercalate lines ++ "\n" ++ indent level ++ closing

mutual

/-- A value whose first line stands where it is put and whose last line stands at the level. -/
def prettyAt (level : Nat) : Json → String
  | .null => "null"
  | .truth value => if value then "true" else "false"
  | .number value => toString value
  | .text value => quote value
  | .list items => enclose "[" "]" level (prettyItems (level + 1) items)
  | .object members => enclose "\x7b" "\x7d" level (prettyMembers (level + 1) members)

/-- The items of a list, each on lines at the level. -/
def prettyItems (level : Nat) : List Json → List String
  | [] => []
  | item :: rest => (indent level ++ item.prettyAt level) :: prettyItems level rest

/-- The members of an object, each on lines at the level. -/
def prettyMembers (level : Nat) : List (String × Json) → List String
  | [] => []
  | (name, value) :: rest =>
    (indent level ++ quote name ++ ": " ++ value.prettyAt level) :: prettyMembers level rest

end

/-- A value on lines of its own. -/
def pretty (value : Json) : String := value.prettyAt 0

end ExtensionProxy.Json
