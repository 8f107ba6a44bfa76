import ExtensionProxy.Configuration.Bracketed
import ExtensionProxy.Json.Number
import ExtensionProxy.Json.Text

/-!
# JSON files

A JSON file holds one value, which has to be an object to be a configuration.
-/

set_option autoImplicit false

namespace ExtensionProxy.JsonFile

/-- Whether a character may stand between the parts of a value. -/
def isSpace (c : Char) : Bool := c == ' ' || c == '\n' || c == '\t' || c == '\r'

/-- Drops the characters of a word that has to come next. -/
def dropWord? : List Char → List Char → Option (List Char)
  | [], text => some text
  | c :: word, d :: text => if c = d then dropWord? word text else none
  | _ :: _, [] => none

/-- The words that are values. -/
def words : List (String × ConfigValue) :=
  [("null", .missing), ("true", .truth true), ("false", .truth false)]

/-- Reads a word that is a value. -/
def readWord? (text : List Char) : Option (ConfigValue × List Char) :=
  words.findSome? fun (word, value) => (dropWord? word.toList text).map fun rest => (value, rest)

/-- Reads a value that is no list and no object. -/
def readScalar? (text : List Char) : Option (ConfigValue × List Char) :=
  match text with
  | '"' :: _ => (JsonText.read? false text).map fun (found, rest) => (.text found, rest)
  | _ => (readWord? text).or (JsonNumber.read? text)

/-- The brackets of lists and objects. -/
def openBracket? (readName? : List Char → Option (String × List Char)) (text : List Char) :
    Option (Bracket × List Char) :=
  match text with
  | '[' :: rest => some (⟨.items, ']'⟩, rest)
  | '\x7b' :: rest => some (⟨.entries readName?, '\x7d'⟩, rest)
  | _ => none

/-- How values are written. -/
def form : BracketForm where
  skip? text := some (text.dropWhile isSpace)
  open? := openBracket? (JsonText.read? false)
  scalar? := readScalar?
  endComma := false

/-- How deeply lists and objects may be nested. -/
def nestingLimit : Nat := 127

/-- Reads a JSON file; `none` if anything in it is at fault, or if it holds no object. -/
def read? (text : String) : Option (List (String × ConfigValue)) :=
  match form.read? nestingLimit text with
  | some (.table entries) => some entries
  | _ => none

end ExtensionProxy.JsonFile
