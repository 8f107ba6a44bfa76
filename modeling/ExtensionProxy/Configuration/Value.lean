import ExtensionProxy.Decimal.Shortest
import ExtensionProxy.Text.Integer
import ExtensionProxy.Text.Lines

/-!
# Configuration values

What a source of configuration gives: scalars, lists and tables.  Every setting is a text in the
end, so a scalar of another sort counts as the text that it is written as; lists and tables are no
texts.

Sources are laid over each other.  A table is laid over a value entry by entry, so that it changes
only what it names; anything else replaces what it is laid over.  A value can also be put at a
place inside another one, and the tables and lists on the way are made where they are missing.

All of this is what the configuration library does.  It is not decided here, but assumed as that library
documents it, and whatever is proved of settings rests on it.
-/

set_option autoImplicit false

namespace ExtensionProxy

/-- A value of a configuration. -/
inductive ConfigValue where
  /-- A place in a list that nothing was put at. -/
  | missing
  | text (value : String)
  | integer (value : Int)
  /-- A number with a fraction. -/
  | fractional (value : Binary64)
  | truth (value : Bool)
  | list (items : List ConfigValue)
  | table (entries : List (String × ConfigValue))

/-- One step on the way to a place inside a value. -/
inductive ConfigStep where
  /-- The entry of a table. -/
  | key (name : String)
  /-- The item of a list; negative numbers count from the end. -/
  | index (number : Int)
  deriving DecidableEq, Repr

namespace ConfigValue

/-- The text that a scalar is written as. -/
def text? : ConfigValue → Option String
  | .text value => some value
  | .integer value => some (toString value)
  | .fractional value => some value.display
  | .truth value => some (if value then "true" else "false")
  | _ => none

/-- The entries of a table; nothing else has any. -/
def entries : ConfigValue → List (String × ConfigValue)
  | .table entries => entries
  | _ => []

/-- The items of a list; nothing else has any. -/
def items : ConfigValue → List ConfigValue
  | .list items => items
  | _ => []

/-- The value of an entry. -/
def get? (entries : List (String × ConfigValue)) (name : String) : Option ConfigValue :=
  (entries.find? fun entry => entry.1 == name).map Prod.snd

/-- The entries with one of them changed; an entry that is not there is made. -/
def alter (name : String) (change : ConfigValue → ConfigValue) :
    List (String × ConfigValue) → List (String × ConfigValue)
  | [] => [(name, change .missing)]
  | entry :: rest =>
    if entry.1 = name then (name, change entry.2) :: rest else entry :: alter name change rest

/-- The items with one of them changed.  A place behind the end is reached by filling the list up,
and one before the beginning by filling it up at the front. -/
def alterItem (number : Int) (change : ConfigValue → ConfigValue) (items : List ConfigValue) :
    List ConfigValue :=
  let place := if number < 0 then number + items.length else number
  if place < 0 then
    change .missing :: List.replicate ((-place).toNat - 1) .missing ++ items
  else if place < items.length then items.modify place.toNat change
  else items ++ List.replicate (place.toNat - items.length) .missing ++ [change .missing]

/-- The value with the one at a place inside it changed. -/
def alterAt (change : ConfigValue → ConfigValue) (value : ConfigValue) :
    List ConfigStep → ConfigValue
  | [] => change value
  | .key name :: rest => .table (alter name (alterAt change · rest) value.entries)
  | .index number :: rest => .list (alterItem number (alterAt change · rest) value.items)

mutual

/-- One value laid over another. -/
def laidOver : ConfigValue → ConfigValue → ConfigValue
  | .table entries, below => .table (entriesOver entries below.entries)
  | value, _ => value

/-- The entries of one table laid over those of another. -/
def entriesOver :
    List (String × ConfigValue) → List (String × ConfigValue) → List (String × ConfigValue)
  | [], below => below
  | (name, value) :: rest, below => entriesOver rest (alter name value.laidOver below)

end

end ConfigValue

/-! ## Places named by text -/

namespace ConfigStep

/-- Whether a character may stand in the name of an entry. -/
def isNameChar (c : Char) : Bool := c.isAlphanum || c == '_' || c == '-'

/-- An index between brackets, an integer of at most 64 bits; the opening bracket is already
gone. -/
def readIndex? (text : List Char) : Option ConfigStep :=
  match text.reverse with
  | ']' :: inner =>
    let isSpace := fun c => c == ' ' || c == '\t'
    let number := match ((inner.dropWhile isSpace).reverse).dropWhile isSpace with
      | '-' :: digits => (digitsValue? digits).map fun value => -(value : Int)
      | digits => (digitsValue? digits).map fun value => (value : Int)
    (number.filter fitsInt64).map .index
  | _ => none

/-- The steps between two dots: a name and the indices behind it. -/
def readPart? (text : List Char) : Option (List ConfigStep) :=
  match splitEvery '[' text with
  | name :: indices =>
    if name.isEmpty || !name.all isNameChar then none
    else (indices.mapM readIndex?).map fun steps => .key (String.ofList name) :: steps
  | [] => none

/-- The way that a text names: names divided by dots, each with indices in brackets behind it.  Any
other text is the name of a single entry. -/
def ofText (text : String) : List ConfigStep :=
  match (splitEvery '.' text.toList).mapM readPart? with
  | some parts => parts.flatten
  | none => [.key text]

end ConfigStep

/-- The named values laid over a value, one after the other, each at the place that its name
tells. -/
def ConfigValue.layer (below : ConfigValue) (named : List (String × ConfigValue)) : ConfigValue :=
  named.foldl (fun all entry => alterAt entry.2.laidOver all (ConfigStep.ofText entry.1)) below

end ExtensionProxy
