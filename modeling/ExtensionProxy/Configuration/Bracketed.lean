import ExtensionProxy.Configuration.Value

/-!
# Values in brackets

Several formats write lists and tables alike: their entries stand between brackets, divided by
commas, and the entries of a table have a name and a colon in front.  What a format has of its own
is told by a `BracketForm`: which brackets there are, what names and scalars look like, what may
stand between the parts, and whether a comma may stand behind the last entry.
-/

set_option autoImplicit false

namespace ExtensionProxy

/-- What stands between two brackets. -/
inductive BracketContent where
  /-- The items of a list. -/
  | items
  /-- The entries of a table, with the way to read their names. -/
  | entries (name? : List Char → Option (String × List Char))
  /-- A single value, which the brackets stand for. -/
  | single

/-- An opening bracket. -/
structure Bracket where
  /-- What stands behind it. -/
  content : BracketContent
  /-- The bracket that closes it. -/
  close : Char

/-- A format whose lists and tables stand in brackets. -/
structure BracketForm where
  /-- Drops what may stand between the parts of a value; `none` if it is not as it has to be. -/
  skip? : List Char → Option (List Char)
  /-- Takes an opening bracket. -/
  open? : List Char → Option (Bracket × List Char)
  /-- Reads a value without brackets. -/
  scalar? : List Char → Option (ConfigValue × List Char)
  /-- Whether a comma may stand behind the last entry. -/
  endComma : Bool

namespace BracketContent

/-- Reads what stands before the value of an entry. -/
def readName? (form : BracketForm) (text : List Char) :
    BracketContent → Option (String × List Char)
  | .entries name? => do
    let (name, after) ← name? text
    match ← form.skip? after with
    | ':' :: rest => some (name, ← form.skip? rest)
    | _ => none
  | _ => some ("", text)

/-- The value of all that stood between the brackets; of two entries of one name the later one
counts. -/
def value? (found : List (String × ConfigValue)) : BracketContent → Option ConfigValue
  | .items => some (.list (found.map Prod.snd))
  | .entries _ =>
    some (.table (found.foldl (fun all entry => ConfigValue.alter entry.1 (fun _ => entry.2) all)
      []))
  | .single =>
    match found with
    | [(_, value)] => some value
    | _ => none

end BracketContent

namespace BracketForm

mutual

/-- Reads a value with at most so many levels of brackets. -/
def readValue? (form : BracketForm) (levels : Nat) (text : List Char) :
    Option (ConfigValue × List Char) :=
  match levels with
  | 0 => if (form.open? text).isSome then none else form.scalar? text
  | levels + 1 =>
    match form.open? text with
    | some (bracket, rest) => readEntries? form levels (rest.length + 1) bracket [] rest
    | none => form.scalar? text
termination_by (levels, 0)

/-- Reads the entries behind an opening bracket, and the bracket that closes it. -/
def readEntries? (form : BracketForm) (levels fuel : Nat) (bracket : Bracket)
    (found : List (String × ConfigValue)) (text : List Char) : Option (ConfigValue × List Char) :=
  match fuel with
  | 0 => none
  | fuel + 1 =>
    match form.skip? text with
    | none => none
    | some [] => none
    | some (c :: rest) =>
      if c = bracket.close ∧ (found.isEmpty ∨ form.endComma) then
        (bracket.content.value? found.reverse).map fun value => (value, rest)
      else match bracket.content.readName? form (c :: rest) with
        | none => none
        | some (name, text) =>
          match readValue? form levels text with
          | none => none
          | some (value, after) =>
            let found := (name, value) :: found
            match form.skip? after with
            | some (c :: rest) =>
              if c = bracket.close then
                (bracket.content.value? found.reverse).map fun value => (value, rest)
              else if c = ',' then readEntries? form levels fuel bracket found rest
              else none
            | _ => none
termination_by (levels, fuel)

end

/-- Reads a text that holds a single value. -/
def read? (form : BracketForm) (levels : Nat) (text : String) : Option ConfigValue := do
  let (value, after) ← form.readValue? levels (← form.skip? text.toList)
  match ← form.skip? after with
  | [] => some value
  | _ => none

end BracketForm

end ExtensionProxy
