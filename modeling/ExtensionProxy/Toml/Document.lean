import ExtensionProxy.Toml.Scalar
import ExtensionProxy.Toml.Table

/-!
# Table files

A table file is a sequence of lines: headers, keys with their values, comments and blank lines.  A
key belongs to the table of the last header before it.  A value is a text, a scalar, a list in
brackets or a table in braces; lists and tables in braces may go on over many lines, and a comma may
stand behind their last item.  They are nested at most so many levels deep, and a key has at most as
many names.
-/

set_option autoImplicit false

namespace ExtensionProxy.Toml

/-! ## Blanks and keys -/

/-- Drops the blanks at the front of a line. -/
def skipBlank (text : List Char) : List Char := text.dropWhile fun c => c == ' ' || c == '\t'

/-- Drops blanks, comments and the ends of lines; `none` if a comment holds what it must not. -/
def skipLines? (inComment : Bool) : List Char → Option (List Char)
  | [] => some []
  | '\n' :: rest => skipLines? false rest
  | '\r' :: '\n' :: rest => skipLines? false rest
  | c :: rest =>
    if inComment then (if isTextChar c then skipLines? true rest else none)
    else if c = ' ' ∨ c = '\t' then skipLines? false rest
    else if c = '#' then skipLines? true rest
    else some (c :: rest)

/-- Drops what may follow at the end of a line, and the end of the line. -/
def endLine? (text : List Char) : Option (List Char) :=
  let rest := match skipBlank text with
    | '#' :: comment => comment.dropWhile isTextChar
    | rest => rest
  match rest with
  | [] => some []
  | '\n' :: next => some next
  | '\r' :: '\n' :: next => some next
  | _ => none

/-- How deeply lists and tables in braces may be nested, and how many names a key may have. -/
def nestingLimit : Nat := 80

/-- Whether a character may stand in a name without quotes. -/
def isBareChar (c : Char) : Bool := c.isAlphanum || c == '_' || c == '-'

/-- Reads one name of a key. -/
def readName? (text : List Char) : Option (String × List Char) :=
  match text with
  | '"' :: _ => readShort? text
  | '\'' :: _ => readShort? text
  | _ =>
    let name := text.takeWhile isBareChar
    if name.isEmpty then none else some (String.ofList name, text.drop name.length)

/-- Reads the names of a key, divided by dots, at most as many as the fuel allows. -/
def readNames? : Nat → List Char → Option (List String × List Char)
  | 0, _ => none
  | fuel + 1, text => do
    let (name, after) ← readName? (skipBlank text)
    match skipBlank after with
    | '.' :: rest =>
      let (names, after) ← readNames? fuel rest
      some (name :: names, after)
    | rest => some ([name], rest)

/-- Reads a key. -/
def readKey? (text : List Char) : Option (List String × List Char) :=
  readNames? nestingLimit text

/-! ## Values -/

mutual

/-- Reads a value with at most so many levels of nesting. -/
def readValue? (levels : Nat) (text : List Char) : Option (ConfigValue × List Char) :=
  match text, levels with
  | '"' :: _, _ => (readText? text).map fun (found, rest) => (.text found, rest)
  | '\'' :: _, _ => (readText? text).map fun (found, rest) => (.text found, rest)
  | '[' :: rest, levels + 1 => readItems? levels (rest.length + 1) [] rest
  | '\x7b' :: rest, levels + 1 => readPairs? levels (rest.length + 1) [] rest
  | _, _ =>
    let (scalar, rest) := takeScalar text
    (readScalar? scalar).map fun value => (value, rest)
termination_by (levels, 0)

/-- Reads the items of a list whose opening bracket is gone. -/
def readItems? (levels fuel : Nat) (found : List ConfigValue) (text : List Char) :
    Option (ConfigValue × List Char) :=
  match fuel with
  | 0 => none
  | fuel + 1 =>
    match skipLines? false text with
    | none => none
    | some (']' :: rest) => some (.list found.reverse, rest)
    | some text =>
      match readValue? levels text with
      | none => none
      | some (value, after) =>
        match skipLines? false after with
        | some (',' :: rest) => readItems? levels fuel (value :: found) rest
        | some (']' :: rest) => some (.list (value :: found).reverse, rest)
        | _ => none
termination_by (levels, fuel)

/-- Reads the entries of a table in braces whose opening brace is gone. -/
def readPairs? (levels fuel : Nat) (nodes : Nodes) (text : List Char) :
    Option (ConfigValue × List Char) :=
  match fuel with
  | 0 => none
  | fuel + 1 =>
    match skipLines? false text with
    | none => none
    | some ('\x7d' :: rest) => some (.table (finishedEntries nodes), rest)
    | some text =>
      match readKey? text with
      | some (key, '=' :: after) =>
        match readValue? levels (skipBlank after) with
        | none => none
        | some (value, after) =>
          match nodes.setKey key value, skipLines? false after with
          | some nodes, some (',' :: rest) => readPairs? levels fuel nodes rest
          | some nodes, some ('\x7d' :: rest) => some (.table (finishedEntries nodes), rest)
          | _, _ => none
      | _ => none
termination_by (levels, fuel)

end

/-! ## Lines -/

/-- What has been read of a file: the tables, and the path of the table that keys belong to. -/
structure Reader where
  /-- The outermost table. -/
  root : Nodes := []
  /-- The path of the last header. -/
  path : List String := []

/-- Opens the table of a header, or adds a row to its list of tables. -/
def Reader.open? (reader : Reader) (isRow : Bool) (path : List String) : Option Reader :=
  match path.getLast? with
  | none => none
  | some name =>
    let change := if isRow then Nodes.openRow name else Nodes.openTable name
    (Nodes.alterAt false change reader.root path.dropLast).map fun root => ⟨root, path⟩

/-- Sets a key in the table of the last header. -/
def Reader.set? (reader : Reader) (key : List String) (value : ConfigValue) : Option Reader :=
  (Nodes.alterAt false (Nodes.setKey key value) reader.root reader.path).map fun root =>
    { reader with root := root }

/-- Reads one line that is not blank; a value may take it over several. -/
def readLine? (reader : Reader) (text : List Char) : Option (Reader × List Char) :=
  match text with
  | '[' :: '[' :: rest => do
    let (path, after) ← readKey? rest
    match after with
    | ']' :: ']' :: after => some (← reader.open? true path, ← endLine? after)
    | _ => none
  | '[' :: rest => do
    let (path, after) ← readKey? rest
    match after with
    | ']' :: after => some (← reader.open? false path, ← endLine? after)
    | _ => none
  | _ => do
    let (key, after) ← readKey? text
    match after with
    | '=' :: after => do
      let (value, after) ← readValue? nestingLimit (skipBlank after)
      some (← reader.set? key value, ← endLine? after)
    | _ => none

/-- Reads lines, at most as many as the fuel allows. -/
def readLines? : Nat → Reader → List Char → Option Nodes
  | 0, _, _ => none
  | fuel + 1, reader, text =>
    match skipLines? false text with
    | none => none
    | some [] => some reader.root
    | some text =>
      match readLine? reader text with
      | none => none
      | some (reader, rest) => readLines? fuel reader rest

/-- The text without the mark of byte order that may open it. -/
def dropMark : List Char → List Char
  | '\ufeff' :: rest => rest
  | text => text

/-- Reads a table file; `none` if anything in it is at fault. -/
def read? (text : String) : Option (List (String × ConfigValue)) :=
  let text := dropMark text.toList
  (readLines? (text.length + 1) {} text).map finishedEntries

end ExtensionProxy.Toml
