import ExtensionProxy.Configuration.Value
import ExtensionProxy.Text.Blank
import ExtensionProxy.Text.Hexadecimal

/-!
# Section files

A section file is a sequence of sections, each a name in brackets and keys with their values; keys
before the first section belong to none.  A key ends at an equals sign or a colon, and may go on
over lines until then.  A value ends with its line, unless quotes are open.  A comment takes a line
of its own and begins in its first column.

A backslash escapes in names, keys and values, between quotes and outside of them; at the end of a
line it joins the next one.  All values are texts.  Where two sections have one name, the later one
stands for both, and of two keys of one name in a section the later one counts.
-/

set_option autoImplicit false

namespace ExtensionProxy.Ini

/-! ## Texts -/

/-- What a character stands for after a backslash. -/
def escaped (c : Char) : Char :=
  if c = '0' then '\x00'
  else if c = 'a' then '\x07'
  else if c = 'b' then '\x08'
  else if c = 't' then '\t'
  else if c = 'r' then '\r'
  else if c = 'n' then '\n'
  else c

/-- Reads up to a character that ends a text, which is left there.  If the input ends first, the
text is complete only if it may end so. -/
def readUntil? (isEnd : Char → Bool) (endsWithInput : Bool) :
    List Char → Option (List Char × List Char)
  | [] => if endsWithInput then some ([], []) else none
  | '\\' :: 'x' :: a :: b :: c :: d :: rest => do
    let char ← (hexNumber? [a, b, c, d]).bind charOf?
    let (found, after) ← readUntil? isEnd endsWithInput rest
    some (char :: found, after)
  | ['\\'] => if endsWithInput then some (['\\'], []) else none
  | '\\' :: '\n' :: rest => readUntil? isEnd endsWithInput rest
  | '\\' :: c :: rest =>
    if c = 'x' then none
    else (readUntil? isEnd endsWithInput rest).map fun (found, after) => (escaped c :: found, after)
  | c :: rest =>
    if isEnd c then some ([], c :: rest)
    else (readUntil? isEnd endsWithInput rest).map fun (found, after) => (c :: found, after)

/-- Reads a value after its sign: parts between quotes, then the rest of the line. -/
def readValue? : Nat → Bool → List Char → Option (List Char × List Char)
  | 0, _, _ => none
  | _ + 1, _, [] => some ([], [])
  | fuel + 1, isFirst, c :: rest =>
    if c = '"' ∨ c = '\'' then do
      let (quoted, after) ← readUntil? (· == c) false rest
      let (found, after) ← readValue? fuel false (after.drop 1)
      some (quoted ++ found, after)
    else do
      let (line, after) ← readUntil? (fun c => c == '\n' || c == '\r') true (c :: rest)
      some ((if isFirst then trimBlank else trimBlankEnd) line, after)

/-! ## Sections -/

/-- What has been read: the keys without a section, and the sections. -/
structure Reader where
  /-- The keys that belong to no section. -/
  loose : List (String × ConfigValue) := []
  /-- The sections in the order of their names. -/
  sections : List (String × List (String × ConfigValue)) := []
  /-- The name of the section that keys belong to. -/
  current : Option String := none

/-- Opens a section. -/
def Reader.open (reader : Reader) (name : String) : Reader :=
  { reader with
    sections := reader.sections.filter (fun part => part.1 ≠ name) ++ [(name, [])]
    current := some name }

/-- Sets a key. -/
def Reader.set (reader : Reader) (key value : String) : Reader :=
  let change := ConfigValue.alter key fun _ => .text value
  match reader.current with
  | none => { reader with loose := change reader.loose }
  | some name =>
    { reader with
      sections := reader.sections.map fun part =>
        if part.1 = name then (name, change part.2) else part }

/-- What the file says: sections stand before keys of their name. -/
def Reader.entries (reader : Reader) : List (String × ConfigValue) :=
  reader.sections.foldl (fun all part => ConfigValue.alter part.1 (fun _ => .table part.2) all)
    reader.loose

/-! ## Files -/

/-- Drops blanks and line feeds; tells also whether what follows opens a line. -/
def skipBlanks (opensLine : Bool) : List Char → Bool × List Char
  | [] => (opensLine, [])
  | c :: rest => if isBlank c then skipBlanks (c == '\n') rest else (opensLine, c :: rest)

/-- Whether a blank may stand before a value. -/
def isInnerBlank (c : Char) : Bool := isBlank c && c ≠ '\n' && c ≠ '\r'

/-- Reads a section, a key with its value, or a comment; tells whether a line has been ended. -/
def readPart? (reader : Reader) (opensLine : Bool) (c : Char) (rest : List Char) :
    Option (Reader × Bool × List Char) :=
  if c = ';' ∨ c = '#' then
    if opensLine then some (reader, true, (rest.dropWhile (· ≠ '\n')).drop 1) else none
  else if c = '[' then do
    let (name, after) ← readUntil? (· == ']') false rest
    some (reader.open (String.ofList (trimBlank name)), false, after.drop 1)
  else do
    let (key, after) ← readUntil? (fun c => c == '=' || c == ':') false (c :: rest)
    let key := trimBlank key
    if key.isEmpty then none
    else
      let text := (after.drop 1).dropWhile isInnerBlank
      let (value, after) ← readValue? (text.length + 1) true text
      some (reader.set (String.ofList key) (String.ofList value), false, after)

/-- Reads parts, at most as many as the fuel allows. -/
def readParts? : Nat → Reader → Bool → List Char → Option Reader
  | 0, _, _, _ => none
  | fuel + 1, reader, opensLine, text =>
    match skipBlanks opensLine text with
    | (_, []) => some reader
    | (opensLine, c :: rest) => do
      let (reader, ended, after) ← readPart? reader opensLine c rest
      readParts? fuel reader ended after

/-- Reads a section file; `none` if anything in it is at fault. -/
def read? (text : String) : Option (List (String × ConfigValue)) :=
  (readParts? (text.length + 1) {} true text.toList).map Reader.entries

end ExtensionProxy.Ini
