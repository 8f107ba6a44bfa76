import ExtensionProxy.Configuration.Bracketed
import ExtensionProxy.Yaml.BlockText

/-!
# YAML files

Lists and tables are told by indentation, or stand in brackets.  A table's entries begin in one
column, as do a list's items; what belongs to one of them is indented further, except that the
items of a list may stand in the column of the entry that they belong to.

A file holds one table, or nothing at all.  No two entries of a table may have one name.  Anchors,
tags and names that are lists or tables are not read.
-/

set_option autoImplicit false

namespace ExtensionProxy.Yaml

/-! ## Values in brackets -/

/-- Drops blanks, line breaks and comments; a comment stands behind a blank. -/
def skipFlow : Bool → List Char → List Char
  | _, [] => []
  | inComment, c :: rest =>
    if inComment then skipFlow (c ≠ '\n') rest
    else if isSpace c ∨ c = '\n' then skipFlow (rest.head? = some '#') rest
    else c :: rest

/-- The brackets of lists and tables. -/
def openBracket? (text : List Char) : Option (Bracket × List Char) :=
  match text with
  | '[' :: rest => some (⟨.items, ']'⟩, rest)
  | '\x7b' :: rest => some (⟨.entries (readName? true), '\x7d'⟩, rest)
  | _ => none

/-- Reads a scalar in brackets. -/
def readFlowScalar? (text : List Char) : Option (ConfigValue × List Char) :=
  if opensPlain true text then
    let (found, rest) := takePlain true false text
    (plainValue? (trimSpace found)).map fun value => (value, rest)
  else (readQuoted? text).map fun (found, rest) => (.text found, rest)

/-- How values in brackets are written. -/
def form : BracketForm where
  skip? text := some (skipFlow false text)
  open? := openBracket?
  scalar? := readFlowScalar?
  endComma := true

/-- How deeply brackets may be nested. -/
def nestingLimit : Nat := 255

/-! ## Values that are no lists or tables by indentation -/

/-- The lines behind a value that has ended; nothing else may stand in its line. -/
def linesAfter? (text : List Char) : Option (List Line) :=
  match splitEvery '\n' text with
  | line :: rest => if endsLine line then some rest else none
  | [] => none

/-- The further lines of a plain scalar below what stands in a column, and the lines behind it.
None of them may have a colon that stands by itself. -/
def readMore? (parent : Int) : List Line → Option (List Line × List Line)
  | [] => some ([], [])
  | line :: rest =>
    let (column, content) := line.indented
    if content.all isSpace then
      (readMore? parent rest).map fun (found, after) => ([] :: found, after)
    else if (column : Int) ≤ parent ∨ content.head? = some '#' then some ([], line :: rest)
    else
      match takePlain false true content with
      | (found, []) => (readMore? parent rest).map fun (more, after) => (found :: more, after)
      | (found, '#' :: _) => some ([found], rest)
      | _ => none

/-- Reads a plain scalar. -/
def readPlain? (parent : Int) (content : List Char) (rest : List Line) :
    Option (ConfigValue × List Line) :=
  if !opensPlain false content then none
  else match takePlain false false content with
    | (found, []) => do
      let (more, after) ← readMore? parent rest
      let all := (joinLines (found :: more)).reverse.dropWhile fun c => isSpace c || c == '\n'
      let value ← plainValue? (foldLines [] all.reverse)
      some (value, after)
    | (found, '#' :: _) => (plainValue? (trimSpace found)).map fun value => (value, rest)
    | _ => none

/-- Reads a value that is no list or table by indentation. -/
def readInline? (parent : Int) (content : List Char) (rest : List Line) :
    Option (ConfigValue × List Line) :=
  match content with
  | [] => none
  | c :: inner =>
    if c = '|' ∨ c = '>' then
      (BlockStyle.read? { folded := c == '>' } inner).map fun style =>
        let (found, after) := style.readText parent rest
        (.text found, after)
    else if c = '"' ∨ c = '\'' then do
      let (found, after) ← readQuoted? (joinLines (content :: rest))
      (linesAfter? after).map fun lines => (.text found, lines)
    else if c = '[' ∨ c = '\x7b' then do
      let (value, after) ← form.readValue? nestingLimit (joinLines (content :: rest))
      (linesAfter? after).map fun lines => (value, lines)
    else readPlain? parent content rest

/-! ## Lists and tables by indentation -/

mutual

/-- Reads the value below what stands in a column; it is missing if nothing is indented further. -/
def readBelow? (fuel : Nat) (parent : Int) (lines : List Line) : Option (ConfigValue × List Line) :=
  match fuel with
  | 0 => none
  | fuel + 1 =>
    match nextContent? lines with
    | none => some (.missing, [])
    | some (column, content, rest) =>
      if (column : Int) ≤ parent then some (.missing, lines)
      else if isItem content then readItems? fuel column [] lines
      else if (readEntryName? content).isSome then readEntries? fuel column [] lines
      else readInline? parent content rest

/-- Reads the items that begin in a column. -/
def readItems? (fuel column : Nat) (found : List ConfigValue) (lines : List Line) :
    Option (ConfigValue × List Line) :=
  match fuel with
  | 0 => none
  | fuel + 1 =>
    match nextContent? lines with
    | none => some (.list found.reverse, [])
    | some (next, content, rest) =>
      if next ≠ column ∨ !isItem content then some (.list found.reverse, lines)
      else do
        let line : Line := List.replicate (column + 1) ' ' ++ content.drop 1
        let (value, after) ← readBelow? fuel column (line :: rest)
        readItems? fuel column (value :: found) after

/-- Reads the entries that begin in a column. -/
def readEntries? (fuel column : Nat) (found : List (String × ConfigValue)) (lines : List Line) :
    Option (ConfigValue × List Line) :=
  match fuel with
  | 0 => none
  | fuel + 1 =>
    match nextContent? lines with
    | none => some (.table found.reverse, [])
    | some (next, content, rest) =>
      if next ≠ column then some (.table found.reverse, lines)
      else do
        let (name, after) ← readEntryName? content
        if (ConfigValue.get? found name).isSome then none
        let (value, lines) ←
          if !isBare after then readInline? column (after.dropWhile isSpace) rest
          else if (nextContent? rest).any fun (next, content, _) => next == column && isItem content
          then readItems? fuel column [] rest
          else readBelow? fuel column rest
        readEntries? fuel column ((name, value) :: found) lines

end

/-! ## Files -/

/-- Whether a line begins with a mark between documents. -/
def isMark (mark : String) (line : Line) : Bool :=
  mark.toList.isPrefixOf line && standsAlone false (line.drop mark.length)

/-- The lines of the only document: a mark may stand before it and another one behind it. -/
def document? (lines : List Line) : Option (List Line) :=
  let lines := lines.dropWhile isBare
  let lines := match lines with
    | line :: rest =>
      if isMark "---" line then (List.replicate 3 ' ' ++ line.drop 3) :: rest else lines
    | [] => []
  let found := lines.takeWhile fun line => !isMark "---" line && !isMark "..." line
  match lines.drop found.length with
  | [] => some found
  | line :: rest => if isMark "..." line ∧ rest.all isBare then some found else none

/-- Reads a YAML file; `none` if anything in it is at fault, or if it holds no table. -/
def read? (text : String) : Option (List (String × ConfigValue)) := do
  let lines := linesOf text.toList
  if lines.all isBare then some []
  else do
    let (value, after) ← readBelow? (2 * text.length + 2) (-1) (← document? lines)
    match value, nextContent? after with
    | .table entries, none => some entries
    | _, _ => none

end ExtensionProxy.Yaml
