import ExtensionProxy.Yaml.Scalar

/-!
# Lines of a YAML file

Outside of brackets the structure of a file is told by how far its lines are indented.  Here are
the parts of a line: its indentation, a comment, the name of an entry, a plain scalar, and what
stands behind a value that has ended.
-/

set_option autoImplicit false

namespace ExtensionProxy.Yaml

/-- The characters of a line, without its end. -/
abbrev Line := List Char

/-- The column at which a line's content begins, and the content. -/
def Line.indented (line : Line) : Nat × List Char :=
  let content := line.dropWhile (· == ' ')
  (line.length - content.length, content)

/-- Whether nothing but a comment stands in a text. -/
def isBare (text : List Char) : Bool :=
  match text.dropWhile isSpace with
  | [] => true
  | c :: _ => c == '#'

/-- Whether nothing but a comment follows a value; a space divides the two. -/
def endsLine (text : List Char) : Bool :=
  match text with
  | [] => true
  | c :: _ => isSpace c && isBare text

/-- The next line with something in it: its column, its content, and the lines behind it. -/
def nextContent? : List Line → Option (Nat × List Char × List Line)
  | [] => none
  | line :: rest =>
    if isBare line then nextContent? rest
    else
      let (column, content) := line.indented
      some (column, content, rest)

/-- A text as lines; every line break counts as a line feed. -/
def linesOf (text : List Char) : List Line := splitEvery '\n' (unifyBreaks text)
where
  /-- Puts line feeds in the place of other line breaks. -/
  unifyBreaks : List Char → List Char
    | '\r' :: '\n' :: rest => '\n' :: unifyBreaks rest
    | '\r' :: rest => '\n' :: unifyBreaks rest
    | c :: rest => c :: unifyBreaks rest
    | [] => []

/-- Lines as a text. -/
def joinLines (lines : List Line) : List Char := ['\n'].intercalate lines

/-! ## Plain scalars and names -/

/-- Whether a character divides values in brackets. -/
def isFlowMark (c : Char) : Bool :=
  c == ',' || c == '[' || c == ']' || c == '\x7b' || c == '\x7d'

/-- Whether a colon, a dash or a question mark before a text stands by itself. -/
def standsAlone (inFlow : Bool) (after : List Char) : Bool :=
  match after with
  | [] => true
  | c :: _ => isSpace c || c == '\n' || (inFlow && isFlowMark c)

/-- The characters that open something else than a plain scalar. -/
def otherMarks : List Char := "#&*!|>'\"%@\x60".toList

/-- Whether a plain scalar begins here. -/
def opensPlain (inFlow : Bool) (text : List Char) : Bool :=
  match text with
  | [] => false
  | c :: rest =>
    if c = '-' ∨ c = '?' ∨ c = ':' then !standsAlone inFlow rest
    else !(isSpace c || c == '\n' || isFlowMark c || otherMarks.contains c)

/-- Cuts a plain scalar off a line: it ends at a comment, at a colon that stands by itself, and in
brackets at what divides values there. -/
def takePlain (inFlow afterSpace : Bool) : List Char → List Char × List Char
  | [] => ([], [])
  | c :: rest =>
    if (c = '#' ∧ afterSpace) ∨ (c = ':' ∧ standsAlone inFlow rest) ∨ (inFlow ∧ isFlowMark c) ∨
        c = '\n' then ([], c :: rest)
    else
      let (found, after) := takePlain inFlow (isSpace c) rest
      (c :: found, after)

/-- The name that a plain scalar is. -/
def plainName? (text : List Char) : Option String :=
  match plainValue? text with
  | none => some (String.ofList text)
  | some (.fractional _) => some (String.ofList text)
  | some value => value.text?

/-- Reads a name, between quotes or plain. -/
def readName? (inFlow : Bool) (text : List Char) : Option (String × List Char) :=
  if opensPlain inFlow text then
    let (found, rest) := takePlain inFlow false text
    (plainName? (trimSpace found)).map fun name => (name, rest)
  else readQuoted? text

/-- Reads the name of an entry that begins a line, and the colon behind it. -/
def readEntryName? (content : List Char) : Option (String × List Char) := do
  let (name, after) ← readName? false content
  match after.dropWhile isSpace with
  | ':' :: rest => if standsAlone false rest then some (name, rest) else none
  | _ => none

/-- Whether a line's content is an item of a list. -/
def isItem (content : List Char) : Bool :=
  match content with
  | '-' :: rest => standsAlone false rest
  | _ => false

end ExtensionProxy.Yaml
