import ExtensionProxy.Yaml.Line

/-!
# Block texts in a YAML file

A text may be given as the lines below its mark that are indented further.  Either its lines are
kept, or they are joined as the lines of any other text; lines that begin with a space are not
joined.  Of the line breaks at the end one is kept, or none, or all of them.
-/

set_option autoImplicit false

namespace ExtensionProxy.Yaml

/-- What becomes of the line breaks at the end of a block text. -/
inductive EndBreaks where
  /-- None is kept. -/
  | strip
  /-- One is kept. -/
  | clip
  /-- All are kept. -/
  | keep
  deriving DecidableEq, Repr

/-- How a block text is given. -/
structure BlockStyle where
  /-- Whether its lines are joined. -/
  folded : Bool
  /-- What becomes of the line breaks at its end. -/
  ending : EndBreaks := .clip
  /-- How much further it is indented than what it belongs to, if that is told. -/
  depth : Option Nat := none
  deriving DecidableEq, Repr

/-- Reads what stands behind the mark of a block text: each of the two details at most once. -/
def BlockStyle.read? (style : BlockStyle) : List Char → Option BlockStyle
  | [] => some style
  | c :: rest =>
    if c = '-' ∧ style.ending = .clip then BlockStyle.read? { style with ending := .strip } rest
    else if c = '+' ∧ style.ending = .clip then BlockStyle.read? { style with ending := .keep } rest
    else if '1' ≤ c ∧ c ≤ '9' ∧ style.depth = none then
      BlockStyle.read? { style with depth := some (c.toNat - '0'.toNat) } rest
    else if endsLine (c :: rest) then some style
    else none

/-- Whether a line holds nothing but spaces. -/
def isEmptyLine (line : Line) : Bool := line.all (· == ' ')

/-- Whether a line belongs to a block text that begins at a column. -/
def belongs (column : Nat) (line : Line) : Bool := isEmptyLine line || column ≤ line.indented.1

/-- The column at which the first line with something in it begins. -/
def firstColumn (lines : List Line) : Nat :=
  match lines.find? fun line => !isEmptyLine line with
  | some line => line.indented.1
  | none => 0

/-- Joins lines.  It is given whether the line before was one that is not joined, if there was a
line, and how many line breaks stand before the next one. -/
def foldBlock (before : Option Bool) (breaks : Nat) : List Line → List Char
  | [] => []
  | line :: rest =>
    if line.isEmpty then foldBlock before (breaks + 1) rest
    else
      let apart := line.head?.any isSpace
      let between :=
        if before.any fun wasApart => !wasApart && !apart then foldBreaks breaks
        else List.replicate breaks '\n'
      between ++ line ++ foldBlock (some apart) 1 rest

/-- Reads a block text below what stands in a column. -/
def BlockStyle.readText (style : BlockStyle) (parent : Int) (lines : List Line) :
    String × List Line :=
  let column := match style.depth with
    | some depth => parent.toNat + depth
    | none => max (firstColumn lines) (parent + 1).toNat
  let body := lines.takeWhile (belongs column)
  let rest := lines.drop body.length
  let found := body.map fun line => line.drop column
  let core := (found.reverse.dropWhile List.isEmpty).reverse
  let breaks := found.length - core.length + (if rest.isEmpty then 0 else 1)
  let ending := match style.ending with
    | .strip => 0
    | .clip => if core.isEmpty then 0 else min breaks 1
    | .keep => if core.isEmpty then found.length - (if rest.isEmpty then 1 else 0) else breaks
  let text := if style.folded then foldBlock none 0 core else joinLines core
  (String.ofList (text ++ List.replicate ending '\n'), rest)

end ExtensionProxy.Yaml
