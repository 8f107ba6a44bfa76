/-!
# Lines and cuts

A line ends at a line feed; an empty rest after the last line feed is no line.  A carriage return
before the line feed stays with the line: it is a blank, so whoever trims lines drops it.  Beside
the lines stand the cuts used inside one line: at the first separator, and at every separator.
-/

set_option autoImplicit false

namespace ExtensionProxy

/-- The lines of a text, without their line feeds. -/
def textLines : List Char → List (List Char)
  | [] => []
  | c :: rest =>
    if c = '\n' then [] :: textLines rest
    else match textLines rest with
      | [] => [[c]]
      | line :: lines => (c :: line) :: lines

/-- Cuts at the first separator, which neither part holds; `none` without one. -/
def splitFirst (separator : Char) : List Char → Option (List Char × List Char)
  | [] => none
  | c :: rest =>
    if c = separator then some ([], rest)
    else (splitFirst separator rest).map fun (before, after) => (c :: before, after)

/-- Cuts at every separator: one part more than there are separators. -/
def splitEvery (separator : Char) : List Char → List (List Char)
  | [] => [[]]
  | c :: rest =>
    if c = separator then [] :: splitEvery separator rest
    else match splitEvery separator rest with
      | [] => [[c]]
      | part :: parts => (c :: part) :: parts

/-- The text before the first separator, or all of it. -/
def beforeFirst (separator : Char) (text : List Char) : List Char :=
  text.takeWhile (· ≠ separator)

/-- The parts between the separators that are not empty. -/
def splitItems (separator : Char) (text : String) : List String :=
  ((splitEvery separator text.toList).filter (fun part => !part.isEmpty)).map String.ofList

end ExtensionProxy
