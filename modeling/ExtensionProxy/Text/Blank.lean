/-!
# Blank characters

The characters that count as white space around the parts of a line, and trimming by them.  The
set is the one the character standard calls white space: the ASCII blanks, next line, the no-break
space, the spaces of general punctuation, and the two separators of lines and paragraphs.
-/

set_option autoImplicit false

namespace ExtensionProxy

/-- The white space of the character standard. -/
def isBlank (c : Char) : Bool :=
  let n := c.toNat
  (9 ≤ n && n ≤ 13) || n == 0x20 || n == 0x85 || n == 0xa0 || n == 0x1680
    || (0x2000 ≤ n && n ≤ 0x200a) || n == 0x2028 || n == 0x2029 || n == 0x202f
    || n == 0x205f || n == 0x3000

/-- Drops the blanks at the end. -/
def trimBlankEnd (text : List Char) : List Char := (text.reverse.dropWhile isBlank).reverse

/-- Drops the blanks at both ends. -/
def trimBlank (text : List Char) : List Char := trimBlankEnd (text.dropWhile isBlank)

/-- Drops the blanks at both ends of a string. -/
def trimText (text : String) : String :=
  String.ofList (trimBlank text.toList)

end ExtensionProxy
