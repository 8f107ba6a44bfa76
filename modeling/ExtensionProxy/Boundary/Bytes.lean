/-!
# Terminated texts

Across the boundary a text is a pointer to bytes that end at the first zero.  It is read as a text
if there is a pointer and the bytes before the zero are well formed.  A text is written only if
nothing in it would end it early; so whatever is written is read back as it was.
-/

set_option autoImplicit false

namespace ExtensionProxy.Boundary

/-- The bytes to which a pointer leads. -/
abbrev Bytes := List UInt8

namespace Bytes

/-- The bytes before the first zero. -/
def terminated (bytes : Bytes) : Bytes := bytes.takeWhile (· ≠ 0)

/-- Reads the text to which a pointer leads; `none` for the null pointer, and for bytes that are no
text. -/
def read? (pointer : Option Bytes) : Option String :=
  pointer.bind fun bytes => String.fromUTF8? ⟨(terminated bytes).toArray⟩

/-- Reads a text, taking the empty one where there is none. -/
def readOr (pointer : Option Bytes) : String := (read? pointer).getD ""

/-- The bytes of a text, the zero at the end not among them; `none` if there is a zero in the
text. -/
def write? (text : String) : Option Bytes :=
  if text.toList.contains '\x00' then none else some text.toUTF8.toList

/-- The bytes of a text, or no bytes if it cannot be written. -/
def writeOr (text : String) : Bytes := (write? text).getD []

end Bytes

end ExtensionProxy.Boundary
