/-!
# Ranges of characters

A class of characters given as data is a list of ranges.
-/

set_option autoImplicit false

namespace ExtensionProxy

/-- The numbers of the first and the last character of a range. -/
abbrev CodeRange := Nat × Nat

/-- Whether a range holds a character. -/
def CodeRange.holds (range : CodeRange) (c : Char) : Bool :=
  range.1 ≤ c.toNat && c.toNat ≤ range.2

end ExtensionProxy
