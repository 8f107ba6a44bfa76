/-!
# Bytes read as text

Bytes are read as text one by one.  Those that make no character do not stop the reading: every
longest run of bytes that could begin a character, but is not continued by one, gives a single
replacement character, and so does every byte that can begin none.
-/

set_option autoImplicit false

namespace ExtensionProxy

/-- A character of which some bytes are still owed. -/
structure Unfinished where
  /-- How many bytes are owed. -/
  owed : Nat
  /-- The least that the next byte may be. -/
  low : Nat
  /-- The greatest that the next byte may be. -/
  high : Nat
  /-- The number of the character, as far as it is known. -/
  number : Nat
  deriving DecidableEq, Repr

/-- The character that stands for bytes that make none. -/
def replacementChar : Char := '\ufffd'

/-- The character that a byte begins, if the byte is none by itself.  The second byte is bounded so
that no character has two forms, and none is a surrogate or above the last character. -/
def Unfinished.ofFirst? (b : Nat) : Option Unfinished :=
  if 0xc2 ≤ b ∧ b ≤ 0xdf then some ⟨1, 0x80, 0xbf, b - 0xc0⟩
  else if b = 0xe0 then some ⟨2, 0xa0, 0xbf, 0⟩
  else if b = 0xed then some ⟨2, 0x80, 0x9f, 0xd⟩
  else if 0xe1 ≤ b ∧ b ≤ 0xef then some ⟨2, 0x80, 0xbf, b - 0xe0⟩
  else if b = 0xf0 then some ⟨3, 0x90, 0xbf, 0⟩
  else if 0xf1 ≤ b ∧ b ≤ 0xf3 then some ⟨3, 0x80, 0xbf, b - 0xf0⟩
  else if b = 0xf4 then some ⟨3, 0x80, 0x8f, 4⟩
  else none

/-- What a byte gives between characters. -/
def decodeFirst (b : Nat) : List Char × Option Unfinished :=
  if b < 0x80 then ([Char.ofNat b], none)
  else match Unfinished.ofFirst? b with
    | some unfinished => ([], some unfinished)
    | none => ([replacementChar], none)

/-- What a byte gives after the beginning of a character. -/
def Unfinished.continue (unfinished : Unfinished) (b : Nat) : List Char × Option Unfinished :=
  if unfinished.low ≤ b ∧ b ≤ unfinished.high then
    let number := unfinished.number * 64 + (b - 0x80)
    if unfinished.owed ≤ 1 then ([Char.ofNat number], none)
    else ([], some ⟨unfinished.owed - 1, 0x80, 0xbf, number⟩)
  else
    let (chars, next) := decodeFirst b
    (replacementChar :: chars, next)

/-- The characters of bytes, after the beginning of a character or between two. -/
def decodeFrom : Option Unfinished → List UInt8 → List Char
  | none, [] => []
  | some _, [] => [replacementChar]
  | state, b :: rest =>
    let (chars, next) := match state with
      | none => decodeFirst b.toNat
      | some unfinished => unfinished.continue b.toNat
    chars ++ decodeFrom next rest

/-- Bytes read as text. -/
def decodeBytes (bytes : List UInt8) : String := String.ofList (decodeFrom none bytes)

end ExtensionProxy
