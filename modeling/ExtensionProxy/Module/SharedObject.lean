/-!
# Shared objects

Which symbols the file of a library exports.  Only files for machines of 64 bits with the least
byte first are read; of these only the table of dynamic symbols counts, and in it only what is
defined in the file and seen from outside.  Reading past the end of the file gives nothing.
-/

set_option autoImplicit false

namespace ExtensionProxy.SharedObject

/-- The byte at a place. -/
def byte? (bytes : ByteArray) (place : Nat) : Option UInt8 :=
  if h : place < bytes.size then some (bytes[place]) else none

/-- The number in the given count of bytes from a place on, the least byte first. -/
def number? (bytes : ByteArray) (place : Nat) : Nat → Option Nat
  | 0 => some 0
  | count + 1 => do
    let low ← byte? bytes place
    let high ← number? bytes (place + 1) count
    pure (low.toNat + 256 * high)

/-- The text from a place on, up to the next zero byte; `fuel` bounds its length. -/
def name? (bytes : ByteArray) (place : Nat) : Nat → Option (List UInt8)
  | 0 => none
  | fuel + 1 => do
    let byte ← byte? bytes place
    if byte = 0 then pure []
    else
      let rest ← name? bytes (place + 1) fuel
      pure (byte :: rest)

/-- A section of the file. -/
structure Section where
  /-- What it holds. -/
  kind : Nat
  /-- Where it starts. -/
  place : Nat
  /-- How many bytes it has. -/
  size : Nat
  /-- The index of the section that it refers to. -/
  link : Nat
  deriving DecidableEq, Repr

/-- The kind of the section that holds the dynamic symbols. -/
def dynamicSymbols : Nat := 11

/-- The length of an entry of a table of symbols. -/
def symbolLength : Nat := 24

/-- The longest name that is read. -/
def longestName : Nat := 4096

/-- Whether the file is a library of the kind that is read: the mark of an object file, then 64 bits
and the least byte first, and further on that it is shared. -/
def isShared (bytes : ByteArray) : Bool :=
  number? bytes 0 4 == some 0x464c457f && number? bytes 4 2 == some 0x102 &&
    number? bytes 16 2 == some 3

/-- The section whose header stands at a place. -/
def section? (bytes : ByteArray) (place : Nat) : Option Section := do
  let kind ← number? bytes (place + 4) 4
  let start ← number? bytes (place + 24) 8
  let size ← number? bytes (place + 32) 8
  let link ← number? bytes (place + 40) 4
  pure ⟨kind, start, size, link⟩

/-- All sections. -/
def sections? (bytes : ByteArray) : Option (List Section) := do
  let start ← number? bytes 40 8
  let length ← number? bytes 58 2
  let count ← number? bytes 60 2
  (List.range count).mapM fun index => section? bytes (start + index * length)

/-- The bindings of symbols that are seen from outside: global, weak and unique. -/
def outsideBindings : List Nat := [1, 2, 10]

/-- The name of the symbol whose entry stands at a place, if the symbol is defined in the file and
seen from outside. -/
def exported? (bytes : ByteArray) (names place : Nat) : Option String := do
  let offset ← number? bytes place 4
  let info ← number? bytes (place + 4) 1
  let home ← number? bytes (place + 6) 2
  if home = 0 ∨ !outsideBindings.contains (info / 16) then none
  else
    let name ← name? bytes (names + offset) longestName
    String.fromUTF8? ⟨name.toArray⟩

/-- The names that a table of symbols exports. -/
def exportsOf (bytes : ByteArray) (sections : List Section) (table : Section) : List String :=
  match sections[table.link]? with
  | none => []
  | some names =>
    (List.range (table.size / symbolLength)).filterMap fun index =>
      exported? bytes names.place (table.place + index * symbolLength)

/-- The symbols that a file exports; `none` if it is no library. -/
def exports? (bytes : ByteArray) : Option (List String) := do
  if !isShared bytes then none
  let sections ← sections? bytes
  pure ((sections.filter fun entry => entry.kind == dynamicSymbols).flatMap
    (exportsOf bytes sections))

end ExtensionProxy.SharedObject
