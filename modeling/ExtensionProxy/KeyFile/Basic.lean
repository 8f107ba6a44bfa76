import ExtensionProxy.OrderedMap

/-!
# Key files

A key file is a list of named groups, each a list of keys with their values.  Groups and keys are
listed in the order in which they first appeared; a key written again keeps its place and takes the
new value.
-/

set_option autoImplicit false

namespace ExtensionProxy

/-- Groups of `key=value` entries, both levels in order of first appearance. -/
structure KeyFile where
  /-- The groups by name. -/
  groups : OrderedMap String (OrderedMap String String)
  deriving DecidableEq, Repr

namespace KeyFile

/-- The key file without groups. -/
def empty : KeyFile := ⟨.empty⟩

instance : Inhabited KeyFile := ⟨empty⟩

/-- The names of the groups, in file order. -/
def groupNames (file : KeyFile) : List String := file.groups.keys

/-- Whether the group exists, with or without keys. -/
def hasGroup (file : KeyFile) (group : String) : Bool := file.groups.contains group

/-- The keys of a group in file order; none for an absent group. -/
def keys (file : KeyFile) (group : String) : List String :=
  match file.groups.get? group with
  | some entries => entries.keys
  | none => []

/-- The value of a key as it was written. -/
def string? (file : KeyFile) (group key : String) : Option String :=
  (file.groups.get? group).bind fun entries => entries.get? key

/-- Whether the group holds the key. -/
def hasKey (file : KeyFile) (group key : String) : Bool := (file.string? group key).isSome

/-- Makes sure that the group exists. -/
def openGroup (file : KeyFile) (group : String) : KeyFile :=
  ⟨file.groups.alter group fun entries => entries.getD .empty⟩

/-- Writes a value, in place or at the end of its group, which is created if needed. -/
def set (file : KeyFile) (group key value : String) : KeyFile :=
  ⟨file.groups.alter group fun entries => (entries.getD .empty).insert key value⟩

end KeyFile

end ExtensionProxy
