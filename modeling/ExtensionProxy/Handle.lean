/-!
# Handles

The host names its objects by opaque numbers of 64 bits.  A handle carries the kind of object it
names, so that the handle of a category is never taken for one of a document.  A handle has no
meaning beyond identity; zero is the host's null handle.
-/

set_option autoImplicit false

namespace ExtensionProxy

/-- The kinds of objects that the host names. -/
inductive HandleKind where
  /-- An open document. -/
  | document
  /-- A category of documents. -/
  | category
  /-- A loaded sub-extension. -/
  | extension
  /-- The open workspace. -/
  | workspace
  /-- A dialog that a panel may be attached to. -/
  | dialog
  /-- A configuration panel built by a sub-extension. -/
  | panel
  deriving DecidableEq, Repr

/-- The host's name for an object of one kind. -/
structure Handle (kind : HandleKind) where
  /-- The host's number. -/
  raw : UInt64
  deriving DecidableEq, Repr

/-- The handle of a document. -/
abbrev DocumentHandle := Handle .document
/-- The handle of a category. -/
abbrev CategoryHandle := Handle .category
/-- The handle of a sub-extension. -/
abbrev ExtensionHandle := Handle .extension
/-- The handle of a workspace. -/
abbrev WorkspaceHandle := Handle .workspace
/-- The handle of a dialog. -/
abbrev DialogHandle := Handle .dialog
/-- The handle of a panel. -/
abbrev PanelHandle := Handle .panel

/-- The digits of a number in base sixteen, lower case, without leading zeros. -/
def hexDigits (n : Nat) : String := String.ofList (Nat.toDigits 16 n)

namespace Handle

variable {kind : HandleKind}

instance : Inhabited (Handle kind) := ⟨⟨0⟩⟩

/-- Whether this is the host's null handle. -/
def isNull (h : Handle kind) : Bool := h.raw == 0

/-- Handles are ordered by number. -/
def less (a b : Handle kind) : Bool := a.raw < b.raw

/-- A handle as it is shown: its number in base sixteen. -/
def display (h : Handle kind) : String := "0x" ++ hexDigits h.raw.toNat

/-- Reads a handle from an integer of any size; only numbers of 64 bits are handles. -/
def ofInt? (value : Int) : Option (Handle kind) :=
  if 0 ≤ value ∧ value < UInt64.size then some ⟨value.toNat.toUInt64⟩ else none

end Handle

/-- The name of the type of handles of a kind. -/
def HandleKind.typeName : HandleKind → String
  | .document => "DocumentHandle"
  | .category => "CategoryHandle"
  | .extension => "ExtensionHandle"
  | .workspace => "WorkspaceHandle"
  | .dialog => "DialogHandle"
  | .panel => "PanelHandle"

/-- A handle as it is shown for inspection: its type and its number in base ten. -/
def Handle.inspect {kind : HandleKind} (h : Handle kind) : String :=
  kind.typeName ++ "(" ++ toString h.raw.toNat ++ ")"

end ExtensionProxy
