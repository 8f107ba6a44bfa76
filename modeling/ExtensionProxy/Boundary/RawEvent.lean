import ExtensionProxy.Boundary.Bytes
import ExtensionProxy.Event.Host
import ExtensionProxy.KeyFile.Parser
import ExtensionProxy.Log

/-!
# Raw events

The host sends its events as records with a number for the kind and a field for everything that
any kind may need; the fields that the kind does not use are not looked at.  A kind that is not
known gives no event, and a workspace whose configuration is malformed is opened with an empty one.
-/

set_option autoImplicit false

namespace ExtensionProxy.Boundary

/-- The kinds of raw events. -/
inductive RawKind where
  /-- Something happened to a document. -/
  | document (moment : DocumentMoment)
  /-- The category of a document was set. -/
  | categorySet
  /-- The editor of a document has something to tell. -/
  | editor
  | workspaceOpened
  /-- The open workspace was closed. -/
  | workspaceClosed
  /-- Something happened to the properties dialog of the workspace. -/
  | dialog (moment : DialogMoment)
  /-- The host rebuilt its categories. -/
  | categoriesReloaded
  deriving DecidableEq, Repr

namespace RawKind

/-- The kinds in the order of their numbers, which begin at zero. -/
def all : List RawKind :=
  [.document .activated, .document .beforeSave, .document .closed, .categorySet,
   .document .created, .document .opened, .document .reloaded, .document .saved, .editor,
   .workspaceOpened, .workspaceClosed, .dialog .opened, .dialog .confirmed, .dialog .closed,
   .categoriesReloaded]

/-- The kind of a number. -/
def ofNumber? (number : Nat) : Option RawKind := all[number]?

/-- The name of a kind. -/
def name : RawKind → String
  | .document .activated => "DocumentActivated"
  | .document .beforeSave => "DocumentBeforeSave"
  | .document .closed => "DocumentClosed"
  | .document .created => "DocumentCreated"
  | .document .opened => "DocumentOpened"
  | .document .reloaded => "DocumentReloaded"
  | .document .saved => "DocumentSaved"
  | .categorySet => "DocumentCategoryChanged"
  | .editor => "EditorNotification"
  | .workspaceOpened => "WorkspaceOpened"
  | .workspaceClosed => "WorkspaceClosed"
  | .dialog .opened => "WorkspaceDialogOpened"
  | .dialog .confirmed => "WorkspaceDialogConfirmed"
  | .dialog .closed => "WorkspaceDialogClosed"
  | .categoriesReloaded => "CategoriesReloaded"

end RawKind

/-- A notification of an editor as it is sent. -/
structure RawNote where
  /-- The notification without its text. -/
  note : EditorNote
  text : Option Bytes := none
  deriving DecidableEq, Repr

/-- A notification as it is read. -/
def RawNote.read (raw : RawNote) : EditorNote := { raw.note with text := Bytes.read? raw.text }

/-- An event as it is sent. -/
structure RawEvent where
  /-- The number of the kind. -/
  kind : Nat
  document : DocumentHandle
  /-- The category that a document had before; zero for none. -/
  category : CategoryHandle
  workspace : WorkspaceHandle
  dialog : DialogHandle
  /-- The configuration of the workspace. -/
  config : Option Bytes
  /-- The notification of the editor. -/
  editor : RawNote
  deriving DecidableEq, Repr

namespace RawEvent

/-- The configuration of the workspace, and what is logged about it. -/
def readConfig (raw : RawEvent) : KeyFile × List LogEvent :=
  match KeyFile.parse (Bytes.readOr raw.config) with
  | .ok file => (file, [])
  | .error fault =>
    (.empty,
      [⟨.warn, "Malformed workspace configuration, using an empty one",
        [("error", fault.display)]⟩])

/-- The event of a given kind, and what is logged about it. -/
def readAs (raw : RawEvent) : RawKind → HostEvent × List LogEvent
  | .document moment => (.document moment raw.document, [])
  | .categorySet =>
    (.categorySet raw.document (if raw.category.isNull then none else some raw.category), [])
  | .editor => (.editor raw.document raw.editor.read, [])
  | .workspaceOpened =>
    let (config, log) := raw.readConfig
    (.workspaceOpened raw.workspace config, log)
  | .workspaceClosed => (.workspaceClosed, [])
  | .dialog moment => (.dialog moment raw.dialog, [])
  | .categoriesReloaded => (.categoriesReloaded, [])

/-- The event, unless its kind is not known, and what is logged about it. -/
def read (raw : RawEvent) : Option HostEvent × List LogEvent :=
  match RawKind.ofNumber? raw.kind with
  | none =>
    (none, [⟨.warn, "Unknown host event kind, dropped", [("kind", toString raw.kind)]⟩])
  | some kind =>
    let (event, log) := raw.readAs kind
    (some event, log)

end RawEvent

end ExtensionProxy.Boundary
