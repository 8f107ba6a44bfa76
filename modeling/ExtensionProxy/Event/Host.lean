import ExtensionProxy.Event.Editor
import ExtensionProxy.Handle
import ExtensionProxy.KeyFile.Basic

/-!
# Host events

The fifteen notifications that the proxy takes from the host.  Two tables classify them: how the
document handle of an event is resolved, and which events go to every loaded sub-extension.
-/

set_option autoImplicit false

namespace ExtensionProxy

/-- What may happen to a document. -/
inductive DocumentMoment where
  /-- It became the active one. -/
  | activated
  /-- It is about to be written. -/
  | beforeSave
  /-- It is closing; its handle is invalid afterwards. -/
  | closed
  /-- It was created empty. -/
  | created
  /-- It was opened from a file. -/
  | opened
  /-- It was read again from its file. -/
  | reloaded
  /-- It was written. -/
  | saved
  deriving DecidableEq, Repr

/-- What may happen to the properties dialog of the workspace. -/
inductive DialogMoment where
  | opened
  | confirmed
  | closed
  deriving DecidableEq, Repr

/-- A notification from the host. -/
inductive HostEvent where
  /-- Something happened to a document. -/
  | document (moment : DocumentMoment) (doc : DocumentHandle)
  /-- The category of a document was set; this may come before the document is created or
  opened. -/
  | categorySet (doc : DocumentHandle) (previous : Option CategoryHandle)
  /-- The editor of a document has something to tell. -/
  | editor (doc : DocumentHandle) (note : EditorNote)
  | workspaceOpened (workspace : WorkspaceHandle) (config : KeyFile)
  /-- The open workspace was closed. -/
  | workspaceClosed
  /-- Something happened to the properties dialog of the workspace. -/
  | dialog (moment : DialogMoment) (dialog : DialogHandle)
  /-- The host rebuilt its categories. -/
  | categoriesReloaded
  deriving DecidableEq, Repr

/-- How the document handle of an event is resolved. -/
inductive Resolution where
  /-- The document is registered if it is not yet. -/
  | create
  /-- The document must be registered; otherwise the event is dropped. -/
  | lookup
  /-- The event carries no document handle. -/
  | none
  deriving DecidableEq, Repr

namespace HostEvent

/-- The host's name of an event. -/
def name : HostEvent → String
  | .document .activated _ => "document-activate"
  | .document .beforeSave _ => "document-before-save"
  | .document .closed _ => "document-close"
  | .document .created _ => "document-new"
  | .document .opened _ => "document-open"
  | .document .reloaded _ => "document-reload"
  | .document .saved _ => "document-save"
  | .categorySet _ _ => "document-filetype-set"
  | .editor _ _ => "editor-notify"
  | .workspaceOpened _ _ => "project-open"
  | .workspaceClosed => "project-close"
  | .dialog .opened _ => "project-dialog-open"
  | .dialog .confirmed _ => "project-dialog-confirmed"
  | .dialog .closed _ => "project-dialog-close"
  | .categoriesReloaded => "filetypes-reloaded"

/-- How the document handle of an event is resolved. -/
def resolution : HostEvent → Resolution
  | .document .created _ => .create
  | .document .opened _ => .create
  | .categorySet _ _ => .create
  | .document _ _ => .lookup
  | .editor _ _ => .lookup
  | _ => .none

/-- Whether the event goes to every loaded sub-extension. -/
def isBroadcast : HostEvent → Bool
  | .document .created _ => true
  | .document .opened _ => true
  | .workspaceOpened _ _ => true
  | .workspaceClosed => true
  | _ => false

/-- The document that the event is about. -/
def document? : HostEvent → Option DocumentHandle
  | .document _ doc => some doc
  | .categorySet doc _ => some doc
  | .editor doc _ => some doc
  | _ => none

end HostEvent

end ExtensionProxy
