import ExtensionProxy.Proxy.Interface

/-!
# The journal

What is told about a session: the answers to its acts, and the journal of what scripts were called
for and what their acts were answered with.  Wrappers are shown with a number, counted from one in
the order in which they were shown first; a wrapper keeps its number.
-/

set_option autoImplicit false

namespace ExtensionProxy.Session

/-- A document as it is shown. -/
structure DocumentView where
  number : Nat
  handle : DocumentHandle
  /-- How many handlers each signal has, and last how many the editor has. -/
  handlers : List Nat
  deriving DecidableEq, Repr

/-- A workspace as it is shown. -/
structure WorkspaceView where
  number : Nat
  /-- The handle and the configuration. -/
  workspace : Workspace
  /-- How many handlers each signal has. -/
  handlers : List Nat
  deriving DecidableEq, Repr

/-- A category as it is shown. -/
structure CategoryView where
  number : Nat
  category : Category
  deriving DecidableEq, Repr

/-- What the host answers, as it is shown. -/
structure HostAnswer where
  /-- The document that it shows. -/
  current : Option DocumentHandle
  /-- How many categories it has. -/
  categories : Nat
  /-- Whether it had a workspace open when the proxy was made. -/
  workspace : Bool
  deriving DecidableEq, Repr

/-- The answer to an act. -/
inductive Reply where
  /-- Nothing to tell. -/
  | nothing
  | truth (value : Bool)
  /-- A number. -/
  | count (value : Nat)
  | text (value : String)
  /-- There is no record in the slot. -/
  | noRecord
  /-- There is no such wrapper. -/
  | noWrapper
  /-- No resolver was kept under the stem. -/
  | noResolver
  /-- Nothing is registered under the handle. -/
  | notRegistered
  /-- A failure. -/
  | refused (cause : Cause)
  /-- An event whose configuration has a syntax fault. -/
  | malformed (fault : KeyFile.SyntaxFault)
  /-- What became of an event. -/
  | outcome (value : DispatchOutcome)
  | loaded (presentation : Presentation) (offer : Offer) (record : Record)
  | record (value : Record)
  /-- The record was unloaded. -/
  | unloaded
  | panel (value : PanelHandle)
  /-- What became of an attempt to reach an instance. -/
  | delivery (value : Delivery Bool)
  /-- What a path is to the host. -/
  | probe (value : ProbeOutcome)
  | document (value : DocumentView)
  | host (value : HostAnswer)
  | workspace (value : WorkspaceView)
  | workspaceHandle (value : WorkspaceHandle)
  | category (value : CategoryView)
  | categories (values : List CategoryView)
  /-- The categories shown before. -/
  | held (values : List Category)
  | settings (value : Settings)
  /-- A module that was loaded, or not. -/
  | module (path : String) (source : Option FactorySource)

/-- Which sub-extension a script belongs to. -/
structure Speaker where
  /-- The stem that its factory is registered for. -/
  stem : String
  handle : ExtensionHandle
  deriving DecidableEq, Repr

/-- A sub-extension as it is shown in the journal. -/
def Speaker.display (speaker : Speaker) : String := speaker.stem ++ "@" ++ speaker.handle.display

/-- An entry of the journal. -/
inductive Entry where
  /-- A text that a script noted. -/
  | note (text : String)
  /-- A factory was called. -/
  | created (speaker : Speaker) (context : ExtensionContext) (current : Option DocumentHandle)
  /-- An instance was told of a document. -/
  | documentOpened (speaker : Speaker) (doc : DocumentHandle) (number : Nat)
  /-- An instance was told of a workspace. -/
  | workspaceOpened (speaker : Speaker) (number : Nat) (workspace : Workspace)
  /-- An instance was told that the workspace is closing. -/
  | workspaceClosed (speaker : Speaker)
  /-- An instance was asked for its panel. -/
  | configured (speaker : Speaker) (dialog : DialogHandle)
  /-- An instance was asked for help. -/
  | helped (speaker : Speaker)
  /-- An instance was destroyed while the given number of bindings was held. -/
  | dropped (speaker : Speaker) (live : Nat)
  /-- A handler observed a document, which is still registered or not. -/
  | documentSignal (name : String) (doc : DocumentHandle) (registered : Bool)
  /-- A handler observed that the category of a document was set. -/
  | categoryChanged (name : String) (doc : DocumentHandle) (previous : Option CategoryView)
  /-- A handler observed an editor notification. -/
  | noted (name : String) (note : EditorNote)
  /-- A handler observed that a workspace is closing; there still is an open one or not. -/
  | workspaceSignal (name : String) (workspace : WorkspaceHandle) (opened : Bool)
  /-- A handler observed a dialog. -/
  | dialog (name : String) (dialog : DialogHandle)
  /-- A task was started. -/
  | task (name : String)
  /-- The host was asked to open a link. -/
  | uri (uri : String)
  /-- A script did something. -/
  | did (name : String) (reply : Reply)

end ExtensionProxy.Session
