import ExtensionProxy.Category
import ExtensionProxy.Event.Host
import ExtensionProxy.KeyFile.Parser
import ExtensionProxy.Proxy.Topic

/-!
# Acts

Sub-extensions, observers and tasks given as data.  An act is one thing that a script asks of the
proxy or of its host; a body is a list of acts.  Acts name wrappers and owners either outright or
by the place they stand at: the sub-extension whose script it is, the document or workspace that the
script is being told about, or the wrapper shown at some earlier time.
-/

set_option autoImplicit false

namespace ExtensionProxy.Session

/-- How an act names a document wrapper. -/
inductive DocumentRef where
  /-- The registered wrapper of a handle. -/
  | handle (handle : DocumentHandle)
  /-- The wrapper that the script is being told about. -/
  | current
  /-- The wrapper shown as the one with the given number, registered or not. -/
  | shown (number : Nat)
  deriving DecidableEq, Repr

/-- How an act names a workspace wrapper. -/
inductive WorkspaceRef where
  /-- The open workspace. -/
  | opened
  /-- The wrapper that the script is being told about. -/
  | current
  /-- The wrapper shown as the one with the given number, open or not. -/
  | shown (number : Nat)
  deriving DecidableEq, Repr

/-- How an act names a sub-extension. -/
inductive OwnerRef where
  | handle (handle : ExtensionHandle)
  /-- The one whose script it is. -/
  | self
  deriving DecidableEq, Repr

/-- How an act names a signal. -/
inductive SignalRef where
  | document (doc : DocumentRef) (signal : DocumentSignal)
  /-- A signal of a document's editor. -/
  | editor (doc : DocumentRef) (kind : EditorKind)
  | workspace (workspace : WorkspaceRef) (signal : WorkspaceSignal)
  deriving DecidableEq, Repr

/-- What is to be inspected. -/
inductive InspectRef where
  /-- The deferred tasks. -/
  | tasks
  /-- The registered documents. -/
  | documents
  /-- The registered sub-extensions. -/
  | extensions
  /-- The entries of the registry. -/
  | entries
  | binder
  | document (doc : DocumentRef)
  /-- The open workspace. -/
  | workspace
  /-- What the proxy shares. -/
  | context
  | proxy
  /-- The resolver kept by the sub-extensions of a stem. -/
  | resolver (stem : String)
  | record (slot : String)
  deriving DecidableEq, Repr

mutual

/-- What an act does. -/
inductive Deed where
  /-- Notes a text in the journal. -/
  | note (text : String)
  /-- Dispatches an event, about the given document if there is one; an event whose workspace
  configuration has a syntax fault is not dispatched. -/
  | dispatch (doc : Option DocumentRef) (event : Except KeyFile.SyntaxFault HostEvent)
  /-- Loads a descriptor into a slot. -/
  | load (slot : String) (handle : ExtensionHandle) (path : String)
  /-- Initializes the record in a slot. -/
  | init (slot : String)
  /-- Cleans the record in a slot up. -/
  | cleanup (slot : String)
  /-- Unloads the record in a slot. -/
  | unload (slot : String)
  | dropRecord (slot : String)
  /-- Shows the record in a slot. -/
  | record (slot : String)
  /-- Shows help for the record in a slot. -/
  | help (slot : String)
  /-- Builds the panel of the record in a slot. -/
  | configure (slot : String) (dialog : DialogHandle)
  /-- Lets the instance of the record in a slot show help. -/
  | showHelp (slot : String)
  /-- Lets a registered instance show help. -/
  | deliver (handle : OwnerRef)
  | probe (path : String)
  /-- Runs the deferred tasks. -/
  | runPending
  /-- Schedules a task. -/
  | schedule (name : String) (owner : Option OwnerRef) (body : List Act)
  /-- Cancels the tasks of an owner. -/
  | cancel (owner : OwnerRef)
  /-- Releases the observers and tasks of an owner. -/
  | release (owner : OwnerRef)
  /-- Lets the host show a document. -/
  | setActive (doc : Option DocumentRef)
  /-- Shows the wrapper of the document that the host shows. -/
  | currentDocument
  /-- Shows what the host answers. -/
  | hostView
  /-- Asks the resolver kept by the sub-extensions of a stem. -/
  | resolve (stem : String)
  /-- Shows a document. -/
  | document (doc : DocumentRef)
  /-- Shows the wrapper of a document, which is made if there is none. -/
  | addDocument (doc : DocumentRef)
  /-- Evicts a document. -/
  | removeDocument (doc : DocumentRef)
  /-- Disconnects the handlers of an owner from a document. -/
  | disconnectDocument (doc : DocumentRef) (owner : OwnerRef)
  /-- Disconnects the handlers of an owner from a workspace. -/
  | disconnectWorkspace (workspace : WorkspaceRef) (owner : OwnerRef)
  /-- Emits a signal of a wrapper. -/
  | emit (signal : SignalRef)
  /-- Lets the editor of a document emit a notification. -/
  | emitNote (doc : DocumentRef) (note : EditorNote)
  /-- Connects a handler under a name. -/
  | connect (signal : SignalRef) (name : String) (owner : Option OwnerRef) (body : List Act)
      (ret : Bool) (retIfCh : Option Nat)
  /-- Disconnects the handler connected last under a name. -/
  | disconnect (name : String)
  /-- Sets the host's table of categories. -/
  | setCategories (rows : List CategoryRow)
  /-- Rebuilds the categories. -/
  | reloadCategories
  /-- Shows all categories. -/
  | categories
  /-- Shows the category of a handle. -/
  | category (handle : CategoryHandle)
  /-- Shows the first category with a name. -/
  | categoryNamed (name : String)
  /-- Shows every category that was shown before. -/
  | heldCategories
  /-- Shows a workspace. -/
  | workspace (workspace : WorkspaceRef)
  /-- Forgets the open workspace. -/
  | dropWorkspace
  /-- Binds a module and keeps the binding under a name. -/
  | bind (path factory name : String)
  /-- Gives a kept binding back. -/
  | unbind (name : String)
  /-- Loads a module as a library and releases it. -/
  | loadModule (path factory : String)
  /-- Shows the settings. -/
  | settings
  /-- Inspects a part of the proxy. -/
  | inspect (what : InspectRef)
  | panic (message : Option String)
  /-- Fails with a fault. -/
  | fail (message : String)

/-- An act of a script.  If `only` names a document, the act is passed over unless the script is
being told about that document. -/
inductive Act where
  /-- A deed under a condition. -/
  | mk (only : Option DocumentHandle) (deed : Deed)

end

/-- The condition of an act. -/
def Act.only : Act → Option DocumentHandle
  | .mk only _ => only

/-- What an act does. -/
def Act.deed : Act → Deed
  | .mk _ deed => deed

/-- The name of a deed, as it stands in the journal. -/
def Deed.name : Deed → String
  | .note _ => "note"
  | .dispatch _ _ => "dispatch"
  | .load _ _ _ => "load"
  | .init _ => "init"
  | .cleanup _ => "cleanup"
  | .unload _ => "unload"
  | .dropRecord _ => "drop_record"
  | .record _ => "record"
  | .help _ => "help"
  | .configure _ _ => "configure"
  | .showHelp _ => "with"
  | .deliver _ => "deliver"
  | .probe _ => "probe"
  | .runPending => "run_pending"
  | .schedule _ _ _ => "schedule"
  | .cancel _ => "cancel"
  | .release _ => "release"
  | .setActive _ => "set_active"
  | .currentDocument => "current"
  | .hostView => "host_current"
  | .resolve _ => "resolver"
  | .document _ => "doc"
  | .addDocument _ => "add_doc"
  | .removeDocument _ => "remove_doc"
  | .disconnectDocument _ _ => "disconnect_owner"
  | .disconnectWorkspace _ _ => "disconnect_owner"
  | .emit _ => "emit"
  | .emitNote _ _ => "emit"
  | .connect _ _ _ _ _ _ => "connect"
  | .disconnect _ => "disconnect"
  | .setCategories _ => "set_categories"
  | .reloadCategories => "reload_categories"
  | .categories => "categories"
  | .category _ => "category"
  | .categoryNamed _ => "category_named"
  | .heldCategories => "held_categories"
  | .workspace _ => "workspace"
  | .dropWorkspace => "drop_workspace"
  | .bind _ _ _ => "bind"
  | .unbind _ => "unbind"
  | .loadModule _ _ => "module"
  | .settings => "config"
  | .inspect _ => "debug"
  | .panic _ => "panic"
  | .fail _ => "fail"

/-- A sub-extension given as data. -/
structure ExtensionScript where
  /-- Whether the factory declines after its body. -/
  declines : Bool := false
  /-- What the factory does. -/
  create : List Act := []
  /-- What the instance does when a document was opened. -/
  documentOpened : List Act := []
  /-- What it does when a workspace was opened. -/
  workspaceOpened : List Act := []
  /-- What it does when the workspace is closing. -/
  workspaceClosed : List Act := []
  /-- What it does when its panel is asked for. -/
  configure : List Act := []
  /-- What it does when help is asked for. -/
  help : List Act := []
  /-- The panel that it gives. -/
  panel : Option PanelHandle := none
  /-- Whether it shows help itself. -/
  handlesHelp : Bool := false

end ExtensionProxy.Session
