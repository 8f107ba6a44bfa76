import ExtensionProxy.Proxy.Delivery

/-!
# Dispatch

A host event is resolved to its wrapper.  It then goes either to the observers of that wrapper or,
as a notice, to every sub-extension that is registered when the fan-out starts, in the order of
registration.  A sub-extension that is running further up the stack gets the notice from the queue
of deferred tasks instead.

The observers of a closing document run while it is still registered; afterwards it is evicted.
-/

set_option autoImplicit false

namespace ExtensionProxy

variable {κ μ : Type}

/-! ## Wrappers -/

/-- The wrapper of a document; one is made if there is none. -/
def addDocument (handle : DocumentHandle) : Run (State κ μ) DocumentId :=
  IdentityCache.addWith State.documentsLens handle (do
    let s ← Run.get
    Run.modify fun s => { s with documentWrappers := s.documentWrappers ++ [handle] }
    pure ⟨s.documentWrappers.length⟩)

/-- Evicts a document. -/
def removeDocument (handle : DocumentHandle) : Run (State κ μ) Bool := do
  let s ← Run.get
  Run.modify fun s => { s with documents := s.documents.erase handle }
  Run.note (.evicted handle (s.documents.get? handle))
  pure (s.documents.contains handle)

/-- Wraps a workspace. -/
def wrapWorkspace (handle : WorkspaceHandle) (config : KeyFile) :
    Run (State κ μ) WorkspaceId := do
  let s ← Run.get
  Run.modify fun s =>
    { s with workspaceWrappers := s.workspaceWrappers ++ [⟨handle, config⟩] }
  pure ⟨s.workspaceWrappers.length⟩

/-- Replaces the open workspace; gives the one before. -/
def setWorkspace (workspace : Option WorkspaceId) : Run (State κ μ) (Option WorkspaceId) := do
  let s ← Run.get
  Run.modify fun s => { s with workspace := workspace }
  Run.note (.workspaceSet s.workspace workspace)
  pure s.workspace

/-- Wraps a workspace and makes it the open one; gives the one before. -/
def installWorkspace (handle : WorkspaceHandle) (config : KeyFile) :
    Run (State κ μ) (WorkspaceId × Option WorkspaceId) := do
  let opened ← wrapWorkspace handle config
  let before ← setWorkspace (some opened)
  pure (opened, before)

/-- Rebuilds the categories from the host's table. -/
def reloadCategories : Run (State κ μ) Unit := do
  let before ← Run.get
  let rows ← before.host.categories.read
  Run.modify fun s => { s with categories := s.categories.reload rows }
  let s ← Run.get
  Run.tell ⟨.debug, "Category cache rebuilt", [("categories", toString s.categories.size)]⟩

/-! ## Observers -/

/-- Emits a signal. -/
def emitTopic (call : Caller κ μ) (topic : Topic) (emitted : Emitted) :
    Run (State κ μ) Signal.Emission := do
  let s ← Run.get
  Run.during (.emission topic (s.observers.signal topic).slots)
    (Signal.emit (State.signalLens topic) fun slot => call (.observe topic slot emitted))

/-- The signal of a document that an event fires, if it fires one of them. -/
def DocumentMoment.signal? : DocumentMoment → Option DocumentSignal
  | .activated => some .activated
  | .beforeSave => some .beforeSave
  | .saved => some .saved
  | .reloaded => some .reloaded
  | .closed => some .closed
  | .created => none
  | .opened => none

/-- The signal of a workspace that fires at a moment of its dialog. -/
def DialogMoment.signal : DialogMoment → WorkspaceSignal
  | .opened => .dialogOpened
  | .confirmed => .dialogConfirmed
  | .closed => .dialogClosed

/-- Fires a signal of a document that has to be registered. -/
def fireDocument (call : Caller κ μ) (event : HostEvent) (doc : DocumentHandle)
    (signal : DocumentSignal) : Run (State κ μ) DispatchOutcome := do
  let s ← Run.get
  match s.documents.get? doc with
  | none =>
    Run.tell ⟨.debug, "No wrapper for document, dropped",
      [("event", event.name), ("document", doc.display)]⟩
    pure {}
  | some wrapper =>
    let emission ← emitTopic call (.document wrapper signal) .plain
    if signal = .closed then
      let _ ← removeDocument doc
    pure { resolved := true, observers := emission.ran }

/-- Fires the signal of an editor notification. -/
def fireEditor (call : Caller κ μ) (doc : DocumentHandle) (note : EditorNote) :
    Run (State κ μ) DispatchOutcome := do
  match note.kind with
  | none =>
    Run.tell ⟨.warn, "Unknown editor notification code, dropped",
      [("code", toString note.code), ("document", doc.display)]⟩
    pure {}
  | some kind =>
    let s ← Run.get
    match s.documents.get? doc with
    | none =>
      Run.tell ⟨.debug, "No wrapper for editor notification, dropped",
        [("document", doc.display), ("kind", kind.name)]⟩
      pure {}
    | some wrapper =>
      let emission ← emitTopic call (.editor wrapper kind) (.note note)
      pure { resolved := true, observers := emission.ran, handled := emission.handled }

/-- Fires a signal of the open workspace about its dialog. -/
def fireDialog (call : Caller κ μ) (event : HostEvent) (moment : DialogMoment)
    (dialog : DialogHandle) : Run (State κ μ) DispatchOutcome := do
  let s ← Run.get
  match s.workspace with
  | none =>
    Run.tell ⟨.warn, "No open workspace, dropped",
      [("event", event.name), ("dialog", dialog.display)]⟩
    pure {}
  | some workspace =>
    let emission ← emitTopic call (.workspace workspace moment.signal) (.dialog dialog)
    pure { resolved := true, observers := emission.ran }

/-! ## Notices -/

/-- Counts a notice that was delivered. -/
def DispatchOutcome.addDelivered (outcome : DispatchOutcome) : DispatchOutcome :=
  { outcome with delivered := outcome.delivered + 1 }

/-- Counts a notice that was deferred. -/
def DispatchOutcome.addDeferred (outcome : DispatchOutcome) : DispatchOutcome :=
  { outcome with deferred := outcome.deferred + 1 }

/-- Lets an instance take the notice of a dispatch. -/
def notify (call : Caller κ μ) (target : InstanceId) (number : Nat) (notice : Notice) :
    Run (State κ μ) (Delivery Unit) :=
  deliver call target fun code => call (.notify target code number notice)

/-- Sends a notice to one registered sub-extension: it is taken at once, or deferred, or skipped if
there is nobody to take it. -/
def notifyEntry (call : Caller κ μ) (event : String) (number : Nat) (notice : Notice)
    (handle : ExtensionHandle) (entry : Registration) (outcome : DispatchOutcome) :
    Run (State κ μ) DispatchOutcome := do
  Run.note (.reached number entry.target)
  match ← notify call entry.target number notice with
  | .delivered () => pure outcome.addDelivered
  | .gone =>
    Run.tell ⟨.debug, "Sub-extension gone, skipped",
      [("handle", handle.display), ("event", event)]⟩
    pure outcome
  | .busy =>
    Run.tell ⟨.warn, "Sub-extension busy, delivery deferred",
      [("handle", handle.display), ("name", entry.name), ("event", event)]⟩
    Run.modify (State.tasksLens.modify fun queue =>
      queue.schedule (some handle) (.delivery entry.target handle number notice event))
    pure outcome.addDeferred

/-- Sends a notice to the given entries, one after the other. -/
def notifyAll (call : Caller κ μ) (event : String) (number : Nat) (notice : Notice) :
    List (ExtensionHandle × Registration) → DispatchOutcome → Run (State κ μ) DispatchOutcome
  | [], outcome => pure outcome
  | (handle, entry) :: rest, outcome => do
    let next ← notifyEntry call event number notice handle entry outcome
    notifyAll call event number notice rest next

/-- Sends the notice of a dispatch to every sub-extension that is registered now. -/
def broadcast (call : Caller κ μ) (event : String) (number : Nat) (notice : Notice)
    (outcome : DispatchOutcome) : Run (State κ μ) DispatchOutcome := do
  Run.note (.fannedOut number notice)
  let s ← Run.get
  notifyAll call event number notice s.registry.entries outcome

/-! ## Events -/

/-- Opens a workspace, in place of one that may never have been closed, and announces it. -/
def openWorkspace (call : Caller κ μ) (event : HostEvent) (number : Nat)
    (handle : WorkspaceHandle) (config : KeyFile) : Run (State κ μ) DispatchOutcome := do
  let (opened, before) ← installWorkspace handle config
  let s ← Run.get
  match before.bind s.workspaceWrapper? with
  | some replaced =>
    Run.tell ⟨.debug, "Replacing workspace that was never closed",
      [("workspace", replaced.handle.display)]⟩
  | none => pure ()
  broadcast call event.name number (.workspaceOpened opened) { resolved := true }

/-- Closes the open workspace: its observers run and its closing is announced while it is still the
open one. -/
def closeWorkspace (call : Caller κ μ) (event : HostEvent) (number : Nat) :
    Run (State κ μ) DispatchOutcome := do
  let s ← Run.get
  let observers ← match s.workspace with
    | some workspace => do
      let emission ← emitTopic call (.workspace workspace .closed) .plain
      pure emission.ran
    | none => do
      Run.tell ⟨.debug, "No workspace wrapper to close, broadcasting only", []⟩
      pure 0
  let outcome ← broadcast call event.name number .workspaceClosed
    { resolved := true, observers := observers }
  let _ ← setWorkspace none
  pure outcome

/-- Announces a document that was created or opened. -/
def openDocument (call : Caller κ μ) (event : HostEvent) (number : Nat) (doc : DocumentHandle) :
    Run (State κ μ) DispatchOutcome := do
  let wrapper ← addDocument doc
  broadcast call event.name number (.documentOpened wrapper) { resolved := true }

/-- Tells the observers of a document that its category was set. -/
def setCategory (call : Caller κ μ) (doc : DocumentHandle) (previous : Option CategoryHandle) :
    Run (State κ μ) DispatchOutcome := do
  let wrapper ← addDocument doc
  let s ← Run.get
  let emission ← emitTopic call (.document wrapper .categoryChanged)
    (.category (previous.bind s.categories.lookup))
  pure { resolved := true, observers := emission.ran }

/-- Does what an event asks for. -/
def routeEvent (call : Caller κ μ) (event : HostEvent) (number : Nat) :
    Run (State κ μ) DispatchOutcome :=
  match event with
  | .document moment doc =>
    match moment.signal? with
    | some signal => fireDocument call event doc signal
    | none => openDocument call event number doc
  | .categorySet doc previous => setCategory call doc previous
  | .editor doc note => fireEditor call doc note
  | .workspaceOpened handle config => openWorkspace call event number handle config
  | .workspaceClosed => closeWorkspace call event number
  | .dialog moment dialog => fireDialog call event moment dialog
  | .categoriesReloaded => do
    reloadCategories
    pure { resolved := true }

/-- Takes the number of the next dispatch. -/
def takeNumber (event : HostEvent) : Run (State κ μ) Nat := do
  let s ← Run.get
  Run.modify fun s => { s with dispatches := s.dispatches + 1 }
  Run.note (.dispatched s.dispatches event)
  pure s.dispatches

/-- Dispatches a host event. -/
def dispatch (call : Caller κ μ) (event : HostEvent) : Run (State κ μ) DispatchOutcome := do
  let number ← takeNumber event
  Run.tell ⟨.debug, "Dispatching host notification", [("event", event.name)]⟩
  let outcome ← routeEvent call event number
  Run.note (.settled number outcome)
  pure outcome

end ExtensionProxy
