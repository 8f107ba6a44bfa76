import ExtensionProxy.Proxy.Dispatch
import ExtensionProxy.Proxy.Lifecycle

/-!
# What a proxy does for its host

`serve` carries out every request, and `State.create` makes a proxy.  Whatever is requested while
foreign code is running is carried out in the same way as at the top of the stack.
-/

set_option autoImplicit false

namespace ExtensionProxy

variable {κ μ α : Type}

/-! ## Deferred tasks -/

/-- Does a deferred task.  A deferred notice whose target is running again is dropped. -/
def runDeferred (call : Caller κ μ) (task : Task (Deferred κ)) : Run (State κ μ) Unit := do
  match task.code with
  | .task code => call (.task code)
  | .delivery target handle number notice event =>
    match ← notify call target number notice with
    | .busy =>
      Run.note (.lost number target)
      Run.tell ⟨.warn, "Sub-extension still busy, delivery dropped",
        [("handle", handle.display), ("event", event)]⟩
    | .gone => Run.note (.lost number target)
    | .delivered () => pure ()

/-- Does the deferred tasks that wait; tells how many were started. -/
def runPending (call : Caller κ μ) : Run (State κ μ) Nat := do
  let s ← Run.get
  let ran ← Run.during (.drain s.tasks.nextSeq) (Run.onStop
    (do
      let ran ← TaskQueue.drain State.tasksLens (runDeferred call)
      Run.note .drained
      pure ran)
    (Run.note .broken))
  if ran > 0 then
    let s ← Run.get
    Run.tell ⟨.debug, "Drained deferred tasks",
      [("ran", toString ran), ("pending", toString s.tasks.pending)]⟩
  pure ran

/-- Cancels the waiting tasks of an owner; tells how many. -/
def cancelTasks (owner : ExtensionHandle) : Run (State κ μ) Nat := do
  Run.note (.cancelled owner)
  let s ← Run.get
  Run.modify (State.tasksLens.modify fun queue => queue.cancelOwner owner)
  pure (s.tasks.ownedBy owner)

/-- Releases the observers and tasks of an owner that nobody cleans up. -/
def renounceOwner (owner : ExtensionHandle) : Run (State κ μ) Unit := do
  Run.note (.cancelled owner)
  releaseOwner owner

/-! ## Requests -/

/-- Loads the descriptor at a path into a slot. -/
def loadSlot (site : Site κ) (call : Caller κ μ) (slot : String) (handle : ExtensionHandle)
    (path : String) : Run (State κ μ) (Option (Presentation × Offer)) := do
  match ← loadRecord site handle path with
  | none => pure none
  | some id =>
    let s ← Run.get
    let told := (s.record? id).map fun record =>
      (record.descriptor.presentation, record.descriptor.offer)
    storeRecord call slot id
    pure told

/-- Unloads the record in a slot. -/
def unloadSlot (call : Caller κ μ) (slot : String) :
    Run (State κ μ) (Option (Except Cause Unit)) := do
  match ← takeRecord slot with
  | none => pure none
  | some (id, record) =>
    let result ← unloadRecord call id record
    pure (some result)

/-- Drops the record in a slot; whether there was one. -/
def dropSlot (call : Caller κ μ) (slot : String) : Run (State κ μ) Bool := do
  match ← takeRecord slot with
  | none => pure false
  | some (id, _) =>
    dropRecord call id
    pure true

/-- Lets the registered instance of a handle show help. -/
def deliverHelp (call : Caller κ μ) (handle : ExtensionHandle) :
    Run (State κ μ) (Option (Delivery Bool)) := do
  let s ← Run.get
  match s.registry.get? handle with
  | none => pure none
  | some entry =>
    let delivery ← deliver call entry.target fun code => call (.help entry.target code)
    pure (some delivery)

/-- Drops the handlers of an owner from the topics that are meant; tells how many. -/
def disconnectOwner (meant : Topic → Bool) (owner : ExtensionHandle) : Run (State κ μ) Nat := do
  let s ← Run.get
  Run.modify (State.observersLens.modify fun observers => observers.dropOwner meant owner)
  pure (s.observers.ownedBy meant owner)

/-- Connects a handler to a signal; gives its id. -/
def connectTopic (topic : Topic) (owner : Option ExtensionHandle) (code : κ) :
    Run (State κ μ) Nat := do
  let s ← Run.get
  Run.modify ((State.signalLens topic).modify fun signal => signal.connect owner code)
  pure (s.observers.signal topic).nextId

/-- Disconnects a handler from a signal; whether it was connected. -/
def disconnectTopic (topic : Topic) (id : Nat) : Run (State κ μ) Bool := do
  let s ← Run.get
  Run.modify ((State.signalLens topic).modify fun signal => signal.disconnect id)
  pure ((s.observers.signal topic).isConnected id)

/-- Binds a module and keeps the binding. -/
def bindModule (binder : Binder κ) (files : FileTree κ) (path factory : String) :
    Run (State κ μ) (Except Cause (BindingId × FactorySource)) := do
  match ← Run.zoom State.benchLens (Bench.bindBy binder files path factory) with
  | .ok binding => pure (.ok (binding.id, binding.factory.source))
  | .error cause => pure (.error cause)

/-- Gives back the binding of whoever bound a module. -/
def unbindModule (id : BindingId) : Run (State κ μ) Unit := do
  Run.note (.unbound id)
  Run.releaseBinding id

/-- Loads a module as a library and releases it at once. -/
def tryModule (files : FileTree κ) (path factory : String) :
    Run (State κ μ) (Option FactorySource) := do
  match ← Run.zoom State.benchLens (Bench.loadBy (κ := κ) .libraries files path factory) with
  | some binding =>
    Run.releaseBinding binding.id
    pure (some binding.factory.source)
  | none => pure none

/-- Carries out a request, calling foreign code as it is. -/
def answer (site : Site κ) (call : Caller κ μ) (request : Request κ μ) :
    Run (State κ μ) (Request.Answer request) :=
  match request with
  | .dispatch event => ExtensionProxy.dispatch call event
  | .load slot handle path => loadSlot site call slot handle path
  | .init slot => withRecord call slot fun id record => initRecord site call id record
  | .cleanup slot => withRecord call slot fun id record => cleanupRecord call id record
  | .unload slot => unloadSlot call slot
  | .dropRecord slot => dropSlot call slot
  | .help slot => withRecord call slot fun _ record => helpRecord call record
  | .configure slot dialog =>
    withRecord call slot fun _ record => configureRecord call record dialog
  | .showHelp slot => withRecord call slot fun _ record => ExtensionProxy.showHelp call record
  | .deliver handle => deliverHelp call handle
  | .probe path => Run.zoom State.benchLens (site.probe path)
  | .runPending => ExtensionProxy.runPending call
  | .schedule owner code =>
    Run.modify (State.tasksLens.modify fun queue => queue.schedule owner (.task code))
  | .cancel owner => cancelTasks owner
  | .release owner => renounceOwner owner
  | .setHost change => Run.modify fun s => { s with host := change s.host }
  | .addDocument handle => ExtensionProxy.addDocument handle
  | .removeDocument handle => ExtensionProxy.removeDocument handle
  | .connect topic owner code => connectTopic topic owner code
  | .disconnect topic id => disconnectTopic topic id
  | .disconnectDocument doc owner =>
    disconnectOwner (fun topic => topic.document? == some doc) owner
  | .disconnectWorkspace workspace owner =>
    disconnectOwner (fun topic => topic.workspace? == some workspace) owner
  | .emit topic emitted => emitTopic call topic emitted
  | .reloadCategories => ExtensionProxy.reloadCategories
  | .dropWorkspace => setWorkspace none
  | .bind path factory => bindModule site.binder site.files path factory
  | .unbind id => unbindModule id
  | .loadModule path factory => tryModule site.files path factory
  | .tell event => Run.tell event
  | .remember change => Run.modify fun s => s.remember change

/-- Carries out a request; every call of foreign code that comes of it is put into the history. -/
def serve (site : Site κ) : (proxyInterface κ μ).Service := fun call request =>
  answer site (Caller.noting call) request

/-! ## The beginning -/

/-- What is done when a proxy is made: a workspace that is already open is wrapped. -/
def begin (site : Site κ) : Run (State κ μ) Unit := do
  Run.tell ⟨.info, "Proxy created",
    [("descriptor_extension", site.settings.loader.descriptorExtension),
     ("module_extension", site.settings.loader.moduleExtension)]⟩
  let s ← Run.get
  match s.host.workspace with
  | none => pure ()
  | some (handle, config) =>
    Run.tell ⟨.debug, "Wrapping workspace already open", [("workspace", handle.display)]⟩
    let _ ← installWorkspace handle config

/-- A new proxy for a host. -/
def State.create (site : Site κ) (host : HostView) (memory : μ) : State κ μ :=
  (ExtensionProxy.begin site { host := host, memory := memory }).2

end ExtensionProxy
