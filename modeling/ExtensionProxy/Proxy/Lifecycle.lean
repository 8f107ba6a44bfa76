import ExtensionProxy.Proxy.Delivery

/-!
# The lifecycle of a record

A record is made for a valid descriptor and holds nothing.  Initializing it binds its module, makes
an instance and registers it; cleaning it up takes all of that back, the instance always before the
module.  Cleaning up from inside the sub-extension's own code is refused: the instance is then no
longer registered and no longer owned, but its module stays bound.

The host keeps its records in slots.  While one is worked on its slot is empty.
-/

set_option autoImplicit false

namespace ExtensionProxy

variable {κ μ α : Type}

/-- Changes a record. -/
def changeRecord (id : RecordId) (change : Record → Record) : Run (State κ μ) Unit :=
  Run.modify fun s => s.modifyRecord id change

/-- Drops the observers of an owner from every registered document and from the open workspace, and
the tasks that it still has in the queue. -/
def releaseOwner (owner : ExtensionHandle) : Run (State κ μ) Unit := do
  Run.note (.freed owner)
  let s ← Run.get
  let meant := s.isReachable
  let observers := s.observers.ownedBy meant owner
  let tasks := s.tasks.ownedBy owner
  Run.modify fun s => { s with
    observers := s.observers.dropOwner meant owner
    tasks := s.tasks.cancelOwner owner }
  Run.tell ⟨.debug, "Released sub-extension resources",
    [("handle", owner.display), ("observers", toString observers), ("tasks", toString tasks)]⟩

/-! ## Loading -/

/-- Reads the descriptor at a path and makes a record for it. -/
def loadRecord (site : Site κ) (handle : ExtensionHandle) (path : String) :
    Run (State κ μ) (Option RecordId) := do
  match site.descriptor path with
  | .error cause =>
    Run.tell ⟨.warn, "Failed to load descriptor",
      [("path", path), ("handle", handle.display), ("error", cause.fault.display)]⟩
    pure none
  | .ok descriptor =>
    match descriptor.modulePath? site.settings.loader with
    | none => Run.panic (some (Path.extensionPanic site.settings.loader.moduleExtension))
    | some modulePath => do
      let s ← Run.get
      let id : RecordId := ⟨s.recordCount⟩
      Run.modify fun s => { s with
        records := s.records.insert id ⟨handle, descriptor, modulePath, .probed, none, none⟩
        recordCount := s.recordCount + 1 }
      Run.tell ⟨.info, "Sub-extension loaded",
        [("handle", handle.display), ("name", descriptor.name), ("path", path)]⟩
      pure (some id)

/-! ## Initializing -/

/-- Registers the instance that a factory made, and hands it and its module to the record.  If the
handle was registered in the meantime, the instance is destroyed and the module released. -/
def adopt (call : Caller κ μ) (id : RecordId) (record : Record) (binding : BindingId)
    (code : κ) : Run (State κ μ) (Except Cause Bool) := do
  let s ← Run.get
  let target : InstanceId := ⟨s.instances.length⟩
  Run.modify fun s => { s with instances := s.instances ++ [⟨code, binding, true, false⟩] }
  let entry : Registration := ⟨record.descriptor.name, target⟩
  match IdentityCache.insertNew s.registry record.handle entry with
  | none =>
    Run.ensuring (releaseInstance call target) (Run.releaseBinding binding)
    pure (.error (.alreadyRegistered record.handle.display))
  | some registry =>
    Run.modify fun s => { s with registry := registry }
    Run.releaseBinding? record.module
    changeRecord id fun record =>
      { record with target := some target, module := some binding, stage := .initialized }
    Run.note (.initialized id record.handle entry)
    Run.tell ⟨.info, "Sub-extension initialized",
      [("handle", record.handle.display), ("name", record.descriptor.name),
       ("path", record.modulePath)]⟩
    pure (.ok true)

/-- Lets the factory of a bound module make an instance.  If it declines the module is released and
the record has no module to show for it. -/
def construct (call : Caller κ μ) (id : RecordId) (record : Record) (binding : Binding κ) :
    Run (State κ μ) (Except Cause Bool) := do
  changeRecord id fun record => { record with stage := .loaded }
  let s ← Run.get
  let context := ExtensionContext.make record.handle record.descriptor record.modulePath
    s.host.configDir
  let made ← Run.onStop (call (.create binding.id binding.factory.code context))
    (Run.releaseBinding binding.id)
  match made with
  | some code => adopt call id record binding.id code
  | none =>
    Run.tell ⟨.warn, "Factory produced no instance",
      [("handle", record.handle.display), ("name", record.descriptor.name)]⟩
    Run.releaseBinding binding.id
    changeRecord id fun record => { record with stage := .probed }
    pure (.ok false)

/-- Binds the module of a record, makes an instance and registers it; `false` if the module cannot
be bound or its factory declines. -/
def initRecord (site : Site κ) (call : Caller κ μ) (id : RecordId) (record : Record) :
    Run (State κ μ) (Except Cause Bool) := do
  let s ← Run.get
  if record.isInitialized then
    Run.tell ⟨.warn, "Sub-extension already initialized",
      [("handle", record.handle.display), ("name", record.descriptor.name)]⟩
    pure (.ok true)
  else if s.registry.contains record.handle then pure (.error (.handleTaken record.handle))
  else
    match ← Run.zoom State.benchLens
        (Bench.loadBy site.binder site.files record.modulePath site.settings.loader.factorySymbol)
      with
    | some binding => construct call id record binding
    | none =>
      Run.tell ⟨.warn, "Module did not load",
        [("handle", record.handle.display), ("path", record.modulePath)]⟩
      pure (.ok false)

/-! ## Cleaning up -/

/-- Destroys the instance of a record and releases its module, in this order; refused if the
instance is running. -/
def dismantle (call : Caller κ μ) (id : RecordId) (record : Record) (target : InstanceId) :
    Run (State κ μ) (Except Cause Unit) := do
  let s ← Run.get
  if s.isRunning target then
    releaseInstance call target
    pure (.error (.stillInUse record.handle))
  else
    releaseInstance call target
    Run.releaseBinding? record.module
    changeRecord id fun record => { record with module := none, stage := .cleanedUp }
    Run.tell ⟨.info, "Sub-extension cleaned up",
      [("handle", record.handle.display), ("name", record.descriptor.name)]⟩
    Run.note (.cleaned record)
    pure (.ok ())

/-- Takes back what initializing a record did.  A record without an instance only releases its
module. -/
def cleanupRecord (call : Caller κ μ) (id : RecordId) (record : Record) :
    Run (State κ μ) (Except Cause Unit) := do
  Run.note (.cleaning record)
  match record.target with
  | none =>
    Run.releaseBinding? record.module
    changeRecord id fun record => { record with module := none }
    Run.note (.cleaned record)
    pure (.ok ())
  | some target =>
    changeRecord id fun record => { record with target := none }
    Run.modify fun s => { s with registry := s.registry.erase record.handle }
    releaseOwner record.handle
    dismantle call id record target

/-- Drops a record without cleaning it up: the instance goes first, then the module. -/
def dropRecord (call : Caller κ μ) (id : RecordId) : Run (State κ μ) Unit := do
  let s ← Run.get
  match s.record? id with
  | none => pure ()
  | some record =>
    Run.note (.discarded record)
    Run.modify fun s => { s with records := s.records.erase id }
    match record.target with
    | some target =>
      Run.ensuring (releaseInstance call target) (Run.releaseBinding? record.module)
    | none => Run.releaseBinding? record.module

/-- Cleans a record up and takes its entry out of the registry, whose it may be. -/
def retireRecord (call : Caller κ μ) (id : RecordId) (record : Record) :
    Run (State κ μ) (Except Cause Unit) := do
  if record.isInitialized then
    Run.tell ⟨.debug, "Unloading an initialized sub-extension",
      [("handle", record.handle.display)]⟩
  match ← cleanupRecord call id record with
  | .error cause => pure (.error cause)
  | .ok () =>
    let s ← Run.get
    Run.modify fun s => { s with registry := s.registry.erase record.handle }
    Run.note (.unregistered record.handle (s.registry.get? record.handle))
    Run.tell ⟨.info, "Sub-extension unloaded",
      [("handle", record.handle.display), ("name", record.descriptor.name)]⟩
    pure (.ok ())

/-- Cleans a record up and drops it; the record goes also if cleaning up is refused. -/
def unloadRecord (call : Caller κ μ) (id : RecordId) (record : Record) :
    Run (State κ μ) (Except Cause Unit) :=
  Run.ensuring (retireRecord call id record) (dropRecord call id)

/-! ## Asking the instance -/

/-- Runs a callback of the instance of a record; `none` if there is no instance or it is running. -/
def reachRecord (call : Caller κ μ) (record : Record)
    (callback : InstanceId → κ → Run (State κ μ) α) : Run (State κ μ) (Option α) := do
  match record.target with
  | none => pure none
  | some target =>
    match ← deliver call target (callback target) with
    | .delivered value => pure (some value)
    | .gone => pure none
    | .busy =>
      Run.tell ⟨.warn, "Sub-extension busy, request dropped", [("handle", record.handle.display)]⟩
      pure none

/-- Lets the instance of a record show help; whether it did. -/
def showHelp (call : Caller κ μ) (record : Record) : Run (State κ μ) (Option Bool) :=
  reachRecord call record fun target code => call (.help target code)

/-- Shows help for a record: the instance gets the first chance, then the link of the descriptor is
opened.  Tells whether help is offered at all. -/
def helpRecord (call : Caller κ μ) (record : Record) : Run (State κ μ) Bool := do
  if record.descriptor.providesHelp then
    match ← showHelp call record with
    | some true => pure true
    | _ =>
      call (.openUri record.descriptor.helpUri)
      pure true
  else pure false

/-- Builds the configuration panel of a record. -/
def configureRecord (call : Caller κ μ) (record : Record) (dialog : DialogHandle) :
    Run (State κ μ) (Option PanelHandle) := do
  if record.descriptor.configurable then
    match ← reachRecord call record fun target code => call (.configure target code dialog) with
    | some panel => pure panel
    | none => pure none
  else pure none

/-! ## Slots -/

/-- Puts a record into a slot; a record that is already there is dropped. -/
def storeRecord (call : Caller κ μ) (slot : String) (id : RecordId) : Run (State κ μ) Unit := do
  let s ← Run.get
  Run.modify fun s => { s with slots := s.slots.insert slot id }
  match s.slots.get? slot with
  | some old => dropRecord call old
  | none => pure ()

/-- Takes the record out of a slot; `none` if there is none. -/
def takeRecord (slot : String) : Run (State κ μ) (Option (RecordId × Record)) := do
  let s ← Run.get
  match s.slots.get? slot with
  | none => pure none
  | some id =>
    Run.modify fun s => { s with slots := s.slots.erase slot }
    pure ((s.record? id).map fun record => (id, record))

/-- Works on the record in a slot and puts it back, however the work ends. -/
def withRecord (call : Caller κ μ) (slot : String)
    (work : RecordId → Record → Run (State κ μ) α) : Run (State κ μ) (Option α) := do
  match ← takeRecord slot with
  | none => pure none
  | some (id, record) =>
    let value ← Run.ensuring (work id record) (storeRecord call slot id)
    pure (some value)

end ExtensionProxy
