import ExtensionProxy.Proxy.Interface

/-!
# A proxy under inspection

The texts under which the parts of a proxy are inspected.  A cache shows its handles only, a signal
or a queue how much it holds.
-/

set_option autoImplicit false

namespace ExtensionProxy

variable {κ μ : Type}

/-! ## Settings -/

/-- The loader settings as they are inspected. -/
def LoaderSettings.inspect (settings : LoaderSettings) : String :=
  Inspect.record "LoaderConfig"
    [("descriptor_group", Inspect.text settings.descriptorGroup),
     ("descriptor_extension", Inspect.text settings.descriptorExtension),
     ("module_extension", Inspect.text settings.moduleExtension),
     ("factory_symbol", Inspect.text settings.factorySymbol),
     ("locale", Inspect.option (settings.locale.map Inspect.text))]

/-- The logging settings as they are inspected. -/
def LoggingSettings.inspect (settings : LoggingSettings) : String :=
  Inspect.record "LoggingConfig"
    [("level", Inspect.text settings.level), ("format", Inspect.text settings.format)]

/-- All settings as they are inspected. -/
def Settings.inspect (settings : Settings) : String :=
  Inspect.record "ProxyConfig"
    [("loader", settings.loader.inspect), ("logging", settings.logging.inspect)]

/-! ## Parts -/

/-- A group of a key file as it is inspected. -/
def inspectGroup (name : String) (entries : OrderedMap String String) : String :=
  Inspect.record "Group"
    [("name", Inspect.text name),
     ("entries", Inspect.list (entries.entries.map fun entry =>
       "(" ++ Inspect.text entry.1 ++ ", " ++ Inspect.text entry.2 ++ ")"))]

/-- A key file as it is inspected. -/
def KeyFile.inspect (file : KeyFile) : String :=
  Inspect.record "KeyFile"
    [("groups", Inspect.list (file.groups.entries.map fun group => inspectGroup group.1 group.2))]

/-- A cache as it is inspected. -/
def IdentityCache.inspect {kind : HandleKind} {ω : Type} (cache : IdentityCache kind ω) : String :=
  Inspect.record "IdentityCache" [("handles", Inspect.list (cache.keys.map Handle.inspect))]

/-- A queue as it is inspected. -/
def TaskQueue.inspect (queue : TaskQueue κ) : String :=
  Inspect.record "TaskQueue" [("pending", toString queue.pending)]

/-- The resolver of the active document as it is inspected. -/
def inspectResolver (documents : Nat) : String :=
  Inspect.record "ActiveDocument" [("documents", toString documents)]

/-- A stage as it is inspected. -/
def Stage.inspect : Stage → String
  | .probed => "Probed"
  | .loaded => "Loaded"
  | .initialized => "Initialized"
  | .cleanedUp => "CleanedUp"

/-- A record as it is inspected. -/
def Record.inspect (record : Record) : String :=
  Inspect.record "LifecycleRecord"
    [("handle", record.handle.inspect), ("name", Inspect.text record.descriptor.name),
     ("module_path", Inspect.path record.modulePath), ("state", record.stage.inspect)]

/-- The context of an instance as it is inspected. -/
def ExtensionContext.inspect (context : ExtensionContext) : String :=
  Inspect.record "ExtensionContext"
    [("handle", context.handle.inspect), ("name", Inspect.text context.descriptor.name),
     ("module_path", Inspect.path context.modulePath),
     ("config_path", Inspect.path context.configPath)]

/-- A module as it is inspected. -/
def inspectModule (path : String) (source : Option FactorySource) : String :=
  Inspect.record "Module"
    [("path", Inspect.path path),
     ("binding", Inspect.option (source.map fun source =>
       Inspect.record "Binding" [("kind", Inspect.text source.label)]))]

/-- A binder as it is inspected, with the number of bindings held; only a table shows itself. -/
def Binder.inspect (binder : Binder κ) (live : Nat) : Option String :=
  match binder with
  | .libraries => none
  | .table factories =>
    let stems := factories.keys.mergeSort fun a b => a ≤ b
    some (Inspect.record "StaticBinder"
      [("stems", Inspect.list (stems.map Inspect.text)), ("live_bindings", toString live)])

/-! ## The state -/

namespace State

/-- A signal as it is inspected. -/
def inspectSignal (s : State κ μ) (topic : Topic) : String :=
  Inspect.record "Signal" [("handlers", toString (s.observers.count topic))]

/-- The editor of a document as it is inspected. -/
def inspectEditor (s : State κ μ) (doc : DocumentId) (handle : DocumentHandle) : String :=
  Inspect.record "Editor"
    [("document", handle.inspect), ("handlers", toString (s.observers.editorCount doc))]

/-- The name of a document signal. -/
def documentSignalName : DocumentSignal → String
  | .activated => "activated"
  | .beforeSave => "before_save"
  | .saved => "saved"
  | .reloaded => "reloaded"
  | .closed => "closed"
  | .categoryChanged => "category_changed"

/-- The name of a workspace signal. -/
def workspaceSignalName : WorkspaceSignal → String
  | .closed => "closed"
  | .dialogOpened => "dialog_opened"
  | .dialogConfirmed => "dialog_confirmed"
  | .dialogClosed => "dialog_closed"

/-- A document wrapper as it is inspected. -/
def inspectDocument (s : State κ μ) (doc : DocumentId) : Option String :=
  (s.documentHandle? doc).map fun handle =>
    Inspect.record "Document"
      [("handle", handle.inspect),
       ("signals", Inspect.record "DocumentSignals" (DocumentSignal.all.map fun signal =>
         (documentSignalName signal, s.inspectSignal (.document doc signal)))),
       ("editor", s.inspectEditor doc handle)]

/-- A workspace wrapper as it is inspected. -/
def inspectWorkspace (s : State κ μ) (id : WorkspaceId) : Option String :=
  (s.workspaceWrapper? id).map fun workspace =>
    Inspect.record "Workspace"
      [("handle", workspace.handle.inspect), ("config", workspace.config.inspect),
       ("signals", Inspect.record "WorkspaceSignals" (WorkspaceSignal.all.map fun signal =>
         (workspaceSignalName signal, s.inspectSignal (.workspace id signal))))]

/-- The open workspace as it is inspected. -/
def inspectOpenWorkspace (s : State κ μ) : String :=
  Inspect.option (s.workspace.bind s.inspectWorkspace)

/-- The entries of the registry as they are inspected. -/
def inspectRegistry (s : State κ μ) : String :=
  Inspect.list (s.registry.entries.map fun entry =>
    Inspect.record "LoadedExtension"
      [("handle", entry.1.inspect), ("name", Inspect.text entry.2.name),
       ("alive", Inspect.truth (s.isAlive entry.2.target))])

/-- What a proxy shares, as it is inspected. -/
def inspectContext (s : State κ μ) : String :=
  Inspect.record "ProxyContext"
    [("documents", IdentityCache.inspect s.documents),
     ("categories",
       Inspect.record "CategoryCache" [("cache", IdentityCache.inspect s.categories.cache)]),
     ("extensions", IdentityCache.inspect s.registry),
     ("workspace", Inspect.record "RefCell" [("value", s.inspectOpenWorkspace)]),
     ("tasks", s.tasks.inspect)]

/-- A proxy as it is inspected. -/
def inspect (s : State κ μ) (settings : Settings) : String :=
  Inspect.record "Proxy" [("config", settings.inspect), ("context", s.inspectContext)]

end State

end ExtensionProxy
