import ExtensionProxy.Session.Steps

/-!
# Module trials

A trial binds modules by themselves, without a proxy: each path is bound, loaded, and its factory
is called once with a fixed context.
-/

set_option autoImplicit false

namespace ExtensionProxy.Session

/-- What a trial tells of one path. -/
structure ModuleTrial where
  path : String
  /-- What binding it gave. -/
  bound : Except Cause FactorySource
  /-- The factory of the loaded module. -/
  source : Option FactorySource
  /-- What the instance answered when asked for help and for a panel, if one was made. -/
  answers : Option (Bool × Option PanelHandle)
  /-- How many bindings were held. -/
  live : Nat

/-- Calls foreign code at the top of the stack. -/
def callTop (scene : Scene) : Caller Code Memory :=
  interface.call (serve scene.site) (foreign scene) stackLevels

/-- The descriptor of the context that trials use. -/
def trialDescriptor (settings : LoaderSettings) (environment : Environment) (file : KeyFile) :
    Except Cause Descriptor :=
  Descriptor.ofKeyFile settings environment "ext/x.plugin" file

/-- The context that trials use. -/
def trialContext (handle : ExtensionHandle) (descriptor : Descriptor) : ExtensionContext :=
  ExtensionContext.make handle descriptor "ext/x.so" "cfg"

/-- Lets a factory make an instance and asks it for help and for a panel. -/
def tryFactory (scene : Scene) (context : ExtensionContext) (binding : Binding Code) :
    Run World (Option (Bool × Option PanelHandle)) := do
  match ← callTop scene (.create binding.id binding.factory.code context) with
  | none => pure none
  | some made =>
    let helped ← callTop scene (.help ⟨0⟩ made)
    let panel ← callTop scene (.configure ⟨0⟩ made ⟨1⟩)
    callTop scene (.dropped ⟨0⟩ made)
    pure (some (helped, panel))

/-- Tries one path; the module is released afterwards unless it is to be kept. -/
def tryPath (scene : Scene) (context : ExtensionContext) (factory : String) (keep : Bool)
    (path : String) : Run World ModuleTrial := do
  let bound ← bindModule scene.site.binder scene.site.files path factory
  match bound with
  | .ok (id, _) => Run.releaseBinding id
  | .error _ => pure ()
  let loaded ← Run.zoom State.benchLens
    (Bench.loadBy scene.site.binder scene.site.files path factory)
  let answers ← match loaded with
    | some binding => tryFactory scene context binding
    | none => pure none
  let s ← Run.get
  if !keep then Run.releaseBinding? (loaded.map fun binding => binding.id)
  pure ⟨path, bound.map fun entry => entry.2, loaded.map fun binding => binding.factory.source,
    answers, s.liveBindings⟩

/-- What a trial tells: the trial of every path, and the binder as it is inspected afterwards. -/
def tryPaths (scene : Scene) (context : ExtensionContext) (factory : String) (keep : Bool)
    (paths : List String) : Except Stop (List ModuleTrial × Option String) :=
  let world : World := { host := { configDir := "cfg" }, memory := {} }
  match (paths.mapM (tryPath scene context factory keep)) world with
  | (.ok trials, reached) => .ok (trials, scene.site.binder.inspect reached.liveBindings)
  | (.error stop, _) => .error stop

end ExtensionProxy.Session
