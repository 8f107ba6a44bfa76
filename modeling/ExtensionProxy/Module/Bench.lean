import ExtensionProxy.Log
import ExtensionProxy.Module.Binder
import ExtensionProxy.Run

/-!
# The bench

What is bound at the moment, and what has been logged.  A binding keeps its module from being
released until it is given back; probing and loading both take bindings here, and what they refuse
is told to the log.
-/

set_option autoImplicit false

namespace ExtensionProxy

/-- Names a binding for ever. -/
structure BindingId where
  /-- The place in the order of binding. -/
  index : Nat
  deriving DecidableEq, Repr

/-- The bindings held, and the log. -/
structure Bench where
  held : List BindingId := []
  /-- The place of the next binding. -/
  next : Nat := 0
  /-- What has been logged, oldest first. -/
  log : Array LogEvent := #[]
  deriving DecidableEq, Repr

/-- A held binding. -/
structure Binding (κ : Type) where
  /-- Its name. -/
  id : BindingId
  factory : Factory κ
  deriving DecidableEq, Repr

/-- A binding as it is inspected. -/
def Binding.inspect {κ : Type} (binding : Binding κ) : String :=
  Inspect.record "Binding" [("kind", Inspect.text binding.factory.source.label)]

/-- Everything that stays as it is while a proxy runs. -/
structure Site (κ : Type) where
  settings : Settings := {}
  /-- The environment of the process. -/
  environment : Environment := []
  files : FileTree κ := .empty
  /-- The way modules are bound. -/
  binder : Binder κ := .libraries

namespace Bench

variable {κ : Type}

instance : Inhabited Bench := ⟨{}⟩

/-- How many bindings are held. -/
def live (bench : Bench) : Nat := bench.held.length

/-- Adds an event to the log. -/
def tell (event : LogEvent) : Run Bench Unit :=
  Run.modify fun bench => { bench with log := bench.log.push event }

/-- Binds the module at a path by the given binder. -/
def bindBy (binder : Binder κ) (files : FileTree κ) (path factory : String) :
    Run Bench (Except Cause (Binding κ)) := do
  match binder.bind files path factory with
  | .error cause => pure (.error cause)
  | .ok found =>
    let bench ← Run.get
    let id : BindingId := ⟨bench.next⟩
    Run.modify fun bench => { bench with held := id :: bench.held, next := bench.next + 1 }
    pure (.ok ⟨id, found⟩)

/-- Gives a binding back. -/
def release (id : BindingId) : Run Bench Unit :=
  Run.modify fun bench => { bench with held := bench.held.erase id }

/-- Loads a module: binds it and says so, or says why it could not be bound. -/
def loadBy (binder : Binder κ) (files : FileTree κ) (path factory : String) :
    Run Bench (Option (Binding κ)) := do
  match ← bindBy binder files path factory with
  | .ok binding =>
    tell ⟨.debug, "Module bound", [("path", path), ("symbol", factory)]⟩
    pure (some binding)
  | .error cause =>
    tell ⟨.warn, "Failed to bind module", [("path", path), ("error", cause.fault.display)]⟩
    pure none

end Bench

end ExtensionProxy
