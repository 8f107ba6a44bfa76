import ExtensionProxy.Descriptor
import ExtensionProxy.Module.Bench
import ExtensionProxy.Proxy.Topic

/-!
# The calls of foreign code

Foreign code is called to make an instance, to take a notice, to show help or a panel, to be
destroyed, to observe a signal, to do a deferred task, and to open a link on behalf of the host.
-/

set_option autoImplicit false

namespace ExtensionProxy

/-- Names an instance of a sub-extension for ever. -/
structure InstanceId where
  /-- The place in the order of making. -/
  index : Nat
  deriving DecidableEq, Repr

/-- What is told to every initialized sub-extension. -/
inductive Notice where
  /-- A document was created or opened. -/
  | documentOpened (doc : DocumentId)
  | workspaceOpened (workspace : WorkspaceId)
  /-- The open workspace is closing. -/
  | workspaceClosed
  deriving DecidableEq, Repr

/-- What an instance learns about itself when it is made. -/
structure ExtensionContext where
  handle : ExtensionHandle
  descriptor : Descriptor
  modulePath : String
  /-- Where it keeps its own configuration. -/
  configPath : String
  deriving DecidableEq, Repr

/-- The context of a sub-extension under the host's folder for configuration. -/
def ExtensionContext.make (handle : ExtensionHandle) (descriptor : Descriptor)
    (modulePath configDir : String) : ExtensionContext :=
  ⟨handle, descriptor, modulePath, configStorePath configDir descriptor.stem⟩

/-- The calls of foreign code. -/
inductive Call (κ : Type) where
  /-- The factory of a bound module is to make an instance. -/
  | create (binding : BindingId) (code : κ) (context : ExtensionContext)
  /-- An instance takes a notice; the number is that of the dispatch which sent it. -/
  | notify (target : InstanceId) (code : κ) (number : Nat) (notice : Notice)
  /-- An instance builds its configuration panel. -/
  | configure (target : InstanceId) (code : κ) (dialog : DialogHandle)
  /-- An instance shows help. -/
  | help (target : InstanceId) (code : κ)
  /-- An instance is destroyed. -/
  | dropped (target : InstanceId) (code : κ)
  /-- A handler observes a signal. -/
  | observe (topic : Topic) (slot : Slot κ) (emitted : Emitted)
  /-- A deferred task is done. -/
  | task (code : κ)
  /-- The host opens a link. -/
  | openUri (uri : String)

/-- What a call returns: the code of the instance unless the factory declines, the panel, whether
help was shown, whether the handler handled the emission. -/
@[reducible] def Call.Reply {κ : Type} : Call κ → Type
  | .create _ _ _ => Option κ
  | .notify _ _ _ _ => Unit
  | .configure _ _ _ => Option PanelHandle
  | .help _ _ => Bool
  | .dropped _ _ => Unit
  | .observe _ _ _ => Bool
  | .task _ => Unit
  | .openUri _ => Unit

end ExtensionProxy
