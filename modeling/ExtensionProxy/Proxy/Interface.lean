import ExtensionProxy.Program
import ExtensionProxy.Proxy.State

/-!
# What passes between a proxy and foreign code

While foreign code runs it may request of the proxy whatever the host may: nothing that the proxy
does is closed to code that is itself being run by the proxy.
-/

set_option autoImplicit false

namespace ExtensionProxy

/-- What became of an attempt to reach an instance. -/
inductive Delivery (α : Type) where
  /-- The callback ran. -/
  | delivered (value : α)
  /-- The instance no longer exists. -/
  | gone
  /-- The instance is running further up the stack. -/
  | busy
  deriving DecidableEq, Repr

/-- What foreign code may request. -/
inductive Request (κ μ : Type) where
  | dispatch (event : HostEvent)
  /-- Load the descriptor at a path into a slot. -/
  | load (slot : String) (handle : ExtensionHandle) (path : String)
  /-- Initialize the record in a slot. -/
  | init (slot : String)
  /-- Clean the record in a slot up. -/
  | cleanup (slot : String)
  /-- Unload the record in a slot. -/
  | unload (slot : String)
  /-- Drop the record in a slot without cleaning it up. -/
  | dropRecord (slot : String)
  /-- Show help for the record in a slot. -/
  | help (slot : String)
  /-- Build the configuration panel of the record in a slot. -/
  | configure (slot : String) (dialog : DialogHandle)
  /-- Let the instance of the record in a slot show help. -/
  | showHelp (slot : String)
  /-- Let the registered instance of a handle show help. -/
  | deliver (handle : ExtensionHandle)
  | probe (path : String)
  /-- Run the deferred tasks. -/
  | runPending
  /-- Schedule a task. -/
  | schedule (owner : Option ExtensionHandle) (code : κ)
  /-- Cancel the tasks of an owner. -/
  | cancel (owner : ExtensionHandle)
  /-- Release the observers and tasks of an owner. -/
  | release (owner : ExtensionHandle)
  /-- Change what the host answers. -/
  | setHost (change : HostView → HostView)
  /-- The wrapper of a document, made if there is none. -/
  | addDocument (handle : DocumentHandle)
  /-- Evict a document. -/
  | removeDocument (handle : DocumentHandle)
  | connect (topic : Topic) (owner : Option ExtensionHandle) (code : κ)
  /-- Disconnect one handler. -/
  | disconnect (topic : Topic) (id : Nat)
  | disconnectDocument (doc : DocumentId) (owner : ExtensionHandle)
  | disconnectWorkspace (workspace : WorkspaceId) (owner : ExtensionHandle)
  /-- Emit a signal. -/
  | emit (topic : Topic) (emitted : Emitted)
  /-- Rebuild the categories from the host. -/
  | reloadCategories
  /-- Forget the open workspace. -/
  | dropWorkspace
  /-- Bind a module. -/
  | bind (path factory : String)
  /-- Give a binding back. -/
  | unbind (id : BindingId)
  /-- Load a module as a library and release it at once. -/
  | loadModule (path factory : String)
  /-- Add an event to the log. -/
  | tell (event : LogEvent)
  /-- Change what foreign code remembers. -/
  | remember (change : μ → μ)

/-- What a request is answered with; requests about a slot are answered with `none` if there is no
record in it. -/
@[reducible] def Request.Answer {κ μ : Type} : Request κ μ → Type
  | .dispatch _ => DispatchOutcome
  | .load _ _ _ => Option (Presentation × Offer)
  | .init _ => Option (Except Cause Bool)
  | .cleanup _ => Option (Except Cause Unit)
  | .unload _ => Option (Except Cause Unit)
  | .dropRecord _ => Bool
  | .help _ => Option Bool
  | .configure _ _ => Option (Option PanelHandle)
  | .showHelp _ => Option (Option Bool)
  | .deliver _ => Option (Delivery Bool)
  | .probe _ => ProbeOutcome
  | .runPending => Nat
  | .schedule _ _ => Unit
  | .cancel _ => Nat
  | .release _ => Unit
  | .setHost _ => Unit
  | .addDocument _ => DocumentId
  | .removeDocument _ => Bool
  | .connect _ _ _ => Nat
  | .disconnect _ _ => Bool
  | .disconnectDocument _ _ => Nat
  | .disconnectWorkspace _ _ => Nat
  | .emit _ _ => Signal.Emission
  | .reloadCategories => Unit
  | .dropWorkspace => Option WorkspaceId
  | .bind _ _ => Except Cause (BindingId × FactorySource)
  | .unbind _ => Unit
  | .loadModule _ _ => Option FactorySource
  | .tell _ => Unit
  | .remember _ => Unit

/-- What a host without a user interface logs when it is asked to open a link. -/
def headlessHelp (uri : String) : LogEvent :=
  ⟨.info, "Help requested without a user interface", [("uri", uri)]⟩

/-- A proxy and the foreign code around it. -/
abbrev proxyInterface (κ μ : Type) : Interface where
  State := State κ μ
  Request := Request κ μ
  Answer := Request.Answer
  Call := Call κ
  Reply := Call.Reply

/-- The means to call foreign code. -/
abbrev Caller (κ μ : Type) := (proxyInterface κ μ).Caller

/-- Calls foreign code and puts the call into the history. -/
def Caller.noting {κ μ : Type} (call : Caller κ μ) : Caller κ μ := fun request =>
  Run.during (.call request) (call request)

end ExtensionProxy
