import ExtensionProxy.Event.Host
import ExtensionProxy.Proxy.Context

/-!
# What has happened

The history of a proxy tells, one moment after another, what the proxy did and when foreign code was
running, each time with what the proxy kept and which bindings were held.  The log tells people; the
history is there to be reasoned about, and nothing that the proxy does depends on it.
-/

set_option autoImplicit false

namespace ExtensionProxy

/-- What became of a host event. -/
structure DispatchOutcome where
  /-- Whether a wrapper was found or made for it. -/
  resolved : Bool := false
  /-- How many observers ran. -/
  observers : Nat := 0
  /-- How many sub-extensions got it at once. -/
  delivered : Nat := 0
  /-- For how many it was deferred. -/
  deferred : Nat := 0
  /-- Whether an observer of the editor handled it. -/
  handled : Bool := false
  deriving DecidableEq, Repr

/-- What goes on for a while: other things happen before it is over. -/
inductive Activity (κ : Type) where
  /-- Foreign code is running. -/
  | call (call : Call κ)
  /-- A signal is emitted to the handlers that were connected when the emission began. -/
  | emission (topic : Topic) (slots : List (Slot κ))
  /-- The tasks that were scheduled below a limit are started. -/
  | drain (limit : Nat)

/-- What happens. -/
inductive Happening (κ : Type) where
  /-- Something begins that goes on for a while. -/
  | began (activity : Activity κ)
  /-- It is over, whether it came to its end or was stopped. -/
  | ended (activity : Activity κ)
  /-- The dispatch of an event begins; dispatches are numbered in the order in which they begin. -/
  | dispatched (number : Nat) (event : HostEvent)
  /-- A dispatch begins to send a notice to every sub-extension that is registered now. -/
  | fannedOut (number : Nat) (notice : Notice)
  /-- The notice of a dispatch gets to an instance: it is taken at once, deferred or skipped. -/
  | reached (number : Nat) (target : InstanceId)
  /-- A dispatch came to its end. -/
  | settled (number : Nat) (outcome : DispatchOutcome)
  /-- The deferred notice of a dispatch was taken from the queue, and nobody could take it: the
  instance is running again, or it is gone. -/
  | lost (number : Nat) (target : InstanceId)
  /-- A drain came to its end: every task below its limit was started or cancelled. -/
  | drained
  /-- A drain was stopped before it came to its end. -/
  | broken
  /-- A document was evicted; the wrapper is the one that was registered for it, if one was. -/
  | evicted (doc : DocumentHandle) (wrapper : Option DocumentId)
  /-- The open workspace was replaced, or taken away. -/
  | workspaceSet (before now : Option WorkspaceId)
  /-- A record came to own an instance, which was put into the registry. -/
  | initialized (id : RecordId) (handle : ExtensionHandle) (entry : Registration)
  /-- A record is about to be cleaned up. -/
  | cleaning (record : Record)
  /-- A record, here as it was before, was cleaned up. -/
  | cleaned (record : Record)
  /-- Unloading took what was registered for a handle, if anything, out of the registry. -/
  | unregistered (handle : ExtensionHandle) (entry : Option Registration)
  /-- A record is thrown away. -/
  | discarded (record : Record)
  /-- The observers and tasks of an owner are about to be released. -/
  | freed (owner : ExtensionHandle)
  /-- The tasks of an owner are about to be cancelled although nothing of it is cleaned up. -/
  | cancelled (owner : ExtensionHandle)
  /-- A binding was given back. -/
  | released (binding : BindingId)
  /-- Whoever bound a module gives its binding back. -/
  | unbound (binding : BindingId)

/-- A moment of the history. -/
structure Moment (κ : Type) where
  what : Happening κ
  /-- What the proxy kept. -/
  context : Context κ
  held : List BindingId

/-- What has happened, the latest first. -/
abbrev History (κ : Type) := List (Moment κ)

end ExtensionProxy
