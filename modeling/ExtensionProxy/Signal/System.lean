import ExtensionProxy.Program
import ExtensionProxy.Signal

/-!
# A signal and its foreign code

One signal together with the handlers that it runs.  Handlers are foreign code: while they run they
may connect, disconnect and emit on the same signal, to any depth.  They keep what they want to
remember in a memory of their own.

What happens is put on record, with the handlers that are connected at each moment.  Nothing that the
signal does depends on the record.
-/

set_option autoImplicit false

namespace ExtensionProxy

/-- What happens to a signal. -/
inductive SignalHappening (κ : Type) where
  /-- A handler was connected. -/
  | connected (slot : Slot κ)
  /-- The handler with an id was disconnected. -/
  | disconnected (id : Nat)
  /-- Every handler of an owner was disconnected. -/
  | disconnectedOwner (owner : ExtensionHandle)
  /-- An emission begins. -/
  | emits
  /-- An emission runs a handler. -/
  | runs (slot : Slot κ)
  /-- A handler is over: it answered or was stopped. -/
  | answered (slot : Slot κ) (result : Except Stop Bool)
  /-- An emission is over: it tells what it did or was stopped. -/
  | emitted (result : Except Stop Signal.Emission)

/-- A moment of the record. -/
structure SignalMoment (κ : Type) where
  what : SignalHappening κ
  /-- The handlers that are connected since, in order of connection. -/
  connected : List (Slot κ)

/-- A signal, the memory of its handlers, and the record. -/
structure SignalWorld (κ μ : Type) where
  signal : Signal κ
  /-- What foreign code remembers. -/
  memory : μ
  /-- What has happened, the latest first. -/
  history : List (SignalMoment κ) := []

namespace SignalWorld

variable {κ μ : Type}

/-- The signal as a part of the world. -/
def signalLens : Lens (SignalWorld κ μ) (Signal κ) where
  get world := world.signal
  set signal world := { world with signal := signal }
  get_set _ _ := rfl
  set_set _ _ _ := rfl

/-- Changes the memory. -/
def remember (change : μ → μ) (world : SignalWorld κ μ) : SignalWorld κ μ :=
  { world with memory := change world.memory }

/-- Puts something on record. -/
def note (what : SignalHappening κ) (world : SignalWorld κ μ) : SignalWorld κ μ :=
  { world with history := ⟨what, world.signal.slots⟩ :: world.history }

/-- What has happened, in order. -/
def course (world : SignalWorld κ μ) : List (SignalMoment κ) := world.history.reverse

end SignalWorld

/-- What a handler may request. -/
inductive SignalRequest (κ μ α : Type) where
  | connect (owner : Option ExtensionHandle) (code : κ)
  /-- Disconnect one handler. -/
  | disconnect (id : Nat)
  /-- Disconnect every handler of an owner. -/
  | disconnectOwner (owner : ExtensionHandle)
  | emit (arg : α)
  /-- Change the memory. -/
  | remember (change : μ → μ)

/-- What a request is answered with: the id, whether the handler was connected, how many were
dropped, what the emission did. -/
@[reducible] def SignalRequest.Answer {κ μ α : Type} : SignalRequest κ μ α → Type
  | .connect _ _ => Nat
  | .disconnect _ => Bool
  | .disconnectOwner _ => Nat
  | .emit _ => Signal.Emission
  | .remember _ => Unit

/-- A handler that is run. -/
structure SignalCall (κ α : Type) where
  /-- The handler. -/
  slot : Slot κ
  /-- What was emitted. -/
  arg : α

/-- Handlers of one signal as foreign code. -/
abbrev signalInterface (κ μ α : Type) : Interface where
  State := SignalWorld κ μ
  Request := SignalRequest κ μ α
  Answer := SignalRequest.Answer
  Call := SignalCall κ α
  Reply _ := Bool

/-- Runs a handler and puts it on record. -/
def runHandler {κ μ α : Type} (call : (signalInterface κ μ α).Caller) (arg : α) (slot : Slot κ) :
    Run (SignalWorld κ μ) Bool := do
  Run.modify (SignalWorld.note (.runs slot))
  Run.concluding (call ⟨slot, arg⟩) fun result => SignalWorld.note (.answered slot result)

/-- Carries out the requests of handlers. -/
def signalService (κ μ α : Type) : (signalInterface κ μ α).Service := fun call request =>
  match request with
  | .connect owner code => do
    let world ← Run.get
    Run.modify (SignalWorld.signalLens.modify fun signal => signal.connect owner code)
    Run.modify (SignalWorld.note (.connected ⟨world.signal.nextId, owner, code⟩))
    pure world.signal.nextId
  | .disconnect id => do
    let world ← Run.get
    Run.modify (SignalWorld.signalLens.modify fun signal => signal.disconnect id)
    Run.modify (SignalWorld.note (.disconnected id))
    pure (world.signal.isConnected id)
  | .disconnectOwner owner => do
    let world ← Run.get
    Run.modify (SignalWorld.signalLens.modify fun signal => signal.disconnectOwner owner)
    Run.modify (SignalWorld.note (.disconnectedOwner owner))
    pure (world.signal.ownedBy owner)
  | .emit arg => do
    Run.modify (SignalWorld.note .emits)
    Run.concluding (Signal.emit SignalWorld.signalLens (runHandler call arg)) fun result =>
      SignalWorld.note (.emitted result)
  | .remember change => Run.modify (SignalWorld.remember change)

end ExtensionProxy
