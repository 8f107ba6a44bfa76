import ExtensionProxy.Handle
import ExtensionProxy.Run

/-!
# Signals

A signal holds handlers in the order in which they were connected.  Each has an id, counted from
one and never used again, and may be owned by a sub-extension, whose handlers can be dropped all at
once.

An emission runs over the handlers connected when it starts, whatever they connect or disconnect
meanwhile.  A handler that is already running further up the stack is passed over, so no handler is
ever entered twice; the running ones are known by their ids, also after they were disconnected.

A signal keeps a record of the handlers that were connected and dropped.  Nothing that it does depends
on the record.
-/

set_option autoImplicit false

namespace ExtensionProxy

/-- A connected handler. -/
structure Slot (κ : Type) where
  /-- The id, unique within the signal for ever. -/
  id : Nat
  /-- The sub-extension that owns the handler, if any. -/
  owner : Option ExtensionHandle
  /-- The code of the handler. -/
  code : κ
  deriving DecidableEq, Repr

/-- What is done with the handlers of a signal. -/
inductive HandlerDeed (κ : Type) where
  /-- A handler was connected. -/
  | connected (slot : Slot κ)
  /-- The handler with an id was dropped, if there was one. -/
  | disconnected (id : Nat)
  /-- The handlers of an owner were dropped. -/
  | dismissed (owner : ExtensionHandle)
  deriving DecidableEq, Repr

/-- The handlers of one signal. -/
structure Signal (κ : Type) where
  /-- The connected handlers, in order of connection. -/
  slots : List (Slot κ) := []
  /-- The id for the next handler. -/
  nextId : Nat := 1
  /-- The ids of the handlers that are running, innermost first. -/
  running : List Nat := []
  /-- What was done with the handlers, the latest first. -/
  record : List (HandlerDeed κ) := []
  deriving DecidableEq, Repr

namespace Signal

variable {κ σ : Type}

instance : Inhabited (Signal κ) := ⟨{}⟩

/-- How many handlers are connected. -/
def count (signal : Signal κ) : Nat := signal.slots.length

/-- Connects a handler at the end. -/
def connect (signal : Signal κ) (owner : Option ExtensionHandle) (code : κ) : Signal κ :=
  { signal with
    slots := signal.slots ++ [⟨signal.nextId, owner, code⟩]
    nextId := signal.nextId + 1
    record := .connected ⟨signal.nextId, owner, code⟩ :: signal.record }

/-- Whether a handler with this id is connected. -/
def isConnected (signal : Signal κ) (id : Nat) : Bool := signal.slots.any fun slot => slot.id == id

/-- Drops the handler with this id. -/
def disconnect (signal : Signal κ) (id : Nat) : Signal κ :=
  { signal with
    slots := signal.slots.filter fun slot => slot.id != id
    record := .disconnected id :: signal.record }

/-- How many handlers a sub-extension owns. -/
def ownedBy (signal : Signal κ) (owner : ExtensionHandle) : Nat :=
  signal.slots.countP fun slot => slot.owner == some owner

/-- Drops every handler that a sub-extension owns; where nobody is connected there is nothing to put
on record. -/
def disconnectOwner (signal : Signal κ) (owner : ExtensionHandle) : Signal κ :=
  { signal with
    slots := signal.slots.filter fun slot => slot.owner != some owner
    record := if signal.slots.isEmpty then signal.record else .dismissed owner :: signal.record }

/-- Whether the handler with this id is running. -/
def isRunning (signal : Signal κ) (id : Nat) : Bool := signal.running.contains id

/-- Marks a handler as running. -/
def enter (signal : Signal κ) (id : Nat) : Signal κ :=
  { signal with running := id :: signal.running }

/-- Takes back the mark of a handler that was running. -/
def leave (signal : Signal κ) (id : Nat) : Signal κ :=
  { signal with running := signal.running.erase id }

/-- What an emission did. -/
structure Emission where
  /-- How many handlers it ran itself. -/
  ran : Nat := 0
  /-- Whether one of them returned `true`. -/
  handled : Bool := false
  deriving DecidableEq, Repr

/-- Adds the run of one handler. -/
def Emission.add (emission : Emission) (answer : Bool) : Emission :=
  ⟨emission.ran + 1, emission.handled || answer⟩

/-- Runs one handler under its mark. -/
def runSlot (lens : Lens σ (Signal κ)) (run : Slot κ → Run σ Bool) (slot : Slot κ) :
    Run σ Bool := do
  Run.modify (lens.modify (·.enter slot.id))
  Run.ensuring (run slot) (Run.modify (lens.modify (·.leave slot.id)))

/-- Runs the given handlers one after the other, except those that are running. -/
def emitSlots (lens : Lens σ (Signal κ)) (run : Slot κ → Run σ Bool) :
    List (Slot κ) → Emission → Run σ Emission
  | [], emission => pure emission
  | slot :: rest, emission => do
    let signal ← Run.gets lens.get
    if signal.isRunning slot.id then emitSlots lens run rest emission
    else
      let answer ← runSlot lens run slot
      emitSlots lens run rest (emission.add answer)

/-- Runs the handlers that are connected now. -/
def emit (lens : Lens σ (Signal κ)) (run : Slot κ → Run σ Bool) : Run σ Emission := do
  let signal ← Run.gets lens.get
  emitSlots lens run signal.slots {}

end Signal

end ExtensionProxy
