import ExtensionProxy.Signal.System
import ExtensionProxy.OrderedMap
import ExtensionProxy.Text.Quoted

/-!
# Scripts for one signal

Handlers given as data: what a handler does when it is run, and what it returns.  A script is a
list of acts; each is carried out at the top of the stack, and what the handlers did meanwhile is
reported with its answer.
-/

set_option autoImplicit false

namespace ExtensionProxy.SignalScript

mutual

/-- What a script or a handler may do. -/
inductive Act where
  /-- Connects a handler under a name. -/
  | connect (name : String) (owner : Option ExtensionHandle) (handler : Handler)
  /-- Disconnects the handler connected last under a name. -/
  | disconnect (name : String)
  /-- Disconnects every handler of an owner. -/
  | disconnectOwner (owner : ExtensionHandle)
  /-- Emits, and tells only whether the emission was handled if `brief`. -/
  | emit (arg : Nat) (brief : Bool)
  /-- Shows the signal for inspection. -/
  | inspect
  | panic (message : Option String)

/-- A handler. -/
inductive Handler where
  /-- Runs the body if the argument is the one given by `only`, or on every argument, and returns
  `ret`, or `true` if the argument is the one given by `retIf`. -/
  | mk (name : String) (body : List Act) (only : Option Nat) (ret : Bool) (retIf : Option Nat)

end

/-- The name of an act. -/
def Act.name : Act → String
  | .connect _ _ _ => "connect"
  | .disconnect _ => "disconnect"
  | .disconnectOwner _ => "disconnect_owner"
  | .emit _ _ => "emit"
  | .inspect => "debug"
  | .panic _ => "panic"

/-- The answer to an act. -/
inductive Reply where
  /-- Nothing to tell. -/
  | nothing
  | truth (value : Bool)
  /-- A number. -/
  | count (value : Nat)
  /-- No handler was ever connected under the name. -/
  | noSlot
  /-- What an emission did. -/
  | emission (value : Signal.Emission)
  | text (value : String)

/-- What handlers report. -/
inductive Report where
  /-- A handler was run for the given time. -/
  | ran (name : String) (arg : Nat) (time : Nat)
  /-- A handler did an act. -/
  | did (name : String) (reply : Reply)

/-- What scripts remember. -/
structure Memory where
  /-- What was reported since the step began. -/
  reports : Array Report := #[]
  /-- The handler connected last under each name. -/
  slots : OrderedMap String Nat := .empty
  /-- How often each handler was run. -/
  times : OrderedMap Nat Nat := .empty

/-- The interface of scripted handlers, with numbers to emit. -/
abbrev interface : Interface := signalInterface Handler Memory Nat

/-- The world of a scripted signal. -/
abbrev World := SignalWorld Handler Memory

/-- Whether the handlers of the signal report if they handled the emission. -/
abbrev Handled := Bool

/-- A request. -/
def ask (request : interface.Request) : Program interface (interface.Answer request) :=
  .request request

/-- A view of the world. -/
def view {α : Type} (f : World → α) : Program interface α := .view f

/-- Changes the memory. -/
def remember (change : Memory → Memory) : Program interface Unit :=
  ask (SignalRequest.remember change)

/-- Adds a report. -/
def report (entry : Report) : Program interface Unit :=
  remember fun memory => { memory with reports := memory.reports.push entry }

/-- The signal shown for inspection. -/
def shown (handled : Handled) (signal : Signal Handler) : String :=
  Inspect.record (if handled then "HandledSignal" else "Signal")
    [("handlers", toString signal.count)]

/-- What an emission is answered with. -/
def emissionReply (handled : Handled) (brief : Bool) (emission : Signal.Emission) : Reply :=
  if !handled then .count emission.ran
  else if brief then .truth emission.handled
  else .emission emission

/-- The program of an act. -/
def Act.program (handled : Handled) : Act → Program interface Reply
  | .connect name owner handler => do
    let id ← ask (SignalRequest.connect owner handler)
    remember fun memory => { memory with slots := memory.slots.insert name id }
    pure .nothing
  | .disconnect name => do
    let slot ← view fun world => world.memory.slots.get? name
    match slot with
    | none => pure .noSlot
    | some id => do
      let connected ← ask (SignalRequest.disconnect id)
      pure (.truth connected)
  | .disconnectOwner owner => do
    let dropped ← ask (SignalRequest.disconnectOwner owner)
    pure (.count dropped)
  | .emit arg brief => do
    let emission ← ask (SignalRequest.emit arg)
    pure (emissionReply handled brief emission)
  | .inspect => do
    let signal ← view fun world => world.signal
    pure (.text (shown handled signal))
  | .panic message => .panic message

/-- The program of a body: each act in turn, and a report of its answer. -/
def bodyProgram (handled : Handled) : List Act → Program interface Unit
  | [] => pure ()
  | act :: rest => do
    let reply ← act.program handled
    report (.did act.name reply)
    bodyProgram handled rest

/-- The scripted handlers as foreign code. -/
def foreign (handled : Handled) : interface.Foreign := fun call =>
  match call.slot.code with
  | .mk name body only ret retIf => do
    let times ← view fun world =>
      (world.memory.times.get? call.slot.id).getD 0
    remember fun memory => { memory with times := memory.times.insert call.slot.id (times + 1) }
    report (.ran name call.arg (times + 1))
    if only.all (· == call.arg) then bodyProgram handled body
    pure (ret || retIf == some call.arg)

/-- The answer to one step of a script. -/
structure StepAnswer where
  /-- The answer to the act, or why it was stopped. -/
  result : Except Stop Reply
  /-- What the handlers reported. -/
  reports : List Report
  /-- How many handlers are connected afterwards. -/
  count : Nat

/-- Carries out one act at the top of the stack. -/
def step (handled : Handled) (act : Act) (world : World) : StepAnswer × World :=
  let fresh : World :=
    { world with memory := { world.memory with reports := #[] }, history := [] }
  match interface.runTop (signalService Handler Memory Nat) (foreign handled) stackLevels
      (act.program handled) fresh with
  | (result, reached) => (⟨result, reached.memory.reports.toList, reached.signal.count⟩, reached)

/-- Carries out a script. -/
def steps (handled : Handled) : List Act → World → List StepAnswer
  | [], _ => []
  | act :: rest, world =>
    let (answer, reached) := step handled act world
    answer :: steps handled rest reached

/-- Carries out a script on a new signal. -/
def answers (handled : Handled) (acts : List Act) : List StepAnswer :=
  steps handled acts { signal := {}, memory := {} }

end ExtensionProxy.SignalScript
