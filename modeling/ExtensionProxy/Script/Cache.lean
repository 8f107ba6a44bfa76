import ExtensionProxy.Fault
import ExtensionProxy.IdentityCache.System
import ExtensionProxy.Text.Quoted

/-!
# Scripts for one identity cache

Makers given as data: the acts that a maker does on the cache before its wrapper is built.  What
they were answered is told together with the wrapper.
-/

set_option autoImplicit false

namespace ExtensionProxy.CacheScript

/-- What a script or a maker may do. -/
inductive Act where
  /-- The wrapper of a handle, built if there is none. -/
  | add (handle : DocumentHandle)
  /-- The wrapper of a handle, built by a maker that does the given acts and then may panic. -/
  | addWith (handle : DocumentHandle) (make : List Act) (panics : Bool)
  /-- Registers a new wrapper. -/
  | insert (handle : DocumentHandle)
  /-- Looks a wrapper up. -/
  | lookup (handle : DocumentHandle)
  /-- Takes a wrapper out and tells whether there was one. -/
  | remove (handle : DocumentHandle)
  /-- Takes a wrapper out. -/
  | take (handle : DocumentHandle)
  /-- Tells whether a handle is registered. -/
  | contains (handle : DocumentHandle)
  /-- Takes everything out. -/
  | clear
  /-- Shows the cache for inspection. -/
  | inspect

/-- A wrapper as it is shown: its handle and its serial number. -/
abbrev Shown := DocumentHandle × Nat

/-- The answer to an act. -/
inductive Reply where
  | wrapper (shown : Option Shown)
  /-- The wrapper of a handle, and what the maker's acts were answered. -/
  | made (shown : Shown) (inner : List Reply)
  | truth (value : Bool)
  | wrappers (shown : List Shown)
  /-- The handle was registered already. -/
  | refused (cause : Cause)
  | text (value : String)

/-- A maker: what it does, and whether it panics at the end. -/
structure Maker where
  acts : List Act
  /-- Whether it panics at the end. -/
  panics : Bool

/-- What makers remember: the answers to the acts of every maker that was run, innermost first. -/
abbrev Memory := List (List Reply)

/-- The interface of scripted makers. -/
abbrev interface : Interface := cacheInterface Maker Memory

/-- The world of a scripted cache. -/
abbrev World := CacheWorld Memory

/-- A request. -/
def ask (request : interface.Request) : Program interface (interface.Answer request) :=
  .request request

/-- A view of the world. -/
def view {α : Type} (f : World → α) : Program interface α := .view f

/-- Changes the memory. -/
def remember (change : Memory → Memory) : Program interface Unit :=
  ask (CacheRequest.remember change)

/-- The cache shown for inspection. -/
def shown (world : World) : String :=
  Inspect.record "IdentityCache" [("handles", Inspect.list (world.cache.keys.map Handle.inspect))]

/-- The program of an act. -/
def Act.program : Act → Program interface Reply
  | .add handle => do
    let serial ← ask (CacheRequest.add handle)
    pure (.wrapper (some (handle, serial)))
  | .addWith handle make panics => do
    let depth ← view fun world => world.memory.length
    let serial ← ask (CacheRequest.addWith handle ⟨make, panics⟩)
    let memory ← view fun world => world.memory
    remember fun memory => memory.drop (memory.length - depth)
    pure (.made (handle, serial) (if depth < memory.length then memory.headD [] else []))
  | .insert handle => do
    let serial ← ask (CacheRequest.insert handle)
    match serial with
    | some serial => pure (.wrapper (some (handle, serial)))
    | none => pure (.refused (.alreadyRegistered handle.display))
  | .lookup handle =>
    view fun world => .wrapper ((world.cache.get? handle).map fun serial => (handle, serial))
  | .remove handle => do
    let serial ← ask (CacheRequest.take handle)
    pure (.truth serial.isSome)
  | .take handle => do
    let serial ← ask (CacheRequest.take handle)
    pure (.wrapper (serial.map fun serial => (handle, serial)))
  | .contains handle => view fun world => .truth (world.cache.contains handle)
  | .clear => do
    let evicted ← ask CacheRequest.clear
    pure (.wrappers evicted)
  | .inspect => view fun world => .text (shown world)

/-- The program of a maker's acts: each in turn, its answer noted. -/
def bodyProgram : List Act → Program interface Unit
  | [] => pure ()
  | act :: rest => do
    let reply ← act.program
    remember fun memory => (memory.headD [] ++ [reply]) :: memory.tail
    bodyProgram rest

/-- The scripted makers as foreign code. -/
def foreign : interface.Foreign := fun maker => do
  remember fun memory => [] :: memory
  bodyProgram maker.acts
  if maker.panics then .panic (some "make failed") else pure ()

/-- The answer to one step of a script. -/
structure StepAnswer where
  /-- The answer to the act, or why it was stopped. -/
  result : Except Stop Reply
  /-- The wrappers registered afterwards, in order. -/
  wrappers : List Shown

/-- Carries out one act at the top of the stack. -/
def step (act : Act) (world : World) : StepAnswer × World :=
  match interface.runTop (cacheService Maker Memory) foreign stackLevels act.program
      { world with memory := [], history := [] } with
  | (result, reached) => (⟨result, reached.cache.entries⟩, reached)

/-- Carries out a script. -/
def steps : List Act → World → List StepAnswer
  | [], _ => []
  | act :: rest, world =>
    let (answer, reached) := step act world
    answer :: steps rest reached

/-- Carries out a script on an empty cache. -/
def answers (acts : List Act) : List StepAnswer := steps acts { cache := .empty, built := 0, memory := [] }

end ExtensionProxy.CacheScript
