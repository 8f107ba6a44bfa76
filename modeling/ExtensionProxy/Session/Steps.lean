import ExtensionProxy.Proxy.Service
import ExtensionProxy.Proxy.View
import ExtensionProxy.Session.Foreign

/-!
# Sessions

A session makes a proxy and carries acts out at the top of the stack, one after the other.  The
answer to a step is the answer to its act, what was journaled and logged meanwhile, and a view of
the state afterwards.
-/

set_option autoImplicit false

namespace ExtensionProxy.Session

/-- The answer to one step. -/
structure StepAnswer where
  /-- The answer to the act, or why it was stopped. -/
  result : Except Stop Reply
  journal : List Entry
  /-- What was logged. -/
  log : List LogEvent
  /-- The state afterwards. -/
  state : StateView

/-- The state with empty journal and log, and with nothing in its history. -/
def World.fresh (world : World) : World :=
  { world with
    memory := { world.memory with journal := #[] }
    bench := { world.bench with log := #[] }
    history := [] }

/-- Carries out a program at the top of the stack. -/
def runTop {α : Type} (scene : Scene) (program : Program interface α) : Run World α :=
  interface.runTop (serve scene.site) (foreign scene) stackLevels program

/-- Carries out one act at the top of the stack. -/
def step (scene : Scene) (act : Act) (world : World) : StepAnswer × World :=
  match runTop scene (act.program scene {}) (World.fresh world) with
  | (result, reached) =>
    (⟨result.map fun reply => reply.getD .nothing, reached.memory.journal.toList,
      reached.bench.log.toList, StateView.of reached⟩, reached)

/-- Carries out acts one after the other. -/
def steps (scene : Scene) : List Act → World → List StepAnswer
  | [], _ => []
  | act :: rest, world =>
    let (answer, reached) := step scene act world
    answer :: steps scene rest reached

/-- The answer that shows a proxy right after it was made. -/
def firstAnswer (world : World) : StepAnswer :=
  ⟨.ok .nothing, [], world.bench.log.toList, StateView.of world⟩

/-- Carries out a session: the view of the new proxy, then the answers to the acts. -/
def answers (scene : Scene) (host : HostView) (acts : List Act) : List StepAnswer :=
  let world : World := State.create scene.site host {}
  firstAnswer world :: steps scene acts world

end ExtensionProxy.Session
