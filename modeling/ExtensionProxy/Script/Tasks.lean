import ExtensionProxy.TaskQueue.System
import ExtensionProxy.Text.Quoted

/-!
# Scripts for one task queue

Tasks given as data: the acts that a task does once it is started.  A script is a list of acts;
each is carried out at the top of the stack, and what the tasks did meanwhile is reported with its
answer.
-/

set_option autoImplicit false

namespace ExtensionProxy.TaskScript

/-- What a script or a task may do. -/
inductive Act where
  /-- Schedules a task under a name. -/
  | schedule (name : String) (owner : Option ExtensionHandle) (body : List Act)
  /-- Drains the queue. -/
  | drain
  /-- Cancels the tasks of an owner. -/
  | cancel (owner : ExtensionHandle)
  /-- Shows the queue for inspection. -/
  | inspect
  | panic (message : Option String)

/-- The name of an act. -/
def Act.name : Act → String
  | .schedule _ _ _ => "schedule"
  | .drain => "drain"
  | .cancel _ => "cancel"
  | .inspect => "debug"
  | .panic _ => "panic"

/-- The answer to an act. -/
inductive Reply where
  /-- Nothing to tell. -/
  | nothing
  /-- A number. -/
  | count (value : Nat)
  | text (value : String)

/-- What tasks report. -/
inductive Report where
  /-- A task was started. -/
  | ran (name : String)
  /-- A task did an act. -/
  | did (name : String) (reply : Reply)

/-- A task: its name, and what it does. -/
structure Body where
  name : String
  acts : List Act

/-- The interface of scripted tasks, which remember what they reported. -/
abbrev interface : Interface := taskInterface Body (Array Report)

/-- The world of a scripted queue. -/
abbrev World := TaskWorld Body (Array Report)

/-- A request. -/
def ask (request : interface.Request) : Program interface (interface.Answer request) :=
  .request request

/-- Adds a report. -/
def report (entry : Report) : Program interface Unit :=
  ask (TaskRequest.remember fun reports => reports.push entry)

/-- The program of an act. -/
def Act.program : Act → Program interface Reply
  | .schedule name owner body => do
    ask (TaskRequest.schedule owner ⟨name, body⟩)
    pure .nothing
  | .drain => do
    let ran ← ask TaskRequest.drain
    pure (.count ran)
  | .cancel owner => do
    let cancelled ← ask (TaskRequest.cancel owner)
    pure (.count cancelled)
  | .inspect => .view fun (world : World) =>
    .text (Inspect.record "TaskQueue" [("pending", toString world.queue.pending)])
  | .panic message => .panic message

/-- The program of a body: each act in turn, and a report of its answer. -/
def bodyProgram : List Act → Program interface Unit
  | [] => pure ()
  | act :: rest => do
    let reply ← act.program
    report (.did act.name reply)
    bodyProgram rest

/-- The scripted tasks as foreign code. -/
def foreign : interface.Foreign := fun task => do
  report (.ran task.code.name)
  bodyProgram task.code.acts

/-- The answer to one step of a script. -/
structure StepAnswer where
  /-- The answer to the act, or why it was stopped. -/
  result : Except Stop Reply
  /-- What the tasks reported. -/
  reports : List Report
  /-- How many tasks wait afterwards. -/
  pending : Nat

/-- Carries out one act at the top of the stack. -/
def step (act : Act) (world : World) : StepAnswer × World :=
  match interface.runTop (taskService Body (Array Report)) foreign stackLevels act.program
      { world with memory := #[], history := [] } with
  | (result, reached) => (⟨result, reached.memory.toList, reached.queue.pending⟩, reached)

/-- Carries out a script. -/
def steps : List Act → World → List StepAnswer
  | [], _ => []
  | act :: rest, world =>
    let (answer, reached) := step act world
    answer :: steps rest reached

/-- Carries out a script on an empty queue. -/
def answers (acts : List Act) : List StepAnswer := steps acts { queue := {}, memory := #[] }

end ExtensionProxy.TaskScript
