import ExtensionProxy.Program
import ExtensionProxy.TaskQueue

/-!
# A task queue and its foreign code

One queue together with the tasks that it runs.  A task is foreign code: it may schedule tasks,
cancel those of an owner, and drain the queue again, to any depth.

What happens is put on record, with the tasks that wait at each moment.  Nothing that the queue does
depends on the record.
-/

set_option autoImplicit false

namespace ExtensionProxy

/-- What happens to a queue. -/
inductive TaskHappening (κ : Type) where
  | scheduled (task : Task κ)
  /-- The waiting tasks of an owner were cancelled. -/
  | cancelled (owner : ExtensionHandle)
  /-- A drain begins. -/
  | drains
  /-- A task was taken out of the queue and is started. -/
  | starts (task : Task κ)
  /-- A task is over, because it came to its end or was stopped. -/
  | ended (task : Task κ) (result : Except Stop Unit)
  /-- A drain is over; unless it was stopped it tells how many tasks it started. -/
  | drained (result : Except Stop Nat)

/-- A moment of the record. -/
structure TaskMoment (κ : Type) where
  what : TaskHappening κ
  /-- The tasks that wait since. -/
  waiting : List (Task κ)

/-- A queue, the memory of its tasks, and the record. -/
structure TaskWorld (κ μ : Type) where
  queue : TaskQueue κ
  /-- What foreign code remembers. -/
  memory : μ
  /-- What has happened, the latest first. -/
  history : List (TaskMoment κ) := []

namespace TaskWorld

variable {κ μ : Type}

/-- The queue as a part of the world. -/
def queueLens : Lens (TaskWorld κ μ) (TaskQueue κ) where
  get world := world.queue
  set queue world := { world with queue := queue }
  get_set _ _ := rfl
  set_set _ _ _ := rfl

/-- Changes the memory. -/
def remember (change : μ → μ) (world : TaskWorld κ μ) : TaskWorld κ μ :=
  { world with memory := change world.memory }

/-- Puts something on record. -/
def note (what : TaskHappening κ) (world : TaskWorld κ μ) : TaskWorld κ μ :=
  { world with history := ⟨what, world.queue.tasks⟩ :: world.history }

/-- What has happened, in order. -/
def course (world : TaskWorld κ μ) : List (TaskMoment κ) := world.history.reverse

end TaskWorld

/-- What a task may request. -/
inductive TaskRequest (κ μ : Type) where
  /-- Schedule a task. -/
  | schedule (owner : Option ExtensionHandle) (code : κ)
  /-- Drain the queue. -/
  | drain
  /-- Cancel the tasks of an owner. -/
  | cancel (owner : ExtensionHandle)
  /-- Change the memory. -/
  | remember (change : μ → μ)

/-- What a request is answered with: how many tasks were started, how many cancelled. -/
@[reducible] def TaskRequest.Answer {κ μ : Type} : TaskRequest κ μ → Type
  | .schedule _ _ => Unit
  | .drain => Nat
  | .cancel _ => Nat
  | .remember _ => Unit

/-- The tasks of one queue as foreign code. -/
abbrev taskInterface (κ μ : Type) : Interface where
  State := TaskWorld κ μ
  Request := TaskRequest κ μ
  Answer := TaskRequest.Answer
  Call := Task κ
  Reply _ := Unit

/-- Starts a task and puts it on record. -/
def startTask {κ μ : Type} (call : (taskInterface κ μ).Caller) (task : Task κ) :
    Run (TaskWorld κ μ) Unit := do
  Run.modify (TaskWorld.note (.starts task))
  Run.concluding (call task) fun result => TaskWorld.note (.ended task result)

/-- Carries out the requests of tasks. -/
def taskService (κ μ : Type) : (taskInterface κ μ).Service := fun call request =>
  match request with
  | .schedule owner code => do
    let world ← Run.get
    Run.modify (TaskWorld.queueLens.modify fun queue => queue.schedule owner code)
    Run.modify (TaskWorld.note (.scheduled ⟨world.queue.nextSeq, owner, code⟩))
  | .drain => do
    Run.modify (TaskWorld.note .drains)
    Run.concluding (TaskQueue.drain TaskWorld.queueLens (startTask call)) fun result =>
      TaskWorld.note (.drained result)
  | .cancel owner => do
    let world ← Run.get
    Run.modify (TaskWorld.queueLens.modify fun queue => queue.cancelOwner owner)
    Run.modify (TaskWorld.note (.cancelled owner))
    pure (world.queue.ownedBy owner)
  | .remember change => Run.modify (TaskWorld.remember change)

end ExtensionProxy
