import ExtensionProxy.Handle
import ExtensionProxy.Run

/-!
# Deferred tasks

Work that is scheduled never runs inside the call that scheduled it.  The host drains the queue
once per turn of its event loop; a drain starts the tasks that were queued before it, in the order
in which they were scheduled, and leaves what they schedule to the next one.  A task may be owned
by a sub-extension, whose tasks can be cancelled all at once, also from inside a drain.

The queue keeps a record of the tasks that were scheduled, started and cancelled.  Nothing that it does
depends on the record.
-/

set_option autoImplicit false

namespace ExtensionProxy

/-- A task that waits. -/
structure Task (κ : Type) where
  /-- The place in the order of scheduling. -/
  seq : Nat
  /-- The sub-extension that owns the task, if any. -/
  owner : Option ExtensionHandle
  /-- What the task runs. -/
  code : κ
  deriving DecidableEq, Repr

/-- What is done with tasks. -/
inductive TaskDeed (κ : Type) where
  /-- A task was scheduled. -/
  | scheduled (task : Task κ)
  /-- A task was taken from the queue and is started. -/
  | started (task : Task κ)
  /-- The waiting tasks of an owner were discarded. -/
  | cancelled (owner : ExtensionHandle)
  deriving DecidableEq, Repr

/-- The tasks that wait, in the order of scheduling. -/
structure TaskQueue (κ : Type) where
  /-- The waiting tasks. -/
  tasks : List (Task κ) := []
  /-- The place of the next task. -/
  nextSeq : Nat := 0
  /-- What was done with tasks, the latest first. -/
  record : List (TaskDeed κ) := []
  deriving DecidableEq, Repr

namespace TaskQueue

variable {κ σ : Type}

instance : Inhabited (TaskQueue κ) := ⟨{}⟩

/-- How many tasks wait. -/
def pending (queue : TaskQueue κ) : Nat := queue.tasks.length

/-- Schedules a task. -/
def schedule (queue : TaskQueue κ) (owner : Option ExtensionHandle) (code : κ) : TaskQueue κ :=
  { tasks := queue.tasks ++ [⟨queue.nextSeq, owner, code⟩]
    nextSeq := queue.nextSeq + 1
    record := .scheduled ⟨queue.nextSeq, owner, code⟩ :: queue.record }

/-- How many waiting tasks a sub-extension owns. -/
def ownedBy (queue : TaskQueue κ) (owner : ExtensionHandle) : Nat :=
  queue.tasks.countP fun task => task.owner == some owner

/-- Discards the waiting tasks that a sub-extension owns. -/
def cancelOwner (queue : TaskQueue κ) (owner : ExtensionHandle) : TaskQueue κ :=
  { queue with
    tasks := queue.tasks.filter fun task => task.owner != some owner
    record := .cancelled owner :: queue.record }

/-- The first waiting task, if it was scheduled before the limit, and the queue without it. -/
def takeBelow (queue : TaskQueue κ) (limit : Nat) : Option (Task κ × TaskQueue κ) :=
  match queue.tasks with
  | task :: rest =>
    if task.seq < limit then
      some (task, { queue with tasks := rest, record := .started task :: queue.record })
    else none
  | [] => none

/-- Starts waiting tasks from below the limit, at most the given number. -/
def drainBelow (lens : Lens σ (TaskQueue κ)) (run : Task κ → Run σ Unit) (limit : Nat) :
    Nat → Run σ Nat
  | 0 => pure 0
  | most + 1 => do
    let queue ← Run.gets lens.get
    match queue.takeBelow limit with
    | none => pure 0
    | some (task, rest) =>
      Run.modify (lens.set rest)
      run task
      let more ← drainBelow lens run limit most
      pure (more + 1)

/-- Starts every task that is queued now.  Each start takes a task away and none is added below the
limit, so as many rounds are enough as there are tasks. -/
def drain (lens : Lens σ (TaskQueue κ)) (run : Task κ → Run σ Unit) : Run σ Nat := do
  let queue ← Run.gets lens.get
  drainBelow lens run queue.nextSeq queue.tasks.length

/-! ## The order of the tasks -/

/-- The tasks are in the order of scheduling, and all were scheduled. -/
structure IsOrdered (queue : TaskQueue κ) : Prop where
  /-- They are in order. -/
  sorted : queue.tasks.Pairwise fun first second => first.seq < second.seq
  /-- They were scheduled. -/
  made : ∀ task ∈ queue.tasks, task.seq < queue.nextSeq

/-- The tasks that were scheduled below a limit. -/
def below (queue : TaskQueue κ) (limit : Nat) : List (Task κ) :=
  queue.tasks.filter fun task => task.seq < limit

theorem takeBelow_eq_some {queue rest : TaskQueue κ} {limit : Nat} {task : Task κ}
    (taken : queue.takeBelow limit = some (task, rest)) :
    queue.tasks = task :: rest.tasks ∧ task.seq < limit ∧ rest.nextSeq = queue.nextSeq := by
  obtain ⟨tasks, nextSeq, record⟩ := queue
  cases tasks with
  | nil => cases taken
  | cons first tasks =>
    simp only [takeBelow] at taken
    split at taken
    · next early =>
      cases taken
      exact ⟨rfl, early, rfl⟩
    · cases taken

/-- Where the first task is not below the limit, none is. -/
theorem takeBelow_eq_none {queue : TaskQueue κ} (ordered : queue.IsOrdered) {limit : Nat} :
    queue.takeBelow limit = none ↔ ∀ task ∈ queue.tasks, limit ≤ task.seq := by
  obtain ⟨tasks, nextSeq, record⟩ := queue
  cases tasks with
  | nil => exact ⟨fun _ => nofun, fun _ => rfl⟩
  | cons first tasks =>
    simp only [takeBelow]
    split
    · next early =>
      exact ⟨nofun, fun late => absurd early (Nat.not_lt_of_le (late first List.mem_cons_self))⟩
    · next late =>
      refine ⟨fun _ task there => ?_, fun _ => rfl⟩
      have late := Nat.le_of_not_lt late
      rcases List.mem_cons.mp there with rfl | there
      · exact late
      · exact Nat.le_trans late (Nat.le_of_lt (List.rel_of_pairwise_cons ordered.sorted there))

/-- What an operation leaves of a queue is in order again. -/
theorem IsOrdered.sublist {queue rest : TaskQueue κ} (h : queue.IsOrdered)
    (sub : rest.tasks.Sublist queue.tasks) (next : rest.nextSeq = queue.nextSeq) :
    rest.IsOrdered :=
  ⟨h.sorted.sublist sub, fun task there => next ▸ h.made task (sub.subset there)⟩

theorem IsOrdered.schedule {queue : TaskQueue κ} (h : queue.IsOrdered)
    (owner : Option ExtensionHandle) (code : κ) : (queue.schedule owner code).IsOrdered := by
  refine ⟨?_, fun task there => ?_⟩
  · refine List.pairwise_append.mpr ⟨h.sorted, List.pairwise_singleton _ _, fun first there last same => ?_⟩
    rw [List.mem_singleton.mp same]
    exact h.made first there
  · rcases List.mem_append.mp there with there | there
    · exact Nat.lt_succ_of_lt (h.made task there)
    · rw [List.mem_singleton.mp there]
      exact Nat.lt_succ_self _

end TaskQueue

end ExtensionProxy
