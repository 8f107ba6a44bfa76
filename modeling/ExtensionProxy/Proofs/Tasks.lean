import ExtensionProxy.Proofs.Course
import ExtensionProxy.Proofs.Foreign
import ExtensionProxy.TaskQueue.System
import Mathlib.Logic.ExistsUnique

/-!
# What becomes of scheduled tasks

A task waits until it is started or cancelled, and that is the end of it.  Whatever the tasks do,
they start in the order in which they were scheduled; a drain starts only tasks that waited when it
was called, and leaves none of them behind unless it is stopped.

A course lists what has happened, the first moment first.  `Follows` says what a moment does to the
tasks that wait; what is true of all tasks follows from that alone.  `Passage` says how drains
enclose what their tasks do.
-/

set_option autoImplicit false

namespace ExtensionProxy

variable {κ μ : Type}

/-- What has happened, in order. -/
abbrev TaskCourse (κ : Type) := List (TaskMoment κ)

namespace TaskCourse

/-! ## Reading a course -/

/-- The tasks that wait at the end. -/
def waiting (course : TaskCourse κ) : List (Task κ) :=
  match course.getLast? with
  | some moment => moment.waiting
  | none => []

/-- The tasks that were scheduled, in order. -/
def scheduled (course : TaskCourse κ) : List (Task κ) :=
  course.filterMap fun moment =>
    match moment.what with
    | .scheduled task => some task
    | _ => none

/-- The tasks that were started, in order. -/
def started (course : TaskCourse κ) : List (Task κ) :=
  course.filterMap fun moment =>
    match moment.what with
    | .starts task => some task
    | _ => none

/-- The tasks of its owner were cancelled when a task had been scheduled and not been started. -/
def IsCancelled (course : TaskCourse κ) (task : Task κ) : Prop :=
  ∃ past moment later owner, course = past ++ moment :: later ∧ moment.what = .cancelled owner ∧
    task.owner = some owner ∧ task ∈ scheduled past ∧ task ∉ started past

variable (past : TaskCourse κ) (what : TaskHappening κ) (left : List (Task κ))

@[simp] theorem waiting_concat : waiting (past ++ [⟨what, left⟩]) = left := by
  simp [waiting]

@[simp] theorem scheduled_concat : scheduled (past ++ [⟨what, left⟩]) = match what with
    | .scheduled task => scheduled past ++ [task]
    | _ => scheduled past := by
  cases what <;> simp [scheduled]

@[simp] theorem started_concat : started (past ++ [⟨what, left⟩]) = match what with
    | .starts task => started past ++ [task]
    | _ => started past := by
  cases what <;> simp [started]

/-- A task that is cancelled had been cancelled before, or it is one of those that are cancelled
now. -/
theorem isCancelled_concat (task : Task κ) :
    IsCancelled (past ++ [⟨what, left⟩]) task ↔ IsCancelled past task ∨
      ∃ owner, what = .cancelled owner ∧ task.owner = some owner ∧ task ∈ scheduled past ∧
        task ∉ started past := by
  constructor
  · rintro ⟨before, moment, later, owner, split, cancels, owned, made, idle⟩
    rcases List.eq_nil_or_concat later with rfl | ⟨later, last, rfl⟩
    · obtain ⟨rfl, same⟩ := List.append_inj' split rfl
      cases same
      exact .inr ⟨owner, cancels, owned, made, idle⟩
    · have split : past ++ [⟨what, left⟩] = (before ++ moment :: later) ++ [last] := by
        simpa using split
      exact .inl ⟨before, moment, later, owner, (List.append_inj' split rfl).1, cancels, owned, made,
        idle⟩
  · rintro (⟨before, moment, later, owner, rfl, rest⟩ | ⟨owner, cancels, rest⟩)
    · exact ⟨before, moment, later ++ [⟨what, left⟩], owner, by simp, rest⟩
    · exact ⟨past, ⟨what, left⟩, [], owner, rfl, cancels, rest⟩

theorem IsCancelled.made {course : TaskCourse κ} {task : Task κ} (h : IsCancelled course task) :
    task ∈ scheduled course := by
  obtain ⟨past, moment, later, owner, rfl, -, -, made, -⟩ := h
  simp only [scheduled, List.filterMap_append, List.mem_append]
  exact .inl made

/-- A task that was cancelled stays so. -/
theorem IsCancelled.of_prefix {past course : TaskCourse κ} {task : Task κ}
    (h : IsCancelled past task) (earlier : past <+: course) : IsCancelled course task := by
  obtain ⟨before, moment, later, owner, rfl, rest⟩ := h
  obtain ⟨more, rfl⟩ := earlier
  exact ⟨before, moment, later ++ more, owner, by simp, rest⟩

/-! ## What a moment does -/

/-- What a moment does to the tasks that wait. -/
def Follows (past : TaskCourse κ) (moment : TaskMoment κ) : Prop :=
  match moment.what with
  | .scheduled task =>
    (∀ older ∈ scheduled past, older.seq < task.seq) ∧ moment.waiting = waiting past ++ [task]
  | .cancelled owner =>
    moment.waiting = (waiting past).filter fun task => task.owner != some owner
  | .starts task => waiting past = task :: moment.waiting
  | _ => moment.waiting = waiting past

/-- Every moment follows from what was before it. -/
abbrev Lawful (course : TaskCourse κ) : Prop := Course.Lawful Follows course

namespace Lawful

variable {course : TaskCourse κ}

/-- Tasks are numbered in the order in which they are scheduled. -/
theorem numbered (lawful : Lawful course) :
    (scheduled course).Pairwise fun first second => first.seq < second.seq := by
  induction lawful with
  | nil => exact .nil
  | @concat past moment lawful follows ih =>
    obtain ⟨what, left⟩ := moment
    cases what with
    | scheduled task =>
      rw [scheduled_concat]
      refine List.pairwise_append.mpr ⟨ih, List.pairwise_singleton _ _, fun older made new same => ?_⟩
      rw [List.mem_singleton.mp same]
      exact follows.1 older made
    | _ => simpa using ih

theorem distinct (lawful : Lawful course) : (scheduled course).Nodup :=
  lawful.numbered.imp fun less same => absurd (same ▸ less) (Nat.lt_irrefl _)

/-- First come the tasks that were started and then those that wait, in the order in which they were
scheduled. -/
theorem in_order (lawful : Lawful course) :
    (started course ++ waiting course).Sublist (scheduled course) := by
  induction lawful with
  | nil => exact .slnil
  | @concat past moment lawful follows ih =>
    obtain ⟨what, left⟩ := moment
    cases what with
    | scheduled task =>
      obtain ⟨-, rfl⟩ := follows
      simp only [started_concat, waiting_concat, scheduled_concat, ← List.append_assoc]
      exact ih.append_right [task]
    | cancelled owner =>
      cases follows
      simp only [started_concat, waiting_concat, scheduled_concat]
      exact (List.filter_sublist.append_left _).trans ih
    | starts task =>
      have waits : waiting past = task :: left := follows
      simpa [waits] using ih
    | _ =>
      obtain rfl : left = waiting past := follows
      simpa using ih

/-- A task that was cancelled does not wait and was never started. -/
theorem gone (lawful : Lawful course) {task : Task κ} (cancelled : IsCancelled course task) :
    task ∉ waiting course ∧ task ∉ started course := by
  induction lawful with
  | nil =>
    obtain ⟨past, moment, later, owner, split, -⟩ := cancelled
    simp at split
  | @concat past moment lawful follows ih =>
    obtain ⟨what, left⟩ := moment
    have old : IsCancelled past task → task ∉ waiting past ∧ task ∉ started past := ih
    rw [isCancelled_concat] at cancelled
    cases what with
    | scheduled new =>
      obtain ⟨later, rfl⟩ := follows
      have before : IsCancelled past task := by simpa using cancelled
      have other : task ≠ new := fun same => Nat.lt_irrefl _ (same ▸ later task before.made)
      simp [old before, other]
    | cancelled owner =>
      cases follows
      rcases cancelled with before | ⟨_, same, owned, -, idle⟩
      · simp [old before]
      · cases same
        simp [owned, idle]
    | starts first =>
      have before : IsCancelled past task := by simpa using cancelled
      have waits : waiting past = first :: left := follows
      have away := old before
      rw [waits, List.mem_cons, not_or] at away
      simp [away]
    | _ =>
      obtain rfl : left = waiting past := follows
      have before : IsCancelled past task := by simpa using cancelled
      simpa using old before

/-- A task that was scheduled was started, waits, or was cancelled. -/
theorem fate (lawful : Lawful course) {task : Task κ} (made : task ∈ scheduled course) :
    task ∈ started course ∨ task ∈ waiting course ∨ IsCancelled course task := by
  induction lawful with
  | nil => cases made
  | @concat past moment lawful follows ih =>
    obtain ⟨what, left⟩ := moment
    have old : task ∈ scheduled past →
        task ∈ started past ∨ task ∈ waiting past ∨ IsCancelled past task := ih
    rw [isCancelled_concat]
    cases what with
    | scheduled new =>
      obtain ⟨-, rfl⟩ := follows
      simp only [scheduled_concat, started_concat, waiting_concat, List.mem_append,
        List.mem_singleton] at made ⊢
      rcases made with before | rfl
      · rcases old before with known | known | known
        · exact .inl known
        · exact .inr (.inl (.inl known))
        · exact .inr (.inr (.inl known))
      · exact .inr (.inl (.inr rfl))
    | cancelled owner =>
      cases follows
      have made : task ∈ scheduled past := by simpa using made
      rcases old made with before | waits | before
      · simp [before]
      · by_cases idle : task ∈ started past
        · simp [idle]
        · by_cases owned : task.owner = some owner
          · exact .inr (.inr (.inr ⟨owner, rfl, owned, made, idle⟩))
          · simp [waits, owned]
      · exact .inr (.inr (.inl before))
    | starts first =>
      have waits : waiting past = first :: left := follows
      have made : task ∈ scheduled past := by simpa using made
      have known := old made
      rw [waits, List.mem_cons] at known
      simp only [started_concat, waiting_concat, List.mem_append, List.mem_singleton]
      rcases known with known | (known | known) | known
      · exact .inl (.inl known)
      · exact .inl (.inr known)
      · exact .inr (.inl known)
      · exact .inr (.inr (.inl known))
    | _ =>
      obtain rfl : left = waiting past := follows
      have made : task ∈ scheduled past := by simpa using made
      simpa using old made

end Lawful

end TaskCourse

/-! ## States of tasks -/

/-- Where a task is. -/
inductive TaskState where
  /-- It waits. -/
  | queued
  /-- It was started. -/
  | started
  /-- It was cancelled. -/
  | cancelled
  deriving DecidableEq, Repr

/-- A task is in a state after a course. -/
def TaskState.Of (course : TaskCourse κ) (task : Task κ) : TaskState → Prop
  | .queued => task ∈ course.waiting
  | .started => task ∈ course.started
  | .cancelled => course.IsCancelled task

/-- A task that was scheduled is in exactly one state. -/
theorem TaskCourse.Lawful.existsUnique_state {course : TaskCourse κ} (lawful : course.Lawful)
    {task : Task κ} (made : task ∈ course.scheduled) : ∃! state, TaskState.Of course task state := by
  have apart : task ∈ course.started → task ∉ course.waiting := by
    intro started waits
    have distinct := lawful.distinct.sublist lawful.in_order
    exact (List.nodup_append.mp distinct).2.2 task started task waits rfl
  have gone := @lawful.gone _ _ task
  rcases lawful.fate made with started | waits | cancelled
  · refine ⟨.started, started, fun state here => ?_⟩
    cases state with
    | queued => exact absurd here (apart started)
    | started => rfl
    | cancelled => exact absurd started (gone here).2
  · refine ⟨.queued, waits, fun state here => ?_⟩
    cases state with
    | queued => rfl
    | started => exact absurd waits (apart here)
    | cancelled => exact absurd waits (gone here).1
  · refine ⟨.cancelled, cancelled, fun state here => ?_⟩
    cases state with
    | queued => exact absurd here (gone cancelled).1
    | started => exact absurd here (gone cancelled).2
    | cancelled => rfl

/-! ## Drains -/

/-- What a drain does with one task: it takes it out of the queue and runs it. -/
structure TaskTurn (κ : Type) where
  /-- The task. -/
  task : Task κ
  /-- The tasks that wait when it starts. -/
  waiting : List (Task κ)
  /-- What happens while it runs. -/
  inner : TaskCourse κ
  /-- The tasks that wait when it is over. -/
  left : List (Task κ)

/-- The moments of a turn that ended in a given way. -/
def TaskTurn.course (result : Except Stop Unit) (turn : TaskTurn κ) : TaskCourse κ :=
  ⟨.starts turn.task, turn.waiting⟩ :: turn.inner ++ [⟨.ended turn.task result, turn.left⟩]

namespace TaskCourse

/-- What foreign code does between its start and its end: one request after the other.  A drain takes
its turns one after the other, and in each of them there is again foreign code. -/
inductive Passage : TaskCourse κ → Prop
  /-- Nothing more is requested. -/
  | nil : Passage []
  /-- A task is scheduled; it is not started by that. -/
  | scheduled (task : Task κ) (left : List (Task κ)) {rest : TaskCourse κ} (more : Passage rest) :
      Passage (⟨.scheduled task, left⟩ :: rest)
  /-- The tasks of an owner are cancelled. -/
  | cancelled (owner : ExtensionHandle) (left : List (Task κ)) {rest : TaskCourse κ}
      (more : Passage rest) : Passage (⟨.cancelled owner, left⟩ :: rest)
  /-- A drain starts some of the tasks that wait, in their order, and tells how many.  None of those
  that waited is left. -/
  | drain (turns : List (TaskTurn κ)) (waiting left : List (Task κ)) {rest : TaskCourse κ}
      (own : (turns.map TaskTurn.task).Sublist waiting)
      (inner : ∀ turn ∈ turns, Passage turn.inner) (spent : ∀ task ∈ left, task ∉ waiting)
      (more : Passage rest) :
      Passage (⟨.drains, waiting⟩ :: turns.flatMap (TaskTurn.course (.ok ())) ++
        ⟨.drained (.ok turns.length), left⟩ :: rest)
  /-- A drain is stopped because its last task was. -/
  | stoppedDrain (turns : List (TaskTurn κ)) (last : TaskTurn κ) (why : Stop)
      (waiting left : List (Task κ)) {rest : TaskCourse κ}
      (own : ((turns ++ [last]).map TaskTurn.task).Sublist waiting)
      (inner : ∀ turn ∈ turns ++ [last], Passage turn.inner) (more : Passage rest) :
      Passage (⟨.drains, waiting⟩ :: (turns.flatMap (TaskTurn.course (.ok ())) ++
        last.course (.error why)) ++ ⟨.drained (.error why), left⟩ :: rest)

theorem Passage.append {first second : TaskCourse κ} (one : Passage first) (two : Passage second) :
    Passage (first ++ second) := by
  induction one with
  | nil => exact two
  | scheduled task left more ih => exact .scheduled task left ih
  | cancelled owner left more ih => exact .cancelled owner left ih
  | drain turns waiting left own inner spent more _ ih =>
    simpa using Passage.drain turns waiting left own inner spent ih
  | stoppedDrain turns last why waiting left own inner more _ ih =>
    simpa using Passage.stoppedDrain turns last why waiting left own inner ih

end TaskCourse

/-! ## How foreign code changes the queue -/

namespace TaskWorld

open TaskCourse

theorem course_note (what : TaskHappening κ) (world : TaskWorld κ μ) :
    (world.note what).course = world.course ++ [⟨what, world.queue.tasks⟩] := by
  simp [note, course]

/-- The record tells what the queue holds. -/
structure Sound (world : TaskWorld κ μ) : Prop where
  /-- Every moment follows from what was before it. -/
  lawful : Lawful world.course
  /-- The tasks that wait are those of the queue. -/
  current : waiting world.course = world.queue.tasks
  /-- What was scheduled has a number that was given away. -/
  made : ∀ task ∈ scheduled world.course, task.seq < world.queue.nextSeq

namespace Sound

variable {world next : TaskWorld κ μ}

theorem ordered (sound : world.Sound) : world.queue.IsOrdered := by
  have waits : world.queue.tasks.Sublist (scheduled world.course) :=
    sound.current ▸ (List.sublist_append_right _ _).trans sound.lawful.in_order
  exact ⟨sound.lawful.numbered.sublist waits, fun task there => sound.made task (waits.subset there)⟩

/-- A change of the queue that is put on record at once. -/
theorem note (sound : world.Sound) {what : TaskHappening κ} {queue : TaskQueue κ}
    (follows : Follows world.course ⟨what, queue.tasks⟩)
    (grows : world.queue.nextSeq ≤ queue.nextSeq)
    (made : ∀ task, what = .scheduled task → task.seq < queue.nextSeq) :
    (({ world with queue := queue } : TaskWorld κ μ).note what).Sound := by
  have course := course_note what ({ world with queue := queue } : TaskWorld κ μ)
  refine ⟨course ▸ .concat sound.lawful follows, by rw [course]; exact waiting_concat _ _ _,
    fun task there => ?_⟩
  rw [course] at there
  have old : task ∈ scheduled world.course → task.seq < queue.nextSeq := fun there =>
    Nat.lt_of_lt_of_le (sound.made task there) grows
  have there : task ∈ scheduled (world.course ++ [⟨what, queue.tasks⟩]) := there
  rw [scheduled_concat] at there
  cases what with
  | scheduled new =>
    rcases List.mem_append.mp there with there | there
    · exact old there
    · exact List.mem_singleton.mp there ▸ made new rfl
  | _ => exact old there

/-- Something that changes nothing is put on record. -/
theorem note_same (sound : world.Sound) {what : TaskHappening κ}
    (follows : Follows world.course ⟨what, waiting world.course⟩)
    (made : ∀ task, what ≠ .scheduled task) : (world.note what).Sound := by
  have follows : Follows world.course ⟨what, world.queue.tasks⟩ := sound.current ▸ follows
  exact sound.note follows (Nat.le_refl _) fun task same => absurd same (made task)

end Sound

/-- What foreign code does to a world. -/
structure Conduct (world next : TaskWorld κ μ) : Prop where
  /-- The record tells what the queue holds. -/
  sound : next.Sound
  /-- What happened was lawfully nested. -/
  passage : ∃ new, next.course = world.course ++ new ∧ Passage new
  /-- Numbers are given away in order. -/
  grows : world.queue.nextSeq ≤ next.queue.nextSeq
  /-- Nothing is scheduled below a limit that was reached. -/
  below : ∀ limit ≤ world.queue.nextSeq,
    (next.queue.below limit).Sublist (world.queue.below limit)

/-- Given that the record told what the queue held. -/
def Keeps (world next : TaskWorld κ μ) : Prop := world.Sound → Conduct world next

theorem Keeps.refl (world : TaskWorld κ μ) : Keeps world world := fun sound =>
  ⟨sound, ⟨[], (List.append_nil _).symm, .nil⟩, Nat.le_refl _, fun _ _ => .refl _⟩

theorem Conduct.trans {world middle next : TaskWorld κ μ} (first : Conduct world middle)
    (second : Conduct middle next) : Conduct world next := by
  obtain ⟨one, course, passage⟩ := first.passage
  obtain ⟨two, course', passage'⟩ := second.passage
  refine ⟨second.sound, ⟨one ++ two, ?_, passage.append passage'⟩,
    Nat.le_trans first.grows second.grows, fun limit old => ?_⟩
  · rw [course', course, List.append_assoc]
  · exact (second.below limit (Nat.le_trans old first.grows)).trans (first.below limit old)

theorem Keeps.trans {world middle next : TaskWorld κ μ} (first : Keeps world middle)
    (second : Keeps middle next) : Keeps world next := fun sound =>
  (first sound).trans (second (first sound).sound)

/-! ## The turns of a drain -/

/-- What a drain below a limit did in its turns. -/
structure Turns (limit : Nat) (world : TaskWorld κ μ) (turns : List (TaskTurn κ))
    (added : TaskCourse κ) (next : TaskWorld κ μ) : Prop where
  /-- The record tells what the queue holds. -/
  sound : next.Sound
  /-- What happened. -/
  course : next.course = world.course ++ added
  /-- The tasks are some of those that waited below the limit, in their order. -/
  own : (turns.map TaskTurn.task).Sublist (world.queue.below limit)
  /-- While they ran there was foreign code. -/
  inner : ∀ turn ∈ turns, Passage turn.inner
  /-- Numbers are given away in order. -/
  grows : world.queue.nextSeq ≤ next.queue.nextSeq
  /-- Nothing is scheduled below a limit that was reached. -/
  below : ∀ limit ≤ world.queue.nextSeq,
    (next.queue.below limit).Sublist (world.queue.below limit)

theorem Turns.nothing {limit : Nat} {world : TaskWorld κ μ} (sound : world.Sound) :
    Turns limit world [] [] world :=
  ⟨sound, (List.append_nil _).symm, List.nil_sublist _, nofun, Nat.le_refl _, fun _ _ => .refl _⟩

/-- A task is taken out of the queue and run. -/
theorem startTask_turn {call : (taskInterface κ μ).Caller} {world : TaskWorld κ μ} {limit : Nat}
    {task : Task κ} {rest : TaskQueue κ} (lawful : ∀ task world, Keeps world (call task world).2)
    (sound : world.Sound) (old : limit ≤ world.queue.nextSeq)
    (taken : world.queue.takeBelow limit = some (task, rest)) :
    ∃ turn : TaskTurn κ, turn.task = task ∧
      ∃ result next, startTask call task { world with queue := rest } = (result, next) ∧
        Turns limit world [turn] (turn.course result) next ∧
        (next.queue.below limit).Sublist (rest.below limit) := by
  obtain ⟨tasks, early, numbers⟩ := TaskQueue.takeBelow_eq_some taken
  let started := ({ world with queue := rest } : TaskWorld κ μ).note (.starts task)
  have follows : Follows world.course ⟨.starts task, rest.tasks⟩ := sound.current.trans tasks
  have conduct := lawful task started (sound.note follows (Nat.le_of_eq numbers.symm) nofun)
  obtain ⟨new, course, passage⟩ := conduct.passage
  have first : started.course = world.course ++ [⟨.starts task, rest.tasks⟩] := course_note _ _
  have world_below : ∀ limit, world.queue.below limit
      = if task.seq < limit then task :: rest.below limit else rest.below limit := fun limit => by
    simp [TaskQueue.below, tasks, List.filter_cons]
  refine ⟨⟨task, rest.tasks, new, (call task started).2.queue.tasks⟩, rfl, _, _, rfl,
    ⟨conduct.sound.note_same rfl nofun, ?_, ?_, ?_, ?_, fun limit old => ?_⟩, ?_⟩
  · refine (course_note _ _).trans ?_
    rw [course, first]
    simp [TaskTurn.course, started]
  · rw [world_below, if_pos early]
    exact (List.nil_sublist _).cons_cons task
  · simpa using passage
  · exact numbers ▸ conduct.grows
  · refine (conduct.below limit (numbers ▸ old)).trans ?_
    rw [world_below]
    split
    · exact List.sublist_cons_self _ _
    · exact .refl _
  · exact conduct.below limit (numbers ▸ old)

/-- The turns of a drain, one after the other. -/
theorem Turns.trans {limit : Nat} {world middle next : TaskWorld κ μ} {turns more : List (TaskTurn κ)}
    {added late : TaskCourse κ} (first : Turns limit world turns added middle)
    (second : Turns limit middle more late next)
    (own : ((turns ++ more).map TaskTurn.task).Sublist (world.queue.below limit)) :
    Turns limit world (turns ++ more) (added ++ late) next := by
  refine ⟨second.sound, ?_, own, fun turn there => ?_, Nat.le_trans first.grows second.grows,
    fun limit old => ?_⟩
  · rw [second.course, first.course, List.append_assoc]
  · exact (List.mem_append.mp there).elim (first.inner turn) (second.inner turn)
  · exact (second.below limit (Nat.le_trans old first.grows)).trans (first.below limit old)

/-- A drain with enough rounds takes its turns until nothing waits below the limit, or until a task is
stopped. -/
theorem drainBelow_turns {call : (taskInterface κ μ).Caller} {limit : Nat}
    (lawful : ∀ task world, Keeps world (call task world).2) :
    ∀ (most : Nat) (world : TaskWorld κ μ), world.Sound → limit ≤ world.queue.nextSeq →
      (world.queue.below limit).length ≤ most →
      (∃ turns next, TaskQueue.drainBelow queueLens (startTask call) limit most world
          = (.ok turns.length, next) ∧
        Turns limit world turns (turns.flatMap (TaskTurn.course (.ok ()))) next ∧
        next.queue.below limit = []) ∨
      ∃ turns last why next, TaskQueue.drainBelow queueLens (startTask call) limit most world
          = (.error why, next) ∧
        Turns limit world (turns ++ [last])
          (turns.flatMap (TaskTurn.course (.ok ())) ++ last.course (.error why)) next := by
  intro most
  induction most with
  | zero =>
    intro world sound old enough
    exact .inl ⟨[], world, rfl, .nothing sound, List.length_eq_zero_iff.mp (Nat.le_zero.mp enough)⟩
  | succ most ih =>
    intro world sound old enough
    cases taken : world.queue.takeBelow limit with
    | none =>
      have late := (TaskQueue.takeBelow_eq_none sound.ordered).mp taken
      refine .inl ⟨[], world, ?_, .nothing sound, ?_⟩
      · simp [TaskQueue.drainBelow, queueLens, taken]
      · simpa [TaskQueue.below] using late
    | some pair =>
      obtain ⟨task, rest⟩ := pair
      obtain ⟨turn, rfl, result, middle, run, first, shrinks⟩ :=
        startTask_turn lawful sound old taken
      obtain ⟨tasks, early, -⟩ := TaskQueue.takeBelow_eq_some taken
      have world_below : world.queue.below limit = turn.task :: rest.below limit := by
        simp [TaskQueue.below, tasks, early]
      have unfolded : TaskQueue.drainBelow queueLens (startTask call) limit (most + 1) world
          = (startTask call turn.task >>= fun _ =>
              TaskQueue.drainBelow queueLens (startTask call) limit most >>= fun more =>
                pure (more + 1)) { world with queue := rest } := by
        simp [TaskQueue.drainBelow, queueLens, taken]
      cases result with
      | error why =>
        refine .inr ⟨[], turn, why, middle, ?_, by simpa using first⟩
        exact unfolded.trans (Run.bind_apply_of_error _ run)
      | ok value =>
        rw [unfolded, Run.bind_apply_of_ok _ run]
        have enough : (middle.queue.below limit).length ≤ most := by
          have := shrinks.length_le
          rw [world_below, List.length_cons] at enough
          omega
        have own : ∀ {more : List (TaskTurn κ)},
            (more.map TaskTurn.task).Sublist (middle.queue.below limit) →
            (([turn] ++ more).map TaskTurn.task).Sublist (world.queue.below limit) := by
          intro more own
          rw [world_below]
          exact (own.trans shrinks).cons_cons turn.task
        rcases ih middle first.sound (Nat.le_trans old first.grows) enough with
          ⟨turns, next, rounds, second, spent⟩ | ⟨turns, last, why, next, rounds, second⟩
        · refine .inl ⟨turn :: turns, next, Run.bind_apply_of_ok _ rounds, ?_, spent⟩
          simpa using first.trans second (own second.own)
        · refine .inr ⟨turn :: turns, last, why, next, Run.bind_apply_of_error _ rounds, ?_⟩
          simpa using first.trans second (own second.own)

/-- A drain is a passage of foreign code. -/
theorem drain_keeps {call : (taskInterface κ μ).Caller}
    (lawful : ∀ task world, Keeps world (call task world).2) (world : TaskWorld κ μ) :
    Keeps world (taskService κ μ call .drain world).2 := by
  intro sound
  let begun := world.note .drains
  have first : begun.course = world.course ++ [⟨.drains, world.queue.tasks⟩] := course_note _ _
  have all : begun.queue.below world.queue.nextSeq = world.queue.tasks :=
    List.filter_eq_self.mpr fun task there => decide_eq_true (sound.ordered.made task there)
  have run : ∀ result next, TaskQueue.drainBelow queueLens (startTask call) world.queue.nextSeq
      world.queue.tasks.length begun = (result, next) →
      (taskService κ μ call .drain world).2 = next.note (.drained result) := by
    intro result next rounds
    have whole : (taskService κ μ call .drain world).2
        = (TaskQueue.drainBelow queueLens (startTask call) world.queue.nextSeq
            world.queue.tasks.length begun).2.note (.drained (TaskQueue.drainBelow queueLens
              (startTask call) world.queue.nextSeq world.queue.tasks.length begun).1) := rfl
    rw [whole, rounds]
  rcases drainBelow_turns lawful world.queue.tasks.length begun (sound.note_same rfl nofun)
    (Nat.le_refl _) (Nat.le_of_eq (congrArg List.length all)) with
    ⟨turns, next, rounds, took, spent⟩ | ⟨turns, last, why, next, rounds, took⟩
  · rw [run _ _ rounds]
    refine ⟨took.sound.note_same rfl nofun, ⟨_, ?_, .drain turns world.queue.tasks
      next.queue.tasks (all ▸ took.own) took.inner ?_ .nil⟩, took.grows, took.below⟩
    · rw [course_note, took.course, first]
      simp
    · intro task there waited
      have early : task ∈ next.queue.below world.queue.nextSeq :=
        List.mem_filter.mpr ⟨there, decide_eq_true (sound.ordered.made task waited)⟩
      exact List.not_mem_nil (spent ▸ early)
  · rw [run _ _ rounds]
    refine ⟨took.sound.note_same rfl nofun, ⟨_, ?_, .stoppedDrain turns last why world.queue.tasks
      next.queue.tasks (all ▸ took.own) took.inner .nil⟩, took.grows, took.below⟩
    rw [course_note, took.course, first]
    simp

/-- Foreign code that calls foreign code lawfully requests lawfully. -/
theorem taskService_keeps {call : (taskInterface κ μ).Caller}
    (lawful : ∀ task world, Keeps world (call task world).2) (request : TaskRequest κ μ)
    (world : TaskWorld κ μ) : Keeps world (taskService κ μ call request world).2 := by
  cases request with
  | drain => exact drain_keeps lawful world
  | remember change =>
    intro sound
    exact ⟨⟨sound.lawful, sound.current, sound.made⟩, (Keeps.refl world sound).passage,
      Nat.le_refl _, fun _ _ => .refl _⟩
  | schedule owner code =>
    intro sound
    let task : Task κ := ⟨world.queue.nextSeq, owner, code⟩
    let queue := world.queue.schedule owner code
    have follows : Follows world.course ⟨.scheduled task, queue.tasks⟩ :=
      ⟨sound.made, congrArg (· ++ [task]) sound.current.symm⟩
    refine ⟨sound.note follows (Nat.le_succ _) fun new same => ?_, ⟨_, course_note _ _,
      .scheduled _ _ .nil⟩, Nat.le_succ _, fun limit old => ?_⟩
    · cases same
      exact Nat.lt_succ_self _
    · have late : ¬world.queue.nextSeq < limit := Nat.not_lt_of_le old
      have same : queue.below limit = world.queue.below limit := by
        simp [queue, TaskQueue.below, TaskQueue.schedule, late]
      exact same ▸ .refl _
  | cancel owner =>
    intro sound
    have follows : Follows world.course ⟨.cancelled owner, (world.queue.cancelOwner owner).tasks⟩ :=
      congrArg (List.filter fun task : Task κ => task.owner != some owner) sound.current.symm
    exact ⟨sound.note follows (Nat.le_refl _) nofun, ⟨_, course_note _ _, .cancelled _ _ .nil⟩,
      Nat.le_refl _, fun limit _ => List.filter_sublist.filter _⟩

/-! ## Every life of a queue -/

/-- What is true of the tasks of a queue, whatever they do. -/
structure Orderly (world : TaskWorld κ μ) : Prop where
  /-- The record tells what the queue holds. -/
  current : waiting world.course = world.queue.tasks
  /-- At every point a task that was scheduled waits, was started or was cancelled, and only one of
  these. -/
  state : ∀ past, past <+: world.course → ∀ task ∈ scheduled past,
    ∃! state, TaskState.Of past task state
  /-- A task that was cancelled never starts. -/
  final : ∀ past, past <+: world.course → ∀ task, IsCancelled past task →
    task ∉ started world.course
  /-- No task is scheduled twice. -/
  distinct : (scheduled world.course).Nodup
  /-- Tasks start in the order in which they were scheduled, so none starts twice. -/
  order : (started world.course).Sublist (scheduled world.course)
  /-- Whoever schedules a task leaves it waiting behind the others. -/
  scheduling : ∀ past task left, past ++ [⟨.scheduled task, left⟩] <+: world.course →
    left = waiting past ++ [task]
  /-- Cancelling the tasks of an owner leaves the others in their order. -/
  cancelling : ∀ past owner left, past ++ [⟨.cancelled owner, left⟩] <+: world.course →
    left = (waiting past).filter fun task => task.owner != some owner
  /-- Drains enclose what their tasks do, start only what waited when they were called, tell how many
  tasks they started, and leave nothing behind that waited. -/
  drains : Passage world.course

/-- Whatever programs a host runs on a new queue and whatever the tasks do, to any depth: every task
has one fate, tasks start in order, and drains start what waited for them. -/
theorem live_tasks_orderly (foreign : (taskInterface κ μ).Foreign) (levels : Nat)
    (programs : List (Program (taskInterface κ μ) Unit)) (memory : μ) :
    ((taskInterface κ μ).live (taskService κ μ) foreign levels programs
      { queue := {}, memory := memory }).Orderly := by
  have sound : ({ queue := {}, memory := memory } : TaskWorld κ μ).Sound := ⟨.nil, rfl, nofun⟩
  have conduct := (taskInterface κ μ).live_keeps Keeps.refl Keeps.trans
    (fun _ => taskService_keeps) foreign levels programs _ sound
  obtain ⟨lawful, current, -⟩ := conduct.sound
  obtain ⟨new, course, passage⟩ := conduct.passage
  refine ⟨current, fun past earlier task made => ?_, fun past earlier task cancelled => ?_,
    TaskCourse.Lawful.distinct lawful, ?_, fun past task left here => ?_,
    fun past owner left here => lawful.follows here, course ▸ passage⟩
  · exact TaskCourse.Lawful.existsUnique_state (lawful.of_prefix earlier) made
  · exact (TaskCourse.Lawful.gone lawful (cancelled.of_prefix earlier)).2
  · exact (List.sublist_append_left _ _).trans (TaskCourse.Lawful.in_order lawful)
  · exact (lawful.follows here).2

end TaskWorld

end ExtensionProxy
