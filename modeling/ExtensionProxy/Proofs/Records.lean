import ExtensionProxy.Proofs.Runs

/-!
# What remains by the records

A signal records which handlers were connected and dropped, and the queue of deferred tasks which
tasks were scheduled, started and cancelled.  Both records are read in one way: a deed may begin an
item, and it may end items that were begun before.  An item remains if it was begun and nothing has
ended it since.

The slots of every signal and the waiting tasks are exactly the items that remain by the records, in
the order in which they were begun.  Every step keeps it so, and therefore nothing that stops a run can
lose a handler or a task, bring one back, or change their order.
-/

set_option autoImplicit false

namespace ExtensionProxy

/-! ## Reading a record -/

/-- How deeds account for items. -/
structure Bookkeeping (δ ι : Type) where
  /-- The item that a deed begins. -/
  begins : δ → Option ι
  /-- A deed ends an item. -/
  Ends : δ → ι → Prop
  /-- The number of an item; items are numbered in the order in which they are begun. -/
  number : ι → Nat

namespace Bookkeeping

variable {δ ι : Type} (book : Bookkeeping δ ι)

/-- The items that were ever begun, in order; a record lists the latest deed first. -/
def begun (record : List δ) : List ι := (record.filterMap book.begins).reverse

/-- The item was begun, and no deed has ended it since. -/
def Remains (record : List δ) (item : ι) : Prop :=
  ∃ since first before, record = since ++ first :: before ∧ book.begins first = some item ∧
    ∀ deed ∈ since, ¬book.Ends deed item

/-- The items are those that remain by the record, and the next one gets the given number. -/
structure Accounts (record : List δ) (next : Nat) (items : List ι) : Prop where
  /-- They are in the order in which they were begun. -/
  inOrder : items.Sublist (book.begun record)
  /-- Of any two that were begun the later one has the greater number. -/
  numbered : (book.begun record).Pairwise fun first second => book.number first < book.number second
  /-- All of them have their numbers. -/
  below : ∀ item ∈ book.begun record, book.number item < next
  /-- Nothing else is there, and nothing is missing. -/
  complete : ∀ item, item ∈ items ↔ book.Remains record item

variable {book} {record : List δ} {deed : δ} {item : ι} {items rest : List ι} {next : Nat}

theorem remains_cons : book.Remains (deed :: record) item ↔
    book.begins deed = some item ∨ ¬book.Ends deed item ∧ book.Remains record item := by
  constructor
  · rintro ⟨since, first, before, whole, begins, kept⟩
    cases since with
    | nil =>
      cases whole
      exact .inl begins
    | cons latest since =>
      cases whole
      exact .inr ⟨kept _ List.mem_cons_self, since, first, before, rfl, begins,
        fun other there => kept other (List.mem_cons_of_mem _ there)⟩
  · rintro (begins | ⟨spared, since, first, before, rfl, begins, kept⟩)
    · exact ⟨[], deed, record, rfl, begins, by simp⟩
    · exact ⟨deed :: since, first, before, rfl, begins, List.forall_mem_cons.mpr ⟨spared, kept⟩⟩

theorem begun_cons_of_some (begins : book.begins deed = some item) :
    book.begun (deed :: record) = book.begun record ++ [item] := by
  simp [begun, begins]

theorem begun_cons_of_none (begins : book.begins deed = none) :
    book.begun (deed :: record) = book.begun record := by
  simp [begun, begins]

namespace Accounts

/-- At the beginning there is nothing. -/
theorem nil : book.Accounts [] next [] := by
  refine ⟨.slnil, .nil, by simp [begun], fun item => ⟨by simp, ?_⟩⟩
  rintro ⟨since, first, before, whole, -⟩
  simp at whole

/-- No item is there twice. -/
theorem nodup (h : book.Accounts record next items) : items.Nodup :=
  (h.numbered.sublist h.inOrder).imp fun lt same => Nat.ne_of_lt lt (congrArg book.number same)

/-- A deed begins the next item. -/
theorem begin (h : book.Accounts record next items) (begins : book.begins deed = some item)
    (number : book.number item = next) (spares : ∀ other, ¬book.Ends deed other) :
    book.Accounts (deed :: record) (next + 1) (items ++ [item]) := by
  have below : ∀ other ∈ book.begun record, book.number other < book.number item := by
    intro other there
    rw [number]
    exact h.below other there
  constructor
  · rw [begun_cons_of_some begins]
    exact h.inOrder.append_right _
  · rw [begun_cons_of_some begins]
    refine List.pairwise_append.mpr ⟨h.numbered, List.pairwise_singleton _ _, ?_⟩
    intro other there last same
    rw [List.mem_singleton.mp same]
    exact below other there
  · rw [begun_cons_of_some begins]
    intro other there
    rcases List.mem_append.mp there with old | new
    · exact Nat.lt_succ_of_lt (h.below other old)
    · rw [List.mem_singleton.mp new, number]
      exact Nat.lt_succ_self next
  · intro other
    rw [remains_cons, List.mem_append, List.mem_singleton, h.complete, begins]
    constructor
    · rintro (old | rfl)
      · exact .inr ⟨spares other, old⟩
      · exact .inl rfl
    · rintro (same | ⟨-, old⟩)
      · exact .inr (Option.some.inj same).symm
      · exact .inl old

/-- A deed ends items. -/
theorem finish (h : book.Accounts record next items) (begins : book.begins deed = none)
    (sub : rest.Sublist items) (kept : ∀ item ∈ items, item ∈ rest ↔ ¬book.Ends deed item) :
    book.Accounts (deed :: record) next rest := by
  have same : book.begun (deed :: record) = book.begun record := begun_cons_of_none begins
  refine ⟨same ▸ sub.trans h.inOrder, same ▸ h.numbered, same ▸ h.below, fun item => ?_⟩
  rw [remains_cons, begins, ← h.complete]
  constructor
  · intro there
    have old := sub.subset there
    exact .inr ⟨(kept item old).mp there, old⟩
  · rintro (begins | ⟨spared, old⟩)
    · cases begins
    · exact (kept item old).mpr spared

end Accounts

end Bookkeeping

/-! ## Handlers -/

/-- What the deeds of a signal tell of its handlers. -/
def HandlerDeed.book {κ : Type} : Bookkeeping (HandlerDeed κ) (Slot κ) where
  begins
    | .connected slot => some slot
    | _ => none
  Ends
    | .connected _, _ => False
    | .disconnected id, slot => slot.id = id
    | .dismissed owner, slot => slot.owner = some owner
  number := Slot.id

variable {κ : Type}

/-- The slots of a signal are exactly the handlers that were connected and not dropped since, in the
order in which they were connected. -/
def Signal.IsRecorded (signal : Signal κ) : Prop :=
  HandlerDeed.book.Accounts signal.record signal.nextId signal.slots

namespace Signal.IsRecorded

variable {signal : Signal κ}

theorem empty : ({} : Signal κ).IsRecorded := Bookkeeping.Accounts.nil

theorem connect (h : signal.IsRecorded) (owner : Option ExtensionHandle) (code : κ) :
    (signal.connect owner code).IsRecorded :=
  h.begin rfl rfl fun _ ends => ends

theorem disconnect (h : signal.IsRecorded) (id : Nat) : (signal.disconnect id).IsRecorded := by
  refine h.finish rfl List.filter_sublist fun slot there => ?_
  simp [Signal.disconnect, HandlerDeed.book, there]

theorem disconnectOwner (h : signal.IsRecorded) (owner : ExtensionHandle) :
    (signal.disconnectOwner owner).IsRecorded := by
  obtain ⟨slots, nextId, running, record⟩ := signal
  cases slots with
  | nil => exact h
  | cons first rest =>
    change HandlerDeed.book.Accounts (.dismissed owner :: record) nextId
      ((first :: rest).filter fun slot => slot.owner != some owner)
    refine Bookkeeping.Accounts.finish h rfl List.filter_sublist fun slot there => ?_
    simp only [HandlerDeed.book, List.mem_filter, there, true_and, bne_iff_ne, ne_eq]

end Signal.IsRecorded

/-! ## Tasks -/

/-- What the deeds of the queue tell of its tasks. -/
def TaskDeed.book : Bookkeeping (TaskDeed κ) (Task κ) where
  begins
    | .scheduled task => some task
    | _ => none
  Ends
    | .scheduled _, _ => False
    | .started other, task => task = other
    | .cancelled owner, task => task.owner = some owner
  number := Task.seq

/-- The waiting tasks are exactly those that were scheduled and neither started nor cancelled, in the
order in which they were scheduled. -/
def TaskQueue.IsRecorded (queue : TaskQueue κ) : Prop :=
  TaskDeed.book.Accounts queue.record queue.nextSeq queue.tasks

namespace TaskQueue.IsRecorded

variable {queue : TaskQueue κ}

theorem empty : ({} : TaskQueue κ).IsRecorded := Bookkeeping.Accounts.nil

theorem schedule (h : queue.IsRecorded) (owner : Option ExtensionHandle) (code : κ) :
    (queue.schedule owner code).IsRecorded :=
  h.begin rfl rfl fun _ ends => ends

theorem cancelOwner (h : queue.IsRecorded) (owner : ExtensionHandle) :
    (queue.cancelOwner owner).IsRecorded := by
  refine h.finish rfl List.filter_sublist fun task there => ?_
  simp [TaskQueue.cancelOwner, TaskDeed.book, there]

/-- A task that is taken from the queue is put on record as started. -/
theorem take (h : queue.IsRecorded) {limit : Nat} {task : Task κ} {rest : TaskQueue κ}
    (taken : queue.takeBelow limit = some (task, rest)) : rest.IsRecorded := by
  obtain ⟨tasks, nextSeq, record⟩ := queue
  cases tasks with
  | nil => cases taken
  | cons first tasks =>
    simp only [takeBelow] at taken
    split at taken
    · cases taken
      obtain ⟨alone, -⟩ := List.nodup_cons.mp h.nodup
      refine h.finish rfl (List.sublist_cons_self _ _) fun other there => ?_
      have ended : TaskDeed.book.Ends (.started task) other ↔ other = task := Iff.rfl
      rw [ended]
      rcases List.mem_cons.mp there with rfl | later
      · exact iff_of_false alone fun different => different rfl
      · refine iff_of_true later ?_
        rintro rfl
        exact alone later
    · cases taken

end TaskQueue.IsRecorded

/-! ## Records on every path -/

theorem Signal.IsRecorded.becomes {before after : Signal κ} (h : before.IsRecorded)
    (change : before.Becomes after) : after.IsRecorded := by
  cases change with
  | connect owner code => exact h.connect owner code
  | disconnect id => exact h.disconnect id
  | disconnectOwner owner => exact h.disconnectOwner owner
  -- Marks are no part of the record.
  | same | enter | leave => exact h

theorem TaskQueue.IsRecorded.becomes {before after : TaskQueue κ} (h : before.IsRecorded)
    (change : before.Becomes after) : after.IsRecorded := by
  cases change with
  | same => exact h
  | schedule owner code => exact h.schedule owner code
  | cancel owner => exact h.cancelOwner owner
  | take limit task rest taken => exact h.take taken

/-- The records tell what is there. -/
structure Ledger.IsRecorded (c : Ledger κ) : Prop where
  handlers : ∀ topic, (c.context.observers.signal topic).IsRecorded
  tasks : c.context.tasks.IsRecorded

theorem Ledger.empty_recorded : (Ledger.empty : Ledger κ).IsRecorded :=
  ⟨fun _ => .empty, .empty⟩

theorem Step.recorded {c d : Ledger κ} (h : c.IsRecorded) (step : Step c d) : d.IsRecorded :=
  ⟨fun topic => (h.handlers topic).becomes (step.signal_becomes topic),
    h.tasks.becomes step.tasks_become⟩

/-- On every path from a ledger whose records tell what is there. -/
theorem Path.recorded {c d : Ledger κ} (path : Path c d) (h : c.IsRecorded) : d.IsRecorded := by
  induction path with
  | refl => exact h
  | tail _ step ih => exact step.recorded ih

end ExtensionProxy
