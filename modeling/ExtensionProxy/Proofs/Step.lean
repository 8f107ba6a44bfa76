import ExtensionProxy.Proofs.Ledger
import Mathlib.Logic.Relation

/-!
# The steps of a proxy

What a proxy does between two pieces of foreign code, taken apart into steps that nothing can come
between.  Each step says when it may be taken and what the ledger is afterwards; it is what the
proxy does, no matter which code is called and what that code asks for.  A run of the proxy takes a
path of such steps, which is proved function by function; what every path keeps is then proved step
by step, once and for all foreign code.
-/

set_option autoImplicit false

namespace ExtensionProxy

variable {κ : Type}

/-- The dispatch of a notice has come to an entry of the listing with which it fanned out. -/
structure Ledger.IsTurn (c : Ledger κ) (number : Nat) (notice : Notice)
    (entry : ExtensionHandle × Registration) : Prop where
  /-- The entries before it have had their turns. -/
  listed : ∃ done rest, c.history.fanOut? number = some (notice, done ++ entry :: rest) ∧
    c.history.turns number = done.map fun entry => entry.2.target
  /-- The dispatch has not come to its end. -/
  unsettled : c.history.outcome? number = none

/-- A dispatch may come to its end with an outcome: every entry of the listing had its turn, and the
outcome counts those whose instance was alive then. -/
structure Ledger.MaySettle (c : Ledger κ) (number : Nat) (outcome : DispatchOutcome) : Prop where
  /-- It has begun. -/
  begun : number < c.context.dispatches
  /-- It has not come to its end. -/
  unsettled : c.history.outcome? number = none
  /-- All turns were taken. -/
  told : ∀ notice entries, c.history.fanOut? number = some (notice, entries) →
    c.history.turns number = entries.map fun entry => entry.2.target
  /-- The outcome counts them. -/
  counted : outcome.delivered + outcome.deferred = c.history.aliveTurns number

/-- An emission that began at the end of a history came to its end. -/
structure History.Emitted (start past : History κ) (ended : Moment κ) (topic : Topic)
    (slots : List (Slot κ)) : Prop where
  /-- It began. -/
  began : ∃ begun, begun :: start <:+ past ∧ begun.what = .began (.emission topic slots)
  /-- Nothing above it was going on when it came to its end. -/
  going : past.stack = .emission topic slots :: start.stack
  /-- It came to its end. -/
  finished : ended.what = .ended (.emission topic slots)

/-- The dispatch of a document's closing emitted its signal and then evicted what was registered for
it. -/
structure Ledger.ClosesDocument (c : Ledger κ) (doc : DocumentHandle) (wrapper : DocumentId)
    (start : History κ) (ended gone : Moment κ) (past : History κ) : Prop where
  /-- The emission came to its end, and the eviction came next. -/
  latest : c.history = gone :: ended :: past
  /-- The emission began when the dispatch did. -/
  emits : ∃ slots, History.Emitted start past ended (.document wrapper .closed) slots
  /-- What is evicted was registered for the document when the emission came to its end. -/
  evicts : gone.what = .evicted doc (ended.context.documents.get? doc)
  /-- The others are left alone. -/
  rest : c.context.documents = ended.context.documents.erase doc

/-- The dispatch of a workspace's closing took the open workspace away. -/
structure Ledger.ClosesWorkspace (c : Ledger κ) (start : History κ) (shut : Moment κ)
    (past : History κ) : Prop where
  /-- It did so last. -/
  latest : c.history = shut :: past
  /-- It did so after it had begun. -/
  after : start <:+ past
  /-- Whatever was open. -/
  shuts : ∃ before, shut.what = .workspaceSet before none
  /-- None is open now. -/
  none : c.context.workspace = none

/-- What the dispatch of an event has done when it comes to its end. -/
structure Ledger.Concludes (c : Ledger κ) (number : Nat) (event : HostEvent) (first : Moment κ)
    (older : History κ) : Prop where
  /-- It fanned out if the event is for every sub-extension. -/
  announced : event.isBroadcast = true → c.history.fanOut? number ≠ none
  /-- It closed a registered document. -/
  closed : ∀ doc wrapper, event = .document .closed doc →
    first.context.documents.get? doc = some wrapper →
    ∃ ended gone past, c.ClosesDocument doc wrapper (first :: older) ended gone past
  /-- It closed the workspace. -/
  shut : event = .workspaceClosed →
    ∃ shut past, c.ClosesWorkspace (first :: older) shut past

/-- An instance is there for a callback: it is owned and idle. -/
def Ledger.IsReady (c : Ledger κ) (target : InstanceId) (found : Instance κ) : Prop :=
  c.context.instance? target = some found ∧ found.owned = true ∧ found.running = false

namespace Ledger.IsReady

variable {c : Ledger κ} {target : InstanceId} {found : Instance κ} (ready : c.IsReady target found)
include ready

theorem isAlive : c.context.isAlive target = true :=
  (Context.isAlive_of_found ready.1).trans (Instance.isAlive_of_owned ready.2.1)

theorem isRunning : c.context.isRunning target = false :=
  (Context.isRunning_of_found ready.1).trans ready.2.2

end Ledger.IsReady

/-- What a proxy does without being interrupted. -/
inductive Step : Ledger κ → Ledger κ → Prop
  -- Wrappers, handlers and tasks.
  | enroll (c : Ledger κ) (doc : DocumentHandle) (new : c.context.documents.get? doc = none) :
      Step c (c.enroll doc)
  | evict (c : Ledger κ) (doc : DocumentHandle) : Step c (c.evict doc)
  | waste (c : Ledger κ) (doc : DocumentHandle) : Step c { c with wrapped := c.wrapped ++ [doc] }
  | reload (c : Ledger κ) (rows : List CategoryRow) :
      Step c { c with categories := c.categories.reload rows }
  | openWorkspace (c : Ledger κ) : Step c c.openWorkspace
  | shutWorkspace (c : Ledger κ) : Step c (c.setWorkspace none)
  | connect (c : Ledger κ) (topic : Topic) (owner : Option ExtensionHandle) (code : κ) :
      Step c (c.changeSignal topic fun signal => signal.connect owner code)
  | disconnect (c : Ledger κ) (topic : Topic) (id : Nat) :
      Step c (c.changeSignal topic fun signal => signal.disconnect id)
  | disconnectOwner (c : Ledger κ) (meant : Topic → Bool) (owner : ExtensionHandle) :
      Step c { c with context.observers := c.context.observers.dropOwner meant owner }
  | schedule (c : Ledger κ) (owner : Option ExtensionHandle) (code : κ) :
      Step c (c.setTasks (c.context.tasks.schedule owner (.task code)))
  | cancel (c : Ledger κ) (owner : ExtensionHandle) :
      Step c ((c.note (.cancelled owner)).setTasks (c.context.tasks.cancelOwner owner))
  | renounce (c : Ledger κ) (owner : ExtensionHandle) :
      Step c ((c.note (.cancelled owner)).free owner)
  | unregister (c : Ledger κ) (handle : ExtensionHandle) :
      Step c ((c.unregister handle).note
        (.unregistered handle (c.context.registry.get? handle)))
  -- Slots and records.
  | take (c : Ledger κ) (slot : String) :
      Step c { c with context.slots := c.context.slots.erase slot }
  | put (c : Ledger κ) (slot : String) (id : RecordId) (loose : c.IsLoose id)
      (made : id.index < c.context.recordCount) :
      Step c { c with context.slots := c.context.slots.insert slot id }
  | load (c : Ledger κ) (record : Record) (bare : record.module = none)
      (alone : record.target = none) :
      Step c { c with
        context.records := c.context.records.insert ⟨c.context.recordCount⟩ record
        context.recordCount := c.context.recordCount + 1 }
  | restage (c : Ledger κ) (id : RecordId) (stage : Stage) :
      Step c (c.changeRecord id fun record => { record with stage := stage })
  -- Bindings.
  | probe (c : Ledger κ) : Step c { c with next := c.next + 1 }
  | bind (c : Ledger κ) : Step c c.bind
  | unbind (c : Ledger κ) (binding : BindingId) :
      Step c ((c.note (.unbound binding)).release binding)
  | release (c : Ledger κ) (binding : BindingId) (taken : binding.index < c.next)
      (unclaimed : c.IsUnclaimed binding)
      (unbuilt : ∀ code context, .call (.create binding code context) ∉ c.stack) :
      Step c (c.release binding)
  -- Initializing: the module is bound and its factory called at once, and what comes of it is
  -- settled as soon as the factory returns or is stopped.
  | construct (c : Ledger κ) (id : RecordId) (code : κ) (context : ExtensionContext) :
      Step c ((c.bind.changeRecord id fun record => { record with stage := .loaded }).note
        (.began (.call (.create ⟨c.next⟩ code context))))
  | decline (c : Ledger κ) (binding : BindingId) (code : κ) (context : ExtensionContext)
      (rest : List (Activity κ))
      (top : c.stack = .call (.create binding code context) :: rest) :
      Step c ((c.note (.ended (.call (.create binding code context)))).release binding)
  | adopt (c : Ledger κ) (id : RecordId) (record : Record) (binding : BindingId) (code made : κ)
      (context : ExtensionContext) (rest : List (Activity κ))
      (top : c.stack = .call (.create binding code context) :: rest)
      (found : c.context.record? id = some record) (alone : record.target = none)
      (free : c.context.registry.contains record.handle = false) :
      Step c ((((((c.note (.ended (.call (.create binding code context)))).append made
          binding).register record.handle
            ⟨record.descriptor.name, ⟨c.context.instances.length⟩⟩).release?
          record.module).changeRecord id fun record =>
        { record with
          target := some ⟨c.context.instances.length⟩, module := some binding,
          stage := .initialized }).note (.initialized id record.handle
            ⟨record.descriptor.name, ⟨c.context.instances.length⟩⟩))
  | duplicate (c : Ledger κ) (binding : BindingId) (code made : κ) (context : ExtensionContext)
      (rest : List (Activity κ))
      (top : c.stack = .call (.create binding code context) :: rest) :
      Step c (((c.note (.ended (.call (.create binding code context)))).append made binding).letGo
        ⟨c.context.instances.length⟩)
  -- Cleaning up.
  | clean (c : Ledger κ) (id : RecordId) (record : Record) (target : InstanceId)
      (found : c.context.record? id = some record) (owns : record.target = some target) :
      Step c (((((c.note (.cleaning record)).changeRecord id fun record =>
        { record with target := none }).unregister record.handle).free record.handle).letGo target)
  | cleaned (c : Ledger κ) (id : RecordId) (record now : Record)
      (found : c.context.record? id = some now) (alone : now.target = none)
      (same : now.module = record.module) (freed : ∃ moment ∈ c.history,
        moment.what = .freed record.handle) :
      Step c (((c.release? record.module).changeRecord id fun record =>
        { record with module := none, stage := .cleanedUp }).note (.cleaned record))
  | cleanBare (c : Ledger κ) (id : RecordId) (record : Record)
      (found : c.context.record? id = some record) (alone : record.target = none) :
      Step c ((((c.note (.cleaning record)).release? record.module).changeRecord id fun record =>
        { record with module := none }).note (.cleaned record))
  | discard (c : Ledger κ) (id : RecordId) (record : Record) (target : InstanceId)
      (found : c.context.record? id = some record) (owns : record.target = some target) :
      Step c (((c.note (.discarded record)).eraseRecord id).letGo target)
  | discardBare (c : Ledger κ) (id : RecordId) (record : Record)
      (found : c.context.record? id = some record) (alone : record.target = none) :
      Step c (((c.note (.discarded record)).eraseRecord id).release? record.module)
  -- Calls.
  | enter (c : Ledger κ) (target : InstanceId) (found : Instance κ) (call : Call κ)
      (ready : c.IsReady target found)
      (asks : call = .help target found.code ∨
        ∃ dialog, call = .configure target found.code dialog) :
      Step c ((c.mark target true).note (.began (.call call)))
  | leave (c : Ledger κ) (target : InstanceId) (call : Call κ) (rest : List (Activity κ))
      (top : c.stack = .call call :: rest) (callback : call.target? = some target) :
      Step c (((c.note (.ended (.call call))).mark target false).reap target)
  | openUri (c : Ledger κ) (uri : String) : Step c (c.note (.began (.call (.openUri uri))))
  | finish (c : Ledger κ) (call : Call κ) (rest : List (Activity κ))
      (top : c.stack = .call call :: rest)
      (plain : (∃ target code, call = .dropped target code) ∨ (∃ code, call = .task code) ∨
        ∃ uri, call = .openUri uri) :
      Step c (c.note (.ended (.call call)))
  | emit (c : Ledger κ) (topic : Topic) :
      Step c (c.note (.began (.emission topic (c.context.observers.signal topic).slots)))
  | observe (c : Ledger κ) (topic : Topic) (slots : List (Slot κ)) (slot : Slot κ)
      (emitted : Emitted) (rest : List (Activity κ)) (top : c.stack = .emission topic slots :: rest)
      (listed : slot ∈ slots) (idle : (c.context.observers.signal topic).isRunning slot.id = false) :
      Step c ((c.changeSignal topic fun signal => signal.enter slot.id).note
        (.began (.call (.observe topic slot emitted))))
  | observed (c : Ledger κ) (topic : Topic) (slot : Slot κ) (emitted : Emitted)
      (rest : List (Activity κ)) (top : c.stack = .call (.observe topic slot emitted) :: rest) :
      Step c ((c.note (.ended (.call (.observe topic slot emitted)))).changeSignal topic
        fun signal => signal.leave slot.id)
  | emitted (c : Ledger κ) (topic : Topic) (slots : List (Slot κ)) (rest : List (Activity κ))
      (top : c.stack = .emission topic slots :: rest) :
      Step c (c.note (.ended (.emission topic slots)))
  -- Deferred tasks.
  | drain (c : Ledger κ) : Step c (c.note (.began (.drain c.context.tasks.nextSeq)))
  | perform (c : Ledger κ) (limit : Nat) (rest : List (Activity κ)) (task : Task (Deferred κ))
      (tasks : TaskQueue (Deferred κ)) (code : κ) (top : c.stack = .drain limit :: rest)
      (taken : c.context.tasks.takeBelow limit = some (task, tasks)) (plain : task.code = .task code) :
      Step c ((c.setTasks tasks).note (.began (.call (.task code))))
  | redeliver (c : Ledger κ) (limit : Nat) (rest : List (Activity κ)) (task : Task (Deferred κ))
      (tasks : TaskQueue (Deferred κ)) (target : InstanceId) (handle : ExtensionHandle)
      (number : Nat) (notice : Notice) (event : String) (found : Instance κ)
      (top : c.stack = .drain limit :: rest)
      (taken : c.context.tasks.takeBelow limit = some (task, tasks))
      (delivery : task.code = .delivery target handle number notice event)
      (ready : c.IsReady target found) :
      Step c (((c.setTasks tasks).mark target true).note
        (.began (.call (.notify target found.code number notice))))
  | lose (c : Ledger κ) (limit : Nat) (rest : List (Activity κ)) (task : Task (Deferred κ))
      (tasks : TaskQueue (Deferred κ)) (target : InstanceId) (handle : ExtensionHandle)
      (number : Nat) (notice : Notice) (event : String) (top : c.stack = .drain limit :: rest)
      (taken : c.context.tasks.takeBelow limit = some (task, tasks))
      (delivery : task.code = .delivery target handle number notice event)
      (unready : ∀ found, ¬c.IsReady target found) :
      Step c ((c.setTasks tasks).note (.lost number target))
  | drained (c : Ledger κ) (limit : Nat) (rest : List (Activity κ))
      (top : c.stack = .drain limit :: rest) (done : c.context.tasks.takeBelow limit = none) :
      Step c (c.note .drained)
  | broken (c : Ledger κ) (limit : Nat) (rest : List (Activity κ))
      (top : c.stack = .drain limit :: rest) : Step c (c.note .broken)
  | endDrain (c : Ledger κ) (limit : Nat) (rest : List (Activity κ))
      (top : c.stack = .drain limit :: rest)
      (finished : ∃ moment past, c.history = moment :: past ∧
        (moment.what = .drained ∨ moment.what = .broken)) :
      Step c (c.note (.ended (.drain limit)))
  -- Dispatch.
  | dispatch (c : Ledger κ) (event : HostEvent) :
      Step c (c.advance.note (.dispatched c.context.dispatches event))
  | fanOut (c : Ledger κ) (number : Nat) (notice : Notice) (begun : number < c.context.dispatches)
      (fresh : c.history.fanOut? number = none) (unsettled : c.history.outcome? number = none) :
      Step c (c.note (.fannedOut number notice))
  | deliver (c : Ledger κ) (number : Nat) (notice : Notice) (entry : ExtensionHandle × Registration)
      (found : Instance κ) (turn : c.IsTurn number notice entry)
      (ready : c.IsReady entry.2.target found) :
      Step c (((c.note (.reached number entry.2.target)).mark entry.2.target true).note
        (.began (.call (.notify entry.2.target found.code number notice))))
  | defer (c : Ledger κ) (number : Nat) (notice : Notice) (entry : ExtensionHandle × Registration)
      (event : String) (turn : c.IsTurn number notice entry)
      (busy : c.context.isRunning entry.2.target = true) :
      Step c ((c.note (.reached number entry.2.target)).setTasks
        (c.context.tasks.schedule (some entry.1)
          (.delivery entry.2.target entry.1 number notice event)))
  | miss (c : Ledger κ) (number : Nat) (notice : Notice) (entry : ExtensionHandle × Registration)
      (turn : c.IsTurn number notice entry)
      (gone : c.context.isAlive entry.2.target = false) :
      Step c (c.note (.reached number entry.2.target))
  | settle (c : Ledger κ) (number : Nat) (outcome : DispatchOutcome)
      (may : c.MaySettle number outcome) (first : Moment κ) (older : History κ) (event : HostEvent)
      (began : first :: older <:+ c.history) (what : first.what = .dispatched number event)
      (concludes : c.Concludes number event first older) :
      Step c (c.note (.settled number outcome))

/-- Steps one after the other. -/
abbrev Path : Ledger κ → Ledger κ → Prop := Relation.ReflTransGen Step

end ExtensionProxy
