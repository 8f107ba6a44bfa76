import ExtensionProxy.Proofs.History
import ExtensionProxy.Proxy.State

/-!
# The ledger of a proxy

The part of a state that the laws of the proxy speak about: what the proxy keeps, the bindings, the
history, which wrappers were made, and the categories.  What the host answers, what foreign code
remembers and the log are left out; they decide what happens next but not whether it is lawful.

The changes below are the pieces of which the steps of a proxy are made.
-/

set_option autoImplicit false

namespace ExtensionProxy

variable {κ μ : Type}

/-- What the laws speak about. -/
structure Ledger (κ : Type) where
  /-- What the proxy keeps. -/
  context : Context κ
  /-- The bindings that are held. -/
  held : List BindingId
  /-- The place of the next binding. -/
  next : Nat
  /-- What has happened, the latest first. -/
  history : History κ
  /-- The documents for which wrappers were ever made, by id. -/
  wrapped : List DocumentHandle
  /-- How many workspaces were ever wrapped. -/
  opened : Nat
  /-- The categories. -/
  categories : Categories

/-- The ledger of a state. -/
def State.ledger (s : State κ μ) : Ledger κ :=
  ⟨s.toContext, s.bench.held, s.bench.next, s.history, s.documentWrappers, s.workspaceWrappers.length,
    s.categories⟩

/-- The instance that a callback belongs to; creating and destroying are no callbacks. -/
def Call.target? : Call κ → Option InstanceId
  | .notify target _ _ _ => some target
  | .configure target _ _ => some target
  | .help target _ => some target
  | _ => none

namespace Ledger

/-! ## Views -/

/-- What is going on, the innermost first. -/
def stack (c : Ledger κ) : List (Activity κ) := c.history.stack

/-- Whether a record is in none of the slots. -/
def IsLoose (c : Ledger κ) (id : RecordId) : Prop :=
  ∀ slot, c.context.slots.get? slot ≠ some id

/-- The binding that a record holds. -/
def module? (c : Ledger κ) (id : RecordId) : Option BindingId :=
  (c.context.record? id).bind fun record => record.module

/-- The instance that a record owns. -/
def target? (c : Ledger κ) (id : RecordId) : Option InstanceId :=
  (c.context.record? id).bind fun record => record.target

/-- The binding from which an instance was made that a record owns. -/
def owned? (c : Ledger κ) (target : InstanceId) : Option BindingId :=
  (c.context.instance? target).bind fun found => if found.owned then some found.binding else none

/-- Whether no record holds a binding. -/
def IsUnclaimed (c : Ledger κ) (binding : BindingId) : Prop := ∀ id, c.module? id ≠ some binding

/-! ## Changes -/

/-- Adds a moment to the history. -/
def note (what : Happening κ) (c : Ledger κ) : Ledger κ :=
  { c with history := ⟨what, c.context, c.held⟩ :: c.history }

/-- Registers a new wrapper for a document. -/
def enroll (doc : DocumentHandle) (c : Ledger κ) : Ledger κ :=
  { c with
    context.documents := c.context.documents.insert doc ⟨c.wrapped.length⟩
    wrapped := c.wrapped ++ [doc] }

/-- Evicts a document. -/
def evict (doc : DocumentHandle) (c : Ledger κ) : Ledger κ :=
  note (.evicted doc (c.context.documents.get? doc))
    { c with context.documents := c.context.documents.erase doc }

/-- Replaces the open workspace. -/
def setWorkspace (workspace : Option WorkspaceId) (c : Ledger κ) : Ledger κ :=
  note (.workspaceSet c.context.workspace workspace) { c with context.workspace := workspace }

/-- Makes a new wrapper the open workspace. -/
def openWorkspace (c : Ledger κ) : Ledger κ :=
  setWorkspace (some ⟨c.opened⟩) { c with opened := c.opened + 1 }

/-- Changes a signal. -/
def changeSignal (topic : Topic) (change : Signal κ → Signal κ) (c : Ledger κ) : Ledger κ :=
  { c with
    context.observers :=
      c.context.observers.setSignal topic (change (c.context.observers.signal topic)) }

/-- Replaces the queue of deferred tasks. -/
def setTasks (tasks : TaskQueue (Deferred κ)) (c : Ledger κ) : Ledger κ :=
  { c with context.tasks := tasks }

/-- Changes an instance. -/
def changeInstance (target : InstanceId) (change : Instance κ → Instance κ) (c : Ledger κ) :
    Ledger κ :=
  { c with context := c.context.modifyInstance target change }

/-- Changes a record. -/
def changeRecord (id : RecordId) (change : Record → Record) (c : Ledger κ) : Ledger κ :=
  { c with context := c.context.modifyRecord id change }

/-- Marks an instance as running, or takes the mark back. -/
def mark (target : InstanceId) (running : Bool) (c : Ledger κ) : Ledger κ :=
  c.changeInstance target fun found => { found with running := running }

/-- The last call of an instance, if nothing keeps it alive. -/
def farewell (target : InstanceId) (c : Ledger κ) : History κ :=
  match c.context.instance? target with
  | some found =>
    if found.isAlive then []
    else [⟨.began (.call (.dropped target found.code)), c.context, c.held⟩]
  | none => []

/-- Destroys an instance if nothing keeps it alive: its code is called for the last time. -/
def reap (target : InstanceId) (c : Ledger κ) : Ledger κ :=
  { c with history := c.farewell target ++ c.history }

/-- Lets an instance go: it is destroyed unless it is running. -/
def letGo (target : InstanceId) (c : Ledger κ) : Ledger κ :=
  (c.changeInstance target fun found => { found with owned := false }).reap target

/-- Takes an entry out of the registry. -/
def unregister (handle : ExtensionHandle) (c : Ledger κ) : Ledger κ :=
  { c with context.registry := c.context.registry.erase handle }

/-- Puts an entry into the registry. -/
def register (handle : ExtensionHandle) (entry : Registration) (c : Ledger κ) : Ledger κ :=
  { c with context.registry := c.context.registry.insert handle entry }

/-- Throws a record away. -/
def eraseRecord (id : RecordId) (c : Ledger κ) : Ledger κ :=
  { c with context.records := c.context.records.erase id }

/-- Gives a binding back. -/
def release (binding : BindingId) (c : Ledger κ) : Ledger κ :=
  note (.released binding) { c with held := c.held.erase binding }

/-- Gives a binding back if there is one. -/
def release? (binding : Option BindingId) (c : Ledger κ) : Ledger κ :=
  { c with
    held := match binding with
      | some binding => c.held.erase binding
      | none => c.held
    history := match binding with
      | some binding => ⟨.released binding, c.context, c.held.erase binding⟩ :: c.history
      | none => c.history }

/-- Drops the handlers of an owner as far as they can be reached, and its waiting tasks. -/
def free (owner : ExtensionHandle) (c : Ledger κ) : Ledger κ :=
  let c := c.note (.freed owner)
  { c with
    context.observers := c.context.observers.dropOwner c.context.isReachable owner
    context.tasks := c.context.tasks.cancelOwner owner }

/-- Takes a new binding. -/
def bind (c : Ledger κ) : Ledger κ :=
  { c with held := ⟨c.next⟩ :: c.held, next := c.next + 1 }

/-- Takes the number of a dispatch. -/
def advance (c : Ledger κ) : Ledger κ := { c with context.dispatches := c.context.dispatches + 1 }

/-- Appends an instance that its record is going to own. -/
def append (code : κ) (binding : BindingId) (c : Ledger κ) : Ledger κ :=
  { c with context.instances := c.context.instances ++ [⟨code, binding, true, false⟩] }

/-! ## What the changes do to the history -/

section

variable (c : Ledger κ)

@[simp, grind =] theorem history_note (what : Happening κ) :
    (c.note what).history = ⟨what, c.context, c.held⟩ :: c.history := rfl

@[simp, grind =] theorem history_enroll (doc : DocumentHandle) :
    (c.enroll doc).history = c.history := rfl

@[simp, grind =] theorem history_evict (doc : DocumentHandle) :
    (c.evict doc).history = ⟨.evicted doc (c.context.documents.get? doc),
      { c.context with documents := c.context.documents.erase doc }, c.held⟩ :: c.history := rfl

@[simp, grind =] theorem history_setWorkspace (workspace : Option WorkspaceId) :
    (c.setWorkspace workspace).history = ⟨.workspaceSet c.context.workspace workspace,
      { c.context with workspace := workspace }, c.held⟩ :: c.history := rfl

@[simp, grind =] theorem history_openWorkspace :
    c.openWorkspace.history = ⟨.workspaceSet c.context.workspace (some ⟨c.opened⟩),
      { c.context with workspace := some ⟨c.opened⟩ }, c.held⟩ :: c.history := rfl

@[simp, grind =] theorem history_changeSignal (topic : Topic) (change : Signal κ → Signal κ) :
    (c.changeSignal topic change).history = c.history := rfl

@[simp, grind =] theorem history_setTasks (tasks : TaskQueue (Deferred κ)) :
    (c.setTasks tasks).history = c.history := rfl

@[simp, grind =] theorem history_changeInstance (target : InstanceId) (change : Instance κ → Instance κ) :
    (c.changeInstance target change).history = c.history := rfl

@[simp, grind =] theorem history_changeRecord (id : RecordId) (change : Record → Record) :
    (c.changeRecord id change).history = c.history := rfl

@[simp, grind =] theorem history_mark (target : InstanceId) (running : Bool) :
    (c.mark target running).history = c.history := rfl

@[simp, grind =] theorem history_reap (target : InstanceId) :
    (c.reap target).history = c.farewell target ++ c.history := rfl

@[simp, grind =] theorem history_letGo (target : InstanceId) :
    (c.letGo target).history
      = (c.changeInstance target fun found => { found with owned := false }).farewell target
        ++ c.history := rfl

@[simp, grind =] theorem history_unregister (handle : ExtensionHandle) :
    (c.unregister handle).history = c.history := rfl

@[simp, grind =] theorem history_register (handle : ExtensionHandle) (entry : Registration) :
    (c.register handle entry).history = c.history := rfl

@[simp, grind =] theorem history_eraseRecord (id : RecordId) : (c.eraseRecord id).history = c.history := rfl

@[simp, grind =] theorem history_release (binding : BindingId) :
    (c.release binding).history
      = ⟨.released binding, c.context, c.held.erase binding⟩ :: c.history := rfl

@[simp, grind =] theorem history_free (owner : ExtensionHandle) :
    (c.free owner).history = ⟨.freed owner, c.context, c.held⟩ :: c.history := rfl

@[simp, grind =] theorem history_bind : c.bind.history = c.history := rfl

@[simp, grind =] theorem history_advance : c.advance.history = c.history := rfl

@[simp, grind =] theorem history_append (code : κ) (binding : BindingId) :
    (c.append code binding).history = c.history := rfl

end

/-! ## Destroying -/

variable (c : Ledger κ)

theorem reap_of_none {target : InstanceId} (absent : c.context.instance? target = none) :
    c.reap target = c := by
  simp [reap, farewell, absent]

theorem reap_of_alive {target : InstanceId} {found : Instance κ}
    (there : c.context.instance? target = some found) (alive : found.isAlive = true) :
    c.reap target = c := by
  simp [reap, farewell, there, alive]

theorem reap_of_dead {target : InstanceId} {found : Instance κ}
    (there : c.context.instance? target = some found) (dead : found.isAlive = false) :
    c.reap target = c.note (.began (.call (.dropped target found.code))) := by
  simp [reap, farewell, there, dead, note]

/-! ## Changing a signal -/

theorem signal_changeSignal (topic other : Topic) (change : Signal κ → Signal κ) :
    (c.changeSignal other change).context.observers.signal topic
      = if topic = other then change (c.context.observers.signal other)
        else c.context.observers.signal topic :=
  Observers.signal_setSignal c.context.observers other topic _

/-! ## Giving back -/

theorem stack_release? (binding : Option BindingId) : (c.release? binding).stack = c.stack := by
  cases binding <;> rfl

/-! ## What the changes do to who holds what -/

theorem module?_of_found {id : RecordId} {record : Record}
    (found : c.context.record? id = some record) : c.module? id = record.module := by
  simp [module?, found]

theorem target?_of_found {id : RecordId} {record : Record}
    (found : c.context.record? id = some record) : c.target? id = record.target := by
  simp [target?, found]

/-! What is seen of the records, whatever it is -/

section

variable {α : Type} (view : Record → Option α)

theorem view_changeRecord (id other : RecordId) (change : Record → Record) :
    ((c.changeRecord id change).context.record? other).bind view
      = if other = id then (c.context.record? id).bind fun record => view (change record)
        else (c.context.record? other).bind view := by
  rw [changeRecord, Context.record?_modifyRecord]
  split
  · next same =>
    rw [same]
    cases c.context.record? id <;> rfl
  · rfl

theorem view_changeRecord_of_same (id : RecordId) {change : Record → Record}
    (same : ∀ record, view (change record) = view record) (other : RecordId) :
    ((c.changeRecord id change).context.record? other).bind view
      = (c.context.record? other).bind view := by
  rw [view_changeRecord]
  split
  · next here => simp only [same, here]
  · rfl

theorem view_eraseRecord (id other : RecordId) :
    ((c.eraseRecord id).context.record? other).bind view
      = if other = id then none else (c.context.record? other).bind view := by
  rw [Context.record?, eraseRecord, OrderedMap.get?_erase]
  split <;> rfl

end

theorem module?_changeRecord (id other : RecordId) (change : Record → Record) :
    (c.changeRecord id change).module? other
      = if other = id then (c.context.record? id).bind fun record => (change record).module
        else c.module? other :=
  c.view_changeRecord Record.module id other change

theorem target?_changeRecord (id other : RecordId) (change : Record → Record) :
    (c.changeRecord id change).target? other
      = if other = id then (c.context.record? id).bind fun record => (change record).target
        else c.target? other :=
  c.view_changeRecord Record.target id other change

theorem module?_changeRecord_of_found {id : RecordId} {record : Record}
    (found : c.context.record? id = some record) (other : RecordId) (change : Record → Record) :
    (c.changeRecord id change).module? other
      = if other = id then (change record).module else c.module? other := by
  rw [module?_changeRecord, found]
  rfl

theorem target?_changeRecord_of_found {id : RecordId} {record : Record}
    (found : c.context.record? id = some record) (other : RecordId) (change : Record → Record) :
    (c.changeRecord id change).target? other
      = if other = id then (change record).target else c.target? other := by
  rw [target?_changeRecord, found]
  rfl

theorem module?_eraseRecord (id other : RecordId) :
    (c.eraseRecord id).module? other = if other = id then none else c.module? other :=
  c.view_eraseRecord Record.module id other

theorem target?_eraseRecord (id other : RecordId) :
    (c.eraseRecord id).target? other = if other = id then none else c.target? other :=
  c.view_eraseRecord Record.target id other

/-- A change of a record that leaves its binding alone changes no binding. -/
theorem module?_changeRecord_of_same (id : RecordId) {change : Record → Record}
    (same : ∀ record, (change record).module = record.module) :
    (c.changeRecord id change).module? = c.module? :=
  funext (c.view_changeRecord_of_same Record.module id same)

/-- A change of a record that leaves its instance alone changes no instance. -/
theorem target?_changeRecord_of_same (id : RecordId) {change : Record → Record}
    (same : ∀ record, (change record).target = record.target) :
    (c.changeRecord id change).target? = c.target? :=
  funext (c.view_changeRecord_of_same Record.target id same)

/-- Marking an instance changes no owner. -/
theorem owned?_mark (target : InstanceId) (running : Bool) :
    (c.mark target running).owned? = c.owned? := by
  funext other
  simp only [owned?, mark, changeInstance, Context.instance?_modifyInstance]
  by_cases h : other = target
  · cases c.context.instance? other <;> simp [h]
  · simp [h]

theorem owned?_letGo (target other : InstanceId) :
    (c.letGo target).owned? other = if other = target then none else c.owned? other := by
  simp only [owned?, letGo, reap, changeInstance, Context.instance?_modifyInstance]
  by_cases h : other = target
  · cases c.context.instance? other <;> simp [h]
  · simp [h]

theorem owned?_append (code : κ) (binding : BindingId) (other : InstanceId) :
    (c.append code binding).owned? other
      = if other = ⟨c.context.instances.length⟩ then some binding else c.owned? other := by
  have index : other = ⟨c.context.instances.length⟩ ↔ other.index = c.context.instances.length :=
    ⟨fun same => same ▸ rfl, fun same => by cases other; exact congrArg _ same⟩
  simp only [owned?, append, Context.instance?, List.getElem?_append, index]
  by_cases below : other.index < c.context.instances.length
  · simp [below, Nat.ne_of_lt below]
  · by_cases same : other.index = c.context.instances.length
    · simp [same]
    · have beyond : c.context.instances.length < other.index := by omega
      have far : other.index - c.context.instances.length ≠ 0 := by omega
      simp [below, same, far]

/-- No record owns an instance that is still to be made. -/
theorem owned?_length : c.owned? ⟨c.context.instances.length⟩ = none := by
  simp [owned?, Context.instance?]

end Ledger

end ExtensionProxy
