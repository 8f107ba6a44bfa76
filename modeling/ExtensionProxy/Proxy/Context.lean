import ExtensionProxy.IdentityCache
import ExtensionProxy.Proxy.Call
import ExtensionProxy.TaskQueue

/-!
# What a proxy keeps

The registration of wrappers and of initialized sub-extensions, the observers and deferred tasks,
the instances, and the lifecycle records in the slots where the host keeps them.

Wrappers and instances are never forgotten, so that whoever still holds one finds it.  An instance
is alive as long as its record owns it or one of its callbacks is running.
-/

set_option autoImplicit false

namespace ExtensionProxy

/-- An instance of a sub-extension. -/
structure Instance (κ : Type) where
  code : κ
  /-- The binding that the code came from. -/
  binding : BindingId
  /-- Whether its lifecycle record owns it. -/
  owned : Bool
  /-- Whether one of its callbacks is running. -/
  running : Bool
  deriving DecidableEq, Repr

/-- Whether the instance exists. -/
def Instance.isAlive {κ : Type} (target : Instance κ) : Bool := target.owned || target.running

theorem Instance.isAlive_of_owned {κ : Type} {target : Instance κ} (owned : target.owned = true) :
    target.isAlive = true := by
  simp [isAlive, owned]

theorem Instance.isAlive_of_running {κ : Type} {target : Instance κ}
    (running : target.running = true) : target.isAlive = true := by
  simp [isAlive, running]

/-- The entry of an initialized sub-extension in the registry; it does not own the instance. -/
structure Registration where
  /-- The name of the sub-extension. -/
  name : String
  target : InstanceId
  deriving DecidableEq, Repr

/-- What waits in the queue of deferred tasks. -/
inductive Deferred (κ : Type) where
  /-- A task of foreign code. -/
  | task (code : κ)
  /-- A notice to an instance that was busy; the event is the one that caused it, and the number that
  of its dispatch. -/
  | delivery (target : InstanceId) (handle : ExtensionHandle) (number : Nat) (notice : Notice)
    (event : String)
  deriving DecidableEq, Repr

/-- Where a record is in its lifecycle. -/
inductive Stage where
  /-- The descriptor was read; nothing is bound. -/
  | probed
  /-- The module is bound; there is no instance yet. -/
  | loaded
  /-- The instance exists and is registered. -/
  | initialized
  /-- The instance was destroyed and the module released. -/
  | cleanedUp
  deriving DecidableEq, Repr

/-- One sub-extension: its descriptor, its module and its instance. -/
structure Record where
  /-- The handle that the host gave it. -/
  handle : ExtensionHandle
  descriptor : Descriptor
  modulePath : String
  /-- Where it is in its lifecycle. -/
  stage : Stage := .probed
  /-- The binding of its module, while it holds one. -/
  module : Option BindingId := none
  /-- Its instance, while it owns one. -/
  target : Option InstanceId := none
  deriving DecidableEq, Repr

/-- Whether the module is bound and the instance exists. -/
def Record.isInitialized (record : Record) : Bool := record.module.isSome && record.target.isSome

/-- Names a lifecycle record for ever. -/
structure RecordId where
  /-- The place in the order of loading. -/
  index : Nat
  deriving DecidableEq, Repr

/-- What a proxy keeps. -/
structure Context (κ : Type) where
  /-- The registered documents. -/
  documents : IdentityCache .document DocumentId := .empty
  /-- The initialized sub-extensions, in the order of initialization. -/
  registry : IdentityCache .extension Registration := .empty
  /-- The open workspace. -/
  workspace : Option WorkspaceId := none
  tasks : TaskQueue (Deferred κ) := {}
  /-- The observers of all wrappers. -/
  observers : Observers κ := .empty
  /-- Every instance, by id. -/
  instances : List (Instance κ) := []
  /-- The lifecycle records that exist. -/
  records : OrderedMap RecordId Record := .empty
  /-- How many records were ever made. -/
  recordCount : Nat := 0
  /-- The host's slots: where it keeps its records. -/
  slots : OrderedMap String RecordId := .empty
  /-- How many host events were ever dispatched. -/
  dispatches : Nat := 0

namespace Context

variable {κ : Type}

/-! ## Views -/

/-- An instance. -/
def instance? (context : Context κ) (target : InstanceId) : Option (Instance κ) :=
  context.instances[target.index]?

/-- Whether the instance exists. -/
def isAlive (context : Context κ) (target : InstanceId) : Bool :=
  match context.instance? target with
  | some found => found.isAlive
  | none => false

/-- Whether one of the instance's callbacks is running. -/
def isRunning (context : Context κ) (target : InstanceId) : Bool :=
  match context.instance? target with
  | some found => found.running
  | none => false

section

variable {context : Context κ} {target : InstanceId}

theorem isAlive_of_found {found : Instance κ} (there : context.instance? target = some found) :
    context.isAlive target = found.isAlive := by
  rw [isAlive, there]

theorem isRunning_of_found {found : Instance κ} (there : context.instance? target = some found) :
    context.isRunning target = found.running := by
  rw [isRunning, there]

theorem isRunning_iff : context.isRunning target = true ↔
    ∃ found, context.instance? target = some found ∧ found.running = true := by
  rw [isRunning]
  cases context.instance? target <;> simp

/-- An instance is alive while one of its callbacks is running. -/
theorem isAlive_of_isRunning (running : context.isRunning target = true) :
    context.isAlive target = true := by
  obtain ⟨found, there, running⟩ := isRunning_iff.mp running
  exact (isAlive_of_found there).trans (Instance.isAlive_of_running running)

end

/-- Whether a topic belongs to a registered document or to the open workspace. -/
def isReachable (context : Context κ) (topic : Topic) : Bool :=
  match topic.document? with
  | some doc => context.documents.values.contains doc
  | none => topic.workspace? == context.workspace

/-- A record. -/
def record? (context : Context κ) (id : RecordId) : Option Record := context.records.get? id

/-! ## Changes -/

/-- Changes an instance. -/
def modifyInstance (context : Context κ) (target : InstanceId) (change : Instance κ → Instance κ) :
    Context κ :=
  { context with instances := context.instances.modify target.index change }

/-- Changes a record; one that does not exist stays away. -/
def modifyRecord (context : Context κ) (id : RecordId) (change : Record → Record) : Context κ :=
  { context with
    records := match context.records.get? id with
      | some record => context.records.insert id (change record)
      | none => context.records }

/-- Changing an instance changes that one only. -/
theorem instance?_modifyInstance (context : Context κ) (target other : InstanceId)
    (change : Instance κ → Instance κ) :
    (context.modifyInstance target change).instance? other
      = if other = target then (context.instance? other).map change
        else context.instance? other := by
  simp only [instance?, modifyInstance, List.getElem?_modify]
  by_cases h : other = target
  · simp [h]
  · have hindex : target.index ≠ other.index := fun equal => h (congrArg InstanceId.mk equal).symm
    cases context.instances[other.index]? <;> simp [h, hindex]

theorem exists_of_instance?_modifyInstance {context : Context κ} {target : InstanceId}
    {change : Instance κ → Instance κ} {found : Instance κ}
    (there : (context.modifyInstance target change).instance? target = some found) :
    ∃ before, context.instance? target = some before ∧ change before = found := by
  rw [instance?_modifyInstance, if_pos rfl] at there
  exact Option.map_eq_some_iff.mp there

/-- Changing a record changes that one only. -/
theorem record?_modifyRecord (context : Context κ) (id other : RecordId)
    (change : Record → Record) :
    (context.modifyRecord id change).record? other
      = if other = id then (context.record? other).map change else context.record? other := by
  simp only [record?, modifyRecord]
  cases found : context.records.get? id with
  | none => by_cases h : other = id <;> simp [h, found]
  | some record => by_cases h : other = id <;> simp [h, found, OrderedMap.get?_insert]

end Context

end ExtensionProxy
