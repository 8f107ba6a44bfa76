import ExtensionProxy.Candidate
import ExtensionProxy.Proxy.History

/-!
# The state of a proxy

Everything that a proxy and its host share while they run: what the proxy keeps, what the host
answers when it is asked, every wrapper ever made, the bench with the bindings and the log, what
foreign code remembers for itself, and the history of it all.
-/

set_option autoImplicit false

namespace ExtensionProxy

/-- What the host answers when it is asked. -/
structure HostView where
  /-- The host's folder for configuration. -/
  configDir : String
  /-- The document that the host shows. -/
  current : Option DocumentHandle := none
  categories : CategoryTable := .rows []
  /-- The workspace that is open when the proxy is made. -/
  workspace : Option (WorkspaceHandle × KeyFile) := none
  deriving DecidableEq, Repr

/-- Everything that a proxy and its host share. -/
structure State (κ μ : Type) extends Context κ where
  /-- What the host answers. -/
  host : HostView
  /-- Every document wrapper, by id: its handle. -/
  documentWrappers : List DocumentHandle := []
  /-- Every workspace wrapper, by id. -/
  workspaceWrappers : List Workspace := []
  categories : Categories := {}
  /-- The bindings and the log. -/
  bench : Bench := {}
  /-- What foreign code remembers. -/
  memory : μ
  /-- What has happened, the latest first. -/
  history : History κ := []

namespace State

variable {κ μ : Type}

/-! ## Parts -/

/-- The bench. -/
def benchLens : Lens (State κ μ) Bench where
  get s := s.bench
  set bench s := { s with bench := bench }
  get_set _ _ := rfl
  set_set _ _ _ := rfl

/-- The deferred tasks. -/
def tasksLens : Lens (State κ μ) (TaskQueue (Deferred κ)) where
  get s := s.tasks
  set tasks s := { s with tasks := tasks }
  get_set _ _ := rfl
  set_set _ _ _ := rfl

/-- The observers of all wrappers. -/
def observersLens : Lens (State κ μ) (Observers κ) where
  get s := s.observers
  set observers s := { s with observers := observers }
  get_set _ _ := rfl
  set_set _ _ _ := rfl

/-- The signal of a topic. -/
def signalLens (topic : Topic) : Lens (State κ μ) (Signal κ) :=
  observersLens.into (Observers.lens topic)

/-- The registered documents. -/
def documentsLens : Lens (State κ μ) (IdentityCache .document DocumentId) where
  get s := s.documents
  set documents s := { s with documents := documents }
  get_set _ _ := rfl
  set_set _ _ _ := rfl

/-! ## Views -/

/-- The handle of a document wrapper. -/
def documentHandle? (s : State κ μ) (doc : DocumentId) : Option DocumentHandle :=
  s.documentWrappers[doc.index]?

/-- A workspace wrapper. -/
def workspaceWrapper? (s : State κ μ) (workspace : WorkspaceId) : Option Workspace :=
  s.workspaceWrappers[workspace.index]?

/-- The wrapper of the document that the host shows, if it is registered. -/
def currentDocument (s : State κ μ) : Option DocumentId :=
  s.host.current.bind s.documents.get?

/-- The record in a slot. -/
def slotRecord? (s : State κ μ) (slot : String) : Option Record :=
  (s.slots.get? slot).bind s.record?

/-- How many bindings are held. -/
def liveBindings (s : State κ μ) : Nat := s.bench.live

/-! ## Changes -/

/-- Changes an instance. -/
def modifyInstance (s : State κ μ) (target : InstanceId) (change : Instance κ → Instance κ) :
    State κ μ :=
  { s with toContext := s.toContext.modifyInstance target change }

/-- Changes a record; one that does not exist stays away. -/
def modifyRecord (s : State κ μ) (id : RecordId) (change : Record → Record) : State κ μ :=
  { s with toContext := s.toContext.modifyRecord id change }

/-- Adds a moment to the history. -/
def note (what : Happening κ) (s : State κ μ) : State κ μ :=
  { s with history := ⟨what, s.toContext, s.bench.held⟩ :: s.history }

/-- Adds an event to the log. -/
def tell (event : LogEvent) (s : State κ μ) : State κ μ :=
  { s with bench.log := s.bench.log.push event }

/-- Changes what foreign code remembers. -/
def remember (change : μ → μ) (s : State κ μ) : State κ μ :=
  { s with memory := change s.memory }

end State

/-! ## Runs on the state -/

namespace Run

variable {κ μ α : Type}

/-- Adds an event to the log. -/
def tell (event : LogEvent) : Run (State κ μ) Unit := zoom State.benchLens (Bench.tell event)

/-- Adds a moment to the history. -/
def note (what : Happening κ) : Run (State κ μ) Unit := modify (State.note what)

/-- Puts a run into the history as an activity. -/
def during (activity : Activity κ) (run : Run (State κ μ) α) : Run (State κ μ) α := do
  note (.began activity)
  ensuring run (note (.ended activity))

/-- Gives a binding back. -/
def releaseBinding (id : BindingId) : Run (State κ μ) Unit := do
  zoom State.benchLens (Bench.release id)
  note (.released id)

/-- Gives a binding back if there is one. -/
def releaseBinding? : Option BindingId → Run (State κ μ) Unit
  | some id => releaseBinding id
  | none => pure ()

/-! ## How they go on -/

variable (s : State κ μ) (next : Unit → Run (State κ μ) α)

@[simp] theorem tell_apply (event : LogEvent) :
    (tell event : Run (State κ μ) Unit) s = (.ok (), s.tell event) := rfl

@[simp] theorem tell_bind_apply (event : LogEvent) :
    (tell event >>= next) s = next () (s.tell event) := rfl

@[simp] theorem note_apply (what : Happening κ) : note what s = (.ok (), s.note what) := rfl

@[simp] theorem note_bind_apply (what : Happening κ) :
    (note what >>= next) s = next () (s.note what) := rfl

end Run

end ExtensionProxy
