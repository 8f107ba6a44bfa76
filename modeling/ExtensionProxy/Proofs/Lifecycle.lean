import ExtensionProxy.Proofs.Marks
import ExtensionProxy.Proxy.Lifecycle

/-!
# The operations on a record, call by call

What initializing and cleaning up a record do, as equations between runs, one for each way that they can
go.  The calls of foreign code stay calls: an equation says in which state a call is made and what
happens to the state that it leaves, whatever is called.  What the operations keep and what comes of them
is proved from these equations.
-/

set_option autoImplicit false

namespace ExtensionProxy

variable {κ μ α : Type} {call : Caller κ μ} {s returned : State κ μ} {id : RecordId} {record : Record}
  {target : InstanceId}

theorem Ledger.record?_changeRecord {c : Ledger κ} (found : c.context.record? id = some record)
    (change : Record → Record) :
    (c.changeRecord id change).context.record? id = some (change record) :=
  (Context.record?_modifyRecord c.context id id change).trans (by simp [found])

theorem State.record?_modifyRecord (found : s.record? id = some record) (change : Record → Record) :
    (s.modifyRecord id change).record? id = some (change record) :=
  Ledger.record?_changeRecord (c := s.ledger) found change

theorem Ledger.instance?_changeInstance {c : Ledger κ} {found : Instance κ}
    (there : c.context.instance? target = some found) (change : Instance κ → Instance κ) :
    (c.changeInstance target change).context.instance? target = some (change found) :=
  (Context.instance?_modifyInstance c.context target target change).trans (by simp [there])

theorem State.instance?_modifyInstance {found : Instance κ} (there : s.instance? target = some found)
    (change : Instance κ → Instance κ) :
    (s.modifyInstance target change).instance? target = some (change found) :=
  Ledger.instance?_changeInstance (c := s.ledger) there change

theorem releaseBinding?_apply (binding : Option BindingId) (s : State κ μ) :
    ∃ reached, Run.releaseBinding? binding s = (.ok (), reached) ∧
      reached.ledger = s.ledger.release? binding := by
  cases binding <;> exact ⟨_, rfl, rfl⟩

theorem ensuring_releaseBinding {run : Run (State κ μ) α} {result : Except Stop α}
    (ran : run s = (result, returned)) (binding : BindingId) :
    Run.ensuring run (Run.releaseBinding binding) s
      = (result, (Run.releaseBinding binding returned).2) := by
  simp only [Run.ensuring, ran]
  rfl

/-! ## Letting an instance go -/

/-- An instance that is idle is destroyed when its record lets it go. -/
theorem releaseInstance_apply_of_idle (call : Caller κ μ) {found : Instance κ}
    (there : s.instance? target = some found) (idle : found.running = false) :
    releaseInstance call target s = call (.dropped target found.code)
      (s.modifyInstance target fun found => { found with owned := false }) := by
  simp only [releaseInstance, Run.modify_bind_apply, Run.get_bind_apply,
    State.instance?_modifyInstance there, idle, Bool.false_eq_true, if_false, destroyInstance]

/-- A running instance is not destroyed when its record lets it go. -/
theorem releaseInstance_apply_of_running (call : Caller κ μ) (running : s.isRunning target = true) :
    releaseInstance call target s
      = (.ok (), s.modifyInstance target fun found => { found with owned := false }) := by
  obtain ⟨found, there, running⟩ := Context.isRunning_iff.mp running
  simp only [releaseInstance, Run.modify_bind_apply, Run.get_bind_apply,
    State.instance?_modifyInstance there, running, if_true, Run.pure_apply]

/-! ## Initializing -/

/-- An instance that was made for a handle that is registered is destroyed, and then the binding is
given back. -/
theorem adopt_apply_of_taken (call : Caller κ μ) (id : RecordId) {record : Record}
    (binding : BindingId) (made : κ) {s : State κ μ}
    (taken : s.registry.contains record.handle = true) :
    adopt call id record binding made s
      = (Run.ensuring (releaseInstance call ⟨s.instances.length⟩) (Run.releaseBinding binding) >>=
          fun _ => pure (.error (.alreadyRegistered record.handle.display)))
        { s with instances := s.instances ++ [⟨made, binding, true, false⟩] } := by
  simp only [adopt, Run.get_bind_apply, Run.modify_bind_apply, IdentityCache.insertNew, taken,
    if_true]

section

variable {binding : BindingId} {made : κ} {left : State κ μ}
  (taken : s.registry.contains record.handle = true)
include taken

theorem adopt_apply_of_destroyed
    (ran : releaseInstance call ⟨s.instances.length⟩
      { s with instances := s.instances ++ [⟨made, binding, true, false⟩] } = (.ok (), left)) :
    adopt call id record binding made s =
      (.ok (.error (.alreadyRegistered record.handle.display)),
        (Run.releaseBinding binding left).2) := by
  rw [adopt_apply_of_taken call id binding made taken]
  exact Run.bind_apply_of_ok _ (ensuring_releaseBinding ran binding)

theorem adopt_apply_of_stopped {why : Stop}
    (ran : releaseInstance call ⟨s.instances.length⟩
      { s with instances := s.instances ++ [⟨made, binding, true, false⟩] } = (.error why, left)) :
    adopt call id record binding made s = (.error why, (Run.releaseBinding binding left).2) := by
  rw [adopt_apply_of_taken call id binding made taken]
  exact Run.bind_apply_of_error _ (ensuring_releaseBinding ran binding)

end

/-- An instance that was made for a free handle is registered and handed to the record, and the module
that the record held before is given back. -/
theorem adopt_apply_of_free (call : Caller κ μ) (id : RecordId) {record : Record}
    (binding : BindingId) (made : κ) {s : State κ μ}
    (free : s.registry.contains record.handle = false) :
    ∃ reached, adopt call id record binding made s = (.ok (.ok true), reached) ∧
      reached.ledger = ((((s.ledger.append made binding).register record.handle
          ⟨record.descriptor.name, ⟨s.instances.length⟩⟩).release? record.module).changeRecord id
            fun record => { record with
              target := some ⟨s.instances.length⟩, module := some binding, stage := .initialized }).note
                (.initialized id record.handle ⟨record.descriptor.name, ⟨s.instances.length⟩⟩) ∧
      reached = { s with
        registry := s.registry.insert record.handle
          ⟨record.descriptor.name, ⟨s.instances.length⟩⟩
        instances := s.instances ++ [⟨made, binding, true, false⟩]
        records := reached.records, bench := reached.bench, history := reached.history } := by
  simp only [adopt, Run.get_bind_apply, Run.modify_bind_apply, IdentityCache.insertNew, free,
    Bool.false_eq_true, if_false]
  cases record.module <;> exact ⟨_, rfl, rfl, rfl⟩

/-- The state with a record marked as loaded. -/
def State.loading (s : State κ μ) (id : RecordId) : State κ μ :=
  s.modifyRecord id fun record => { record with stage := .loaded }

/-- What the factory of a bound module is called for. -/
abbrev Record.creating (record : Record) (binding : BindingId) (code : κ) (s : State κ μ) : Call κ :=
  .create binding code
    (ExtensionContext.make record.handle record.descriptor record.modulePath s.host.configDir)

/-- The state in which the factory of a bound module is called. -/
def State.creating (s : State κ μ) (id : RecordId) (record : Record) (binding : Binding κ) :
    State κ μ :=
  (s.loading id).note (.began (.call (record.creating binding.id binding.factory.code s)))

section

variable {c : Ledger κ} (bound : s.ledger = c.bind)
include bound

theorem State.ledger_creating (id : RecordId) (record : Record) (binding : Binding κ) :
    (s.creating id record binding).ledger = (c.bind.changeRecord id fun record =>
      { record with stage := .loaded }).note
        (.began (.call (record.creating binding.id binding.factory.code s))) := by
  rw [← bound]
  rfl

theorem State.stack_creating (id : RecordId) (record : Record) (binding : Binding κ) :
    (s.creating id record binding).ledger.stack
      = .call (record.creating binding.id binding.factory.code s) :: c.stack := by
  rw [ledger_creating bound]
  rfl

theorem State.record?_creating (found : c.context.record? id = some record) (binding : Binding κ) :
    (s.creating id record binding).record? id = some { record with stage := .loaded } := by
  refine record?_modifyRecord ?_ fun record => { record with stage := .loaded }
  exact (congrArg (fun c : Ledger κ => c.context.record? id) bound).trans found

/-- The factory is called as soon as its module is bound. -/
theorem Step.creating {binding : Binding κ} (fresh : binding.id = ⟨c.next⟩) (id : RecordId)
    (record : Record) : Step c (s.creating id record binding).ledger := by
  rw [State.ledger_creating bound, fresh]
  exact .construct c id _ _

end

section

variable {binding : Binding κ}

/-- A factory that is stopped has its binding given back. -/
theorem construct_of_stopped {why : Stop}
    (called : call (record.creating binding.id binding.factory.code s) (s.loading id) =
      (.error why, returned)) :
    construct call id record binding s =
      (.error why, (Run.releaseBinding binding.id returned).2) := by
  change (Run.onStop (call (record.creating binding.id binding.factory.code s))
    (Run.releaseBinding binding.id) >>= _) (s.loading id) = _
  rw [Run.bind_apply_of_error _ (Run.onStop_apply_of_error called _)]

/-- After a factory has declined, its binding is given back and the record is marked as probed. -/
theorem construct_of_declined
    (called : call (record.creating binding.id binding.factory.code s) (s.loading id) =
      (.ok none, returned)) :
    ∃ reached, construct call id record binding s = (.ok (.ok false), reached) ∧
      reached.ledger = (returned.ledger.release binding.id).changeRecord id fun record =>
        { record with stage := .probed } := by
  change ∃ reached, (Run.onStop (call (record.creating binding.id binding.factory.code s))
    (Run.releaseBinding binding.id) >>= _) (s.loading id) = _ ∧ _
  rw [Run.bind_apply_of_ok _ (Run.onStop_apply_of_ok called _)]
  exact ⟨_, rfl, rfl⟩

theorem construct_of_made {code : κ}
    (called : call (record.creating binding.id binding.factory.code s) (s.loading id) =
      (.ok (some code), returned)) :
    construct call id record binding s = adopt call id record binding.id code returned := by
  change (Run.onStop (call (record.creating binding.id binding.factory.code s))
    (Run.releaseBinding binding.id) >>= _) (s.loading id) = _
  rw [Run.bind_apply_of_ok _ (Run.onStop_apply_of_ok called _)]

end

/-- The state after a module was bound. -/
def State.binding (s : State κ μ) (log : Array LogEvent) : State κ μ :=
  { s with bench := ⟨⟨s.bench.next⟩ :: s.bench.held, s.bench.next + 1, log⟩ }

section

variable {binder : Binder κ} {files : FileTree κ} {path factory : String}

/-- Loading a module that binds takes the next binding. -/
theorem loadBy_apply_of_ok {found : Factory κ} (binds : binder.bind files path factory = .ok found)
    (s : State κ μ) :
    ∃ log, Run.zoom State.benchLens (Bench.loadBy binder files path factory) s =
      (.ok (some ⟨⟨s.bench.next⟩, found⟩), s.binding log) := by
  simp only [Run.zoom, Bench.loadBy, Bench.bindBy, binds]
  exact ⟨_, rfl⟩

/-- Of a module that cannot be bound the log tells, and nothing else changes. -/
theorem loadBy_apply_of_error {cause : Cause} (fails : binder.bind files path factory = .error cause)
    (s : State κ μ) :
    ∃ log, Run.zoom State.benchLens (Bench.loadBy binder files path factory) s =
      (.ok none, { s with bench.log := log }) := by
  simp only [Run.zoom, Bench.loadBy, Bench.bindBy, fails]
  exact ⟨_, rfl⟩

end

/-- The ways that initializing a record can go. -/
inductive Initializing (site : Site κ) (call : Caller κ μ) (id : RecordId) (record : Record)
    (s : State κ μ) (out : Except Stop (Except Cause Bool) × State κ μ) : Prop
  /-- It was initialized before. -/
  | already (initialized : record.isInitialized = true) (log : Array LogEvent)
      (ran : out = (.ok (.ok true), { s with bench.log := log }))
  /-- Its handle is registered. -/
  | taken (bare : record.isInitialized = false)
      (taken : s.registry.contains record.handle = true)
      (ran : out = (.ok (.error (.handleTaken record.handle)), s))
  /-- Its module cannot be bound. -/
  | unbound (bare : record.isInitialized = false)
      (free : s.registry.contains record.handle = false) (cause : Cause) (log : Array LogEvent)
      (fails : site.binder.bind site.files record.modulePath site.settings.loader.factorySymbol =
        .error cause)
      (ran : out = (.ok (.ok false), { s with bench.log := log }))
  /-- Its module is bound, and the rest is up to the factory. -/
  | bound (bare : record.isInitialized = false)
      (free : s.registry.contains record.handle = false) (factory : Factory κ) (log : Array LogEvent)
      (binds : site.binder.bind site.files record.modulePath site.settings.loader.factorySymbol =
        .ok factory)
      (ran : out = construct call id record ⟨⟨s.bench.next⟩, factory⟩ (s.binding log))

theorem initRecord_initializing (site : Site κ) (call : Caller κ μ) (id : RecordId)
    (record : Record) (s : State κ μ) :
    Initializing site call id record s (initRecord site call id record s) := by
  simp only [initRecord, Run.get_bind_apply]
  cases initialized : record.isInitialized with
  | true => exact .already initialized _ rfl
  | false =>
    cases taken : s.registry.contains record.handle with
    | true => exact .taken initialized taken rfl
    | false =>
      cases binds : site.binder.bind site.files record.modulePath
        site.settings.loader.factorySymbol with
      | error cause =>
        obtain ⟨log, load⟩ := loadBy_apply_of_error binds s
        simp only [Bool.false_eq_true, if_false]
        rw [Run.bind_apply_of_ok _ load]
        exact .unbound initialized taken cause _ binds rfl
      | ok factory =>
        obtain ⟨log, load⟩ := loadBy_apply_of_ok binds s
        simp only [Bool.false_eq_true, if_false]
        rw [Run.bind_apply_of_ok _ load]
        exact .bound initialized taken factory log binds rfl

/-- A record that is not initialized, with a free handle and a module that binds, is up to the factory. -/
theorem initRecord_apply_of_bound {site : Site κ} {factory : Factory κ}
    (bare : record.isInitialized = false) (free : s.registry.contains record.handle = false)
    (binds : site.binder.bind site.files record.modulePath site.settings.loader.factorySymbol =
      .ok factory) (call : Caller κ μ) (id : RecordId) :
    ∃ log, initRecord site call id record s =
      construct call id record ⟨⟨s.bench.next⟩, factory⟩ (s.binding log) := by
  cases initRecord_initializing site call id record s with
  | already initialized => cases bare.symm.trans initialized
  | taken _ taken => cases free.symm.trans taken
  | unbound _ _ cause _ fails => cases fails.symm.trans binds
  | bound _ _ other log also ran =>
    cases also.symm.trans binds
    exact ⟨log, ran⟩

/-! ## Cleaning up -/

/-- What cleaning a record up does before its instance is let go. -/
def State.detach (s : State κ μ) (id : RecordId) (record : Record) : State κ μ :=
  (releaseOwner record.handle
    { (s.note (.cleaning record)).modifyRecord id fun record => { record with target := none } with
      registry := s.registry.erase record.handle }).2

theorem State.record?_detach (found : s.record? id = some record) :
    (s.detach id record).record? id = some { record with target := none } :=
  record?_modifyRecord found _

/-- A record without an instance is cleaned up without foreign code. -/
theorem cleanupRecord_apply_of_bare (call : Caller κ μ) (s : State κ μ) (id : RecordId)
    (alone : record.target = none) :
    ∃ reached, cleanupRecord call id record s = (.ok (.ok ()), reached) ∧
      reached.ledger = (((s.ledger.note (.cleaning record)).release? record.module).changeRecord id
        fun record => { record with module := none }).note (.cleaned record) := by
  obtain ⟨given, run, ledger⟩ := releaseBinding?_apply record.module (s.note (.cleaning record))
  refine ⟨(given.modifyRecord id fun record => { record with module := none }).note (.cleaned record),
    ?_, ?_⟩
  · simp only [cleanupRecord, Run.note_bind_apply, alone]
    exact (Run.bind_apply_of_ok _ run).trans rfl
  · exact congrArg (fun c : Ledger κ => (c.changeRecord id fun record =>
      { record with module := none }).note (.cleaned record)) ledger

/-- A record that owns an instance is detached first. -/
theorem cleanupRecord_apply_of_owns (call : Caller κ μ) (s : State κ μ) (id : RecordId)
    (owns : record.target = some target) :
    cleanupRecord call id record s = dismantle call id record target (s.detach id record) := by
  simp only [cleanupRecord, Run.note_bind_apply, owns, changeRecord, Run.modify_bind_apply]
  rfl

/-- A record whose instance is running is detached, and cleaning it up is refused. -/
theorem cleanupRecord_apply_of_running (call : Caller κ μ) (id : RecordId)
    (owns : record.target = some target) (running : s.isRunning target = true) :
    cleanupRecord call id record s = (.ok (.error (.stillInUse record.handle)),
      (s.detach id record).modifyInstance target fun found => { found with owned := false }) := by
  have still : (s.detach id record).isRunning target = true := running
  rw [cleanupRecord_apply_of_owns call s id owns]
  simp only [dismantle, Run.get_bind_apply, still, if_true]
  rw [Run.bind_apply_of_ok _ (releaseInstance_apply_of_running call still)]
  rfl

section

variable {left : State κ μ} (owns : record.target = some target) (idle : s.isRunning target = false)
include owns idle

theorem cleanupRecord_apply_of_stopped {why : Stop}
    (ran : releaseInstance call target (s.detach id record) = (.error why, left)) :
    cleanupRecord call id record s = (.error why, left) := by
  have still : (s.detach id record).isRunning target = false := idle
  rw [cleanupRecord_apply_of_owns call s id owns]
  simp only [dismantle, Run.get_bind_apply, still, Bool.false_eq_true, if_false]
  rw [Run.bind_apply_of_error _ ran]

/-- Once the instance is destroyed, the module of the record is given back. -/
theorem cleanupRecord_apply_of_released
    (ran : releaseInstance call target (s.detach id record) = (.ok (), left)) :
    ∃ reached, cleanupRecord call id record s = (.ok (.ok ()), reached) ∧
      reached.ledger = ((left.ledger.release? record.module).changeRecord id fun record =>
        { record with module := none, stage := .cleanedUp }).note (.cleaned record) := by
  have still : (s.detach id record).isRunning target = false := idle
  rw [cleanupRecord_apply_of_owns call s id owns]
  simp only [dismantle, Run.get_bind_apply, still, Bool.false_eq_true, if_false]
  rw [Run.bind_apply_of_ok _ ran]
  cases record.module <;> exact ⟨_, rfl, rfl⟩

end

end ExtensionProxy
