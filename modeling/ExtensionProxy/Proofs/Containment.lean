import ExtensionProxy.Proofs.Conduct.Makers
import ExtensionProxy.Proofs.IdentityCache
import ExtensionProxy.Proofs.Observing
import ExtensionProxy.Proofs.Reaching
import ExtensionProxy.Proofs.Records

/-!
# A contained panic leaves a proxy usable

The host lets one program after the other run at the top of the stack, each of them contained.  A panic
of any foreign code, however deep it is nested, cuts through whatever emissions, deliveries, drains and
constructions of wrappers are on the stack.  Still the run took a path of steps, since being stopped
undoes nothing and every frame takes back on its way out what it had marked.  So what every path keeps
holds afterwards, and nothing is going on any more.

Nothing is said here about what foreign code left half done in its own memory.
-/

set_option autoImplicit false

namespace ExtensionProxy

variable {κ μ : Type}

/-! ## Identity caches on every path -/

namespace Categories

variable {categories : Categories}

theorem inStep_add (h : categories.cache.InStep) (row : CategoryRow) :
    (categories.add row).cache.InStep := by
  rw [add]
  split
  · exact h
  · next absent => exact h.insert (Option.not_isSome_iff_eq_none.mp absent) _

/-- The categories are rebuilt from nothing. -/
theorem inStep_reload (categories : Categories) (rows : List CategoryRow) :
    (categories.reload rows).cache.InStep := by
  have start : categories.clear.cache.InStep := IdentityCache.InStep.empty
  rw [reload]
  generalize categories.clear = built at start
  induction rows generalizing built with
  | nil => exact start
  | cons row rest ih => exact ih _ (inStep_add start row)

end Categories

/-- Every identity cache has its two collections in step. -/
structure Ledger.InStep (c : Ledger κ) : Prop where
  documents : c.context.documents.InStep
  registry : c.context.registry.InStep
  categories : c.categories.cache.InStep

theorem Ledger.empty_inStep : (Ledger.empty : Ledger κ).InStep :=
  ⟨.empty, .empty, .empty⟩

theorem Step.inStep {c d : Ledger κ} (h : c.InStep) (step : Step c d) : d.InStep := by
  obtain ⟨documents, registry, categories⟩ := h
  cases step with
  | enroll doc new => exact ⟨documents.insert new _, registry, categories⟩
  | evict doc => exact ⟨documents.erase doc, registry, categories⟩
  | reload rows => exact ⟨documents, registry, c.categories.inStep_reload rows⟩
  | unregister handle => exact ⟨documents, registry.erase handle, categories⟩
  | clean id record => exact ⟨documents, registry.erase record.handle, categories⟩
  | adopt id record binding code made context rest top found alone free =>
    have new : c.context.registry.get? record.handle = none := by
      refine Option.not_isSome_iff_eq_none.mp ?_
      exact ne_true_of_eq_false free
    exact ⟨documents, registry.insert new _, categories⟩
  | _ => exact ⟨documents, registry, categories⟩

theorem Path.inStep {c d : Ledger κ} (path : Path c d) (h : c.InStep) : d.InStep := by
  induction path with
  | refl => exact h
  | tail _ step ih => exact step.inStep ih

/-! ## Usable proxies -/

/-- A proxy is as usable as if nothing had been stopped; the calls are those of the foreign code that it
is going to meet. -/
structure State.Usable (s : State κ μ) (call : Caller κ μ) : Prop where
  /-- No handler is marked as running. -/
  handlersIdle : ∀ topic, (s.observers.signal topic).running = []
  /-- No instance is marked as running. -/
  instancesIdle : ∀ target, s.isRunning target = false
  /-- An emission runs every handler that is connected. -/
  emits : ∀ topic emitted, emitTopic call topic emitted s = emitToAll call topic emitted s
  /-- Whoever is alive when a dispatch gets to it is called at once. -/
  notifies : ∀ event moment past target, moment :: past <:+ (dispatch call event s).2.history →
    moment.what = .reached s.dispatches target → moment.context.isAlive target = true →
    ∃ start, start :: moment :: past <:+ (dispatch call event s).2.history ∧
      start.what.Notifies s.dispatches target
  /-- The order of registration and the entries of every identity cache agree. -/
  documents : s.documents.Agrees
  registry : s.registry.Agrees
  categories : s.categories.cache.Agrees
  /-- The slots of every signal are the handlers that were connected and not dropped. -/
  handlers : ∀ topic, (s.observers.signal topic).IsRecorded
  /-- The queue holds, in order, the tasks that were neither started nor cancelled. -/
  tasks : s.tasks.IsRecorded

/-- Whenever nothing is going on a proxy is usable. -/
theorem State.usable_of_quiet {s : State κ μ} {call : Caller κ μ} (lawful : call.IsLawful)
    (path : Path Ledger.empty s.ledger) (quiet : s.ledger.stack = []) : s.Usable call.noting := by
  have sound := path.sound Ledger.empty_sound
  have marked := path.marked Ledger.empty_marked
  have handlers := path.handlersMarked Ledger.empty_handlersMarked
  have inStep := path.inStep Ledger.empty_inStep
  have recorded := path.recorded Ledger.empty_recorded
  have silent : ∀ topic, s.ledger.observing topic = [] := by
    intro topic
    rw [Ledger.observing, quiet]
    rfl
  exact {
    handlersIdle := fun topic => (handlers topic).trans (silent topic)
    instancesIdle := marked.isRunning quiet
    emits := fun topic emitted => emitTopic_eq_emitToAll lawful sound handlers (silent topic) emitted
    notifies := fun event _ _ _ there what alive =>
      dispatch_notifies lawful path quiet event there what alive
    documents := inStep.documents.agrees
    registry := inStep.registry.agrees
    categories := inStep.categories.agrees
    handlers := recorded.handlers
    tasks := recorded.tasks }

/-! ## Contained programs -/

/-- Lets one program after the other run at the top of the stack, each of them contained. -/
def containEach (site : Site κ) (foreign : (makerInterface κ μ).Foreign) (levels : Nat) :
    List (Program (makerInterface κ μ) Unit) → Run (State κ μ) Unit
  | [] => pure ()
  | program :: rest => do
    let _ ← Run.contain ((makerInterface κ μ).runTop (serveMakers site) foreign levels program)
    containEach site foreign levels rest

/-- However the programs ended, the host comes to the end of them; a path was taken and nothing is going
on. -/
theorem containEach_path (site : Site κ) (foreign : (makerInterface κ μ).Foreign) (levels : Nat)
    (programs : List (Program (makerInterface κ μ) Unit)) :
    ∀ s : State κ μ, Path Ledger.empty s.ledger → s.ledger.stack = [] →
      ∃ final, containEach site foreign levels programs s = (.ok (), final) ∧
        Path Ledger.empty final.ledger ∧ final.ledger.stack = [] := by
  induction programs with
  | nil => exact fun s path quiet => ⟨s, rfl, path, quiet⟩
  | cons program rest ih =>
    intro s path quiet
    obtain ⟨exec, stack⟩ := makerRunTop_lawful site foreign levels program
      (path.sound Ledger.empty_sound)
    exact ih _ (path.trans exec.path) (stack.trans quiet)

/-- Whatever foreign code panics in the programs of a host, and at whatever depth, a proxy is usable
after each of them. -/
theorem contained_usable (site : Site κ) (host : HostView) (memory : μ)
    (foreign : (makerInterface κ μ).Foreign) (levels : Nat)
    (programs : List (Program (makerInterface κ μ) Unit)) :
    ∃ s, containEach site foreign levels programs (State.create site host memory) = (.ok (), s) ∧
      s.Usable (Caller.ofMakers ((makerInterface κ μ).call (serveMakers site) foreign
        levels)).noting := by
  have start : Path Ledger.empty (State.create site host memory).ledger ∧
      (State.create site host memory).ledger.stack = [] := by
    rcases State.create_ledger site host memory with ledger | ledger
    · rw [ledger]
      exact ⟨.refl, rfl⟩
    · rw [ledger]
      exact ⟨.single (.openWorkspace _), rfl⟩
  obtain ⟨s, run, path, quiet⟩ := containEach_path site foreign levels programs _ start.1 start.2
  refine ⟨s, run, State.usable_of_quiet ?_ path quiet⟩
  exact fun request s => makerCall_lawful site foreign levels (.plain request) s

end ExtensionProxy
