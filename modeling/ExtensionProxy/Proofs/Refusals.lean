import ExtensionProxy.Proofs.Attempts
import ExtensionProxy.Proofs.Stages

/-!
# What a refused cleanup leaves behind

Cleaning a record up is refused if and only if its instance is running.  By then the record has let go
of the instance, and none of this is taken back: the instance is gone as soon as its callback returns,
and its handle, its observers and its tasks are gone at once.  What is not the record's own stays as it
is, and so does its module, which the next cleanup gives back.
-/

set_option autoImplicit false

namespace ExtensionProxy

variable {κ μ : Type} {s reached : State κ μ} {id : RecordId} {record : Record}

/-- A record was detached from its instance, and nothing else happened but that it was told. -/
structure Detached (s reached : State κ μ) (id : RecordId) (record : Record) (target : InstanceId) :
    Prop where
  /-- The record keeps its module and has no instance any more.  Nothing is said here of its stage: that
  detaching does not touch it stands in `State.record?_detach`, and whether it fits what the record has is
  judged in `Proofs/Stages`. -/
  own : ∃ after, reached.record? id = some after ∧ after.module = record.module ∧
    after.target = none ∧ after.handle = record.handle ∧ after.descriptor = record.descriptor ∧
    after.modulePath = record.modulePath
  /-- Other records are as they were. -/
  records : ∀ other, other ≠ id → reached.record? other = s.record? other
  /-- The instance is running and nobody owns it; other instances are as they were. -/
  instances : ∀ other, reached.instance? other = if other = target
    then (s.instance? other).map fun found => { found with owned := false, running := true }
    else s.instance? other
  /-- Its handle is not registered; the others are, in the order in which they were. -/
  registry : reached.registry = s.registry.erase record.handle
  /-- Registered documents and the open workspace lost the handlers that it owned; other signals are as
  they were. -/
  handlers : ∀ topic, reached.observers.signal topic = if s.isReachable topic
    then (s.observers.signal topic).disconnectOwner record.handle else s.observers.signal topic
  /-- Its tasks are gone; the others wait in the order in which they did. -/
  tasks : reached.tasks = s.tasks.cancelOwner record.handle
  /-- The rest is as it was. -/
  rest : reached = { s with
    records := reached.records, instances := reached.instances, registry := reached.registry
    observers := reached.observers, tasks := reached.tasks
    bench.log := reached.bench.log, history := reached.history }

theorem detach_detached {target : InstanceId} (found : s.record? id = some record)
    (running : s.isRunning target = true) :
    Detached s ((s.detach id record).modifyInstance target fun found =>
      { found with owned := false }) id record target := by
  obtain ⟨marked, there, runs⟩ := Context.isRunning_iff.mp running
  refine ⟨⟨_, State.record?_detach found, rfl, rfl, rfl, rfl, rfl⟩, fun other different => ?_,
    fun other => ?_, rfl, fun topic => ?_, rfl, rfl⟩
  · exact (Context.record?_modifyRecord s.toContext id other _).trans (if_neg different)
  · refine (Context.instance?_modifyInstance s.toContext target other _).trans ?_
    split
    · next same =>
      rw [same, there]
      simp [runs]
    · rfl
  · exact Observers.signal_dropOwner s.observers s.isReachable record.handle topic

/-- Cleaning up is refused only if the instance is running. -/
theorem cleanupRecord_error {call : Caller κ μ} {cause : Cause}
    (ran : cleanupRecord call id record s = (.ok (.error cause), reached)) :
    cause = .stillInUse record.handle ∧ ∃ target, record.target = some target ∧
      s.isRunning target = true ∧ reached = (s.detach id record).modifyInstance target fun found =>
        { found with owned := false } := by
  cases owns : record.target with
  | none =>
    obtain ⟨final, run, -⟩ := cleanupRecord_apply_of_bare call s id owns
    cases ran.symm.trans run
  | some target =>
    cases running : s.isRunning target with
    | true =>
      obtain ⟨same, rfl⟩ :=
        Prod.mk.inj (ran.symm.trans (cleanupRecord_apply_of_running call id owns running))
      cases same
      exact ⟨rfl, target, rfl, running, rfl⟩
    | false =>
      rcases went : releaseInstance call target (s.detach id record) with ⟨why | value, left⟩
      · cases ran.symm.trans (cleanupRecord_apply_of_stopped owns running went)
      · obtain ⟨final, run, -⟩ := cleanupRecord_apply_of_released owns running went
        cases ran.symm.trans run

theorem cleanupRecord_detached {call : Caller κ μ} {cause : Cause}
    (found : s.record? id = some record)
    (ran : cleanupRecord call id record s = (.ok (.error cause), reached)) :
    ∃ target, record.target = some target ∧ s.isRunning target = true ∧
      Detached s reached id record target := by
  obtain ⟨-, target, owns, running, rfl⟩ := cleanupRecord_error ran
  exact ⟨target, owns, running, detach_detached found running⟩

/-- A record that holds a module and no instance is cleaned up by giving the module back. -/
theorem cleanupRecord_bare (call : Caller κ μ) (path : Path Ledger.empty s.ledger)
    (found : s.record? id = some record) (alone : record.target = none) :
    ∃ last final, cleanupRecord call id record s = (.ok (.ok ()), last) ∧
      last.record? id = some final ∧ final.module = none ∧ final.target = none ∧
      ∀ binding, record.module = some binding → binding ∉ last.bench.held := by
  obtain ⟨last, run, ledger⟩ := cleanupRecord_apply_of_bare call s id alone
  have now := congrArg (fun c : Ledger κ => c.context.record? id) ledger
  have held : last.bench.held = (s.ledger.release? record.module).held :=
    congrArg (fun c : Ledger κ => c.held) ledger
  refine ⟨last, _, run, now.trans (State.record?_modifyRecord found _), rfl, alone,
    fun binding holds => ?_⟩
  rw [held, holds]
  exact (Path.held_once path).1.not_mem_erase

/-- Cleaning up is refused only while the instance is running.  The record is detached from its instance
for good, the rest of the proxy is as it was, and the next cleanup, if nobody treated the record in
between, succeeds and gives the module back. -/
theorem cleanupRecord_refused (path : Path Ledger.empty s.ledger)
    (found : s.record? id = some record) {call : Caller κ μ} {cause : Cause}
    (ran : cleanupRecord call id record s = (.ok (.error cause), reached)) :
    cause = .stillInUse record.handle ∧
      (∃ target, record.target = some target ∧ s.isRunning target = true ∧
        Detached s reached id record target) ∧
      ∀ later, Path reached.ledger later.ledger → later.record? id = reached.record? id →
        ∀ call : Caller κ μ, ∃ now last final, later.record? id = some now ∧
          cleanupRecord call id now later = (.ok (.ok ()), last) ∧
          last.record? id = some final ∧ final.module = none ∧ final.target = none ∧
          ∀ binding, record.module = some binding → binding ∉ last.bench.held := by
  obtain ⟨same, target, owns, running, rfl⟩ := cleanupRecord_error ran
  have detached := detach_detached found running
  refine ⟨same, ⟨target, owns, running, detached⟩, fun later rest kept call => ?_⟩
  obtain ⟨after, now, module, alone, -⟩ := detached.own
  have step : Step s.ledger ((s.detach id record).modifyInstance target fun found =>
      { found with owned := false }).ledger := by
    have := Step.detach found owns
    rwa [Ledger.letGo_of_running running] at this
  have there := kept.trans now
  obtain ⟨last, final, run, gone⟩ := cleanupRecord_bare call ((path.tail step).trans rest) there alone
  exact ⟨after, last, final, there, run, module ▸ gone⟩

/-! ## A record that is cleaned up while its instance shows help -/

namespace Sample

/-- The instance shows help. -/
def inUse : State Unit Unit := enter (setUp bare).2

/-- It is to be cleaned up meanwhile, which is refused. -/
theorem inUse_record : ∃ record reached, inUse.record? ⟨0⟩ = some record ∧
    record.isInitialized = true ∧ record.handle = ⟨1⟩ ∧
    cleanupRecord idle ⟨0⟩ record inUse = (.ok (.error (.stillInUse record.handle)), reached) := by
  have facts : (inUse.record? ⟨0⟩).map (fun record =>
      (record.isInitialized, record.handle, record.target)) = some (true, ⟨1⟩, some ⟨0⟩) := by
    decide +kernel
  obtain ⟨record, found, fact⟩ := Option.map_eq_some_iff.mp facts
  obtain ⟨initialized, fact⟩ := Prod.mk.inj fact
  obtain ⟨handle, owns⟩ := Prod.mk.inj fact
  exact ⟨record, _, found, initialized, handle,
    cleanupRecord_apply_of_running idle ⟨0⟩ owns (by decide +kernel)⟩

theorem inUse_path : Path Ledger.empty inUse.ledger := by
  obtain ⟨record, now, -, treated⟩ := setUp_treated
  exact (treated.enter ⟨(), ⟨0⟩, true, false⟩ (by decide +kernel) rfl rfl).path

/-- The record is detached, and the next cleanup gives its module back. -/
theorem inUse_detached : ∃ record target reached, inUse.record? ⟨0⟩ = some record ∧
    cleanupRecord idle ⟨0⟩ record inUse = (.ok (.error (.stillInUse record.handle)), reached) ∧
    Detached inUse reached ⟨0⟩ record target ∧
    ∀ later, Path reached.ledger later.ledger → later.record? ⟨0⟩ = reached.record? ⟨0⟩ →
      ∃ now last, later.record? ⟨0⟩ = some now ∧
        cleanupRecord idle ⟨0⟩ now later = (.ok (.ok ()), last) := by
  obtain ⟨record, reached, found, -, -, ran⟩ := inUse_record
  obtain ⟨-, ⟨target, -, -, detached⟩, next⟩ := cleanupRecord_refused inUse_path found ran
  refine ⟨record, target, reached, found, ran, detached, fun later path kept => ?_⟩
  obtain ⟨now, last, -, there, run, -⟩ := next later path kept idle
  exact ⟨now, last, there, run⟩

/-- The record is not as it was, nor is its handle registered any more. -/
theorem inUse_not_kept : Path Ledger.empty inUse.ledger ∧
    ∃ record after reached cause, inUse.record? ⟨0⟩ = some record ∧
    cleanupRecord idle ⟨0⟩ record inUse = (.ok (.error cause), reached) ∧
    record.isInitialized = true ∧ reached.record? ⟨0⟩ = some after ∧ after.isInitialized = false ∧
    inUse.registry.contains record.handle = true ∧
    reached.registry.contains record.handle = false := by
  obtain ⟨record, reached, found, initialized, handle, ran⟩ := inUse_record
  obtain ⟨target, -, -, detached⟩ := cleanupRecord_detached found ran
  obtain ⟨after, now, -, alone, -⟩ := detached.own
  have registered : inUse.registry.contains ⟨1⟩ = true := by decide +kernel
  have unregistered : (inUse.registry.erase ⟨1⟩).contains ⟨1⟩ = false := by decide +kernel
  refine ⟨inUse_path, record, after, reached, _, found, ran, initialized, now, ?_, ?_, ?_⟩
  · simp [Record.isInitialized, alone]
  · rw [handle]
    exact registered
  · rw [detached.registry, handle]
    exact unregistered

end Sample

end ExtensionProxy
