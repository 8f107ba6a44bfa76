import ExtensionProxy.Proofs.Bindings
import ExtensionProxy.Proofs.Handlers
import ExtensionProxy.Proofs.Turns

/-!
# What a failed initialization leaves behind

Initializing a record binds its module, lets the factory make an instance and registers that.  If the
module does not bind, nothing has happened.  If the factory declines, or the handle was registered
while it was running, the binding is given back.

Nothing else is taken back.  A task that the factory scheduled waits on, and a handler that it
connected stays connected, although the module of their code was released.
-/

set_option autoImplicit false

namespace ExtensionProxy

variable {κ μ : Type}

/-! ## Bindings are held once -/

/-- No binding is held twice, and none that was not taken. -/
theorem Path.held_once {c : Ledger κ} (path : Path Ledger.empty c) :
    c.held.Nodup ∧ ∀ binding ∈ c.held, binding.index < c.next := by
  induction path with
  | refl => exact ⟨.nil, fun binding there => (List.not_mem_nil there).elim⟩
  | tail _ step ih =>
    obtain ⟨once, taken⟩ := ih
    cases step.reholds with
    | same held next =>
      rw [held]
      exact ⟨once, fun binding there => Nat.lt_of_lt_of_le (taken binding there) next⟩
    | take held next =>
      rw [held, next]
      refine ⟨List.nodup_cons.mpr ⟨fun there => Nat.lt_irrefl _ (taken _ there), once⟩,
        fun binding there => ?_⟩
      rcases List.mem_cons.mp there with rfl | there
      · exact Nat.lt_succ_self _
      · exact Nat.lt_succ_of_lt (taken binding there)
    | giveBack given held next =>
      rw [held, next]
      exact ⟨once.erase given, fun binding there => taken binding (List.mem_of_mem_erase there)⟩

/-! ## How an initialization fails -/

namespace Ledger

/-- An initialization failed: before any code of the module was called, or by giving the binding back
as soon as the last code that it called had returned. -/
inductive Fails (c d : Ledger κ) : Prop
  /-- No code was called. -/
  | early (same : d = c)
  /-- A factory was called, and perhaps the instance destroyed that it had made. -/
  | late (e : Ledger κ) (request : Call κ) (past : History κ) (release : Moment κ)
      (ended : e.history = ⟨.ended (.call request), e.context, e.held⟩ :: past)
      (after : c.history <:+ past) (once : e.held.Nodup)
      (history : d.history = release :: e.history) (what : release.what = .released ⟨c.next⟩)
      (held : d.held = e.held.erase ⟨c.next⟩) (tasks : d.context.tasks = e.context.tasks)
      (observers : d.context.observers = e.context.observers)

end Ledger

/-- An instance that was made in vain is the last to run. -/
theorem adopt_fails {call : Caller κ μ} (lawful : call.IsLawful) {c : Ledger κ}
    {s reached : State κ μ} (path : Path Ledger.empty s.ledger) {id : RecordId} {record : Record}
    {code made : κ} {context : ExtensionContext} {base : List (Activity κ)}
    {result : Except Cause Bool} {binding : BindingId} (fresh : binding = ⟨c.next⟩)
    (top : s.ledger.stack = .call (.create binding code context) :: base)
    (after : c.history <:+ s.history)
    (ran : adopt call.noting id record binding made
      (s.note (.ended (.call (.create binding code context)))) = (.ok result, reached))
    (failed : result ≠ .ok true) : c.Fails reached.ledger := by
  subst fresh
  let returned := s.note (.ended (.call (.create ⟨c.next⟩ code context)))
  cases taken : returned.registry.contains record.handle with
  | false =>
    obtain ⟨other, run, -⟩ := adopt_apply_of_free call.noting id ⟨c.next⟩ made taken
    exact absurd (Except.ok.inj (Prod.mk.inj (ran.symm.trans run)).1) failed
  | true =>
    let target : InstanceId := ⟨s.instances.length⟩
    let appended : State κ μ :=
      { returned with instances := s.instances ++ [⟨made, ⟨c.next⟩, true, false⟩] }
    let parted := appended.modifyInstance target fun found => { found with owned := false }
    let begun := parted.note (.began (.call (.dropped target made)))
    have there : appended.instance? target = some ⟨made, ⟨c.next⟩, true, false⟩ :=
      List.getElem?_concat_length
    have dead : parted.instance? target = some ⟨made, ⟨c.next⟩, false, false⟩ :=
      State.instance?_modifyInstance there _
    have begun_eq : begun.ledger = appended.ledger.letGo target :=
      (Ledger.reap_of_dead parted.ledger dead rfl).symm
    have step : Step s.ledger begun.ledger :=
      begun_eq ▸ .duplicate s.ledger _ code made context base top
    have inner := lawful (.dropped target made) begun
      (Path.sound (path.tail step) Ledger.empty_sound)
    rw [adopt_apply_of_taken call.noting id ⟨c.next⟩ made taken] at ran
    obtain ⟨_, final, ends, same⟩ := Run.of_bind_ok ran
    obtain ⟨mid, run, given⟩ := Run.of_ensuring_ok ends
    change releaseInstance call.noting target appended = _ at run
    rw [releaseInstance_apply_of_idle call.noting there rfl, Caller.noting_apply] at run
    -- After the destructor has returned nothing but the binding changes.
    rw [← (Prod.mk.inj same).2, ← (Prod.mk.inj given).2, ← (Prod.mk.inj run).2]
    exact .late ((call (.dropped target made) begun).2.note
      (.ended (.call (.dropped target made)))).ledger _ _ _ rfl
      ((after.trans step.history_grows).trans (Path.history_grows inner.exec.path))
      (Path.held_once ((path.tail step).trans inner.exec.path)).1 rfl rfl rfl rfl rfl

/-- A factory that declines has its binding given back. -/
theorem construct_fails {call : Caller κ μ} (lawful : call.IsLawful) {c : Ledger κ}
    {s reached : State κ μ} (path : Path Ledger.empty c) {id : RecordId} {record : Record}
    {binding : Binding κ} {result : Except Cause Bool} (fresh : binding.id = ⟨c.next⟩)
    (bound : s.ledger = c.bind)
    (ran : construct call.noting id record binding s = (.ok result, reached))
    (failed : result ≠ .ok true) : c.Fails reached.ledger := by
  let request := record.creating binding.id binding.factory.code s
  let begun := s.creating id record binding
  have step : Step c begun.ledger := .creating bound fresh id record
  have inner := lawful request begun (Path.sound (path.tail step) Ledger.empty_sound)
  cases called : call request begun with
  | mk answer returned =>
    rw [called] at inner
    have noted : call.noting request (s.loading id) =
        (answer, returned.note (.ended (.call request))) := Caller.noting_apply_of_called called
    have whole := (path.tail step).trans inner.exec.path
    have grown := step.history_grows.trans (Path.history_grows inner.exec.path)
    cases answer with
    | error why =>
      rw [construct_of_stopped noted] at ran
      cases (Prod.mk.inj ran).1
    | ok made =>
      cases made with
      | none =>
        obtain ⟨final, run, ledger⟩ := construct_of_declined noted
        rw [← (Prod.mk.inj (run.symm.trans ran)).2, ledger]
        exact .late (returned.note (.ended (.call request))).ledger request _ _ rfl grown
          (Path.held_once whole).1 rfl (congrArg _ fresh) (congrArg _ fresh) rfl rfl
      | some code =>
        rw [construct_of_made noted] at ran
        exact adopt_fails lawful whole fresh
          (inner.stack.trans (State.stack_creating bound id record binding)) grown ran failed

/-- An initialization that comes to no instance fails early or late. -/
theorem initRecord_fails {call : Caller κ μ} (lawful : call.IsLawful) {site : Site κ}
    {s reached : State κ μ} (path : Path Ledger.empty s.ledger) {id : RecordId} {record : Record}
    {result : Except Cause Bool}
    (ran : initRecord site call.noting id record s = (.ok result, reached))
    (failed : result ≠ .ok true) : s.ledger.Fails reached.ledger := by
  cases initRecord_initializing site call.noting id record s with
  | already initialized log run =>
    exact absurd (Except.ok.inj (Prod.mk.inj (ran.symm.trans run)).1) failed
  | taken bare taken run =>
    rw [(Prod.mk.inj (ran.symm.trans run)).2]
    exact .early rfl
  | unbound bare free cause log fails run =>
    rw [(Prod.mk.inj (ran.symm.trans run)).2]
    exact .early rfl
  | bound bare free factory log binds run =>
    exact construct_fails lawful path rfl rfl (run.symm.trans ran) failed

/-! ## What is left behind -/

/-- A task that waits waited before, or it was scheduled since. -/
theorem Path.waited {c d : Ledger κ} (path : Path c d) {task : Task (Deferred κ)}
    (waits : task ∈ d.context.tasks.tasks) :
    task ∈ c.context.tasks.tasks ∨ c.context.tasks.nextSeq ≤ task.seq := by
  induction path with
  | refl => exact .inl waits
  | tail path step ih =>
    rcases step.tasks_cases with ⟨owner, code, tasks⟩ | ⟨sub, -⟩
    · rw [tasks] at waits
      rcases List.mem_append.mp waits with old | new
      · exact ih old
      · rw [List.mem_singleton.mp new]
        exact .inr (Path.nextSeq_grows path)
    · exact ih (sub.subset waits)

namespace Ledger

/-- Nothing is left in a context that an owner scheduled or connected since a ledger. -/
structure Spotless (since : Ledger κ) (context : Context κ) (owner : ExtensionHandle) : Prop where
  /-- None of its tasks waits that was scheduled since. -/
  tasks : ∀ task ∈ context.tasks.tasks, task.owner = some owner →
    task.seq < since.context.tasks.nextSeq
  /-- None of its handlers is connected that was connected since. -/
  handlers : ∀ topic, ∀ slot ∈ (context.observers.signal topic).slots, slot.owner = some owner →
    slot.id < since.nextHandler topic

/-- Whatever an owner scheduled or connected between two ledgers never runs after the second one. -/
structure Silent (since now later : Ledger κ) (owner : ExtensionHandle) : Prop where
  /-- None of the tasks waits. -/
  tasks : ∀ task ∈ later.context.tasks.tasks, task.owner = some owner →
    task.seq < since.context.tasks.nextSeq ∨ now.context.tasks.nextSeq ≤ task.seq
  /-- None of the handlers starts. -/
  handlers : ∀ start before topic slot emitted, History.Adds now.history later.history start before →
    start.what = .began (.call (.observe topic slot emitted)) → slot.owner = some owner →
    slot.id < since.nextHandler topic ∨ now.nextHandler topic ≤ slot.id

/-- The last code that was called since a ledger left nothing of an owner when it returned. -/
def LastCallSpotless (since : Ledger κ) (history : History κ) (owner : ExtensionHandle) : Prop :=
  ∀ ended past request, History.Adds since.history history ended past →
    ended.what = .ended (.call request) →
    (∀ later between other, History.Adds (ended :: past) history later between →
      later.what ≠ .ended (.call other)) →
    since.Spotless ended.context owner

variable {c d : Ledger κ} {owner : ExtensionHandle}

/-- A ledger leaves nothing that came after it. -/
theorem spotless_self (path : Path empty c) : c.Spotless c.context owner :=
  ⟨fun task there _ => (Path.ordered path empty_ordered).made task there,
    fun topic slot there _ => Path.counted path empty_counted topic slot (.inl there)⟩

/-- A failed initialization leaves what the last code left that it called. -/
theorem Fails.spotless_iff (path : Path empty c) (fails : c.Fails d) :
    c.Spotless d.context owner ↔ c.LastCallSpotless d.history owner := by
  cases fails with
  | early same =>
    rw [same]
    exact ⟨fun _ ended past request adds => (History.not_adds_self adds).elim,
      fun _ => spotless_self path⟩
  | late e request past release ended after once history what held tasks observers =>
    have same : c.Spotless d.context owner ↔ c.Spotless e.context owner := by
      constructor
      · exact fun h => ⟨tasks ▸ h.tasks, observers ▸ h.handlers⟩
      · exact fun h => ⟨tasks ▸ h.tasks, observers ▸ h.handlers⟩
    rw [same, history, ended]
    -- The last call that ended is the one before the release of the binding.
    constructor
    · intro spotless last earlier other adds finished latest
      rcases History.adds_cons.mp adds with ⟨-, rfl, -⟩ | adds
      · cases what.symm.trans finished
      rcases History.adds_cons.mp adds with ⟨-, rfl, -⟩ | adds
      · exact spotless
      · exact absurd rfl (latest _ past request
          ⟨List.suffix_cons _ _, adds.there⟩)
    · intro last
      refine last ⟨.ended (.call request), e.context, e.held⟩ past request
        ⟨List.suffix_cons _ _, after⟩ rfl fun later between other adds finished => ?_
      rcases History.adds_cons.mp adds with ⟨-, rfl, -⟩ | adds
      · cases what.symm.trans finished
      · exact History.not_adds_self adds

/-- A failed initialization gives the binding back that it took. -/
theorem Fails.released (path : Path empty c) (fails : c.Fails d) :
    (⟨c.next⟩ : BindingId) ∉ d.held := by
  cases fails with
  | early same =>
    rw [same]
    exact fun there => Nat.lt_irrefl _ ((Path.held_once path).2 _ there)
  | late e request past release ended after once history what held =>
    rw [held]
    exact once.not_mem_erase

/-- What left nothing behind is silent for ever. -/
theorem Spotless.silent (path : Path empty c) (stack : d.stack = c.stack)
    (spotless : c.Spotless d.context owner) {later : Ledger κ} (rest : Path d later) :
    c.Silent d later owner := by
  refine ⟨fun task waits owned => ?_, fun start before topic slot emitted adds begins owned => ?_⟩
  · exact (Path.waited rest waits).imp_left fun there => spotless.tasks task there owned
  · rcases rest.adds adds.there with old | ⟨a, b, between, step, -, adds'⟩
    · exact (Nat.not_succ_le_self _ (old.trans adds.after).length_le).elim
    · -- A handler may also start because an emission lists it that went on when the call began.
      obtain ⟨-, now⟩ := step.observes adds' begins
      rcases between.canRun now with (connected | ⟨slots, going, listed⟩) | new
      · exact .inl (spotless.handlers topic slot connected owned)
      · exact .inl (Path.counted path empty_counted topic slot (.inr ⟨slots, stack ▸ going, listed⟩))
      · exact .inr new

end Ledger

/-- An initialization that fails gives the binding back that it took.  It leaves no task and no
handler of its handle that came during it if and only if the last code that it called left none; if it
leaves none, none of them ever runs.  Whoever initializes a record has taken it out of its slot. -/
theorem initRecord_spotless_iff {site : Site κ} {foreign : (proxyInterface κ μ).Foreign}
    {levels : Nat} {s reached : State κ μ} (path : Path Ledger.empty s.ledger) {id : RecordId}
    {record : Record} (found : s.record? id = some record) (loose : s.ledger.IsLoose id)
    {result : Except Cause Bool}
    (ran : initRecord site (Caller.noting ((proxyInterface κ μ).call (serve site) foreign levels)) id
      record s = (.ok result, reached)) (failed : result ≠ .ok true) :
    (⟨s.bench.next⟩ : BindingId) ∉ reached.bench.held ∧
      (s.ledger.Spotless reached.toContext record.handle ↔
        s.ledger.LastCallSpotless reached.history record.handle) ∧
      (s.ledger.Spotless reached.toContext record.handle → ∀ later, Path reached.ledger later →
        s.ledger.Silent reached.ledger later record.handle) := by
  have lawful := call_lawful site foreign levels
  have fails := initRecord_fails lawful path ran failed
  have stack := (Lawful.initRecord lawful (Path.sound path Ledger.empty_sound) site id record found
    loose).stack
  rw [ran] at stack
  exact ⟨fails.released path, fails.spotless_iff path,
    fun spotless later rest => spotless.silent path stack rest⟩

/-! ## Two factories that decline -/

namespace Sample

/-- Foreign code whose factories run a program and decline. -/
def declining (program : Program (proxyInterface Unit Unit) Unit) :
    (proxyInterface Unit Unit).Foreign := fun call =>
  match call with
  | .create _ _ _ => do
    program
    pure none
  | other => foreign (fun _ => .done ()) other

/-- A record was loaded and a document opened. -/
def loaded : State Unit Unit := after () (fun _ => .done ()) do
  let _ ← ask (.load "a" ⟨1⟩ "e/a.plugin")
  let _ ← ask (.addDocument ⟨7⟩)

/-- A record is taken out of its slot. -/
def takeOut (s : State Unit Unit) (slot : String) : State Unit Unit :=
  { s with slots := s.slots.erase slot }

theorem takeOut_path {s : State Unit Unit} (path : Path Ledger.empty s.ledger) (slot : String) :
    Path Ledger.empty (takeOut s slot).ledger :=
  path.tail (.take s.ledger slot)

/-- The record was taken out. -/
def taken : State Unit Unit := takeOut loaded "a"

theorem taken_path : Path Ledger.empty taken.ledger :=
  takeOut_path (reached () (fun _ => .done ()) _).ledger.path "a"

/-- It is initialized, with a factory that runs a program and declines. -/
def attempt (program : Program (proxyInterface Unit Unit) Unit) (record : Record) :
    Except Stop (Except Cause Bool) × State Unit Unit :=
  initRecord (site ())
    (Caller.noting ((proxyInterface Unit Unit).call (serve (site ())) (declining program) 8)) ⟨0⟩
    record taken

/-- Whether an initialization came to nothing without a fault. -/
def declined (out : Except Stop (Except Cause Bool) × State Unit Unit) : Bool :=
  match out.1 with
  | .ok (.ok made) => !made
  | _ => false

theorem eq_of_declined {out : Except Stop (Except Cause Bool) × State Unit Unit}
    (h : declined out = true) : out = (.ok (.ok false), out.2) := by
  obtain ⟨result, reached⟩ := out
  unfold declined at h
  split at h
  · next made same =>
    cases made with
    | false => exact Prod.ext same rfl
    | true => cases h
  · cases h

theorem taken_loose : taken.ledger.IsLoose ⟨0⟩ := by
  intro slot there
  have none : taken.slots = .empty := by decide +kernel
  have there : taken.slots.get? slot = some ⟨0⟩ := there
  rw [none] at there
  cases there

/-- A factory that takes back what it scheduled and connected, and then declines. -/
def tidy : Program (proxyInterface Unit Unit) Unit := do
  let _ ← ask (.schedule (some ⟨1⟩) ())
  let _ ← ask (.connect (.document ⟨0⟩ .saved) (some ⟨1⟩) ())
  let _ ← ask (.release ⟨1⟩)

/-- It leaves nothing, and its module is released. -/
theorem attempt_spotless : ∃ record, taken.record? ⟨0⟩ = some record ∧
    declined (attempt tidy record) = true ∧
    (⟨taken.bench.next⟩ : BindingId) ∉ (attempt tidy record).2.bench.held ∧
    taken.ledger.LastCallSpotless (attempt tidy record).2.history record.handle ∧
    ∀ later, Path (attempt tidy record).2.ledger later →
      taken.ledger.Silent (attempt tidy record).2.ledger later record.handle := by
  have facts : (taken.record? ⟨0⟩).map (fun record =>
      (declined (attempt tidy record), (attempt tidy record).2.tasks.tasks,
        (attempt tidy record).2.observers))
      = some (true, [], Observers.empty.setSignal (.document ⟨0⟩ .saved) {
          nextId := 2, record := [.dismissed ⟨1⟩, .connected ⟨1, some ⟨1⟩, ()⟩] }) := by
    decide +kernel
  obtain ⟨record, found, fact⟩ := Option.map_eq_some_iff.mp facts
  obtain ⟨failed, fact⟩ := Prod.mk.inj fact
  obtain ⟨tasks, observers⟩ := Prod.mk.inj fact
  obtain ⟨released, spotless_iff, silent⟩ := initRecord_spotless_iff taken_path found taken_loose
    (eq_of_declined failed) (by decide)
  have spotless : taken.ledger.Spotless (attempt tidy record).2.toContext record.handle := by
    refine ⟨fun task waits => ?_, fun topic slot connected => ?_⟩
    · rw [tasks] at waits
      cases waits
    · rw [observers, Observers.signal_setSignal] at connected
      split at connected <;> cases connected
  exact ⟨record, found, failed, released, spotless_iff.mp spotless, silent spotless⟩

/-- A factory that schedules a task, connects a handler and declines. -/
def untidy : Program (proxyInterface Unit Unit) Unit := do
  let _ ← ask (.schedule (some ⟨1⟩) ())
  let _ ← ask (.connect (.document ⟨0⟩ .saved) (some ⟨1⟩) ())

/-- Both stay, although its module is released. -/
theorem attempt_not_spotless : ∃ record, taken.record? ⟨0⟩ = some record ∧
    declined (attempt untidy record) = true ∧ (attempt untidy record).2.bench.held = [] ∧
    (∃ task ∈ (attempt untidy record).2.tasks.tasks, task.owner = some record.handle ∧
      taken.tasks.nextSeq ≤ task.seq) ∧
    (∃ slot ∈ ((attempt untidy record).2.observers.signal (.document ⟨0⟩ .saved)).slots,
      slot.owner = some record.handle ∧
      taken.ledger.nextHandler (.document ⟨0⟩ .saved) ≤ slot.id) ∧
    ¬taken.ledger.Spotless (attempt untidy record).2.toContext record.handle := by
  have facts : (taken.record? ⟨0⟩).map (fun record =>
      (record.handle, declined (attempt untidy record), (attempt untidy record).2.bench.held))
      = some (⟨1⟩, true, []) := by decide +kernel
  have left : (taken.record? ⟨0⟩).map (fun record =>
      ((attempt untidy record).2.tasks.tasks,
        ((attempt untidy record).2.observers.signal (.document ⟨0⟩ .saved)).slots))
      = some ([⟨0, some ⟨1⟩, .task ()⟩], [⟨1, some ⟨1⟩, ()⟩]) := by decide +kernel
  have fresh : taken.tasks.nextSeq = 0 := by decide +kernel
  have unnumbered : taken.ledger.nextHandler (.document ⟨0⟩ .saved) = 1 := by decide +kernel
  obtain ⟨record, found, fact⟩ := Option.map_eq_some_iff.mp facts
  obtain ⟨handle, fact⟩ := Prod.mk.inj fact
  obtain ⟨failed, held⟩ := Prod.mk.inj fact
  rw [found] at left
  obtain ⟨tasks, slots⟩ := Prod.mk.inj (Option.some.inj left)
  refine ⟨record, found, failed, held, ⟨_, tasks ▸ List.mem_singleton_self _, by rw [handle], ?_⟩,
    ⟨_, slots ▸ List.mem_singleton_self _, by rw [handle], ?_⟩, fun spotless => ?_⟩
  · exact Nat.le_of_eq fresh
  · exact Nat.le_of_eq unnumbered
  · have early := spotless.tasks _ (tasks ▸ List.mem_singleton_self _) (by rw [handle])
    exact Nat.not_lt_of_le (Nat.le_of_eq fresh) early

end Sample

end ExtensionProxy
