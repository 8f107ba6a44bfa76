import ExtensionProxy.Proofs.Containment
import ExtensionProxy.Proofs.Modules
import ExtensionProxy.Proofs.Releases

/-!
# What releasing an owner takes away

The handlers of an owner are dropped from all signals of the registered documents and of the open
workspace at once, and its tasks are cancelled.  That comes to the same as going through these signals
one after the other and asking each to drop them: what is left is the same, and so is the sum of what the
signals say that they lost.

Nothing else is changed.  Cleaning a record up whose instance does nothing when it is destroyed takes
away, beside that, the entry of its handle in the registry, the instance, and the binding of its module.
-/

set_option autoImplicit false

namespace ExtensionProxy

/-! ## The signals that are gone through -/

/-- The signals of a document, those of its editor among them. -/
def Topic.ofDocument (doc : DocumentId) : List Topic :=
  DocumentSignal.all.map (.document doc) ++ EditorKind.all.map (.editor doc)

/-- The signals of a workspace. -/
def Topic.ofWorkspace (id : WorkspaceId) : List Topic := WorkspaceSignal.all.map (.workspace id)

/-- The signals of the registered documents, oldest first, and of the open workspace. -/
def Context.topics {κ : Type} (context : Context κ) : List Topic :=
  context.documents.values.flatMap Topic.ofDocument ++
    context.workspace.toList.flatMap Topic.ofWorkspace

theorem DocumentSignal.mem_all (signal : DocumentSignal) : signal ∈ all := by
  cases signal <;> decide

theorem WorkspaceSignal.mem_all (signal : WorkspaceSignal) : signal ∈ all := by
  cases signal <;> decide

/-- These are the signals that releasing an owner gets at: none is left out. -/
theorem Context.mem_topics {κ : Type} (context : Context κ) (topic : Topic) :
    topic ∈ context.topics ↔ context.isReachable topic = true := by
  cases topic with
  | document doc signal =>
    simp [topics, Topic.ofDocument, Topic.ofWorkspace, isReachable, Topic.document?,
      signal.mem_all]
  | editor doc kind =>
    simp [topics, Topic.ofDocument, Topic.ofWorkspace, isReachable, Topic.document?,
      kind.mem_all]
  | workspace id signal =>
    have open_iff : context.workspace = some id ↔ some id = context.workspace := eq_comm
    simp [topics, Topic.ofDocument, Topic.ofWorkspace, isReachable, Topic.document?, Topic.workspace?,
      signal.mem_all, open_iff]

/-! ## What a signal and the queue lose -/

/-- Whatever is kept in order, handlers or tasks: an owner has its own, and the others have the rest. -/
theorem length_filter_add_countP {α : Type} (ownerOf : α → Option ExtensionHandle)
    (owner : ExtensionHandle) (items : List α) :
    (items.filter fun item => ownerOf item != some owner).length +
      items.countP (fun item => ownerOf item == some owner) = items.length := by
  rw [Nat.add_comm, ← List.countP_eq_length_filter,
    List.length_eq_countP_add_countP fun item => ownerOf item == some owner]
  congr 1
  exact List.countP_congr fun item _ => by simp

variable {κ μ : Type}

/-- What a signal loses is what the owner has there. -/
theorem Signal.count_disconnectOwner (signal : Signal κ) (owner : ExtensionHandle) :
    (signal.disconnectOwner owner).count + signal.ownedBy owner = signal.count :=
  length_filter_add_countP Slot.owner owner signal.slots

theorem TaskQueue.pending_cancelOwner (queue : TaskQueue κ) (owner : ExtensionHandle) :
    (queue.cancelOwner owner).pending + queue.ownedBy owner = queue.pending :=
  length_filter_add_countP Task.owner owner queue.tasks

namespace Observers

variable {observers : Observers κ} {meant other : Topic → Bool} {owner : ExtensionHandle} {topic : Topic}

/-- How many handlers are connected anywhere. -/
def total (observers : Observers κ) : Nat :=
  (observers.signals.entries.map fun entry => entry.2.count).foldr (· + ·) 0

/-- Goes through signals one after the other and drops the handlers of an owner: how many handlers the
signals lost, and what is left. -/
def dismiss (observers : Observers κ) (owner : ExtensionHandle) : List Topic → Nat × Observers κ
  | [] => (0, observers)
  | topic :: rest =>
    let before := observers.signal topic
    let after := before.disconnectOwner owner
    let (lost, left) := (observers.setSignal topic after).dismiss owner rest
    (before.count - after.count + lost, left)

/-! ### The sum of what is lost -/

/-- Only the signals that are there count. -/
theorem ownedBy_congr (same : ∀ topic ∈ observers.signals.keys, meant topic = other topic) :
    observers.ownedBy meant owner = observers.ownedBy other owner := by
  unfold ownedBy
  congr 1
  refine List.map_congr_left fun entry there => ?_
  rw [same entry.1 (List.mem_map_of_mem there)]

theorem ownedBy_none : observers.ownedBy (fun _ => false) owner = 0 := by
  unfold ownedBy
  induction observers.signals.entries with
  | nil => rfl
  | cons entry rest ih => simpa using ih

theorem ownedBy_cons (key : Topic) (signal : Signal κ) (rest : List (Topic × Signal κ)) :
    ownedBy ⟨⟨(key, signal) :: rest⟩⟩ meant owner =
      (if meant key then signal.ownedBy owner else 0) + ownedBy ⟨⟨rest⟩⟩ meant owner := rfl

theorem signal_cons (key : Topic) (signal : Signal κ) (rest : List (Topic × Signal κ)) :
    Observers.signal ⟨⟨(key, signal) :: rest⟩⟩ topic =
      if key = topic then signal else Observers.signal ⟨⟨rest⟩⟩ topic := by
  simp only [Observers.signal, OrderedMap.get?, OrderedMap.find]
  split <;> rfl

/-- A signal that is not there does not count. -/
theorem ownedBy_ne_of_notMem (absent : topic ∉ observers.signals.keys) :
    observers.ownedBy (fun other => meant other && other ≠ topic) owner =
      observers.ownedBy meant owner := by
  refine ownedBy_congr fun other there => ?_
  have different : other ≠ topic := fun same => absent (same ▸ there)
  simp [different]

/-- The handlers of an owner on one of the signals are counted by themselves. -/
theorem ownedBy_eq_add (once : observers.signals.keys.Nodup) (topic : Topic)
    (isMeant : meant topic = true) :
    observers.ownedBy meant owner = (observers.signal topic).ownedBy owner +
      observers.ownedBy (fun other => meant other && other ≠ topic) owner := by
  obtain ⟨⟨entries⟩⟩ := observers
  induction entries with
  | nil => rfl
  | cons entry rest ih =>
    obtain ⟨key, signal⟩ := entry
    obtain ⟨absent, once⟩ := List.nodup_cons.mp once
    rw [ownedBy_cons, ownedBy_cons, signal_cons]
    by_cases same : key = topic
    · subst same
      rw [ownedBy_ne_of_notMem absent]
      simp [isMeant]
    · rw [ih once]
      simp [same]
      omega

theorem setSignal_cons (key : Topic) (old signal : Signal κ) (rest : List (Topic × Signal κ)) :
    setSignal ⟨⟨(key, old) :: rest⟩⟩ topic signal =
      if key = topic then ⟨⟨(key, signal) :: rest⟩⟩
      else ⟨⟨(key, old) :: (setSignal ⟨⟨rest⟩⟩ topic signal).signals.entries⟩⟩ := by
  simp only [setSignal, OrderedMap.insert, OrderedMap.alter, OrderedMap.alterEntries]
  split <;> rfl

/-- A signal without handlers of the owner does not count. -/
theorem ownedBy_setSignal (once : observers.signals.keys.Nodup) {signal : Signal κ}
    (none : signal.ownedBy owner = 0) :
    (observers.setSignal topic signal).ownedBy meant owner =
      observers.ownedBy (fun other => meant other && other ≠ topic) owner := by
  obtain ⟨⟨entries⟩⟩ := observers
  induction entries with
  | nil =>
    change (if meant topic then signal.ownedBy owner else 0) + 0 = 0
    simp [none]
  | cons entry rest ih =>
    obtain ⟨key, old⟩ := entry
    obtain ⟨absent, once⟩ := List.nodup_cons.mp once
    rw [setSignal_cons, ownedBy_cons]
    by_cases same : key = topic
    · subst same
      rw [if_pos rfl, ownedBy_cons, ownedBy_ne_of_notMem absent]
      simp [none]
    · rw [if_neg same, ownedBy_cons, ← ih once]
      simp [same]

theorem nodup_keys_setSignal (once : observers.signals.keys.Nodup) (topic : Topic) (signal : Signal κ) :
    (observers.setSignal topic signal).signals.keys.Nodup :=
  OrderedMap.nodup_keys_alter topic _ once

theorem ownedBy_disconnectOwner (signal : Signal κ) (owner : ExtensionHandle) :
    (signal.disconnectOwner owner).ownedBy owner = 0 := by
  simp [Signal.ownedBy, Signal.disconnectOwner, List.countP_filter]

/-- What the signals say that they lost is what the owner had there. -/
theorem dismiss_fst (once : observers.signals.keys.Nodup) (owner : ExtensionHandle)
    (topics : List Topic) :
    (observers.dismiss owner topics).1 =
      observers.ownedBy (fun topic => decide (topic ∈ topics)) owner := by
  induction topics generalizing observers with
  | nil =>
    rw [ownedBy_congr (fun topic _ => decide_eq_false List.not_mem_nil), ownedBy_none]
    rfl
  | cons topic rest ih =>
    let left := observers.setSignal topic ((observers.signal topic).disconnectOwner owner)
    have here := Signal.count_disconnectOwner (observers.signal topic) owner
    have beyond : (left.dismiss owner rest).1 =
        observers.ownedBy (fun other => decide (other ∈ rest) && other ≠ topic) owner :=
      (ih (nodup_keys_setSignal once topic _)).trans
        (ownedBy_setSignal once (ownedBy_disconnectOwner _ owner))
    have whole : observers.ownedBy (fun other => decide (other ∈ topic :: rest) && other ≠ topic) owner
        = observers.ownedBy (fun other => decide (other ∈ rest) && other ≠ topic) owner :=
      ownedBy_congr fun other _ => by by_cases same : other = topic <;> simp [same]
    change (observers.signal topic).count - ((observers.signal topic).disconnectOwner owner).count +
      (left.dismiss owner rest).1 = _
    rw [ownedBy_eq_add once topic (by simp), whole, ← beyond]
    omega

/-- Every signal is left with the handlers of others; a signal that was not gone through keeps all. -/
theorem slots_dismiss (observers : Observers κ) (owner : ExtensionHandle) (topics : List Topic)
    (topic : Topic) :
    ((observers.dismiss owner topics).2.signal topic).slots =
      if topic ∈ topics then (observers.signal topic).slots.filter fun slot => slot.owner != some owner
      else (observers.signal topic).slots := by
  induction topics generalizing observers with
  | nil => simp [dismiss]
  | cons first rest ih =>
    have left := ih (observers.setSignal first ((observers.signal first).disconnectOwner owner))
    rw [signal_setSignal] at left
    refine left.trans ?_
    by_cases same : topic = first
    · subst same
      simp [Signal.disconnectOwner, List.filter_filter]
    · simp [same]

/-! ### All signals together -/

/-- What was connected is connected still or was dropped. -/
theorem total_dropOwner (observers : Observers κ) (meant : Topic → Bool) (owner : ExtensionHandle) :
    (observers.dropOwner meant owner).total + observers.ownedBy meant owner = observers.total := by
  obtain ⟨⟨entries⟩⟩ := observers
  induction entries with
  | nil => rfl
  | cons entry rest ih =>
    obtain ⟨key, signal⟩ := entry
    have here := Signal.count_disconnectOwner signal owner
    change (if meant key then signal.disconnectOwner owner else signal).count +
      (dropOwner ⟨⟨rest⟩⟩ meant owner).total + ((if meant key then signal.ownedBy owner else 0) +
        ownedBy ⟨⟨rest⟩⟩ meant owner) = signal.count + total ⟨⟨rest⟩⟩
    split <;> omega

theorem keys_dropOwner (observers : Observers κ) (meant : Topic → Bool) (owner : ExtensionHandle) :
    (observers.dropOwner meant owner).signals.keys = observers.signals.keys := by
  simp [dropOwner, OrderedMap.keys]

end Observers

/-- No step makes a second signal for a topic. -/
theorem Step.signals_once {c d : Ledger κ} (once : c.context.observers.signals.keys.Nodup)
    (step : Step c d) : d.context.observers.signals.keys.Nodup := by
  have dropped : ∀ meant owner,
      (c.context.observers.dropOwner meant owner).signals.keys.Nodup := fun meant owner =>
    (c.context.observers.keys_dropOwner meant owner).symm ▸ once
  cases step with
  | connect topic | disconnect topic | observe topic | observed topic =>
    exact Observers.nodup_keys_setSignal once topic _
  | disconnectOwner meant owner => exact dropped meant owner
  | renounce owner => exact dropped _ owner
  | clean id record => exact dropped _ record.handle
  | _ => exact once

theorem Path.signals_once {c : Ledger κ} (path : Path Ledger.empty c) :
    c.context.observers.signals.keys.Nodup := by
  induction path with
  | refl => exact .nil
  | tail _ step ih => exact step.signals_once ih

/-! ## Releasing an owner -/

namespace State

/-- What is said about releasing an owner: how many handlers the signals say that they lost, one after
the other, and how many tasks the queue says that it lost. -/
def dismissal (s : State κ μ) (owner : ExtensionHandle) : LogEvent :=
  ⟨.debug, "Released sub-extension resources",
    [("handle", owner.display),
     ("observers", toString (s.observers.dismiss owner s.topics).1),
     ("tasks", toString (s.tasks.ownedBy owner))]⟩

/-- Of the handlers and tasks exactly those of an owner went away. -/
structure Dismisses (s reached : State κ μ) (owner : ExtensionHandle) : Prop where
  /-- The signals of the registered documents and of the open workspace keep the handlers of others, in
  their order and with their ids; the other signals keep all. -/
  handlers : ∀ topic, (reached.observers.signal topic).slots =
    if topic ∈ s.topics then
      (s.observers.signal topic).slots.filter fun slot => slot.owner != some owner
    else (s.observers.signal topic).slots
  /-- Ids are given away as before, and who is running is marked as before. -/
  marks : ∀ topic, (reached.observers.signal topic).nextId = (s.observers.signal topic).nextId ∧
    (reached.observers.signal topic).running = (s.observers.signal topic).running
  /-- The tasks of others wait as before. -/
  tasks : reached.tasks.tasks = s.tasks.tasks.filter fun task => task.owner != some owner
  places : reached.tasks.nextSeq = s.tasks.nextSeq
  /-- Going through the signals one after the other leaves the same handlers. -/
  oneByOne : ∀ topic, ((s.observers.dismiss owner s.topics).2.signal topic).slots =
    (reached.observers.signal topic).slots
  /-- What the signals say that they lost is what is connected no more. -/
  lost : reached.observers.total + (s.observers.dismiss owner s.topics).1 = s.observers.total
  /-- What the queue says that it lost waits no more. -/
  cancelled : reached.tasks.pending + s.tasks.ownedBy owner = s.tasks.pending

section

variable {s reached : State κ μ} {owner : ExtensionHandle}

/-- The sum of what the signals lose is what the owner has on all of them. -/
theorem dismiss_topics (once : s.observers.signals.keys.Nodup) (owner : ExtensionHandle) :
    (s.observers.dismiss owner s.topics).1 = s.observers.ownedBy s.isReachable owner := by
  rw [Observers.dismiss_fst once]
  refine Observers.ownedBy_congr fun topic _ => ?_
  rw [Bool.eq_iff_iff, decide_eq_true_iff]
  exact Context.mem_topics s.toContext topic

/-- Dropping all at once is what it should be. -/
theorem Dismisses.of_eq (once : s.observers.signals.keys.Nodup)
    (observers : reached.observers = s.observers.dropOwner s.isReachable owner)
    (tasks : reached.tasks = s.tasks.cancelOwner owner) : s.Dismisses reached owner := by
  have left : ∀ topic, reached.observers.signal topic =
      if topic ∈ s.topics then (s.observers.signal topic).disconnectOwner owner
      else s.observers.signal topic := by
    intro topic
    rw [observers, Observers.signal_dropOwner]
    simp only [← Context.mem_topics]
  have handlers : ∀ topic, (reached.observers.signal topic).slots = if topic ∈ s.topics then
      (s.observers.signal topic).slots.filter fun slot => slot.owner != some owner
      else (s.observers.signal topic).slots := by
    intro topic
    rw [left]
    split <;> rfl
  refine ⟨handlers, fun topic => ?_, ?_, ?_, fun topic => ?_, ?_, ?_⟩
  · rw [left]
    split <;> exact ⟨rfl, rfl⟩
  · rw [tasks]
    rfl
  · rw [tasks]
    rfl
  · rw [handlers, Observers.slots_dismiss]
  · rw [observers, dismiss_topics once, Observers.total_dropOwner]
  · rw [tasks, TaskQueue.pending_cancelOwner]

theorem dismissal_eq (once : s.observers.signals.keys.Nodup) (owner : ExtensionHandle) :
    s.dismissal owner = ⟨.debug, "Released sub-extension resources",
      [("handle", owner.display), ("observers", toString (s.observers.ownedBy s.isReachable owner)),
       ("tasks", toString (s.tasks.ownedBy owner))]⟩ := by
  rw [dismissal, dismiss_topics once]

end

/-- The state when an owner was released. -/
def dismissed (s : State κ μ) (owner : ExtensionHandle) : State κ μ :=
  { s with
    observers := s.observers.dropOwner s.isReachable owner
    tasks := s.tasks.cancelOwner owner
    bench.log := s.bench.log.push (s.dismissal owner)
    history := (s.note (.freed owner)).history }

end State

theorem releaseOwner_apply {s : State κ μ} (once : s.observers.signals.keys.Nodup)
    (owner : ExtensionHandle) : releaseOwner owner s = (.ok (), s.dismissed owner) := by
  rw [State.dismissed, State.dismissal_eq once]
  rfl

/-! ## Cleaning up a record whose instance goes quietly -/

section

variable {s reached : State κ μ} {id : RecordId} {record : Record} {target : InstanceId}
  {binding : BindingId} {found : Instance κ}

/-- Of everything that is kept exactly what belongs to a record went away: its handlers and tasks, the
entry of its handle, its instance, and its binding. -/
structure State.Clears (s reached : State κ μ) (id : RecordId) (record : Record)
    (target : InstanceId) (binding : BindingId) : Prop
    extends State.Dismisses s reached record.handle where
  /-- Its handle is not registered; the others are, in the order in which they were. -/
  registry : reached.registry = s.registry.erase record.handle
  entries : reached.registry.entries = s.registry.entries.filter fun entry => entry.1 ≠ record.handle
  /-- Its binding is held no more. -/
  held : reached.bench.held = s.bench.held.erase binding
  released : binding ∉ reached.bench.held
  /-- It was held before, unless somebody gave it back by hand. -/
  bound : s.history.NoneUnbound → binding ∈ s.bench.held
  /-- The record has neither an instance nor a module; other records are as they were. -/
  records : ∀ other, reached.record? other = if other = id
    then some { record with module := none, target := none, stage := .cleanedUp }
    else s.record? other
  /-- Nobody owns the instance; the others are as they were. -/
  instances : ∀ other, reached.instance? other = if other = target
    then (s.instance? other).map fun found => { found with owned := false }
    else s.instance? other
  /-- The rest is as it was, and what was done is told. -/
  rest : reached = { s with
    observers := reached.observers, tasks := reached.tasks, registry := reached.registry
    records := reached.records, instances := reached.instances, history := reached.history
    bench.held := reached.bench.held
    bench.log := (s.bench.log.push (s.dismissal record.handle)).push
      ⟨.info, "Sub-extension cleaned up",
        [("handle", record.handle.display), ("name", record.descriptor.name)]⟩ }

/-- The state when a record was cleaned up and the code of its instance did nothing. -/
def State.cleared (s : State κ μ) (id : RecordId) (record : Record) (target : InstanceId)
    (binding : BindingId) (code : κ) : State κ μ :=
  let parted := (s.detach id record).modifyInstance target fun found => { found with owned := false }
  let left := (parted.note (.began (.call (.dropped target code)))).note
    (.ended (.call (.dropped target code)))
  let given := ({ left with bench.held := left.bench.held.erase binding } : State κ μ).note
    (.released binding)
  ((given.modifyRecord id fun record => { record with module := none, stage := .cleanedUp }).tell
    ⟨.info, "Sub-extension cleaned up",
      [("handle", record.handle.display), ("name", record.descriptor.name)]⟩).note (.cleaned record)

theorem cleanupRecord_apply_of_quiet (call : Caller κ μ) (id : RecordId)
    (owns : record.target = some target) (holds : record.module = some binding)
    (there : s.instance? target = some found) (idle : found.running = false)
    (quiet : ∀ t, call (.dropped target found.code) t = (.ok (), t)) :
    cleanupRecord call.noting id record s =
      (.ok (.ok ()), s.cleared id record target binding found.code) := by
  let request : Call κ := .dropped target found.code
  have here : (s.detach id record).instance? target = some found := there
  have still : (s.detach id record).isRunning target = false :=
    (Context.isRunning_of_found here).trans idle
  have destroyed : releaseInstance call.noting target (s.detach id record) = (.ok (),
      (((s.detach id record).modifyInstance target fun found => { found with owned := false }).note
        (.began (.call request))).note (.ended (.call request))) := by
    rw [releaseInstance_apply_of_idle call.noting here idle, Caller.noting_apply, quiet]
  rw [cleanupRecord_apply_of_owns call.noting s id owns]
  simp only [dismantle, Run.get_bind_apply, still, Bool.false_eq_true, if_false]
  rw [Run.bind_apply_of_ok _ destroyed, holds]
  rfl

theorem State.clears_cleared (path : Path Ledger.empty s.ledger) (there : s.record? id = some record)
    (holds : record.module = some binding) (target : InstanceId) (code : κ) :
    s.Clears (s.cleared id record target binding code) id record target binding := by
  have once := path.signals_once
  have inStep := path.inStep Ledger.empty_inStep
  refine { State.Dismisses.of_eq once rfl rfl with
    registry := rfl
    entries := IdentityCache.entries_erase inStep.registry record.handle
    held := rfl
    released := (Path.held_once path).1.not_mem_erase
    bound := fun none => (Path.kept path none).claimed id binding ?_
    records := fun other => ?_
    instances := fun other => Context.instance?_modifyInstance s.toContext target other _
    rest := ?_ }
  · exact (Ledger.module?_of_found s.ledger there).trans holds
  · have apart := Context.record?_modifyRecord (s.detach id record).toContext id other fun record =>
      { record with module := none, stage := .cleanedUp }
    refine apart.trans ?_
    by_cases same : other = id
    · subst same
      rw [if_pos rfl, if_pos rfl]
      exact congrArg (Option.map _) (State.record?_detach there)
    · rw [if_neg same, if_neg same]
      exact (Context.record?_modifyRecord s.toContext id other _).trans (if_neg same)
  · rw [State.dismissal_eq once]
    rfl

/-- A record that owns an instance and whose instance goes quietly is cleaned up, unless the instance is
running. -/
theorem cleanupRecord_clears {site : Site κ} {foreign : (proxyInterface κ μ).Foreign} (levels : Nat)
    (path : Path Ledger.empty s.ledger) (there : s.record? id = some record)
    (owns : record.target = some target) (holds : record.module = some binding)
    (quiet : ∀ code, foreign (.dropped target code) = .done ()) :
    ((∃ reached, cleanupRecord (Caller.noting ((proxyInterface κ μ).call (serve site) foreign
        (levels + 1))) id record s = (.ok (.ok ()), reached)) ↔ s.isRunning target = false) ∧
      ∀ reached, cleanupRecord (Caller.noting ((proxyInterface κ μ).call (serve site) foreign
        (levels + 1))) id record s = (.ok (.ok ()), reached) →
        s.Clears reached id record target binding := by
  -- an instance that a record owns is there
  obtain ⟨_, owned, -⟩ := (path.sound Ledger.empty_sound).holdings.owns id target
    ((Ledger.target?_of_found s.ledger there).trans owns)
  obtain ⟨found, made, -⟩ := Option.bind_eq_some_iff.mp owned
  replace made : s.instance? target = some found := made
  have runs : s.isRunning target = found.running := Context.isRunning_of_found made
  cases running : s.isRunning target with
  | true =>
    have refused := cleanupRecord_apply_of_running (Caller.noting ((proxyInterface κ μ).call
      (serve site) foreign (levels + 1))) id owns running
    rw [refused]
    simp
  | false =>
    have nothing : ∀ t, (proxyInterface κ μ).call (serve site) foreign (levels + 1)
        (.dropped target found.code) t = (.ok (), t) := by
      intro t
      rw [Interface.call, quiet]
      rfl
    have cleared := cleanupRecord_apply_of_quiet _ id owns holds made (runs.symm.trans running) nothing
    refine ⟨⟨fun _ => rfl, fun _ => ⟨_, cleared⟩⟩, fun reached ran => ?_⟩
    cases (Prod.mk.inj (cleared.symm.trans ran)).2
    exact State.clears_cleared path there holds target found.code

end

/-- Releasing an owner takes away its handlers and its tasks and nothing else, and cleaning up an
initialized record whose instance goes quietly takes away, beside these, the entry of its handle, the
instance, and its binding. -/
theorem releaseOwner_exact {s : State κ μ} (path : Path Ledger.empty s.ledger)
    (owner : ExtensionHandle) :
    (∃ reached, releaseOwner owner s = (.ok (), reached) ∧ s.Dismisses reached owner ∧
      reached = { s with
        observers := reached.observers, tasks := reached.tasks, history := reached.history
        bench.log := s.bench.log.push (s.dismissal owner) }) ∧
    ∀ {site : Site κ} {foreign : (proxyInterface κ μ).Foreign} {id : RecordId} {record : Record}
      {target : InstanceId} {binding : BindingId} (levels : Nat), s.record? id = some record →
      record.handle = owner → record.target = some target → record.module = some binding →
      (∀ code, foreign (.dropped target code) = .done ()) →
      ((∃ reached, cleanupRecord (Caller.noting ((proxyInterface κ μ).call (serve site) foreign
          (levels + 1))) id record s = (.ok (.ok ()), reached)) ↔ s.isRunning target = false) ∧
      ∀ reached, cleanupRecord (Caller.noting ((proxyInterface κ μ).call (serve site) foreign
          (levels + 1))) id record s = (.ok (.ok ()), reached) →
        s.Clears reached id record target binding := by
  have once := path.signals_once
  refine ⟨⟨s.dismissed owner, releaseOwner_apply once owner, .of_eq once rfl rfl, rfl⟩, ?_⟩
  rintro site foreign id record target binding levels there rfl owns holds quiet
  exact cleanupRecord_clears levels path there owns holds quiet

namespace Sample

/-- A record whose handler listens to a document loses this handler, its instance and its binding. -/
theorem cleanable_cleared : ∃ record released, Path Ledger.empty (cleanable (.done ())).ledger ∧
    (cleanable (.done ())).record? ⟨0⟩ = some record ∧ record.handle = ⟨1⟩ ∧
    ((cleanable (.done ())).observers.signal (.document ⟨0⟩ .saved)).ownedBy ⟨1⟩ = 1 ∧
    releaseOwner ⟨1⟩ (cleanable (.done ())) = (.ok (), released) ∧
    (cleanable (.done ())).Dismisses released ⟨1⟩ ∧
    (cleanable (.done ())).Clears (cleanUp (cleanable (.done ()))).2 ⟨0⟩ record ⟨0⟩ ⟨0⟩ := by
  have facts : ((cleanable (.done ())).record? ⟨0⟩).map (fun record =>
      (record.handle, record.target, record.module)) = some (⟨1⟩, some ⟨0⟩, some ⟨0⟩) := by
    decide +kernel
  obtain ⟨record, there, fact⟩ := Option.map_eq_some_iff.mp facts
  obtain ⟨handle, fact⟩ := Prod.mk.inj fact
  obtain ⟨owns, holds⟩ := Prod.mk.inj fact
  obtain ⟨⟨released, ran, dismisses, -⟩, clears⟩ := releaseOwner_exact (cleanable_path (.done ())) ⟨1⟩
  have cleared := (@clears (site ()) (foreign fun _ => .done ()) _ _ _ _ 7 there handle owns holds
    fun _ => rfl).2 _ (cleanUp_ok there (by decide +kernel))
  exact ⟨record, released, cleanable_path _, there, handle, by decide +kernel, ran, dismisses, cleared⟩

end Sample

end ExtensionProxy
