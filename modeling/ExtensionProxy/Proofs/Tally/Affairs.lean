import ExtensionProxy.Proxy.Service
import ExtensionProxy.Tally
import Mathlib.Logic.Function.Basic

/-!
# The affairs of a tally

What matters to one tally is a small part of the state: its counts, the handlers and the reports that
run its code, where documents and instances are registered, and the marks of what is running.  These are
its affairs.  The label of the workspace is not among them, since only reports tell it.
-/

set_option autoImplicit false

namespace ExtensionProxy

variable {κ μ σ α β ω : Type}

/-! ## Where a run leads -/

namespace Run

/-- From a state the run comes to a value, and what is seen then is as given. -/
def LeadsTo (view : σ → ω) (run : Run σ α) (s : σ) (seen : ω) : Prop :=
  ∃ value reached, run s = (.ok value, reached) ∧ view reached = seen

variable {view : σ → ω} {run : Run σ α} {next : α → Run σ β} {s : σ} {seen last : ω}

theorem leadsTo_pure (value : α) (s : σ) : LeadsTo view (pure value) s (view s) :=
  ⟨value, s, rfl, rfl⟩

theorem leadsTo_modify (change : σ → σ) (s : σ) : LeadsTo view (modify change) s (view (change s)) :=
  ⟨(), change s, rfl, rfl⟩

theorem LeadsTo.of_eq {other : Run σ α} {t : σ} (leads : LeadsTo view other t seen)
    (same : run s = other t) : LeadsTo view run s seen := by
  obtain ⟨value, reached, ran, isSeen⟩ := leads
  exact ⟨value, reached, same.trans ran, isSeen⟩

theorem LeadsTo.bind (first : LeadsTo view run s seen)
    (rest : ∀ value reached, run s = (.ok value, reached) → view reached = seen →
      LeadsTo view (next value) reached last) : LeadsTo view (run >>= next) s last := by
  obtain ⟨value, reached, ran, isSeen⟩ := first
  obtain ⟨value', reached', went, isLast⟩ := rest value reached ran isSeen
  exact ⟨value', reached', (bind_apply_of_ok next ran).trans went, isLast⟩

theorem LeadsTo.ensuring {final : Run σ Unit} (first : LeadsTo view run s seen)
    (rest : ∀ reached, view reached = seen → LeadsTo view final reached last) :
    LeadsTo view (Run.ensuring run final) s last := by
  obtain ⟨value, reached, ran, isSeen⟩ := first
  obtain ⟨⟨⟩, reached', went, isLast⟩ := rest reached isSeen
  refine ⟨value, reached', ?_, isLast⟩
  simp only [Run.ensuring, ran, went]

theorem LeadsTo.snd (leads : LeadsTo view run s seen) : view (run s).2 = seen := by
  obtain ⟨value, reached, ran, isSeen⟩ := leads
  rw [ran]
  exact isSeen

end Run

/-! ## Where a program leads -/

namespace Program

variable {I : Interface} {perform : (request : I.Request) → Run I.State (I.Answer request)}

theorem run_bind (program : Program I α) (next : α → Program I β) (s : I.State) :
    (program >>= next).run perform s =
      (program.run perform >>= fun value => (next value).run perform) s := by
  induction program generalizing s with
  | done value => rfl
  | panic message => rfl
  | look rest ih => exact ih s s
  | ask request rest ih =>
    refine Eq.trans ?_ (Run.bind_bind_apply _ _ _ s).symm
    exact Run.bind_apply_congr fun answer reached _ => ih answer reached

theorem leadsTo_bind {view : I.State → ω} {program : Program I α} {next : α → Program I β}
    {s : I.State} {seen last : ω} (first : Run.LeadsTo view (program.run perform) s seen)
    (rest : ∀ value reached, view reached = seen →
      Run.LeadsTo view ((next value).run perform) reached last) :
    Run.LeadsTo view ((program >>= next).run perform) s last :=
  (first.bind fun value reached _ => rest value reached).of_eq (run_bind program next s)

end Program

/-! ## Affairs -/

/-- The tally that code belongs to; the factory belongs to none. -/
def TallyCode.tally? : TallyCode → Option TallyId
  | .factory _ => none
  | .instance id => some id
  | .typed id _ => some id
  | .saved id _ => some id
  | .closed id _ => some id
  | .report id _ => some id

/-- What matters to one tally. -/
structure Affairs (κ : Type) where
  /-- What it keeps, apart from the label. -/
  tally : Option Tally
  /-- How many handlers of a topic run its code. -/
  handlers : Topic → TallyCode → Nat
  /-- How many reports of a document wait. -/
  reports : DocumentHandle → Nat
  /-- The marks of a topic. -/
  marks : Topic → List Nat
  documents : IdentityCache .document DocumentId
  wrappers : List DocumentHandle
  registry : IdentityCache .extension Registration
  instances : List (Instance κ)

namespace Affairs

variable (a : Affairs κ)

def change (f : Tally → Tally) : Affairs κ := { a with tally := a.tally.map f }

def addHandler (topic : Topic) (own : TallyCode) : Affairs κ :=
  { a with handlers := fun other code =>
      a.handlers other code + if other = topic ∧ code = own then 1 else 0 }

def setMarks (topic : Topic) (marks : List Nat) : Affairs κ :=
  { a with marks := Function.update a.marks topic marks }

def setInstances (instances : List (Instance κ)) : Affairs κ := { a with instances := instances }

/-- What observing does: a character is counted, a report is scheduled, a document is forgotten. -/
def observed : TallyCode → Affairs κ
  | .typed _ doc => a.change fun tally => tally.type doc
  | .saved _ doc =>
    { a with reports := fun other =>
        a.reports other + if a.tally.isSome ∧ other = doc then 1 else 0 }
  | .closed _ doc => a.change fun tally => tally.forget doc
  | _ => a

/-- What a notice does: a document that was opened is counted and observed. -/
def noticed (id : TallyId) : Notice → Affairs κ
  | .documentOpened wrapper =>
    match a.wrappers[wrapper.index]?, a.tally with
    | some doc, some _ =>
      (((a.change fun tally => tally.track doc).addHandler (.editor wrapper .charAdded)
        (.typed id doc)).addHandler (.document wrapper .saved) (.saved id doc)).addHandler
        (.document wrapper .closed) (.closed id doc)
    | _, _ => a
  | _ => a

variable {a} {id : TallyId}

theorem setMarks_of_eq {topic : Topic} {marks : List Nat} (same : a.marks topic = marks) :
    a.setMarks topic marks = a := by
  rw [setMarks, ← same, Function.update_eq_self]

@[simp] theorem setMarks_setMarks (topic : Topic) (first second : List Nat) :
    (a.setMarks topic first).setMarks topic second = a.setMarks topic second := by
  simp [setMarks]

theorem observed_setMarks (own : TallyCode) (topic : Topic) (marks : List Nat) :
    (a.setMarks topic marks).observed own = (a.observed own).setMarks topic marks := by
  cases own <;> rfl

@[simp] theorem marks_observed (own : TallyCode) : (a.observed own).marks = a.marks := by
  cases own <;> rfl

theorem noticed_setInstances (notice : Notice) (a : Affairs κ) (instances : List (Instance κ)) :
    (a.setInstances instances).noticed id notice = (a.noticed id notice).setInstances instances := by
  cases notice with
  | documentOpened wrapper =>
    simp only [noticed, setInstances]
    split <;> rfl
  | _ => rfl

theorem instances_noticed (notice : Notice) : (a.noticed id notice).instances = a.instances := by
  have same : a.noticed id notice = (a.noticed id notice).setInstances a.instances :=
    noticed_setInstances notice a a.instances
  rw [same]
  rfl

end Affairs

namespace TallyPart

variable (part : TallyPart κ μ) (id : TallyId)

/-- How many reports of a document wait. -/
def reports [DecidableEq κ] (s : State κ μ) (doc : DocumentHandle) : Nat :=
  s.tasks.tasks.countP fun task => task.code = .task (part.embed (.report id doc))

/-- The affairs of a tally in a state. -/
def affairs [DecidableEq κ] (s : State κ μ) : Affairs κ where
  tally := (part.tally? s id).map fun tally => tally.relabel none
  handlers topic own := if own.tally? = some id then
    (s.observers.signal topic).slots.countP fun slot => slot.code = part.embed own else 0
  reports := part.reports id s
  marks topic := (s.observers.signal topic).running
  documents := s.documents
  wrappers := s.documentWrappers
  registry := s.registry
  instances := s.instances

/-- The code is that of the tally. -/
def Owns (code : κ) : Prop := ∃ own : TallyCode, own.tally? = some id ∧ part.embed own = code

/-! ## Requests -/

section Requests

variable {part : TallyPart κ μ} {id : TallyId} [DecidableEq κ] {site : Site κ} {call : Caller κ μ}

theorem affairs_remember {f g : Tally → Tally} (s : State κ μ)
    (apart : ∀ tally, (f tally).relabel none = g (tally.relabel none)) :
    part.affairs id (s.remember (part.tallies.modify fun tallies => tallies.modify id.index f)) =
      (part.affairs id s).change g := by
  have now : part.tally? (s.remember (part.tallies.modify fun tallies =>
      tallies.modify id.index f)) id = (part.tally? s id).map f := by
    simp [tally?, list, State.remember, Lens.modify, part.tallies.get_set]
  have kept : (part.tally? (s.remember (part.tallies.modify fun tallies =>
      tallies.modify id.index f)) id).map (fun tally => tally.relabel none) =
        ((part.tally? s id).map fun tally => tally.relabel none).map g := by
    rw [now, Option.map_map, Option.map_map]
    exact congrArg (fun each => Option.map each (part.tally? s id)) (funext apart)
  exact congrArg (fun tally => { part.affairs id s with tally := tally }) kept

/-- Only the topic of a signal that is changed has other handlers and marks. -/
theorem affairs_modify_signal (topic : Topic) (change : Signal κ → Signal κ) (s : State κ μ) :
    let now := fun other =>
      if other = topic then change (s.observers.signal topic) else s.observers.signal other
    part.affairs id ((State.signalLens topic).modify change s) = { part.affairs id s with
      handlers := fun other own => if own.tally? = some id then
        (now other).slots.countP fun slot => slot.code = part.embed own else 0
      marks := fun other => (now other).running } := by
  intro now
  have signals : ∀ other, ((State.signalLens topic).modify change s).observers.signal other =
      now other := fun other => Observers.signal_setSignal _ _ _ _
  unfold affairs
  simp only [signals]
  rfl

theorem affairs_connect (topic : Topic) (owner : Option ExtensionHandle) (code : κ)
    (s : State κ μ) :
    part.affairs id ((State.signalLens topic).modify (fun signal => signal.connect owner code) s) =
      { part.affairs id s with handlers := fun other own => (part.affairs id s).handlers other own +
          if other = topic ∧ own.tally? = some id ∧ code = part.embed own then 1 else 0 } := by
  rw [affairs_modify_signal]
  simp only [Affairs.mk.injEq, true_and, and_true]
  refine ⟨funext fun other => funext fun own => ?_, funext fun other => ?_⟩
  · by_cases isOwn : own.tally? = some id <;> by_cases same : other = topic <;>
      simp [affairs, isOwn, same, Signal.connect]
  · split
    · next same => rw [same]; rfl
    · rfl

theorem affairs_connect_own (injective : Function.Injective part.embed) {own : TallyCode}
    (isOwn : own.tally? = some id) (topic : Topic) (owner : Option ExtensionHandle) (s : State κ μ) :
    part.affairs id ((State.signalLens topic).modify
      (fun signal => signal.connect owner (part.embed own)) s) =
      (part.affairs id s).addHandler topic own := by
  rw [affairs_connect]
  have same : ∀ other code,
      (if other = topic ∧ code.tally? = some id ∧ part.embed own = part.embed code then 1 else 0) =
        if other = topic ∧ code = own then 1 else 0 := by
    intro other code
    refine if_congr (and_congr_right fun _ => ⟨fun both => injective both.2.symm, ?_⟩) rfl rfl
    rintro rfl
    exact ⟨isOwn, rfl⟩
  simp only [same, Affairs.addHandler]

theorem affairs_connect_other {code : κ} (other : ¬part.Owns id code) (topic : Topic)
    (owner : Option ExtensionHandle) (s : State κ μ) :
    part.affairs id ((State.signalLens topic).modify (fun signal => signal.connect owner code) s) =
      part.affairs id s := by
  rw [affairs_connect]
  have none : ∀ place own, ¬(place = topic ∧ own.tally? = some id ∧ code = part.embed own) :=
    fun _ own both => other ⟨own, both.2.1, both.2.2.symm⟩
  simp only [none, if_false, Nat.add_zero]

theorem affairs_schedule (owner : Option ExtensionHandle) (code : Deferred κ) (s : State κ μ) :
    part.affairs id (State.tasksLens.modify (fun queue => queue.schedule owner code) s) =
      { part.affairs id s with reports := fun doc => (part.affairs id s).reports doc +
          if code = Deferred.task (part.embed (.report id doc)) then 1 else 0 } := by
  have reports : ∀ doc, (part.affairs id (State.tasksLens.modify
      (fun queue => queue.schedule owner code) s)).reports doc = (part.affairs id s).reports doc +
        if code = Deferred.task (part.embed (.report id doc)) then 1 else 0 := by
    intro doc
    simp [affairs, reports, State.tasksLens, Lens.modify, TaskQueue.schedule, List.countP_cons]
  unfold affairs at reports ⊢
  simp only [Affairs.mk.injEq]
  exact ⟨rfl, rfl, funext reports, rfl, rfl, rfl, rfl, rfl⟩

theorem affairs_schedule_other {code : Deferred κ}
    (other : ∀ doc, code ≠ .task (part.embed (.report id doc))) (owner : Option ExtensionHandle)
    (s : State κ μ) :
    part.affairs id (State.tasksLens.modify (fun queue => queue.schedule owner code) s) =
      part.affairs id s := by
  rw [affairs_schedule]
  simp only [other, if_false, Nat.add_zero]

end Requests

end TallyPart

end ExtensionProxy
