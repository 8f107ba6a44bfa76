import ExtensionProxy.Proofs.Conduct.Emission
import ExtensionProxy.Proofs.Runs

/-!
# Handlers are marked while they run

The marks of a signal are the ids of its handlers that are running, the innermost first: a mark is made
in the step in which a handler begins and taken back in the step in which it ends, however it ended.
So where no handler of a topic is running none is marked.  An emission that begins there passes over
nobody: it is the emission that runs every handler that was connected, without looking at the marks.
-/

set_option autoImplicit false

namespace ExtensionProxy

variable {κ μ : Type}

/-! ## Marks and the stack -/

/-- The handler of a topic that is running, if that is what goes on. -/
def Activity.handler? (topic : Topic) : Activity κ → Option Nat
  | .call (.observe other slot _) => if other = topic then some slot.id else none
  | _ => none

namespace Ledger

/-- The ids of the handlers of a topic that are running, the innermost first. -/
def observing (c : Ledger κ) (topic : Topic) : List Nat :=
  c.stack.filterMap (Activity.handler? topic)

/-- Every signal marks the handlers that are running. -/
def HandlersMarked (c : Ledger κ) : Prop :=
  ∀ topic, (c.context.observers.signal topic).running = c.observing topic

theorem empty_handlersMarked : (empty : Ledger κ).HandlersMarked := fun _ => rfl

variable (c : Ledger κ) (topic : Topic)

theorem observing_reap (target : InstanceId) : (c.reap target).observing topic = c.observing topic := by
  rcases stack_reap target c with same | ⟨found, -, -, begun⟩
  · rw [observing, same, observing]
  · rw [observing, begun]
    rfl

theorem observing_release? (binding : Option BindingId) :
    (c.release? binding).observing topic = c.observing topic :=
  congrArg (List.filterMap (Activity.handler? topic)) (stack_release? c binding)

end Ledger

namespace Step

variable {c d : Ledger κ}

/-- A handler begins and is marked, or one ends and the mark is taken back, or neither the handlers
that are running nor the marks change. -/
theorem observing_cases (step : Step c d) (topic : Topic) :
    (d.observing topic = c.observing topic ∧ (d.context.observers.signal topic).running
      = (c.context.observers.signal topic).running) ∨
    (∃ id, d.observing topic = id :: c.observing topic ∧ (d.context.observers.signal topic).running
      = id :: (c.context.observers.signal topic).running) ∨
    (∃ id, c.observing topic = id :: d.observing topic ∧ (d.context.observers.signal topic).running
      = (c.context.observers.signal topic).running.erase id) := by
  have pop : ∀ {activity rest}, c.stack = activity :: rest → activity.handler? topic = none →
      c.stack.tail.filterMap (Activity.handler? topic) = c.observing topic := by
    intro activity rest top plain
    rw [Ledger.observing, top, List.filterMap_cons_none plain]
    rfl
  have kept : ∀ (other : Topic) (change : Signal κ → Signal κ),
      (∀ signal, (change signal).running = signal.running) →
      ((c.changeSignal other change).context.observers.signal topic).running
        = (c.context.observers.signal topic).running := by
    intro other change keeps
    rw [Ledger.signal_changeSignal]
    split
    · next same => exact same ▸ keeps _
    · rfl
  have dropped : ∀ meant owner, ((c.context.observers.dropOwner meant owner).signal topic).running
      = (c.context.observers.signal topic).running := by
    intro meant owner
    rw [Observers.signal_dropOwner]
    split <;> rfl
  -- Two steps change the marks; in all others no handler begins or ends, whatever else they do.
  cases step with
  | connect other owner code => exact .inl ⟨rfl, kept other _ fun _ => rfl⟩
  | disconnect other id => exact .inl ⟨rfl, kept other _ fun _ => rfl⟩
  | disconnectOwner meant owner => exact .inl ⟨rfl, dropped meant owner⟩
  | renounce owner => exact .inl ⟨rfl, dropped _ owner⟩
  | clean id record =>
    exact .inl ⟨Ledger.observing_reap _ topic _, dropped _ record.handle⟩
  | discard id record target => exact .inl ⟨Ledger.observing_reap _ topic _, rfl⟩
  | cleaned id record => exact .inl ⟨Ledger.observing_release? _ topic record.module, rfl⟩
  | cleanBare id record => exact .inl ⟨Ledger.observing_release? _ topic record.module, rfl⟩
  | discardBare id record => exact .inl ⟨Ledger.observing_release? _ topic record.module, rfl⟩
  | observe other slots slot emitted rest top listed idle =>
    have now := c.signal_changeSignal topic other fun signal => signal.enter slot.id
    by_cases same : topic = other
    · subst same
      rw [if_pos rfl] at now
      refine .inr (.inl ⟨slot.id, ?_, congrArg Signal.running now⟩)
      exact List.filterMap_cons_some (if_pos rfl)
    · rw [if_neg same] at now
      refine .inl ⟨?_, congrArg Signal.running now⟩
      exact List.filterMap_cons_none (if_neg fun equal => same equal.symm)
  | observed other slot emitted rest top =>
    have now := c.signal_changeSignal topic other fun signal => signal.leave slot.id
    by_cases same : topic = other
    · subst same
      rw [if_pos rfl] at now
      refine .inr (.inr ⟨slot.id, ?_, congrArg Signal.running now⟩)
      have running : (Activity.call (.observe topic slot emitted)).handler? topic = some slot.id :=
        if_pos rfl
      rw [Ledger.observing, top, List.filterMap_cons_some running]
      exact congrArg (fun stack => slot.id :: stack.tail.filterMap (Activity.handler? topic)) top.symm
    · rw [if_neg same] at now
      exact .inl ⟨pop top (if_neg fun equal => same equal.symm), congrArg Signal.running now⟩
  | enter target found call ready asks =>
    refine .inl ⟨?_, rfl⟩
    rcases asks with rfl | ⟨dialog, rfl⟩ <;> rfl
  | leave target call rest top callback =>
    have plain : (Activity.call call).handler? topic = none := by
      cases call <;> first | rfl | cases callback
    exact .inl ⟨(Ledger.observing_reap _ topic _).trans (pop top plain), rfl⟩
  | decline binding code context rest top => exact .inl ⟨pop top rfl, rfl⟩
  | finish call rest top plain =>
    refine .inl ⟨pop top ?_, rfl⟩
    rcases plain with ⟨_, _, rfl⟩ | ⟨_, rfl⟩ | ⟨_, rfl⟩ <;> rfl
  | emitted other slots rest top => exact .inl ⟨pop top rfl, rfl⟩
  | endDrain limit rest top => exact .inl ⟨pop top rfl, rfl⟩
  | adopt id record binding code made context rest top =>
    exact .inl ⟨(Ledger.observing_release? _ topic record.module).trans (pop top rfl), rfl⟩
  | duplicate binding code made context rest top =>
    exact .inl ⟨(Ledger.observing_reap _ topic _).trans (pop top rfl), rfl⟩
  | _ => exact .inl ⟨rfl, rfl⟩

theorem handlersMarked (h : c.HandlersMarked) (step : Step c d) : d.HandlersMarked := by
  intro topic
  have before := h topic
  rcases step.observing_cases topic with ⟨running, marks⟩ | ⟨id, running, marks⟩ |
    ⟨id, running, marks⟩
  · rw [marks, before, running]
  · rw [marks, before, running]
  · rw [marks, before, running, List.erase_cons_head]

end Step

/-- On every path from a ledger whose signals mark the handlers that are running. -/
theorem Path.handlersMarked {c d : Ledger κ} (path : Path c d) (h : c.HandlersMarked) : d.HandlersMarked := by
  induction path with
  | refl => exact h
  | tail _ step ih => exact step.handlersMarked ih

/-- A signal none of whose handlers is running marks nobody. -/
theorem Ledger.HandlersMarked.isRunning {c : Ledger κ} (h : c.HandlersMarked) {topic : Topic}
    (idle : c.observing topic = []) (id : Nat) :
    (c.context.observers.signal topic).isRunning id = false := by
  rw [Signal.isRunning, h topic, idle]
  rfl

/-! ## Emissions that pass over nobody -/

/-- Runs the given handlers one after the other, whether they are marked or not. -/
def Signal.runAll {σ : Type} (lens : Lens σ (Signal κ)) (run : Slot κ → Run σ Bool) :
    List (Slot κ) → Emission → Run σ Emission
  | [], emission => pure emission
  | slot :: rest, emission => do
    let answer ← runSlot lens run slot
    runAll lens run rest (emission.add answer)

/-- Emits a signal to every handler that is connected now, whether it is marked or not. -/
def emitToAll (call : Caller κ μ) (topic : Topic) (emitted : Emitted) :
    Run (State κ μ) Signal.Emission := do
  let s ← Run.get
  let slots := (s.observers.signal topic).slots
  Run.during (.emission topic slots)
    (Signal.runAll (State.signalLens topic) (fun slot => call (.observe topic slot emitted)) slots {})

variable {call : Caller κ μ} {topic : Topic}

/-- The handlers that are left are all run, since none of the topic is running in between. -/
theorem emitSlots_eq_runAll (lawful : call.IsLawful) {base : List (Activity κ)}
    (idle : base.filterMap (Activity.handler? topic) = []) {slots : List (Slot κ)} (emitted : Emitted)
    (rest : List (Slot κ)) :
    ∀ (emission : Signal.Emission) (s : State κ μ), s.ledger.Sound → s.ledger.HandlersMarked →
      s.ledger.stack = .emission topic slots :: base → (∀ slot ∈ rest, slot ∈ slots) →
      Signal.emitSlots (State.signalLens topic) (fun slot => call.noting (.observe topic slot emitted))
          rest emission s
        = Signal.runAll (State.signalLens topic)
          (fun slot => call.noting (.observe topic slot emitted)) rest emission s := by
  induction rest with
  | nil =>
    intro _ _ _ _ _ _
    rfl
  | cons slot rest ih =>
    intro emission s sound marked top listed
    -- The handlers before this one are over, so the stack is as it was when the emission began.
    have silent : s.ledger.observing topic = [] := by
      rw [Ledger.observing, top]
      exact idle
    have unmarked : ((State.signalLens topic).get s).isRunning slot.id = false :=
      marked.isRunning silent slot.id
    simp only [Signal.emitSlots, Signal.runAll, Run.gets_bind_apply]
    simp only [unmarked, Bool.false_eq_true, if_false]
    refine Run.bind_apply_congr fun answer reached ran => ?_
    have inner : Lawful {} s.ledger s.ledger.stack true (Signal.runSlot (State.signalLens topic)
        (fun slot => call.noting (.observe topic slot emitted)) slot s) :=
      Lawful.runSlot lawful sound top (listed slot List.mem_cons_self) unmarked
    obtain ⟨exec, stack⟩ := inner
    rw [ran] at exec stack
    exact ih _ reached (exec.path.sound sound) (exec.path.handlersMarked marked) (stack.trans top)
      fun other there => listed other (List.mem_cons_of_mem _ there)

/-- Where no handler of a topic is running an emission runs every handler that is connected. -/
theorem emitTopic_eq_emitToAll (lawful : call.IsLawful) {s : State κ μ} (sound : s.ledger.Sound)
    (marked : s.ledger.HandlersMarked) (idle : s.ledger.observing topic = []) (emitted : Emitted) :
    emitTopic call.noting topic emitted s = emitToAll call.noting topic emitted s := by
  let slots := (s.observers.signal topic).slots
  let begun := s.note (.began (.emission topic slots))
  have step : Step s.ledger begun.ledger := .emit s.ledger topic
  have same := emitSlots_eq_runAll lawful idle emitted slots {} begun (step.sound sound)
    (step.handlersMarked marked) rfl fun _ there => there
  have emits : emitTopic call.noting topic emitted s = Run.ensuring
      (Signal.emitSlots (State.signalLens topic)
        (fun slot => call.noting (.observe topic slot emitted)) slots {})
      (Run.note (.ended (.emission topic slots))) begun := rfl
  have runs : emitToAll call.noting topic emitted s = Run.ensuring
      (Signal.runAll (State.signalLens topic)
        (fun slot => call.noting (.observe topic slot emitted)) slots {})
      (Run.note (.ended (.emission topic slots))) begun := rfl
  rw [emits, runs, Run.ensuring, Run.ensuring, same]

end ExtensionProxy
