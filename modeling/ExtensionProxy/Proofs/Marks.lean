import ExtensionProxy.Proofs.Stack

/-!
# Nobody is entered twice

An instance is marked as running exactly while one of its callbacks is on the stack, and it has at
most one there.
-/

set_option autoImplicit false

namespace ExtensionProxy

variable {κ : Type}

/-- The instance whose callback is running, if that is what goes on. -/
def Activity.callback? : Activity κ → Option InstanceId
  | .call request => request.target?
  | _ => none

namespace Ledger

/-- The instances whose callbacks are on the stack, the innermost first. -/
def callbacks (c : Ledger κ) : List InstanceId := c.stack.filterMap Activity.callback?

/-- The marks tell whose callbacks are on the stack. -/
structure Marked (c : Ledger κ) : Prop where
  /-- No instance has two of them there. -/
  once : c.callbacks.Nodup
  /-- Whoever has one is marked. -/
  marked : ∀ target, target ∈ c.callbacks ↔ c.context.isRunning target = true

variable (c : Ledger κ)

theorem callbacks_reap (target : InstanceId) : (c.reap target).callbacks = c.callbacks := by
  rcases stack_reap target c with same | ⟨found, -, -, begun⟩
  · rw [callbacks, same, callbacks]
  · rw [callbacks, begun]
    rfl

theorem callbacks_release? (binding : Option BindingId) :
    (c.release? binding).callbacks = c.callbacks :=
  congrArg (List.filterMap Activity.callback?) (stack_release? c binding)

theorem isRunning_changeInstance (target other : InstanceId) (change : Instance κ → Instance κ) :
    (c.changeInstance target change).context.isRunning other
      = if other = target then
          match c.context.instance? target with
          | some found => (change found).running
          | none => false
        else c.context.isRunning other := by
  simp only [Context.isRunning, changeInstance, Context.instance?_modifyInstance]
  by_cases same : other = target
  · subst same
    cases c.context.instance? other <;> simp
  · simp [same]

theorem isRunning_letGo (target other : InstanceId) :
    (c.letGo target).context.isRunning other = c.context.isRunning other := by
  refine (isRunning_changeInstance c target other _).trans ?_
  by_cases same : other = target
  · subst same
    rw [if_pos rfl]
    rfl
  · rw [if_neg same]

theorem isRunning_append (code : κ) (binding : BindingId) (other : InstanceId) :
    (c.append code binding).context.isRunning other = c.context.isRunning other := by
  simp only [Context.isRunning, append, Context.instance?, List.getElem?_append]
  by_cases below : other.index < c.context.instances.length
  · simp [below]
  · cases other.index - c.context.instances.length <;> simp [below]

end Ledger

namespace Step

variable {c d : Ledger κ}

/-- A callback begins and its instance is marked, or one ends and the mark is taken back, or neither
callbacks nor marks change. -/
theorem marks_cases (step : Step c d) :
    (d.callbacks = c.callbacks ∧
      ∀ other, d.context.isRunning other = c.context.isRunning other) ∨
    (∃ target found, c.IsReady target found ∧ d.callbacks = target :: c.callbacks ∧
      ∀ other, d.context.isRunning other = (decide (other = target) || c.context.isRunning other)) ∨
    (∃ target, c.callbacks = target :: d.callbacks ∧
      ∀ other, d.context.isRunning other = (!decide (other = target) && c.context.isRunning other)) := by
  have pop : ∀ {activity rest}, c.stack = activity :: rest → activity.callback? = none →
      c.stack.tail.filterMap Activity.callback? = c.callbacks := by
    intro activity rest top plain
    rw [Ledger.callbacks, top, List.filterMap_cons_none plain]
    rfl
  have entered : ∀ {target found}, c.IsReady target found → ∀ other,
      (c.mark target true).context.isRunning other
        = (decide (other = target) || c.context.isRunning other) := by
    intro target found ready other
    refine (Ledger.isRunning_changeInstance c target other _).trans ?_
    rw [ready.1]
    by_cases same : other = target <;> simp [same]
  cases step with
  | enter target found call ready asks =>
    refine .inr (.inl ⟨target, found, ready, ?_, entered ready⟩)
    rcases asks with rfl | ⟨dialog, rfl⟩ <;> rfl
  | deliver number notice entry found turn ready =>
    exact .inr (.inl ⟨entry.2.target, found, ready, rfl, entered ready⟩)
  | redeliver limit rest task tasks target handle number notice event found top taken what ready =>
    exact .inr (.inl ⟨target, found, ready, rfl, entered ready⟩)
  | leave target call rest top callback =>
    refine .inr (.inr ⟨target, ?_, fun other => ?_⟩)
    · have own : (Activity.call call).callback? = some target := callback
      rw [Ledger.callbacks_reap, Ledger.callbacks, top, List.filterMap_cons_some own]
      exact congrArg (fun stack => target :: stack.tail.filterMap Activity.callback?) top.symm
    · refine (Ledger.isRunning_changeInstance _ target other _).trans ?_
      by_cases same : other = target
      · rw [if_pos same]
        cases (c.note (.ended (.call call))).context.instance? target <;> simp [same]
      · simp [same, Ledger.note]
  | decline binding code context rest top => exact .inl ⟨pop top rfl, fun _ => rfl⟩
  | finish call rest top plain =>
    refine .inl ⟨pop top ?_, fun _ => rfl⟩
    rcases plain with ⟨_, _, rfl⟩ | ⟨_, rfl⟩ | ⟨_, rfl⟩ <;> rfl
  | observed topic slot emitted rest top => exact .inl ⟨pop top rfl, fun _ => rfl⟩
  | emitted topic slots rest top => exact .inl ⟨pop top rfl, fun _ => rfl⟩
  | endDrain limit rest top => exact .inl ⟨pop top rfl, fun _ => rfl⟩
  | adopt id record binding code made context rest top =>
    refine .inl ⟨(Ledger.callbacks_release? _ record.module).trans (pop top rfl), fun other => ?_⟩
    exact Ledger.isRunning_append c made binding other
  | duplicate binding code made context rest top =>
    refine .inl ⟨(Ledger.callbacks_reap _ _).trans (pop top rfl), fun other => ?_⟩
    exact (Ledger.isRunning_letGo _ _ other).trans (Ledger.isRunning_append c made binding other)
  | clean id record target =>
    exact .inl ⟨Ledger.callbacks_reap _ _, fun other => Ledger.isRunning_letGo _ _ other⟩
  | discard id record target =>
    exact .inl ⟨Ledger.callbacks_reap _ _, fun other => Ledger.isRunning_letGo _ _ other⟩
  | cleaned id record => exact .inl ⟨Ledger.callbacks_release? _ record.module, fun _ => rfl⟩
  | cleanBare id record => exact .inl ⟨Ledger.callbacks_release? _ record.module, fun _ => rfl⟩
  | discardBare id record => exact .inl ⟨Ledger.callbacks_release? _ record.module, fun _ => rfl⟩
  | _ => exact .inl ⟨rfl, fun _ => rfl⟩

theorem marked (h : c.Marked) (step : Step c d) : d.Marked := by
  obtain ⟨once, marked⟩ := h
  rcases step.marks_cases with ⟨callbacks, running⟩ | ⟨target, found, ready, callbacks, running⟩ |
    ⟨target, callbacks, running⟩
  · exact ⟨callbacks ▸ once, fun other => by rw [callbacks, running, marked]⟩
  · have idle : target ∉ c.callbacks := by
      simp [marked, ready.isRunning]
    refine ⟨by rw [callbacks]; exact List.nodup_cons.mpr ⟨idle, once⟩, fun other => ?_⟩
    simp [callbacks, running, marked]
  · rw [callbacks] at once
    obtain ⟨gone, once⟩ := List.nodup_cons.mp once
    refine ⟨once, fun other => ?_⟩
    have before := marked other
    rw [callbacks, List.mem_cons] at before
    rw [running]
    by_cases same : other = target
    · simp [same, gone]
    · simpa [same] using before

end Step

/-- On every path from a ledger in which nothing is going on. -/
theorem Path.marked {c d : Ledger κ} (path : Path c d) (h : c.Marked) : d.Marked := by
  induction path with
  | refl => exact h
  | tail _ step ih => exact step.marked ih

end ExtensionProxy
