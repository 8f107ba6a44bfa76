import ExtensionProxy.Proofs.Holdings
import ExtensionProxy.Proofs.Queue

/-!
# What begins and what ends

What a step does to the stack of what is going on: it leaves it alone, something begins, or what is
on top ends, perhaps with the destruction of an instance in its place.
-/

set_option autoImplicit false

namespace ExtensionProxy

variable {κ : Type}

/-- What may begin. -/
inductive Ledger.Begins (c : Ledger κ) : Activity κ → Prop
  /-- The factory of a module that was just bound is called. -/
  | create (code : κ) (context : ExtensionContext) : c.Begins (.call (.create ⟨c.next⟩ code context))
  /-- A callback of an instance that is ready for it. -/
  | callback (call : Call κ) (target : InstanceId) (found : Instance κ)
      (own : call.target? = some target) (ready : c.IsReady target found) : c.Begins (.call call)
  /-- The instance of a record is destroyed. -/
  | dropped (id : RecordId) (target : InstanceId) (found : Instance κ)
      (owns : c.target? id = some target) (there : c.context.instance? target = some found)
      (idle : found.running = false) : c.Begins (.call (.dropped target found.code))
  /-- A link is opened. -/
  | openUri (uri : String) : c.Begins (.call (.openUri uri))
  /-- An emission over the handlers that are connected. -/
  | emission (topic : Topic) : c.Begins (.emission topic (c.context.observers.signal topic).slots)
  /-- A handler of the emission on top of the stack. -/
  | observe (topic : Topic) (slots : List (Slot κ)) (slot : Slot κ) (emitted : Emitted)
      (rest : List (Activity κ)) (top : c.stack = .emission topic slots :: rest)
      (listed : slot ∈ slots) : c.Begins (.call (.observe topic slot emitted))
  /-- A task that waited. -/
  | task (task : Task (Deferred κ)) (code : κ) (waits : task ∈ c.context.tasks.tasks)
      (plain : task.code = .task code) : c.Begins (.call (.task code))
  /-- A drain of what waits. -/
  | drain : c.Begins (.drain c.context.tasks.nextSeq)

namespace Ledger

variable {c : Ledger κ}

/-- Whether an instance is destroyed or not, at most the call of that goes onto the stack. -/
theorem stack_reap (target : InstanceId) (c : Ledger κ) :
    (c.reap target).stack = c.stack ∨ ∃ found, c.context.instance? target = some found ∧
      found.isAlive = false ∧ (c.reap target).stack = .call (.dropped target found.code) :: c.stack := by
  cases there : c.context.instance? target with
  | none =>
    rw [reap_of_none c there]
    exact .inl rfl
  | some found =>
    by_cases alive : found.isAlive = true
    · rw [reap_of_alive c there alive]
      exact .inl rfl
    · rw [reap_of_dead c there (by simpa using alive)]
      exact .inr ⟨found, rfl, by simpa using alive, rfl⟩

end Ledger

namespace Step

variable {c d : Ledger κ}

/-- A record that owned an instance let it go. -/
theorem stack_letGo {e : Ledger κ} (id : RecordId) (target : InstanceId)
    (owns : c.target? id = some target) (instances : e.context.instances = c.context.instances)
    (stack : e.stack = c.stack) :
    (e.letGo target).stack = c.stack ∨
      ∃ activity, c.Begins activity ∧ (e.letGo target).stack = activity :: c.stack := by
  rcases Ledger.stack_reap target (e.changeInstance target fun found =>
    { found with owned := false }) with same | ⟨found, there, dead, begun⟩
  · exact .inl (same.trans stack)
  · refine .inr ⟨_, ?_, begun.trans (congrArg _ stack)⟩
    obtain ⟨before, here, rfl⟩ := Context.exists_of_instance?_modifyInstance there
    have here : c.context.instance? target = some before := by
      rwa [Context.instance?, instances] at here
    exact .dropped id target before owns here (by simpa [Instance.isAlive] using dead)

/-- What a step does to the stack. -/
theorem stack_cases (step : Step c d) :
    d.stack = c.stack ∨ (∃ activity, c.Begins activity ∧ d.stack = activity :: c.stack) ∨
    (∃ activity, c.stack = activity :: d.stack) ∨
    (∃ call rest target code, c.stack = .call call :: rest ∧
      d.stack = .call (.dropped target code) :: rest ∧
      (call.target? = some target ∨ target = ⟨c.context.instances.length⟩ ∧
        ∃ binding factory context, call = .create binding factory context)) := by
  have pop : ∀ {activity rest}, c.stack = activity :: rest → c.stack = activity :: c.stack.tail :=
    fun top => by rw [top]; rfl
  cases step with
  | construct id code context => exact .inr (.inl ⟨_, .create code context, rfl⟩)
  | openUri uri => exact .inr (.inl ⟨_, .openUri uri, rfl⟩)
  | emit topic => exact .inr (.inl ⟨_, .emission topic, rfl⟩)
  | drain => exact .inr (.inl ⟨_, .drain, rfl⟩)
  | enter target found call ready asks =>
    refine .inr (.inl ⟨_, .callback call target found ?_ ready, rfl⟩)
    rcases asks with rfl | ⟨dialog, rfl⟩ <;> rfl
  | deliver number notice entry found turn ready =>
    exact .inr (.inl ⟨_, .callback _ entry.2.target found rfl ready, rfl⟩)
  | redeliver limit rest task tasks target handle number notice event found top taken what ready =>
    exact .inr (.inl ⟨_, .callback _ target found rfl ready, rfl⟩)
  | perform limit rest task tasks code top taken plain =>
    have waits : task ∈ c.context.tasks.tasks := by
      rw [(TaskQueue.takeBelow_eq_some taken).1]
      exact List.mem_cons_self
    exact .inr (.inl ⟨_, .task task code waits plain, rfl⟩)
  | observe topic slots slot emitted rest top listed =>
    exact .inr (.inl ⟨_, .observe topic slots slot emitted rest top listed, rfl⟩)
  | decline binding code context rest top => exact .inr (.inr (.inl ⟨_, pop top⟩))
  | finish call rest top => exact .inr (.inr (.inl ⟨_, pop top⟩))
  | observed topic slot emitted rest top => exact .inr (.inr (.inl ⟨_, pop top⟩))
  | emitted topic slots rest top => exact .inr (.inr (.inl ⟨_, pop top⟩))
  | endDrain limit rest top => exact .inr (.inr (.inl ⟨_, pop top⟩))
  | adopt id record binding code made context rest top =>
    refine .inr (.inr (.inl ⟨_, (pop top).trans (congrArg _ (Eq.symm ?_))⟩))
    exact Ledger.stack_release? _ record.module
  | cleaned id record => exact .inl (Ledger.stack_release? _ record.module)
  | cleanBare id record => exact .inl (Ledger.stack_release? _ record.module)
  | discardBare id record => exact .inl (Ledger.stack_release? _ record.module)
  | clean id record target found owns =>
    refine Or.imp_right .inl (stack_letGo id target ?_ ?_ ?_)
    · exact (Ledger.target?_of_found c found).trans owns
    · rfl
    · rfl
  | discard id record target found owns =>
    refine Or.imp_right .inl (stack_letGo id target ?_ ?_ ?_)
    · exact (Ledger.target?_of_found c found).trans owns
    · rfl
    · rfl
  | leave target call rest top callback =>
    rcases Ledger.stack_reap target ((c.note (.ended (.call call))).mark target false) with
      same | ⟨found, -, -, begun⟩
    · exact .inr (.inr (.inl ⟨_, (pop top).trans (congrArg _ same.symm)⟩))
    · refine .inr (.inr (.inr ⟨call, rest, target, found.code, top, begun.trans ?_, .inl callback⟩))
      exact congrArg (List.cons _) (congrArg List.tail top)
  | duplicate binding code made context rest top =>
    rcases Ledger.stack_reap ⟨c.context.instances.length⟩
      (((c.note (.ended (.call (.create binding code context)))).append made binding).changeInstance
        ⟨c.context.instances.length⟩ fun found => { found with owned := false }) with
      same | ⟨found, -, -, begun⟩
    · exact .inr (.inr (.inl ⟨_, (pop top).trans (congrArg _ same.symm)⟩))
    · refine .inr (.inr (.inr ⟨_, rest, _, found.code, top, begun.trans ?_,
        .inr ⟨rfl, _, _, _, rfl⟩⟩))
      exact congrArg (List.cons _) (congrArg List.tail top)
  | _ => exact .inl rfl

end Step

end ExtensionProxy
