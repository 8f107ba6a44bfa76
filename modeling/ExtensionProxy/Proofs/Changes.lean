import ExtensionProxy.Proofs.Step

/-!
# What a step does to signals and to the queue

A step changes a signal by at most one of the operations of signals, and the queue of deferred tasks by
at most one of the operations of queues.  Whatever these operations keep is kept by every step.
-/

set_option autoImplicit false

namespace ExtensionProxy

variable {κ : Type}

/-- What one step makes of a signal. -/
inductive Signal.Becomes (before : Signal κ) : Signal κ → Prop
  /-- It leaves it alone. -/
  | same : Becomes before before
  /-- It connects a handler. -/
  | connect (owner : Option ExtensionHandle) (code : κ) : Becomes before (before.connect owner code)
  /-- It drops one handler, if it is there. -/
  | disconnect (id : Nat) : Becomes before (before.disconnect id)
  /-- It drops the handlers of an owner. -/
  | disconnectOwner (owner : ExtensionHandle) : Becomes before (before.disconnectOwner owner)
  /-- It marks a handler as running. -/
  | enter (id : Nat) : Becomes before (before.enter id)
  /-- It takes the mark of a handler back. -/
  | leave (id : Nat) : Becomes before (before.leave id)

/-- What one step makes of the queue. -/
inductive TaskQueue.Becomes (before : TaskQueue κ) : TaskQueue κ → Prop
  /-- It leaves it alone. -/
  | same : Becomes before before
  /-- It schedules a task. -/
  | schedule (owner : Option ExtensionHandle) (code : κ) : Becomes before (before.schedule owner code)
  /-- It cancels the tasks of an owner. -/
  | cancel (owner : ExtensionHandle) : Becomes before (before.cancelOwner owner)
  /-- It takes the first task. -/
  | take (limit : Nat) (task : Task κ) (rest : TaskQueue κ)
      (taken : before.takeBelow limit = some (task, rest)) : Becomes before rest

namespace Step

variable {c d : Ledger κ}

theorem signal_becomes (step : Step c d) (topic : Topic) :
    (c.context.observers.signal topic).Becomes (d.context.observers.signal topic) := by
  have dropped : ∀ meant owner, (c.context.observers.signal topic).Becomes
      ((c.context.observers.dropOwner meant owner).signal topic) := by
    intro meant owner
    rw [Observers.signal_dropOwner]
    cases meant topic with
    | true => exact .disconnectOwner owner
    | false => exact .same
  have changed : ∀ (other : Topic) (change : Signal κ → Signal κ),
      (∀ signal : Signal κ, signal.Becomes (change signal)) →
      (c.context.observers.signal topic).Becomes
        ((c.changeSignal other change).context.observers.signal topic) := by
    intro other change becomes
    rw [Ledger.signal_changeSignal]
    split
    · next same => exact same ▸ becomes _
    · exact .same
  cases step with
  | connect other owner code => exact changed other _ fun _ => .connect owner code
  | disconnect other id => exact changed other _ fun _ => .disconnect id
  | disconnectOwner meant owner => exact dropped meant owner
  | renounce owner => exact dropped _ owner
  | clean id record => exact dropped _ record.handle
  | observe other slots slot =>
    exact changed other (fun signal => signal.enter slot.id) fun _ => .enter slot.id
  | observed other slot =>
    exact changed other (fun signal => signal.leave slot.id) fun _ => .leave slot.id
  | _ => exact .same

theorem tasks_become (step : Step c d) : c.context.tasks.Becomes d.context.tasks := by
  cases step with
  | schedule owner code => exact .schedule owner (Deferred.task code)
  | defer number notice entry event => exact .schedule _ _
  | cancel owner | renounce owner => exact .cancel owner
  | clean id record => exact .cancel record.handle
  | perform limit rest task tasks code top taken => exact .take limit task tasks taken
  | redeliver limit rest task tasks target handle number notice event found top taken =>
    exact .take limit task tasks taken
  | lose limit rest task tasks target handle number notice event top taken =>
    exact .take limit task tasks taken
  | _ => exact .same

end Step

end ExtensionProxy
