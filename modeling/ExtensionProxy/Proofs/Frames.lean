import ExtensionProxy.Proofs.History
import ExtensionProxy.Proxy.Dispatch

/-!
# What a run leaves alone

A frame is a relation between the states before and after a run that holds as long as the registered
documents and the history are left alone, and that can be followed through the pieces of which runs are
made.  A function of the proxy that registers and evicts no document keeps every frame that the foreign
code keeps which it calls.

Here are the pieces, the ways to an instance, and everything of dispatch that is not about one
document.
-/

set_option autoImplicit false

namespace ExtensionProxy

variable {κ μ α β : Type}

/-- Wherever it starts, a run ends where it is related to. -/
def Run.Along {σ : Type} (R : σ → σ → Prop) (run : Run σ α) : Prop := ∀ s, R s (run s).2

/-- All foreign code keeps to a relation. -/
def Caller.Along (R : State κ μ → State κ μ → Prop) (call : Caller κ μ) : Prop :=
  ∀ request, (call request).Along R

/-- Nothing begins or ends, and no event is dispatched. -/
def Happening.IsPlain : Happening κ → Prop
  | .began _ | .ended _ | .dispatched _ _ => False
  | _ => True

theorem Happening.IsPlain.shift {what : Happening κ} (plain : what.IsPlain)
    (stack : List (Activity κ)) : what.shift stack = stack := by
  cases what with
  | began | ended | dispatched => cases plain
  | _ => rfl

/-- A relation that is kept by whatever leaves the registered documents alone. -/
structure Frame (R : State κ μ → State κ μ → Prop) : Prop where
  refl : ∀ s, R s s
  trans : ∀ {s t u}, R s t → R t u → R s u
  /-- Changes that leave documents, tasks and history alone. -/
  quiet : ∀ {s t : State κ μ}, t.documents = s.documents → t.tasks = s.tasks →
    t.history = s.history → R s t
  /-- A moment at which nothing begins or ends, and no event is dispatched. -/
  note : ∀ what s, what.IsPlain → R s (s.note what)
  /-- A run that goes on as an activity. -/
  during : ∀ {α : Type} (activity : Activity κ) (run : Run (State κ μ) α), run.Along R →
    (Run.during activity run).Along R

/-- A frame that is kept by changes of the deferred tasks, too. -/
structure LooseFrame (R : State κ μ → State κ μ → Prop) : Prop extends Frame R where
  retask : ∀ tasks (s : State κ μ), R s { s with tasks := tasks }

/-! ## How a dispatch begins -/

/-- A dispatch has taken its number and says what it is about. -/
def State.begun (s : State κ μ) (event : HostEvent) : State κ μ :=
  State.tell ⟨.debug, "Dispatching host notification", [("event", event.name)]⟩
    (State.note (.dispatched s.dispatches event) { s with dispatches := s.dispatches + 1 })

theorem dispatch_apply (call : Caller κ μ) (event : HostEvent) (s : State κ μ) :
    dispatch call event s = (do
      let outcome ← routeEvent call event s.dispatches
      Run.note (.settled s.dispatches outcome)
      pure outcome) (s.begun event) := rfl

variable {R : State κ μ → State κ μ → Prop} {call : Caller κ μ}

/-! ## The pieces of runs -/

namespace Frame

section

variable (frame : Frame R)

include frame

theorem pure (value : α) : (Pure.pure value : Run (State κ μ) α).Along R := fun s => frame.refl s

theorem get : (Run.get : Run (State κ μ) (State κ μ)).Along R := fun s => frame.refl s

theorem gets (view : State κ μ → α) : (Run.gets view).Along R := fun s => frame.refl s

theorem stop (why : Stop) : (Run.stop why : Run (State κ μ) α).Along R := fun s => frame.refl s

/-- A run that goes on, from one state. -/
theorem bind_apply {run : Run (State κ μ) α} {next : α → Run (State κ μ) β} {s : State κ μ}
    (first : R s (run s).2) (rest : ∀ value, (next value).Along R) : R s ((run >>= next) s).2 :=
  Run.bind_snd (R s) first fun value reached _ now => frame.trans now (rest value reached)

theorem bind {run : Run (State κ μ) α} {next : α → Run (State κ μ) β} (first : run.Along R)
    (rest : ∀ value, (next value).Along R) : (run >>= next).Along R := fun s =>
  frame.bind_apply (first s) rest

theorem ensuring {run : Run (State κ μ) α} {last : Run (State κ μ) Unit} (first : run.Along R)
    (second : last.Along R) : (Run.ensuring run last).Along R := by
  intro s
  rw [Run.ensuring_snd]
  exact frame.trans (first s) (second _)

theorem onStop {run : Run (State κ μ) α} {last : Run (State κ μ) Unit} (first : run.Along R)
    (second : last.Along R) : (Run.onStop run last).Along R := by
  intro s
  have before := first s
  simp only [Run.onStop]
  split
  · next ran => exact ran ▸ before
  · next reached ran =>
    rw [ran] at before
    exact frame.trans before (second reached)

/-- A change of something else. -/
theorem modify {change : State κ μ → State κ μ} (same : ∀ s, (change s).documents = s.documents ∧
    (change s).tasks = s.tasks ∧ (change s).history = s.history) : (Run.modify change).Along R := by
  intro s
  obtain ⟨documents, tasks, history⟩ := same s
  exact frame.quiet documents tasks history

theorem mark {what : Happening κ} (plain : what.IsPlain) :
    (Run.note what : Run (State κ μ) Unit).Along R := fun s =>
  frame.note what s plain

theorem tell (event : LogEvent) : (Run.tell event : Run (State κ μ) Unit).Along R := fun _ =>
  frame.quiet rfl rfl rfl

theorem bench (run : Run Bench α) : (Run.zoom State.benchLens run : Run (State κ μ) α).Along R :=
  fun _ => frame.quiet rfl rfl rfl

theorem releaseBinding? (binding : Option BindingId) :
    (Run.releaseBinding? binding : Run (State κ μ) Unit).Along R := by
  cases binding with
  | none => exact frame.pure ()
  | some given => exact frame.bind (frame.bench _) fun _ => frame.mark trivial

/-- Foreign code that is put into the history. -/
theorem noting (calls : call.Along R) : call.noting.Along R := fun request =>
  frame.during (.call request) (call request) (calls request)

/-! ## Emitting -/

theorem emitSlots {topic : Topic} {run : Slot κ → Run (State κ μ) Bool}
    (runs : ∀ slot, (run slot).Along R) (slots : List (Slot κ)) (emission : Signal.Emission) :
    (Signal.emitSlots (State.signalLens topic) run slots emission).Along R := by
  induction slots generalizing emission with
  | nil => exact frame.pure emission
  | cons slot rest ih =>
    refine frame.bind (frame.gets _) fun signal => ?_
    split
    · exact ih emission
    · refine frame.bind ?_ fun answer => ih _
      exact frame.bind (frame.modify fun _ => ⟨rfl, rfl, rfl⟩) fun _ =>
        frame.ensuring (runs slot) (frame.modify fun _ => ⟨rfl, rfl, rfl⟩)

theorem emit {topic : Topic} {run : Slot κ → Run (State κ μ) Bool}
    (runs : ∀ slot, (run slot).Along R) : (Signal.emit (State.signalLens topic) run).Along R :=
  frame.bind (frame.gets _) fun signal => frame.emitSlots runs signal.slots {}

theorem emitTopic {topic : Topic} {emitted : Emitted}
    (runs : ∀ slot, (call (.observe topic slot emitted)).Along R) :
    (ExtensionProxy.emitTopic call topic emitted).Along R :=
  frame.bind frame.get fun _ => frame.during _ _ (frame.emit runs)

/-! ## Reaching an instance -/

section

variable (calls : call.Along R)

include calls

theorem destroyInstance (target : InstanceId) :
    (ExtensionProxy.destroyInstance call target).Along R := by
  refine frame.bind frame.get fun s => ?_
  split
  · exact calls _
  · exact frame.pure ()

theorem releaseInstance (target : InstanceId) :
    (ExtensionProxy.releaseInstance call target).Along R := by
  refine frame.bind (frame.modify fun _ => ⟨rfl, rfl, rfl⟩) fun _ =>
    frame.bind frame.get fun s => ?_
  split
  · split
    · exact frame.pure ()
    · exact frame.destroyInstance calls target
  · exact frame.pure ()

theorem leaveInstance (target : InstanceId) :
    (ExtensionProxy.leaveInstance call target).Along R := by
  refine frame.bind (frame.modify fun _ => ⟨rfl, rfl, rfl⟩) fun _ =>
    frame.bind frame.get fun s => ?_
  split
  · split
    · exact frame.pure ()
    · exact frame.destroyInstance calls target
  · exact frame.pure ()

theorem deliver (target : InstanceId) {callback : κ → Run (State κ μ) α}
    (runs : ∀ code, (callback code).Along R) :
    (ExtensionProxy.deliver call target callback).Along R := by
  refine frame.bind frame.get fun s => ?_
  split
  · exact frame.pure _
  · split
    · exact frame.pure _
    · split
      · refine frame.bind ?_ fun value => frame.pure _
        exact frame.bind (frame.modify fun _ => ⟨rfl, rfl, rfl⟩) fun _ =>
          frame.ensuring (runs _) (frame.leaveInstance calls target)
      · exact frame.pure _

theorem notify (target : InstanceId) (number : Nat) (notice : Notice) :
    (ExtensionProxy.notify call target number notice).Along R :=
  frame.deliver calls target fun _ => calls _

end

/-! ## Wrappers of workspaces, and categories -/

theorem setWorkspace (workspace : Option WorkspaceId) :
    (ExtensionProxy.setWorkspace workspace : Run (State κ μ) _).Along R :=
  frame.bind frame.get fun _ =>
    frame.bind (frame.modify fun _ => ⟨rfl, rfl, rfl⟩) fun _ =>
    frame.bind (frame.mark trivial) fun _ => frame.pure _

theorem installWorkspace (handle : WorkspaceHandle) (config : KeyFile) :
    (ExtensionProxy.installWorkspace handle config : Run (State κ μ) _).Along R := by
  refine frame.bind ?_ fun opened => frame.bind (frame.setWorkspace _) fun _ => frame.pure _
  exact frame.bind frame.get fun _ =>
    frame.bind (frame.modify fun _ => ⟨rfl, rfl, rfl⟩) fun _ => frame.pure _

theorem reloadCategories : (ExtensionProxy.reloadCategories : Run (State κ μ) Unit).Along R := by
  refine frame.bind frame.get fun before => frame.bind ?_ fun rows =>
    frame.bind (frame.modify fun _ => ⟨rfl, rfl, rfl⟩) fun _ =>
    frame.bind frame.get fun _ => frame.tell _
  cases before.host.categories with
  | rows rows => exact frame.pure rows
  | _ => exact frame.stop _

/-! ## Dispatching -/

/-- The dispatch of an event, from when it has begun. -/
theorem dispatch {event : HostEvent} {s : State κ μ} (begins : R s (s.begun event))
    (routes : R (s.begun event) (ExtensionProxy.routeEvent call event s.dispatches (s.begun event)).2) :
    R s (ExtensionProxy.dispatch call event s).2 := by
  rw [dispatch_apply]
  refine frame.trans begins (frame.bind_apply routes fun outcome => ?_)
  exact frame.bind (frame.mark trivial) fun _ => frame.pure outcome

section

variable (observes : ∀ topic slot emitted, (call (.observe topic slot emitted)).Along R)

include observes

theorem fireDocument (event : HostEvent) (doc : DocumentHandle) {signal : DocumentSignal}
    (stays : signal ≠ .closed) : (ExtensionProxy.fireDocument call event doc signal).Along R := by
  refine frame.bind frame.get fun s => ?_
  split
  · exact frame.bind (frame.tell _) fun _ => frame.pure _
  · refine frame.bind (frame.emitTopic fun slot => observes _ _ _) fun emission => ?_
    simp only [stays, if_false]
    exact frame.pure _

theorem fireEditor (doc : DocumentHandle) (note : EditorNote) :
    (ExtensionProxy.fireEditor call doc note).Along R := by
  unfold ExtensionProxy.fireEditor
  split
  · exact frame.bind (frame.tell _) fun _ => frame.pure _
  · refine frame.bind frame.get fun s => ?_
    split
    · exact frame.bind (frame.tell _) fun _ => frame.pure _
    · exact frame.bind (frame.emitTopic fun slot => observes _ _ _) fun _ => frame.pure _

theorem fireDialog (event : HostEvent) (moment : DialogMoment) (dialog : DialogHandle) :
    (ExtensionProxy.fireDialog call event moment dialog).Along R := by
  refine frame.bind frame.get fun s => ?_
  split
  · exact frame.bind (frame.tell _) fun _ => frame.pure _
  · exact frame.bind (frame.emitTopic fun slot => observes _ _ _) fun _ => frame.pure _

end

end

end Frame

/-! ## Notices -/

namespace LooseFrame

variable (frame : LooseFrame R) (calls : call.Along R)

include frame calls

theorem notifyEntry (event : String) (number : Nat) (notice : Notice) (handle : ExtensionHandle)
    (entry : Registration) (outcome : DispatchOutcome) :
    (ExtensionProxy.notifyEntry call event number notice handle entry outcome).Along R := by
  refine frame.bind (frame.mark trivial) fun _ =>
    frame.bind (frame.notify calls _ _ _) fun delivery => ?_
  split
  · exact frame.pure _
  · exact frame.bind (frame.tell _) fun _ => frame.pure _
  · exact frame.bind (frame.tell _) fun _ => frame.bind (fun s => frame.retask _ s) fun _ =>
      frame.pure _

theorem notifyAll (event : String) (number : Nat) (notice : Notice)
    (entries : List (ExtensionHandle × Registration)) (outcome : DispatchOutcome) :
    (ExtensionProxy.notifyAll call event number notice entries outcome).Along R := by
  induction entries generalizing outcome with
  | nil => exact frame.pure outcome
  | cons entry rest ih =>
    exact frame.bind (frame.notifyEntry calls event number notice entry.1 entry.2 outcome) ih

theorem broadcast (event : String) (number : Nat) (notice : Notice) (outcome : DispatchOutcome) :
    (ExtensionProxy.broadcast call event number notice outcome).Along R :=
  frame.bind (frame.mark trivial) fun _ => frame.bind frame.get fun s =>
    frame.notifyAll calls event number notice s.registry.entries outcome

theorem openWorkspace (event : HostEvent) (number : Nat) (handle : WorkspaceHandle)
    (config : KeyFile) :
    (ExtensionProxy.openWorkspace call event number handle config).Along R := by
  refine frame.bind (frame.installWorkspace _ _) fun pair => frame.bind frame.get fun s => ?_
  have announces := frame.broadcast calls event.name number (.workspaceOpened pair.1)
    { resolved := true }
  dsimp only
  split
  · exact frame.bind (frame.tell _) fun _ => announces
  · exact announces

theorem closeWorkspace (event : HostEvent) (number : Nat) :
    (ExtensionProxy.closeWorkspace call event number).Along R := by
  refine frame.bind frame.get fun s => ?_
  have announces : ∀ observers, (do
      let outcome ← ExtensionProxy.broadcast call event.name number .workspaceClosed
        { resolved := true, observers := observers }
      let _ ← ExtensionProxy.setWorkspace none
      Pure.pure outcome : Run (State κ μ) DispatchOutcome).Along R := fun observers =>
    frame.bind (frame.broadcast calls _ _ _ _) fun outcome =>
      frame.bind (frame.setWorkspace _) fun _ => frame.pure outcome
  dsimp only
  split
  · exact frame.bind (frame.emitTopic fun slot => calls _) fun emission =>
      frame.bind (frame.pure emission.ran) announces
  · exact frame.bind (frame.tell _) fun _ => frame.bind (frame.pure 0) announces

end LooseFrame

end ExtensionProxy
