import ExtensionProxy.Proofs.Conduct
import ExtensionProxy.Proxy.Dispatch

/-!
# Emitting is lawful

An emission is on the stack with the handlers that were connected when it began, and whatever it
runs is one of them.  The wrappers themselves change without any foreign code.
-/

set_option autoImplicit false

namespace ExtensionProxy

open Ledger

variable {κ μ α : Type} {base : List (Activity κ)} {call : Caller κ μ} {s : State κ μ}

/-! ## Wrappers -/

namespace Lawful

/-- What changes nothing that the laws speak about. -/
theorem of_same {out : Except Stop α × State κ μ} (same : out.2.ledger = s.ledger) :
    Lawful {} s.ledger s.ledger.stack true out := by
  refine ⟨?_, ?_⟩
  · rw [same]
    exact .refl nofun
  · rw [same]

/-- What takes one step that leaves slots, records, dispatches and the call stack alone. -/
theorem of_step {out : Except Stop α × State κ μ} {d : Ledger κ} (ledger : out.2.ledger = d)
    (step : Step s.ledger d) (slots : d.context.slots = s.slots)
    (records : d.context.records = s.records) (dispatches : d.context.dispatches = s.dispatches)
    (about : ∀ strand, d.history.about strand = s.history.about strand)
    (stack : d.stack = s.ledger.stack) : Lawful {} s.ledger s.ledger.stack true out := by
  subst ledger
  refine ⟨.of_quiet step slots (fun id _ => ?_) dispatches about nofun, stack⟩
  rw [Context.record?, records]
  rfl

theorem addDocument (handle : DocumentHandle) :
    Lawful {} s.ledger s.ledger.stack true (ExtensionProxy.addDocument handle s) := by
  cases there : s.documents.get? handle with
  | some existing =>
    refine of_same ?_
    simp only [ExtensionProxy.addDocument, IdentityCache.addWith, Run.gets_bind_apply,
      State.documentsLens, there]
    rfl
  | none =>
    let wrapper : DocumentId := ⟨s.documentWrappers.length⟩
    have registered : (IdentityCache.register s.documents handle wrapper).2
        = s.documents.insert handle wrapper := by
      simp [IdentityCache.register, there]
    refine of_step (d := s.ledger.enroll handle) ?_ (.enroll s.ledger handle there) rfl rfl rfl
      (fun _ => rfl) rfl
    simp only [ExtensionProxy.addDocument, IdentityCache.addWith, Run.gets_bind_apply,
      State.documentsLens, there]
    exact congrArg (fun documents => { s.ledger.enroll handle with
      context.documents := documents }) registered

theorem removeDocument (handle : DocumentHandle) :
    Lawful {} s.ledger s.ledger.stack true (ExtensionProxy.removeDocument handle s) :=
  of_step rfl (.evict s.ledger handle) rfl rfl rfl (fun _ => rfl) rfl

theorem installWorkspace (handle : WorkspaceHandle) (config : KeyFile) :
    Lawful {} s.ledger s.ledger.stack true (ExtensionProxy.installWorkspace handle config s) := by
  refine of_step (d := s.ledger.openWorkspace) ?_ (.openWorkspace s.ledger) rfl rfl rfl
    (fun _ => rfl) rfl
  have one : (s.workspaceWrappers ++ [(⟨handle, config⟩ : Workspace)]).length
      = s.workspaceWrappers.length + 1 :=
    List.length_append
  exact congrArg (fun opened => { s.ledger.openWorkspace with opened := opened }) one

theorem shutWorkspace :
    Lawful {} s.ledger s.ledger.stack true (ExtensionProxy.setWorkspace none s) :=
  of_step rfl (.shutWorkspace s.ledger) rfl rfl rfl (fun _ => rfl) rfl

/-- The categories are rebuilt; the run is stopped before if the host's table is faulty. -/
theorem reloadCategories :
    Lawful {} s.ledger s.ledger.stack true (ExtensionProxy.reloadCategories s) := by
  simp only [ExtensionProxy.reloadCategories, Run.get_bind_apply]
  cases s.host.categories with
  | rows rows => exact of_step rfl (.reload s.ledger rows) rfl rfl rfl (fun _ => rfl) rfl
  | _ => exact of_same rfl

end Lawful

/-! ## Emissions -/

namespace Lawful

/-- One handler is run under its mark. -/
theorem runSlot (lawful : call.IsLawful) (sound : s.ledger.Sound) {topic : Topic}
    {slots : List (Slot κ)} {slot : Slot κ} {emitted : Emitted}
    (top : s.ledger.stack = .emission topic slots :: base) (listed : slot ∈ slots)
    (idle : (s.observers.signal topic).isRunning slot.id = false) :
    Lawful {} s.ledger s.ledger.stack true
      (Signal.runSlot (State.signalLens topic)
        (fun slot => call.noting (.observe topic slot emitted)) slot s) := by
  let marked := (State.signalLens topic).modify (fun signal => signal.enter slot.id) s
  let begun := marked.note (.began (.call (.observe topic slot emitted)))
  have step : Step s.ledger begun.ledger := .observe _ topic slots slot emitted base top listed idle
  have start : Exec {} s.ledger true begun.ledger :=
    .of_quiet step rfl (fun _ _ => rfl) rfl (fun _ => rfl) nofun
  have inner := lawful (.observe topic slot emitted) begun (step.sound sound)
  have inside : (call (.observe topic slot emitted) begun).2.ledger.stack
      = .call (.observe topic slot emitted) :: s.ledger.stack := inner.stack
  change Lawful {} s.ledger s.ledger.stack true (Run.ensuring
    (call.noting (.observe topic slot emitted))
    (Run.modify ((State.signalLens topic).modify fun signal => signal.leave slot.id)) marked)
  have whole := start.trans inner.exec
  refine ensuring_modify ?_ ?_
  all_goals rw [Caller.noting_apply]
  · exact whole.quiet (.observed _ topic slot emitted _ inside) rfl (fun _ _ => rfl) rfl
      fun _ => rfl
  · exact congrArg List.tail inside

/-- The handlers that are left are run one after the other. -/
theorem emitSlots (lawful : call.IsLawful) {topic : Topic} {slots : List (Slot κ)}
    (emitted : Emitted) (rest : List (Slot κ)) :
    ∀ (emission : Signal.Emission) (s : State κ μ), s.ledger.Sound →
      s.ledger.stack = .emission topic slots :: base → (∀ slot ∈ rest, slot ∈ slots) →
      Lawful {} s.ledger s.ledger.stack true
        (Signal.emitSlots (State.signalLens topic)
          (fun slot => call.noting (.observe topic slot emitted)) rest emission s) := by
  induction rest with
  | nil => exact fun _ _ _ _ _ => done (.refl nofun) rfl
  | cons slot rest ih =>
    intro emission s sound top listed
    simp only [Signal.emitSlots, Run.gets_bind_apply]
    have inside := fun slot there => listed slot (List.mem_cons_of_mem _ there)
    cases running : ((State.signalLens topic).get s).isRunning slot.id with
    | true => exact ih emission s sound top inside
    | false =>
      refine bind (runSlot lawful sound top (listed slot List.mem_cons_self) running)
        fun answer reached _ exec stack => ?_
      exact resume exec stack
        (ih _ reached (exec.path.sound sound) (stack.trans top) inside)

/-- A signal is emitted; that the emission came to its end is the last that happened. -/
theorem emitTopic_emitted (lawful : call.IsLawful) (sound : s.ledger.Sound) (topic : Topic)
    (emitted : Emitted) :
    Lawful {} s.ledger s.ledger.stack true
      (ExtensionProxy.emitTopic call.noting topic emitted s) ∧
    ∃ ended past, (ExtensionProxy.emitTopic call.noting topic emitted s).2.history = ended :: past ∧
      ended.context = (ExtensionProxy.emitTopic call.noting topic emitted s).2.toContext ∧
      History.Emitted s.history past ended topic (s.observers.signal topic).slots := by
  let slots := (s.observers.signal topic).slots
  let begun := s.note (.began (.emission topic slots))
  have step : Step s.ledger begun.ledger := .emit s.ledger topic
  have start : Exec {} s.ledger true begun.ledger :=
    .of_quiet step rfl (fun _ _ => rfl) rfl (fun _ => rfl) nofun
  have inner := emitSlots lawful emitted slots {} begun (step.sound sound) rfl
    fun _ there => there
  have whole := start.trans inner.exec
  have same : ExtensionProxy.emitTopic call.noting topic emitted s = Run.ensuring
    (Signal.emitSlots (State.signalLens topic)
      (fun slot => call.noting (.observe topic slot emitted)) slots {})
    (Run.note (.ended (.emission topic slots))) begun := rfl
  rw [same]
  refine ⟨ensuring_modify (whole.quiet (.emitted _ topic slots s.ledger.stack inner.stack) rfl
    (fun _ _ => rfl) rfl fun _ => rfl) (congrArg List.tail inner.stack), ?_⟩
  rw [Run.ensuring_snd]
  exact ⟨_, _, rfl, rfl, ⟨_, Path.history_grows inner.exec.path, rfl⟩, inner.stack, rfl⟩

theorem emitTopic (lawful : call.IsLawful) (sound : s.ledger.Sound) (topic : Topic)
    (emitted : Emitted) :
    Lawful {} s.ledger s.ledger.stack true
      (ExtensionProxy.emitTopic call.noting topic emitted s) :=
  (emitTopic_emitted lawful sound topic emitted).1

end Lawful

end ExtensionProxy
