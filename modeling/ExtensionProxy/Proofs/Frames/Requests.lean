import ExtensionProxy.Proofs.Frames
import ExtensionProxy.Proxy.Service

/-!
# Requests that leave the registered documents alone

Sub-extensions are loaded, initialized, asked, cleaned up and dropped, handlers connected and tasks done
without the registered documents.  Apart from the two requests that are about them, only a dispatch can
change them.
-/

set_option autoImplicit false

namespace ExtensionProxy

variable {κ μ α : Type} {R : State κ μ → State κ μ → Prop} {call : Caller κ μ}

/-- Whether a request registers or evicts a document itself. -/
def Request.isRegistering : Request κ μ → Bool
  | .addDocument _ | .removeDocument _ => true
  | _ => false

namespace LooseFrame

variable (frame : LooseFrame R) (calls : call.Along R)

include frame

/-! ## The lifecycle of a record -/

theorem changeRecord (id : RecordId) (change : Record → Record) :
    (ExtensionProxy.changeRecord id change : Run (State κ μ) Unit).Along R :=
  frame.modify fun _ => ⟨rfl, rfl, rfl⟩

theorem releaseOwner (owner : ExtensionHandle) :
    (ExtensionProxy.releaseOwner owner : Run (State κ μ) Unit).Along R := by
  refine frame.bind (frame.mark trivial) fun _ => frame.bind frame.get fun s =>
    frame.bind (fun t => ?_) fun _ => frame.tell _
  exact frame.trans (frame.retask (t.tasks.cancelOwner owner) t) (frame.quiet rfl rfl rfl)

theorem loadRecord (site : Site κ) (handle : ExtensionHandle) (path : String) :
    (ExtensionProxy.loadRecord site handle path : Run (State κ μ) _).Along R := by
  unfold ExtensionProxy.loadRecord
  split
  · exact frame.bind (frame.tell _) fun _ => frame.pure _
  · split
    · exact frame.stop _
    · exact frame.bind frame.get fun _ => frame.bind (frame.modify fun _ => ⟨rfl, rfl, rfl⟩) fun _ =>
        frame.bind (frame.tell _) fun _ => frame.pure _

theorem takeRecord (slot : String) :
    (ExtensionProxy.takeRecord slot : Run (State κ μ) _).Along R := by
  refine frame.bind frame.get fun s => ?_
  split
  · exact frame.pure _
  · exact frame.bind (frame.modify fun _ => ⟨rfl, rfl, rfl⟩) fun _ => frame.pure _

include calls

theorem adopt (id : RecordId) (record : Record) (binding : BindingId) (code : κ) :
    (ExtensionProxy.adopt call id record binding code).Along R := by
  refine frame.bind frame.get fun s => frame.bind (frame.modify fun _ => ⟨rfl, rfl, rfl⟩) fun _ => ?_
  dsimp only
  split
  · refine frame.bind ?_ fun _ => frame.pure _
    exact frame.ensuring (frame.releaseInstance calls _) (frame.releaseBinding? (some binding))
  · exact frame.bind (frame.modify fun _ => ⟨rfl, rfl, rfl⟩) fun _ =>
      frame.bind (frame.releaseBinding? _) fun _ => frame.bind (frame.changeRecord _ _) fun _ =>
      frame.bind (frame.mark trivial) fun _ => frame.bind (frame.tell _) fun _ => frame.pure _

theorem construct (id : RecordId) (record : Record) (binding : Binding κ) :
    (ExtensionProxy.construct call id record binding).Along R := by
  refine frame.bind (frame.changeRecord _ _) fun _ => frame.bind frame.get fun s =>
    frame.bind (frame.onStop (calls _) (frame.releaseBinding? (some binding.id))) fun made => ?_
  cases made with
  | some code => exact frame.adopt calls id record binding.id code
  | none =>
    exact frame.bind (frame.tell _) fun _ => frame.bind (frame.releaseBinding? (some _)) fun _ =>
      frame.bind (frame.changeRecord _ _) fun _ => frame.pure _

theorem initRecord (site : Site κ) (id : RecordId) (record : Record) :
    (ExtensionProxy.initRecord site call id record).Along R := by
  refine frame.bind frame.get fun s => ?_
  split
  · exact frame.bind (frame.tell _) fun _ => frame.pure _
  · split
    · exact frame.pure _
    · refine frame.bind (frame.bench _) fun found => ?_
      cases found with
      | some binding => exact frame.construct calls id record binding
      | none => exact frame.bind (frame.tell _) fun _ => frame.pure _

theorem dismantle (id : RecordId) (record : Record) (target : InstanceId) :
    (ExtensionProxy.dismantle call id record target).Along R := by
  refine frame.bind frame.get fun s => ?_
  split
  · exact frame.bind (frame.releaseInstance calls target) fun _ => frame.pure _
  · exact frame.bind (frame.releaseInstance calls target) fun _ =>
      frame.bind (frame.releaseBinding? _) fun _ => frame.bind (frame.changeRecord _ _) fun _ =>
      frame.bind (frame.tell _) fun _ => frame.bind (frame.mark trivial) fun _ => frame.pure _

theorem cleanupRecord (id : RecordId) (record : Record) :
    (ExtensionProxy.cleanupRecord call id record).Along R := by
  refine frame.bind (frame.mark trivial) fun _ => ?_
  split
  · exact frame.bind (frame.releaseBinding? _) fun _ => frame.bind (frame.changeRecord _ _) fun _ =>
      frame.bind (frame.mark trivial) fun _ => frame.pure _
  · exact frame.bind (frame.changeRecord _ _) fun _ =>
      frame.bind (frame.modify fun _ => ⟨rfl, rfl, rfl⟩) fun _ =>
      frame.bind (frame.releaseOwner _) fun _ => frame.dismantle calls id record _

theorem dropRecord (id : RecordId) : (ExtensionProxy.dropRecord call id).Along R := by
  refine frame.bind frame.get fun s => ?_
  split
  · exact frame.pure ()
  · refine frame.bind (frame.mark trivial) fun _ =>
      frame.bind (frame.modify fun _ => ⟨rfl, rfl, rfl⟩) fun _ => ?_
    split
    · exact frame.ensuring (frame.releaseInstance calls _) (frame.releaseBinding? _)
    · exact frame.releaseBinding? _

theorem retireRecord (id : RecordId) (record : Record) :
    (ExtensionProxy.retireRecord call id record).Along R := by
  have cleans := frame.cleanupRecord calls id record
  -- An initialized record is logged first; what follows is the same for all.
  unfold ExtensionProxy.retireRecord
  split
  case' isTrue => refine frame.bind (frame.tell _) fun _ => ?_
  all_goals
    refine frame.bind cleans fun result => ?_
    cases result with
    | error cause => exact frame.pure _
    | ok _ =>
      exact frame.bind frame.get fun _ => frame.bind (frame.modify fun _ => ⟨rfl, rfl, rfl⟩) fun _ =>
        frame.bind (frame.mark trivial) fun _ => frame.bind (frame.tell _) fun _ => frame.pure _

theorem unloadRecord (id : RecordId) (record : Record) :
    (ExtensionProxy.unloadRecord call id record).Along R :=
  frame.ensuring (frame.retireRecord calls id record) (frame.dropRecord calls id)

theorem reachRecord (record : Record) {callback : InstanceId → κ → Run (State κ μ) α}
    (runs : ∀ target code, (callback target code).Along R) :
    (ExtensionProxy.reachRecord call record callback).Along R := by
  unfold ExtensionProxy.reachRecord
  split
  · exact frame.pure none
  · next target _ =>
    refine frame.bind (frame.deliver calls target (runs target)) fun delivery => ?_
    cases delivery with
    | delivered value => exact frame.pure _
    | gone => exact frame.pure _
    | busy => exact frame.bind (frame.tell _) fun _ => frame.pure _

theorem showHelp (record : Record) : (ExtensionProxy.showHelp call record).Along R :=
  frame.reachRecord calls record fun _ _ => calls _

theorem helpRecord (record : Record) : (ExtensionProxy.helpRecord call record).Along R := by
  unfold ExtensionProxy.helpRecord
  split
  · refine frame.bind (frame.showHelp calls record) fun shown => ?_
    split
    · exact frame.pure true
    · exact frame.bind (calls (.openUri _)) fun _ => frame.pure true
  · exact frame.pure false

theorem configureRecord (record : Record) (dialog : DialogHandle) :
    (ExtensionProxy.configureRecord call record dialog).Along R := by
  unfold ExtensionProxy.configureRecord
  split
  · refine frame.bind (frame.reachRecord calls record fun _ _ => calls (.configure _ _ dialog))
      fun built => ?_
    split
    · exact frame.pure _
    · exact frame.pure _
  · exact frame.pure none

/-! ## Slots -/

theorem storeRecord (slot : String) (id : RecordId) :
    (ExtensionProxy.storeRecord call slot id).Along R := by
  refine frame.bind frame.get fun s => frame.bind (frame.modify fun _ => ⟨rfl, rfl, rfl⟩) fun _ => ?_
  split
  · exact frame.dropRecord calls _
  · exact frame.pure ()

theorem withRecord (slot : String) {work : RecordId → Record → Run (State κ μ) α}
    (works : ∀ id record, (work id record).Along R) :
    (ExtensionProxy.withRecord call slot work).Along R := by
  refine frame.bind (frame.takeRecord slot) fun taken => ?_
  split
  · exact frame.pure none
  · exact frame.bind (frame.ensuring (works _ _) (frame.storeRecord calls slot _)) fun _ => frame.pure _

theorem loadSlot (site : Site κ) (slot : String) (handle : ExtensionHandle) (path : String) :
    (ExtensionProxy.loadSlot site call slot handle path).Along R := by
  refine frame.bind (frame.loadRecord site handle path) fun loaded => ?_
  split
  · exact frame.pure none
  · exact frame.bind frame.get fun _ => frame.bind (frame.storeRecord calls slot _) fun _ =>
      frame.pure _

theorem unloadSlot (slot : String) : (ExtensionProxy.unloadSlot call slot).Along R := by
  refine frame.bind (frame.takeRecord slot) fun taken => ?_
  split
  · exact frame.pure none
  · exact frame.bind (frame.unloadRecord calls _ _) fun _ => frame.pure _

theorem dropSlot (slot : String) : (ExtensionProxy.dropSlot call slot).Along R := by
  refine frame.bind (frame.takeRecord slot) fun taken => ?_
  split
  · exact frame.pure false
  · exact frame.bind (frame.dropRecord calls _) fun _ => frame.pure true

theorem deliverHelp (handle : ExtensionHandle) :
    (ExtensionProxy.deliverHelp call handle).Along R := by
  refine frame.bind frame.get fun s => ?_
  split
  · exact frame.pure none
  · exact frame.bind (frame.deliver calls _ fun code => calls (.help _ code)) fun _ => frame.pure _

/-! ## Deferred tasks -/

theorem runDeferred (task : Task (Deferred κ)) : (ExtensionProxy.runDeferred call task).Along R := by
  unfold ExtensionProxy.runDeferred
  split
  · exact calls (.task _)
  · refine frame.bind (frame.notify calls _ _ _) fun delivery => ?_
    cases delivery with
    | busy => exact frame.bind (frame.mark trivial) fun _ => frame.tell _
    | gone => exact frame.mark trivial
    | delivered value => exact frame.pure ()

theorem drainBelow (limit most : Nat) :
    (TaskQueue.drainBelow State.tasksLens (ExtensionProxy.runDeferred call) limit most).Along R := by
  induction most with
  | zero => exact frame.pure 0
  | succ most ih =>
    refine frame.bind (frame.gets _) fun queue => ?_
    split
    · exact frame.pure 0
    · exact frame.bind (fun s => frame.retask _ s) fun _ => frame.bind (frame.runDeferred calls _)
        fun _ => frame.bind ih fun _ => frame.pure _

theorem runPending : (ExtensionProxy.runPending call).Along R := by
  refine frame.bind frame.get fun s => frame.bind (frame.during _ _ ?_) fun ran => ?_
  · refine frame.onStop ?_ (frame.mark trivial)
    refine frame.bind ?_ fun ran => frame.bind (frame.mark trivial) fun _ => frame.pure ran
    exact frame.bind (frame.gets _) fun queue => frame.drainBelow calls _ _
  · split
    · exact frame.bind frame.get fun _ => frame.bind (frame.tell _) fun _ => frame.pure ran
    · exact frame.pure ran

/-! ## All requests -/

omit calls in
theorem disconnectOwner (meant : Topic → Bool) (owner : ExtensionHandle) :
    (ExtensionProxy.disconnectOwner meant owner : Run (State κ μ) Nat).Along R :=
  frame.bind frame.get fun _ => frame.bind (frame.modify fun _ => ⟨rfl, rfl, rfl⟩) fun _ =>
    frame.pure _

omit calls in
theorem bindModule (binder : Binder κ) (files : FileTree κ) (path factory : String) :
    (ExtensionProxy.bindModule binder files path factory : Run (State κ μ) _).Along R := by
  refine frame.bind (frame.bench _) fun bound => ?_
  cases bound with
  | ok binding => exact frame.pure _
  | error cause => exact frame.pure _

omit calls in
theorem tryModule (files : FileTree κ) (path factory : String) :
    (ExtensionProxy.tryModule files path factory : Run (State κ μ) _).Along R := by
  refine frame.bind (frame.bench _) fun loaded => ?_
  cases loaded with
  | some binding => exact frame.bind (frame.releaseBinding? (some _)) fun _ => frame.pure _
  | none => exact frame.pure _

/-- A request that neither registers nor evicts a document keeps a frame that dispatches keep. -/
theorem answer (dispatches : ∀ event, (ExtensionProxy.dispatch call event).Along R) (site : Site κ)
    {request : Request κ μ} (plain : request.isRegistering = false) :
    (ExtensionProxy.answer site call request).Along R := by
  cases request with
  | dispatch event => exact dispatches event
  | load slot handle path => exact frame.loadSlot calls site slot handle path
  | init slot =>
    exact frame.withRecord calls slot fun id record => frame.initRecord calls site id record
  | cleanup slot =>
    exact frame.withRecord calls slot fun id record => frame.cleanupRecord calls id record
  | unload slot => exact frame.unloadSlot calls slot
  | dropRecord slot => exact frame.dropSlot calls slot
  | help slot => exact frame.withRecord calls slot fun _ record => frame.helpRecord calls record
  | configure slot dialog =>
    exact frame.withRecord calls slot fun _ record => frame.configureRecord calls record dialog
  | showHelp slot => exact frame.withRecord calls slot fun _ record => frame.showHelp calls record
  | deliver handle => exact frame.deliverHelp calls handle
  | probe path => exact frame.bench _
  | runPending => exact frame.runPending calls
  | schedule owner code => exact fun s => frame.retask _ s
  | cancel owner =>
    exact frame.bind (frame.mark trivial) fun _ => frame.bind frame.get fun _ =>
      frame.bind (fun s => frame.retask _ s) fun _ => frame.pure _
  | release owner => exact frame.bind (frame.mark trivial) fun _ => frame.releaseOwner owner
  | addDocument | removeDocument => cases plain
  | connect topic owner code =>
    exact frame.bind frame.get fun _ => frame.bind (frame.modify fun _ => ⟨rfl, rfl, rfl⟩) fun _ =>
      frame.pure _
  | disconnect topic id =>
    exact frame.bind frame.get fun _ => frame.bind (frame.modify fun _ => ⟨rfl, rfl, rfl⟩) fun _ =>
      frame.pure _
  | disconnectDocument | disconnectWorkspace => exact frame.disconnectOwner _ _
  | emit topic emitted => exact frame.emitTopic fun _ => calls _
  | reloadCategories => exact frame.reloadCategories
  | dropWorkspace => exact frame.setWorkspace none
  | bind path factory => exact frame.bindModule _ _ path factory
  | unbind id => exact frame.bind (frame.mark trivial) fun _ => frame.releaseBinding? (some id)
  | loadModule path factory => exact frame.tryModule _ path factory
  | tell event => exact frame.tell event
  | setHost | remember => exact frame.modify fun _ => ⟨rfl, rfl, rfl⟩

end LooseFrame

end ExtensionProxy
