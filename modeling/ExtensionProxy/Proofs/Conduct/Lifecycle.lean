import ExtensionProxy.Proofs.Conduct.Delivery
import ExtensionProxy.Proofs.Lifecycle

/-!
# The lifecycle of a record is lawful

Each operation on a record is taken apart into the steps of which it consists, with the calls of
foreign code in between.  Whoever works on a record has taken it out of its slot, so that what is
known of it before a call is known after the call, too.
-/

set_option autoImplicit false

namespace ExtensionProxy

open Ledger

variable {κ μ α : Type} {licence : Licence} {c : Ledger κ} {base : List (Activity κ)} {fine : Bool}
  {call : Caller κ μ} {s : State κ μ}

namespace Lawful

/-- A binding that is nobody's is given back. -/
theorem releaseBinding? (id : Option RecordId) (binding : Option BindingId)
    (spent : ∀ given, binding = some given → s.ledger.IsSpent given) :
    Lawful { record := id } s.ledger s.ledger.stack true (Run.releaseBinding? binding s) := by
  obtain ⟨reached, run, ledger⟩ := releaseBinding?_apply binding s
  rw [run]
  refine done ?_ (ledger ▸ stack_release? s.ledger binding)
  rw [ledger]
  cases binding with
  | none => exact .refl nofun
  | some given =>
    exact .of_quiet (spent given rfl).release rfl (fun _ _ => rfl) rfl
      (fun _ => rfl) nofun

end Lawful

/-! ## Dropping and cleaning up -/

theorem record?_changeRecord_of_ne (d : Ledger κ) {id other : RecordId} (h : id ≠ other)
    (change : Record → Record) :
    (d.changeRecord id change).context.record? other = d.context.record? other :=
  (Context.record?_modifyRecord d.context id other change).trans (if_neg h.symm)

theorem record?_eraseRecord_of_ne (d : Ledger κ) {id other : RecordId} (h : id ≠ other) :
    (d.eraseRecord id).context.record? other = d.context.record? other :=
  (record?_eraseRecord d id other).trans (if_neg h.symm)

namespace Lawful

/-- A record that is thrown away. -/
theorem dropRecord (lawful : call.IsLawful) (sound : s.ledger.Sound) (id : RecordId) :
    Lawful { record := some id } s.ledger s.ledger.stack true
      (ExtensionProxy.dropRecord call.noting id s) := by
  simp only [ExtensionProxy.dropRecord, Run.get_bind_apply]
  cases found : s.record? id with
  | none => exact done (.refl nofun) rfl
  | some record =>
    simp only [Run.note_bind_apply, Run.modify_bind_apply]
    let erased : State κ μ := { s.note (.discarded record) with records := s.records.erase id }
    have others : ∀ other, some id ≠ some other →
        erased.ledger.context.record? other = s.ledger.context.record? other := fun other different =>
      record?_eraseRecord_of_ne (s.ledger.note (.discarded record)) fun same =>
        different (congrArg some same)
    cases owns : record.target with
    | none =>
      obtain ⟨reached, run, ledger⟩ := releaseBinding?_apply record.module erased
      have step := Step.discardBare s.ledger id record found owns
      change Lawful _ _ _ _ (Run.releaseBinding? record.module erased)
      rw [run]
      refine done ?_ ?_
      · rw [ledger]
        exact .of_quiet step rfl others rfl (about_release? _ _) nofun
      · rw [ledger]
        exact stack_release? _ _
    | some target =>
      have step := Step.discard s.ledger id record target found owns
      have start : Exec { record := some id } s.ledger true (erased.ledger.letGo target) :=
        .of_quiet step rfl others rfl (about_reap _ _) nofun
      have inner := releaseInstance (s := erased) lawful target (step.sound sound)
      have spent : ∀ binding, record.module = some binding →
          (erased.ledger.letGo target).IsSpent binding := by
        intro binding holds
        have modules : ∀ other, (erased.ledger.letGo target).module? other
            = if other = id then none else s.ledger.module? other :=
          module?_eraseRecord (s.ledger.note (.discarded record)) id
        have builds : (erased.ledger.letGo target).builds = s.ledger.builds := builds_reap _ _
        refine sound.holdings.spent_of_parted ((module?_of_found _ found).trans holds) rfl
          (builds ▸ .refl _) (by simp [modules]) fun other different => ?_
        rw [modules, if_neg different]
      change Lawful _ _ _ _ (Run.ensuring (ExtensionProxy.releaseInstance call.noting target)
        (Run.releaseBinding? record.module) erased)
      refine ensuring (after start inner) (releaseBinding? _ _ fun binding holds => ?_)
      exact inner.exec.path.spent (step.sound sound).filing (spent binding holds)

/-- A record that is cleaned up while it is in no slot. -/
theorem cleanupRecord (lawful : call.IsLawful) (sound : s.ledger.Sound) (id : RecordId)
    (record : Record) (found : s.record? id = some record) (loose : s.ledger.IsLoose id) :
    Lawful { record := some id } s.ledger s.ledger.stack true
      (ExtensionProxy.cleanupRecord call.noting id record s) := by
  have made := sound.filing.lt_of_found found
  cases owns : record.target with
  | none =>
    obtain ⟨reached, run, ledger⟩ := cleanupRecord_apply_of_bare call.noting s id owns
    have step := Step.cleanBare s.ledger id record found owns
    rw [run]
    refine done ?_ ?_ <;> rw [ledger]
    · refine .of_quiet step rfl (fun other different => ?_) rfl (about_release? _ _) nofun
      exact record?_changeRecord_of_ne _ (fun same => different (congrArg some same)) _
    · exact stack_release? _ _
  | some target =>
    let detached := s.detach id record
    have step : Step s.ledger (detached.ledger.letGo target) :=
      .clean s.ledger id record target found owns
    have others : ∀ other, some id ≠ some other →
        (detached.ledger.letGo target).context.record? other = s.ledger.context.record? other :=
      fun other different => record?_changeRecord_of_ne (s.ledger.note (.cleaning record))
        (fun same => different (congrArg some same)) fun record => { record with target := none }
    have start : Exec { record := some id } s.ledger true (detached.ledger.letGo target) :=
      .of_quiet step rfl others rfl (about_reap _ _) nofun
    have inner := releaseInstance (s := detached) lawful target (step.sound sound)
    cases running : s.isRunning target with
    | true =>
      have still : detached.isRunning target = true := running
      rw [releaseInstance_apply_of_running call.noting still] at inner
      rw [cleanupRecord_apply_of_running call.noting id owns running]
      exact done (start.trans (inner.exec.weaken nofun)) inner.stack
    | false =>
      cases ran : ExtensionProxy.releaseInstance call.noting target detached with
      | mk result left =>
        rw [ran] at inner
        have whole := start.trans (inner.exec.weaken nofun)
        cases result with
        | error why =>
          rw [cleanupRecord_apply_of_stopped owns running ran]
          exact ⟨whole, inner.stack⟩
        | ok value =>
          obtain ⟨reached, run, ledger⟩ := cleanupRecord_apply_of_released owns running ran
          have now : left.record? id = some { record with target := none } :=
            (inner.exec.keeps.same id made loose nofun nofun).trans (State.record?_detach found)
          have told : ∃ moment ∈ left.ledger.history, moment.what = .freed record.handle :=
            ⟨_, inner.exec.path.history_grows.subset
              (List.mem_append_right _ List.mem_cons_self), rfl⟩
          have step := Step.cleaned left.ledger id record _ now rfl rfl told
          rw [run]
          refine done ?_ ?_ <;> rw [ledger]
          · refine whole.quiet step rfl (fun other different => ?_) rfl (about_release? _ _)
            exact record?_changeRecord_of_ne _ (fun same => different (congrArg some same)) _
          · exact (stack_release? _ _).trans inner.stack

/-- A record that is cleaned up and taken out of the registry while it is in no slot. -/
theorem retireRecord (lawful : call.IsLawful) (sound : s.ledger.Sound) (id : RecordId)
    (record : Record) (found : s.record? id = some record) (loose : s.ledger.IsLoose id) :
    Lawful { record := some id } s.ledger s.ledger.stack true
      (ExtensionProxy.retireRecord call.noting id record s) := by
  -- The log entry that comes first for an initialized record changes nothing of the ledger.
  have cleaned : ∀ event, Lawful { record := some id } s.ledger s.ledger.stack true
      (ExtensionProxy.cleanupRecord call.noting id record (s.tell event)) := fun event =>
    cleanupRecord (s := s.tell event) lawful sound id record found loose
  simp only [ExtensionProxy.retireRecord]
  split
  · simp only [Run.tell_bind_apply]
    refine bind (cleaned _) fun result reached _ exec stack => ?_
    cases result with
    | error cause => exact done exec stack
    | ok _ =>
      exact done (exec.quiet (.unregister _ record.handle) rfl (fun _ _ => rfl) rfl fun _ => rfl)
        stack
  · refine bind (cleanupRecord lawful sound id record found loose) fun result reached _ exec stack =>
      ?_
    cases result with
    | error cause => exact done exec stack
    | ok _ =>
      exact done (exec.quiet (.unregister _ record.handle) rfl (fun _ _ => rfl) rfl fun _ => rfl)
        stack

/-- A record that is unloaded while it is in no slot. -/
theorem unloadRecord (lawful : call.IsLawful) (sound : s.ledger.Sound) (id : RecordId)
    (record : Record) (found : s.record? id = some record) (loose : s.ledger.IsLoose id) :
    Lawful { record := some id } s.ledger s.ledger.stack true
      (ExtensionProxy.unloadRecord call.noting id record s) := by
  have body := retireRecord lawful sound id record found loose
  exact ensuring body (dropRecord lawful (body.exec.path.sound sound) id)

end Lawful

/-! ## Initializing -/

/-- A binding whose factory was called for nothing is nobody's. -/
theorem Ledger.Holdings.spent_of_built {d : Ledger κ} (h : c.Holdings) {binding : BindingId}
    {code : κ} {context : ExtensionContext} {rest : List (Activity κ)}
    (top : c.stack = .call (.create binding code context) :: rest) (next : d.next = c.next)
    (modules : d.module? = c.module?) (stack : d.builds = rest.filterMap Activity.build?) :
    d.IsSpent binding := by
  have builds : c.builds = binding :: rest.filterMap Activity.build? := by
    rw [builds, top]
    rfl
  obtain ⟨taken, unclaimed⟩ := h.building binding (builds ▸ List.mem_cons_self)
  refine ⟨next ▸ taken, fun id => modules ▸ unclaimed id, ?_⟩
  rw [stack]
  exact (List.nodup_cons.mp (builds ▸ h.builders)).1

namespace Lawful

/-- The instance that a factory has just made is registered, or destroyed again. -/
theorem adopt (lawful : call.IsLawful) (sound : s.ledger.Sound) (id : RecordId) (record : Record)
    (binding : BindingId) (code made : κ) (context : ExtensionContext)
    (top : s.ledger.stack = .call (.create binding code context) :: base)
    (found : s.record? id = some { record with stage := .loaded }) (alone : record.target = none) :
    Lawful { record := some id } s.ledger base true
      (ExtensionProxy.adopt call.noting id record binding made
        (s.note (.ended (.call (.create binding code context))))) := by
  let returned := s.note (.ended (.call (.create binding code context)))
  let appended : State κ μ :=
    { returned with instances := s.instances ++ [⟨made, binding, true, false⟩] }
  have closed : (s.ledger.note (.ended (.call (.create binding code context)))).stack = base :=
    congrArg List.tail top
  cases taken : returned.registry.contains record.handle with
  | true =>
    rw [adopt_apply_of_taken call.noting id binding made taken]
    have step : Step s.ledger (appended.ledger.letGo ⟨s.instances.length⟩) :=
      .duplicate s.ledger binding code made context base top
    have start : Exec { record := some id } s.ledger true
        (appended.ledger.letGo ⟨s.instances.length⟩) :=
      .of_quiet step rfl (fun _ _ => rfl) rfl (about_reap _ _) nofun
    have inner := releaseInstance (s := appended) lawful ⟨s.instances.length⟩ (step.sound sound)
    have spent : (appended.ledger.letGo ⟨s.instances.length⟩).IsSpent binding := by
      refine sound.holdings.spent_of_built top rfl rfl ?_
      rw [letGo, builds_reap]
      exact congrArg (List.filterMap Activity.build?) closed
    change Lawful _ _ _ _ ((Run.ensuring (ExtensionProxy.releaseInstance call.noting
      ⟨s.instances.length⟩) (Run.releaseBinding? (some binding)) >>= fun _ => pure _) appended)
    refine map (ensuring ⟨(after start inner).exec, inner.stack.trans closed⟩
      (releaseBinding? _ _ fun given same => ?_))
    cases same
    exact inner.exec.path.spent (step.sound sound).filing spent
  | false =>
    obtain ⟨reached, run, ledger, -⟩ := adopt_apply_of_free call.noting id binding made taken
    have step := Step.adopt s.ledger id { record with stage := .loaded } binding code made context
      base top found alone taken
    rw [run]
    refine done ?_ ?_ <;> rw [ledger]
    · refine .of_quiet step rfl (fun other different => ?_) rfl (about_release? _ _) nofun
      exact record?_changeRecord_of_ne _ (fun same => different (congrArg some same)) _
    · exact (stack_release? _ _).trans closed

/-- A factory is called for a binding that was just taken, and what comes of it is settled. -/
theorem construct (lawful : call.IsLawful) (sound : c.Sound) (id : RecordId) (record : Record)
    (binding : Binding κ) (fresh : binding.id = ⟨c.next⟩) (bound : s.ledger = c.bind)
    (found : c.context.record? id = some record) (alone : record.target = none)
    (loose : c.IsLoose id) :
    Lawful { record := some id } c c.stack true
      (ExtensionProxy.construct call.noting id record binding s) := by
  let request := record.creating binding.id binding.factory.code s
  let begun := s.creating id record binding
  have step : Step c begun.ledger := .creating bound fresh id record
  have ledger := State.ledger_creating bound id record binding
  have marked := State.record?_creating bound found binding
  have start : Exec { record := some id } c true begun.ledger := by
    refine .of_quiet step ?_ (fun other different => ?_) ?_ (fun _ => ?_) nofun <;> rw [ledger]
    · rfl
    · exact record?_changeRecord_of_ne _ (fun same => different (congrArg some same)) _
    · rfl
    · rfl
  have inner := lawful request begun (step.sound sound)
  cases called : call request begun with
  | mk result returned =>
    rw [called] at inner
    have noted : call.noting request (s.loading id) =
        (result, returned.note (.ended (.call request))) := Caller.noting_apply_of_called called
    have top : returned.ledger.stack = .call request :: c.stack :=
      inner.stack.trans (State.stack_creating bound id record binding)
    have kept : Exec { record := some id } c (true && result.isOk) returned.ledger :=
      start.trans (inner.exec.weaken nofun)
    have declined : Exec { record := some id } c (true && result.isOk)
        ((returned.note (.ended (.call request))).ledger.release binding.id) :=
      kept.quiet (.decline _ binding.id binding.factory.code _ _ top) rfl (fun _ _ => rfl) rfl
        fun _ => rfl
    cases result with
    | error stop =>
      rw [construct_of_stopped noted]
      exact ⟨declined, congrArg List.tail top⟩
    | ok made =>
      cases made with
      | none =>
        obtain ⟨reached, run, ledger⟩ := construct_of_declined noted
        rw [run]
        refine done ?_ ?_ <;> rw [ledger]
        · refine declined.quiet (.restage _ id .probed) rfl (fun other different => ?_) rfl
            fun _ => rfl
          exact record?_changeRecord_of_ne _ (fun same => different (congrArg some same)) _
        · exact congrArg List.tail top
      | some code =>
        have now : returned.record? id = some { record with stage := .loaded } :=
          (inner.exec.keeps.same id ((step.sound sound).filing.lt_of_found marked)
            (ledger ▸ loose) nofun nofun).trans marked
        rw [construct_of_made noted]
        exact follow kept (adopt lawful (kept.path.sound sound) id record binding.id
          binding.factory.code code _ top now alone)

/-- A record that is initialized while it is in no slot. -/
theorem initRecord (lawful : call.IsLawful) (sound : s.ledger.Sound) (site : Site κ) (id : RecordId)
    (record : Record) (found : s.record? id = some record) (loose : s.ledger.IsLoose id) :
    Lawful { record := some id } s.ledger s.ledger.stack true
      (ExtensionProxy.initRecord site call.noting id record s) := by
  cases initRecord_initializing site call.noting id record s with
  | already initialized log ran => exact ran ▸ done (.refl nofun) rfl
  | taken bare taken ran => exact ran ▸ done (.refl nofun) rfl
  | unbound bare free cause log fails ran => exact ran ▸ done (.refl nofun) rfl
  | bound bare free factory log binds ran =>
    have alone := sound.holdings.alone_of_uninitialized found (by simp [bare])
    exact ran ▸ construct lawful sound id record _ rfl rfl found alone loose

end Lawful

/-! ## Asking the instance -/

namespace Lawful

/-- An instance that is ready is asked for help or for a panel. -/
theorem ask (lawful : call.IsLawful) (sound : s.ledger.Sound) {target : InstanceId}
    {found : Instance κ} (ready : s.ledger.IsReady target found) (request : Call κ)
    (asks : request = .help target found.code ∨
      ∃ dialog, request = .configure target found.code dialog) :
    Lawful {} s.ledger s.ledger.stack true
      (ExtensionProxy.enterInstance call.noting target (call.noting request) s) := by
  have step := Step.enter s.ledger target found request ready asks
  have callback : request.target? = some target := by
    rcases asks with rfl | ⟨dialog, rfl⟩ <;> rfl
  exact after (.of_quiet step rfl (fun _ _ => rfl) rfl (fun _ => rfl) nofun)
    (enterInstance lawful target request callback (step.sound sound))

/-- A delivery is lawful if entering a ready instance is. -/
theorem deliver {callback : κ → Run (State κ μ) α} (target : InstanceId)
    (enter : ∀ found, s.ledger.IsReady target found → Lawful {} s.ledger s.ledger.stack true
      (ExtensionProxy.enterInstance call.noting target (callback found.code) s)) :
    Lawful {} s.ledger s.ledger.stack true
      (ExtensionProxy.deliver call.noting target callback s) := by
  rcases deliver_cases call.noting target callback s with ⟨found, ready, run⟩ | ⟨-, run⟩ | ⟨-, run⟩
  · rw [run]
    exact map (enter found ready)
  · rw [run]
    exact done (.refl nofun) rfl
  · rw [run]
    exact done (.refl nofun) rfl

/-- A callback of the instance of a record. -/
theorem reachRecord {callback : InstanceId → κ → Run (State κ μ) α} (record : Record)
    (enter : ∀ target found, s.ledger.IsReady target found →
      Lawful {} s.ledger s.ledger.stack true
        (ExtensionProxy.enterInstance call.noting target (callback target found.code) s)) :
    Lawful {} s.ledger s.ledger.stack true
      (ExtensionProxy.reachRecord call.noting record callback s) := by
  simp only [ExtensionProxy.reachRecord]
  cases record.target with
  | none => exact done (.refl nofun) rfl
  | some target =>
    refine bind (deliver target (enter target)) fun delivery reached _ exec stack => ?_
    cases delivery with
    | delivered value => exact done exec stack
    | gone => exact done exec stack
    | busy => exact done (s := reached.tell _) exec stack

theorem showHelp (lawful : call.IsLawful) (sound : s.ledger.Sound) (record : Record) :
    Lawful {} s.ledger s.ledger.stack true (ExtensionProxy.showHelp call.noting record s) :=
  reachRecord record fun _ _ ready => ask lawful sound ready _ (.inl rfl)

theorem helpRecord (lawful : call.IsLawful) (sound : s.ledger.Sound) (record : Record) :
    Lawful {} s.ledger s.ledger.stack true (ExtensionProxy.helpRecord call.noting record s) := by
  have opened : ∀ reached : State κ μ, reached.ledger.Sound → Lawful {} reached.ledger
      reached.ledger.stack true ((call.noting (.openUri record.descriptor.helpUri) >>= fun _ =>
        pure true) reached) := by
    intro reached sound'
    have step := Step.openUri reached.ledger record.descriptor.helpUri
    exact map (after (.of_quiet step rfl (fun _ _ => rfl) rfl (fun _ => rfl) nofun)
      (plain_call lawful _ (.inr (.inr ⟨_, rfl⟩)) (step.sound sound')))
  simp only [ExtensionProxy.helpRecord]
  split
  · refine bind (showHelp lawful sound record) fun helped reached _ exec stack => ?_
    have refused := resume exec stack (opened reached (exec.path.sound sound))
    match helped with
    | some true => exact done exec stack
    | some false => exact refused
    | none => exact refused
  · exact done (.refl nofun) rfl

theorem configureRecord (lawful : call.IsLawful) (sound : s.ledger.Sound) (record : Record)
    (dialog : DialogHandle) :
    Lawful {} s.ledger s.ledger.stack true
      (ExtensionProxy.configureRecord call.noting record dialog s) := by
  simp only [ExtensionProxy.configureRecord]
  split
  · refine bind (reachRecord record fun _ _ ready => ask lawful sound ready _ (.inr ⟨_, rfl⟩))
      fun panel reached _ exec stack => ?_
    cases panel <;> exact done exec stack
  · exact done (.refl nofun) rfl

end Lawful

end ExtensionProxy
