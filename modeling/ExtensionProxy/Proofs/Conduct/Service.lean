import ExtensionProxy.Proofs.Conduct.Dispatch
import ExtensionProxy.Proofs.Conduct.Slots

/-!
# Every request is carried out lawfully

The requests are taken one after the other, given that foreign code is lawful.  A program of foreign
code only makes such requests, so by induction on the levels of the stack every call is lawful, and
so is every program at the top of it.
-/

set_option autoImplicit false

namespace ExtensionProxy

open Ledger

variable {κ μ α : Type} {c : Ledger κ} {base : List (Activity κ)} {call : Caller κ μ}
  {s : State κ μ}

/-! ## Deferred tasks -/

namespace Lawful

/-- The first task is taken from the queue and done, or dropped if it is a notice that nobody is
there to take. -/
theorem runDeferred (lawful : call.IsLawful) (sound : s.ledger.Sound) {limit : Nat}
    {task : Task (Deferred κ)} {tasks : TaskQueue (Deferred κ)}
    (top : s.ledger.stack = .drain limit :: base)
    (taken : s.tasks.takeBelow limit = some (task, tasks)) :
    ∃ d, Step s.ledger d ∧ d.context.tasks = tasks ∧ Exec {} s.ledger true d ∧
      Lawful {} d s.ledger.stack true
        (ExtensionProxy.runDeferred call.noting task { s with tasks := tasks }) := by
  let rest : State κ μ := { s with tasks := tasks }
  simp only [ExtensionProxy.runDeferred]
  cases what : task.code with
  | task code =>
    have step := Step.perform s.ledger limit base task tasks code top taken what
    exact ⟨_, step, rfl, .of_quiet step rfl (fun _ _ => rfl) rfl (fun _ => rfl) nofun,
      plain_call (s := rest) lawful (.task code) (.inr (.inl ⟨code, rfl⟩)) (step.sound sound)⟩
  | delivery target handle number notice event =>
    have lost : (∀ found, ¬s.ledger.IsReady target found) → ∃ d, Step s.ledger d ∧
        d.context.tasks = tasks ∧ Exec {} s.ledger true d ∧
        d = (rest.note (.lost number target)).ledger := fun unready =>
      have step := Step.lose s.ledger limit base task tasks target handle number notice event top
        taken what unready
      ⟨_, step, rfl, .of_quiet step rfl (fun _ _ => rfl) rfl (fun _ => rfl) nofun, rfl⟩
    simp only [ExtensionProxy.notify]
    rcases deliver_cases call.noting target
      (fun code => call.noting (.notify target code number notice)) rest with
      ⟨found, ready, run⟩ | ⟨busy, run⟩ | ⟨gone, run⟩
    · have step := Step.redeliver s.ledger limit base task tasks target handle number notice event
        found top taken what ready
      refine ⟨_, step, rfl, .of_quiet step rfl (fun _ _ => rfl) rfl (fun _ => rfl) nofun, ?_⟩
      have inner := enterInstance (s := rest) lawful target
        (.notify target found.code number notice) rfl (step.sound sound)
      cases entered : ExtensionProxy.enterInstance call.noting target
          (call.noting (.notify target found.code number notice)) rest with
      | mk result reached =>
        obtain ⟨exec, stack⟩ := inner
        rw [entered] at exec stack
        cases result with
        | error stop =>
          rw [Run.bind_apply_of_error _ (run.trans (Run.bind_apply_of_error _ entered))]
          exact ⟨exec, stack⟩
        | ok value =>
          rw [Run.bind_apply_of_ok _ (run.trans (Run.bind_apply_of_ok _ entered))]
          exact ⟨exec, stack⟩
    · obtain ⟨d, step, same, exec, rfl⟩ := lost fun found ready =>
        Bool.false_ne_true (ready.isRunning.symm.trans busy)
      refine ⟨_, step, same, exec, ?_⟩
      rw [Run.bind_apply_of_ok _ run]
      exact done (s := (rest.note _).tell _) (.refl nofun) rfl
    · obtain ⟨d, step, same, exec, rfl⟩ := lost fun found ready =>
        Bool.false_ne_true (gone.symm.trans ready.isAlive)
      refine ⟨_, step, same, exec, ?_⟩
      rw [Run.bind_apply_of_ok _ run]
      exact done (s := rest.note _) (.refl nofun) rfl

/-- As many rounds are enough as there are tasks below the limit. -/
theorem drainBelow (lawful : call.IsLawful) {limit : Nat} (most : Nat) :
    ∀ s : State κ μ, s.ledger.Sound → s.ledger.stack = .drain limit :: base →
      limit ≤ s.tasks.nextSeq → (s.tasks.below limit).length ≤ most →
      Yields {} s.ledger s.ledger.stack
        (TaskQueue.drainBelow State.tasksLens (ExtensionProxy.runDeferred call.noting) limit most s)
        fun _ d => d.context.tasks.takeBelow limit = none := by
  induction most with
  | zero =>
    intro s sound top old enough
    refine .done (.refl nofun) rfl ?_
    refine (TaskQueue.takeBelow_eq_none sound.ordered).mpr fun task there => ?_
    have none : s.tasks.below limit = [] := List.eq_nil_of_length_eq_zero (Nat.le_zero.mp enough)
    exact Nat.le_of_not_lt fun early => List.filter_eq_nil_iff.mp none task there (by simpa)
  | succ most ih =>
    intro s sound top old enough
    simp only [TaskQueue.drainBelow, Run.gets_bind_apply]
    cases taken : s.tasks.takeBelow limit with
    | none =>
      simp only [show (State.tasksLens.get s).takeBelow limit = none from taken]
      exact .done (.refl nofun) rfl taken
    | some first =>
      obtain ⟨task, tasks⟩ := first
      simp only [show (State.tasksLens.get s).takeBelow limit = some (task, tasks) from taken,
        Run.modify_bind_apply]
      obtain ⟨d, step, same, start, inner⟩ := runDeferred lawful sound top taken
      obtain ⟨all, early, next⟩ := TaskQueue.takeBelow_eq_some taken
      have fewer : (d.context.tasks.below limit).length ≤ most := by
        have split : s.tasks.below limit = task :: tasks.below limit := by
          simp [TaskQueue.below, all, early]
        rw [split] at enough
        rw [same]
        exact Nat.le_of_succ_le_succ enough
      have later : limit ≤ d.context.tasks.nextSeq := by
        rw [same, next]
        exact old
      -- Whatever the task does, no more tasks are left below the limit afterwards.
      have left : Yields {} s.ledger s.ledger.stack
          (ExtensionProxy.runDeferred call.noting task { s with tasks := tasks })
          fun _ d => (d.context.tasks.below limit).length ≤ most ∧ limit ≤ d.context.tasks.nextSeq := by
        refine ⟨after start inner, fun _ reached run => ?_⟩
        have path := inner.exec.path
        rw [run] at path
        obtain ⟨sub, grown⟩ := path.below_shrinks later
        exact ⟨Nat.le_trans sub.length_le fewer, Nat.le_trans later grown⟩
      refine .bind sound left fun _ reached sound now stack => ?_
      refine .bind sound (ih reached sound (stack.trans top) now.2 now.1) fun _ _ _ none _ => ?_
      exact .done (.refl nofun) rfl none

/-- The deferred tasks that wait are done. -/
theorem runPending (lawful : call.IsLawful) (sound : s.ledger.Sound) :
    Lawful {} s.ledger s.ledger.stack true (ExtensionProxy.runPending call.noting s) := by
  let limit := s.tasks.nextSeq
  let begun := s.note (.began (.drain limit))
  have step : Step s.ledger begun.ledger := .drain s.ledger
  have start : Exec {} s.ledger true begun.ledger :=
    .of_quiet step rfl (fun _ _ => rfl) rfl (fun _ => rfl) (by simp)
  have enough : (begun.tasks.below limit).length ≤ s.tasks.tasks.length :=
    List.length_filter_le _ _
  have inside := drainBelow lawful s.tasks.tasks.length begun (step.sound sound) rfl
    (Nat.le_refl limit) enough
  let drain : Run (State κ μ) Nat := TaskQueue.drain State.tasksLens
    (ExtensionProxy.runDeferred call.noting)
  let body : Run (State κ μ) Nat := Run.onStop (drain >>= fun ran => Run.note .drained >>= fun _ =>
    pure ran) (Run.note .broken)
  -- Either the drain came to its end or it was stopped, and the history says which.
  have told : Lawful {} begun.ledger begun.ledger.stack true (body begun) ∧
      ∃ moment past, (body begun).2.ledger.history = moment :: past ∧
        (moment.what = .drained ∨ moment.what = .broken) := by
    obtain ⟨⟨exec, stack⟩, none⟩ := inside
    change Exec {} begun.ledger (true && (drain begun).1.isOk) (drain begun).2.ledger at exec
    change (drain begun).2.ledger.stack = _ at stack
    cases run : drain begun with
    | mk result reached =>
      rw [run] at exec stack
      cases result with
      | error stop =>
        have broken : body begun = (.error stop, reached.note .broken) := by
          simp only [body, Run.onStop, Run.bind_apply_of_error _ run, Run.note_apply]
        have last : Exec {} reached.ledger false (reached.ledger.note .broken) :=
          ⟨.single (.broken _ limit _ stack), ⟨fun _ _ loose _ => loose, fun _ _ _ _ _ => rfl⟩, by simp,
            fun _ _ _ => rfl, by simp, by simp⟩
        rw [broken]
        exact ⟨⟨exec.trans last, stack⟩, _, _, rfl, .inr rfl⟩
      | ok ran =>
        have drained : body begun = (.ok ran, reached.note .drained) := by
          simp only [body, Run.onStop, Run.bind_apply_of_ok _ run]
          rfl
        have last := Step.drained reached.ledger limit s.ledger.stack stack (none ran reached run)
        rw [drained]
        exact ⟨⟨exec.quiet last rfl (fun _ _ => rfl) rfl fun _ => rfl, stack⟩, _, _, rfl, .inl rfl⟩
  obtain ⟨lawful, finished⟩ := told
  have whole := start.trans lawful.exec
  have top : (body begun).2.ledger.stack = .drain limit :: s.ledger.stack := lawful.stack
  change Lawful _ _ _ _ ((Run.ensuring body (Run.note (.ended (.drain limit))) >>= _) begun)
  refine bind (ensuring_modify (whole.quiet (.endDrain _ limit s.ledger.stack top finished) rfl
    (fun _ _ => rfl) rfl fun _ => rfl) (congrArg List.tail top)) fun ran reached _ exec stack => ?_
  by_cases some : ran > 0
  · simp only [some, if_true, Run.get_bind_apply]
    exact done (s := reached.tell _) exec stack
  · simp only [some, if_false]
    exact done exec stack

end Lawful

/-! ## Bindings by hand -/

/-- A run that gives back every binding that it takes. -/
def Bench.Probes (run : Run Bench α) : Prop :=
  ∀ bench, ∃ extra log, (run bench).2 = ⟨bench.held, bench.next + extra, log⟩

namespace Bench.Probes

variable {β : Type}

/-- A run that takes no binding. -/
theorem of_log {run : Run Bench α} (h : ∀ bench, ∃ log, (run bench).2 = { bench with log := log }) :
    Probes run := fun bench =>
  (h bench).elim fun log same => ⟨0, log, same⟩

theorem bind {run : Run Bench α} {next : α → Run Bench β} (first : Probes run)
    (rest : ∀ value, Probes (next value)) : Probes (run >>= next) := by
  intro bench
  obtain ⟨extra, log, same⟩ := first bench
  cases h : run bench with
  | mk result reached =>
    rw [h] at same
    cases result with
    | error stop => exact ⟨extra, log, by rw [Run.bind_apply_of_error next h, same]⟩
    | ok value =>
      obtain ⟨more, log, last⟩ := rest value reached
      refine ⟨extra + more, log, ?_⟩
      have same : reached = ⟨bench.held, bench.next + extra, _⟩ := same
      rw [Run.bind_apply_of_ok next h, last, same, Nat.add_assoc]

end Bench.Probes

namespace Site

variable (site : Site κ) (path : String)

theorem acceptsDescriptor_probes : Bench.Probes (site.acceptsDescriptor path) := by
  refine .of_log fun bench => ?_
  simp only [acceptsDescriptor]
  cases site.descriptor path <;> exact ⟨_, rfl⟩

theorem acceptsModule_probes : Bench.Probes (site.acceptsModule path) := by
  intro bench
  simp only [acceptsModule, Bench.bindBy]
  cases site.binder.bind site.files path site.settings.loader.factorySymbol with
  | error cause => exact ⟨0, _, rfl⟩
  | ok factory =>
    refine ⟨1, bench.log, ?_⟩
    change (⟨(⟨bench.next⟩ :: bench.held).erase ⟨bench.next⟩, _, _⟩ : Bench) = _
    rw [List.erase_cons_head]

theorem counterpart_probes : Bench.Probes (site.settings.loader.counterpart path) := by
  refine .of_log fun bench => ?_
  simp only [LoaderSettings.counterpart]
  cases site.settings.loader.counterpartExtension (site.settings.loader.classify path) with
  | none => exact ⟨_, rfl⟩
  | some extension =>
    dsimp only
    cases Path.withExtension? path extension <;> exact ⟨_, rfl⟩

theorem probe_probes : Bench.Probes (site.probe path) := by
  have ignored : ∀ outcome : ProbeOutcome, Bench.Probes (pure outcome) := fun _ =>
    .of_log fun bench => ⟨bench.log, rfl⟩
  have refused : Bench.Probes (pure false) := .of_log fun bench => ⟨bench.log, rfl⟩
  have descriptor : Bench.Probes (site.probeDescriptor path) := by
    refine (site.acceptsDescriptor_probes path).bind fun accepted => ?_
    cases accepted with
    | false => exact refused
    | true =>
      refine (site.counterpart_probes path).bind fun other => ?_
      cases other with
      | none => exact refused
      | some other => exact site.acceptsModule_probes other
  have module : Bench.Probes (site.probeModule path) := by
    refine (site.acceptsModule_probes path).bind fun accepted => ?_
    cases accepted with
    | false => exact refused
    | true =>
      refine (site.counterpart_probes path).bind fun other => ?_
      cases other with
      | none => exact refused
      | some other => exact site.acceptsDescriptor_probes other
  have judged : Bench.Probes (site.judge path) := by
    simp only [judge]
    split
    · exact descriptor.bind fun accepted => by cases accepted <;> exact ignored _
    · exact module.bind fun accepted => by cases accepted <;> exact ignored _
    · exact ignored _
  refine judged.bind fun outcome => ?_
  exact .of_log fun bench => ⟨_, rfl⟩

end Site

namespace Lawful

/-- Probing a path binds its module for a moment, and nothing happens meanwhile. -/
theorem probe (site : Site κ) (path : String) :
    Lawful {} s.ledger s.ledger.stack true (Run.zoom State.benchLens (site.probe path) s) := by
  have exec : ∀ extra ok, Exec {} s.ledger ok { s.ledger with next := s.bench.next + extra } := by
    intro extra ok
    induction extra with
    | zero => exact .refl nofun
    | succ extra ih => exact ih.quiet (.probe _) rfl (fun _ _ => rfl) rfl fun _ => rfl
  obtain ⟨extra, log, same⟩ := site.probe_probes path s.bench
  have ledger : (Run.zoom State.benchLens (site.probe path) s).2.ledger
      = { s.ledger with next := s.bench.next + extra } := by
    simp only [Run.zoom, State.ledger, State.benchLens, same]
  refine ⟨?_, ?_⟩
  · rw [ledger]
    exact exec extra _
  · rw [ledger]
    rfl

/-- A module is bound by hand. -/
theorem bindModule (binder : Binder κ) (files : FileTree κ) (path factory : String) :
    Lawful {} s.ledger s.ledger.stack true
      (ExtensionProxy.bindModule binder files path factory s) := by
  simp only [ExtensionProxy.bindModule, Bench.bindBy]
  cases found : binder.bind files path factory with
  | error cause => exact done (.refl (by simp)) rfl
  | ok factory =>
    exact done (.of_quiet (.bind s.ledger) rfl (fun _ _ => rfl) rfl (fun _ => rfl) (by simp)) rfl

/-- A module is loaded as a library and released at once. -/
theorem tryModule (sound : s.ledger.Sound) (files : FileTree κ) (path factory : String) :
    Lawful {} s.ledger s.ledger.stack true (ExtensionProxy.tryModule files path factory s) := by
  simp only [ExtensionProxy.tryModule]
  cases binds : Binder.libraries.bind files path factory with
  | ok found =>
    obtain ⟨log, load⟩ := loadBy_apply_of_ok binds s
    have spent : s.ledger.bind.IsSpent ⟨s.bench.next⟩ :=
      ⟨Nat.lt_succ_self _, fun id held => Nat.lt_irrefl _ (sound.holdings.bound id _ held),
        fun under => Nat.lt_irrefl _ (sound.holdings.building _ under).1⟩
    have taken : Exec {} s.ledger true s.ledger.bind :=
      .of_quiet (.bind s.ledger) rfl (fun _ _ => rfl) rfl (fun _ => rfl) nofun
    have back := taken.quiet spent.release rfl (fun _ _ => rfl) rfl fun _ => rfl
    rw [Run.bind_apply_of_ok _ load]
    exact done (s := (Run.releaseBinding ⟨s.bench.next⟩ (s.binding log)).2) back rfl
  | error cause =>
    obtain ⟨log, load⟩ := loadBy_apply_of_error binds s
    rw [Run.bind_apply_of_ok _ load]
    exact done (.refl nofun) rfl

end Lawful

/-! ## Requests -/

namespace Lawful

/-- The registered instance of a handle is asked for help. -/
theorem deliverHelp (lawful : call.IsLawful) (sound : s.ledger.Sound) (handle : ExtensionHandle) :
    Lawful {} s.ledger s.ledger.stack true (ExtensionProxy.deliverHelp call.noting handle s) := by
  simp only [ExtensionProxy.deliverHelp, Run.get_bind_apply]
  cases s.registry.get? handle with
  | none => exact done (.refl nofun) rfl
  | some entry =>
    exact map (deliver entry.target fun _ ready => ask lawful sound ready _ (.inl rfl))

/-- Every request is carried out lawfully. -/
theorem answer (lawful : call.IsLawful) (sound : s.ledger.Sound) (site : Site κ)
    (request : Request κ μ) :
    Lawful {} s.ledger s.ledger.stack true (ExtensionProxy.answer site call.noting request s) := by
  cases request with
  | dispatch event => exact dispatch lawful sound event
  | load slot handle path => exact loadSlot lawful sound site slot handle path
  | init slot =>
    exact withRecord lawful sound slot fun id record _ sound found loose =>
      initRecord lawful sound site id record found loose
  | cleanup slot =>
    exact withRecord lawful sound slot fun id record _ sound found loose =>
      cleanupRecord lawful sound id record found loose
  | unload slot => exact unloadSlot lawful sound slot
  | dropRecord slot => exact dropSlot lawful sound slot
  | help slot =>
    exact withRecord lawful sound slot fun _ record _ sound _ _ =>
      (helpRecord lawful sound record).weaken nofun
  | configure slot dialog =>
    exact withRecord lawful sound slot fun _ record _ sound _ _ =>
      (configureRecord lawful sound record dialog).weaken nofun
  | showHelp slot =>
    exact withRecord lawful sound slot fun _ record _ sound _ _ =>
      (showHelp lawful sound record).weaken nofun
  | deliver handle => exact deliverHelp lawful sound handle
  | probe path => exact probe site path
  | runPending => exact runPending lawful sound
  | schedule owner code =>
    exact of_step rfl (.schedule s.ledger owner code) rfl rfl rfl (fun _ => rfl) rfl
  | cancel owner => exact of_step rfl (.cancel s.ledger owner) rfl rfl rfl (fun _ => rfl) rfl
  | release owner => exact of_step rfl (.renounce s.ledger owner) rfl rfl rfl (fun _ => rfl) rfl
  | setHost change => exact done (.refl nofun) rfl
  | addDocument handle => exact addDocument handle
  | removeDocument handle => exact removeDocument handle
  | connect topic owner code =>
    exact of_step rfl (.connect s.ledger topic owner code) rfl rfl rfl (fun _ => rfl) rfl
  | disconnect topic id =>
    exact of_step rfl (.disconnect s.ledger topic id) rfl rfl rfl (fun _ => rfl) rfl
  | disconnectDocument doc owner =>
    exact of_step rfl (.disconnectOwner s.ledger _ owner) rfl rfl rfl (fun _ => rfl) rfl
  | disconnectWorkspace workspace owner =>
    exact of_step rfl (.disconnectOwner s.ledger _ owner) rfl rfl rfl (fun _ => rfl) rfl
  | emit topic emitted => exact emitTopic lawful sound topic emitted
  | reloadCategories => exact reloadCategories
  | dropWorkspace => exact shutWorkspace
  | bind path factory => exact bindModule site.binder site.files path factory
  | unbind id => exact of_step rfl (.unbind s.ledger id) rfl rfl rfl (fun _ => rfl) rfl
  | loadModule path factory => exact tryModule sound site.files path factory
  | tell event => exact done (s := s.tell event) (.refl nofun) rfl
  | remember change => exact done (.refl nofun) rfl

end Lawful

/-! ## Foreign code -/

/-- A program of foreign code only makes requests, so it is lawful if its requests are carried out
lawfully, whatever may be requested. -/
theorem Program.run_lawful {Ask Ring : Type} {Answer : Ask → Type} {Reply : Ring → Type}
    {perform : (request : Ask) → Run (State κ μ) (Answer request)}
    (performs : ∀ (request : Ask) (s : State κ μ), s.ledger.Sound →
      Lawful {} s.ledger s.ledger.stack true (perform request s))
    (program : Program ⟨State κ μ, Ask, Answer, Ring, Reply⟩ α) :
    ∀ s : State κ μ, s.ledger.Sound →
      Lawful {} s.ledger s.ledger.stack true (program.run perform s) := by
  induction program with
  | done value => exact fun _ _ => .done (.refl nofun) rfl
  | ask request next ih =>
    intro s sound
    refine .bind (performs request s sound) fun answer reached _ exec stack => ?_
    exact .resume exec stack (ih answer reached (exec.path.sound sound))
  | look next ih => exact fun s sound => ih s s sound
  | panic message => exact fun _ _ => ⟨.refl nofun, rfl⟩

/-- Every call of foreign code is lawful, however many levels of the stack are left. -/
theorem call_lawful (site : Site κ) (foreign : (proxyInterface κ μ).Foreign) (levels : Nat) :
    Caller.IsLawful ((proxyInterface κ μ).call (serve site) foreign levels) := by
  induction levels with
  | zero => exact fun _ _ _ => ⟨.refl nofun, rfl⟩
  | succ levels ih =>
    exact fun request s sound =>
      Program.run_lawful (fun request _ sound => Lawful.answer ih sound site request)
        (foreign request) s sound

/-- Every program at the top of the stack is lawful. -/
theorem runTop_lawful (site : Site κ) (foreign : (proxyInterface κ μ).Foreign) (levels : Nat)
    (program : Program (proxyInterface κ μ) α) (sound : s.ledger.Sound) :
    Lawful {} s.ledger s.ledger.stack true
      ((proxyInterface κ μ).runTop (serve site) foreign levels program s) :=
  Program.run_lawful (fun request _ sound =>
    Lawful.answer (call_lawful site foreign levels) sound site request) program s sound

end ExtensionProxy
