import ExtensionProxy.Proofs.Bindings
import ExtensionProxy.Proofs.Marks
import ExtensionProxy.Proofs.Runs

/-!
# Modules under running code

Code must not run without its module, and no instance may outlive it.  Records hold the modules of the
instances that they own, so an owned instance is never without its module.  Whether the same is true
of all code is settled here: exactly if no module is given back while its code is on the stack, and
none of its handlers and tasks is left behind that starts later.
-/

set_option autoImplicit false

namespace ExtensionProxy

variable {κ μ : Type}

/-! ## Where code comes from -/

/-- The binding that an instance was made from. -/
def Context.binding? (context : Context κ) (target : InstanceId) : Option BindingId :=
  (context.instance? target).map fun found => found.binding

/-- Whether a call belongs to no instance: handlers and tasks outlive the code that left them. -/
def Call.IsDetached : Call κ → Prop
  | .observe _ _ _ => True
  | .task _ => True
  | _ => False

/-- The binding of the module that the code of a call comes from: for calls of an instance it is the
one that the instance was made from, for handlers and tasks it is the home of their code. -/
def Call.module? (home : κ → Option BindingId) (context : Context κ) : Call κ → Option BindingId
  | .create binding _ _ => some binding
  | .notify target _ _ _ => context.binding? target
  | .configure target _ _ => context.binding? target
  | .help target _ => context.binding? target
  | .dropped target _ => context.binding? target
  | .observe _ slot _ => home slot.code
  | .task code => home code
  | .openUri _ => none

/-- A callback comes from the module of its instance. -/
theorem Call.module?_of_target {home : κ → Option BindingId} {context : Context κ} {call : Call κ}
    {target : InstanceId} (own : call.target? = some target) :
    call.module? home context = context.binding? target := by
  cases call <;> cases own <;> rfl

namespace Ledger

variable (c : Ledger κ)

/-- Changing an instance that stays where it came from changes no binding. -/
theorem binding?_changeInstance (target : InstanceId) (change : Instance κ → Instance κ)
    (same : ∀ found, (change found).binding = found.binding) :
    (c.changeInstance target change).context.binding? = c.context.binding? := by
  funext other
  simp only [Context.binding?, changeInstance, Context.instance?_modifyInstance]
  split
  · simp [Option.map_map, Function.comp_def, same]
  · rfl

theorem binding?_mark (target : InstanceId) (running : Bool) :
    (c.mark target running).context.binding? = c.context.binding? :=
  binding?_changeInstance c target _ fun _ => rfl

theorem binding?_letGo (target : InstanceId) :
    (c.letGo target).context.binding? = c.context.binding? :=
  binding?_changeInstance c target _ fun _ => rfl

/-- An instance was there before, or it is the one that was appended. -/
theorem instance?_append {c : Ledger κ} {target : InstanceId} {found : Instance κ} {code : κ}
    {binding : BindingId} (there : (c.append code binding).context.instance? target = some found) :
    c.context.instance? target = some found ∨ found.binding = binding := by
  simp only [Context.instance?, append, List.getElem?_append] at there
  split at there
  · exact .inl there
  · rw [List.getElem?_singleton] at there
    split at there
    · cases there
      exact .inr rfl
    · cases there

theorem binding?_append {target : InstanceId} {binding : BindingId}
    (made : c.context.binding? target = some binding) (code : κ) (given : BindingId) :
    (c.append code given).context.binding? target = some binding := by
  obtain ⟨found, there, rfl⟩ := Option.map_eq_some_iff.mp made
  have below := (List.getElem?_eq_some_iff.mp there).1
  rw [Context.binding?, Context.instance?, append, List.getElem?_append_left below]
  exact made

theorem binding?_append_self (code : κ) (given : BindingId) :
    (c.append code given).context.binding? ⟨c.context.instances.length⟩ = some given := by
  simp [Context.binding?, Context.instance?, append]

end Ledger

/-- An instance keeps the binding that it was made from. -/
theorem Step.binding? {c d : Ledger κ} (step : Step c d) {target : InstanceId} {binding : BindingId}
    (made : c.context.binding? target = some binding) :
    d.context.binding? target = some binding := by
  cases step with
  | adopt id record given code fresh => exact Ledger.binding?_append c made fresh given
  | duplicate given code fresh factory rest top =>
    rw [Ledger.binding?_letGo]
    exact Ledger.binding?_append c made fresh given
  | clean id record other =>
    rw [Ledger.binding?_letGo]
    exact made
  | discard id record other =>
    rw [Ledger.binding?_letGo]
    exact made
  | enter other | redeliver limit rest task tasks other | leave other =>
    exact (congrFun (Ledger.binding?_mark c other _) target).trans made
  | deliver number notice entry =>
    exact (congrFun (Ledger.binding?_mark c entry.2.target true) target).trans made
  | _ => exact made

/-- Bindings are held as long as they are needed after every path on which nobody gave one back by
hand. -/
theorem Path.kept {c : Ledger κ} (path : Path Ledger.empty c) (none : c.history.NoneUnbound) :
    c.Kept := by
  induction path with
  | refl => exact ⟨.nil, nofun, fun _ ⟨_, there, _⟩ => (List.not_mem_nil there).elim, nofun, nofun⟩
  | tail path step ih =>
    have sound := Path.sound path Ledger.empty_sound
    exact step.kept (ih (none.mono step.history_grows)) sound.filing sound.holdings none

/-! ## The question -/

namespace History

/-- At every moment the modules of the instances that are alive are held, and none of the modules
whose code is on the stack was given back. -/
structure KeepsModules (home : κ → Option BindingId) (context : Context κ) (history : History κ) :
    Prop where
  /-- No instance is without its module. -/
  alive : ∀ moment past, moment :: past <:+ history → ∀ target found,
    moment.context.instance? target = some found → found.isAlive = true →
    found.binding ∈ moment.held
  /-- No code runs without its module. -/
  running : ∀ moment past, moment :: past <:+ history → ∀ call binding,
    .call call ∈ stack (moment :: past) → call.module? home context = some binding →
    ¬GaveBack (moment :: past) binding

/-- Modules are given back only when nothing of them runs or is going to run. -/
structure GivesBackInTime (home : κ → Option BindingId) (context : Context κ)
    (history : History κ) : Prop where
  /-- No module is given back while its code is on the stack. -/
  released : ∀ moment past binding, moment :: past <:+ history → moment.what = .released binding →
    ∀ call, .call call ∈ stack past → call.module? home context ≠ some binding
  /-- No handler and no task starts that was left behind by a module given back. -/
  left : ∀ moment past call binding, moment :: past <:+ history →
    moment.what = .began (.call call) → call.IsDetached →
    call.module? home context = some binding → ¬GaveBack past binding

variable {home : κ → Option BindingId} {context : Context κ} {older newer : History κ}

theorem GivesBackInTime.mono (h : GivesBackInTime home context newer) (grown : older <:+ newer) :
    GivesBackInTime home context older :=
  ⟨fun moment past binding there => h.released moment past binding (there.trans grown),
    fun moment past call binding there => h.left moment past call binding (there.trans grown)⟩

/-- A module that is given back has no code on the stack. -/
theorem GivesBackInTime.quiet (h : GivesBackInTime home context newer) {c : Ledger κ}
    {back : Option BindingId} (grown : (c.release? back).history <:+ newer) :
    ∀ binding, back = some binding →
      ∀ call, .call call ∈ c.stack → call.module? home context ≠ some binding := by
  rintro binding rfl call
  exact h.released _ _ binding grown rfl call

/-- If code never runs without its module, modules are given back in time. -/
theorem KeepsModules.givesBackInTime (h : KeepsModules home context newer) :
    GivesBackInTime home context newer := by
  refine ⟨fun moment past binding there what call going module => ?_,
    fun moment past call binding there what detached module given => ?_⟩
  · have going : Activity.call call ∈ stack (moment :: past) := by
      rw [stack, what]
      exact going
    exact h.running moment past there call binding going module ⟨moment, List.mem_cons_self, what⟩
  · have going : Activity.call call ∈ stack (moment :: past) := by
      rw [stack, what]
      exact List.mem_cons_self
    exact h.running moment past there call binding going module (gaveBack_cons.mpr (.inr given))

end History

/-! ## Code that has its module -/

namespace Ledger

/-- All code has its module, now and at every moment before. -/
structure Covered (home : κ → Option BindingId) (context : Context κ) (c : Ledger κ) : Prop where
  /-- No instance is without its module. -/
  alive : ∀ target found, c.context.instance? target = some found → found.isAlive = true →
    found.binding ∈ c.held
  /-- No code on the stack is without its module. -/
  running : ∀ call binding, .call call ∈ c.stack → call.module? home context = some binding →
    ¬c.history.GaveBack binding
  /-- Nor was any before. -/
  before : c.history.KeepsModules home context

namespace Covered

variable {home : κ → Option BindingId} {context : Context κ} {c d : Ledger κ}

/-- Nothing but the instances, the bindings and the history matters. -/
theorem of_history (h : c.Covered home context)
    (alive : ∀ target found, d.context.instance? target = some found → found.isAlive = true →
      found.binding ∈ d.held)
    (history : d.history = c.history) : d.Covered home context := by
  refine ⟨alive, ?_, history ▸ h.before⟩
  rw [stack, history]
  exact h.running

theorem of_instances (h : c.Covered home context)
    (instances : d.context.instances = c.context.instances) (held : c.held ⊆ d.held)
    (history : d.history = c.history) : d.Covered home context := by
  refine h.of_history (fun target found there alive => held (h.alive target found ?_ alive)) history
  rwa [Context.instance?, ← instances]

/-- A moment at which no code begins without its module and nothing is given back. -/
theorem note (h : c.Covered home context) {what : Happening κ}
    (begins : ∀ call binding, what = .began (.call call) →
      call.module? home context = some binding → ¬c.history.GaveBack binding)
    (keeps : ∀ binding, what ≠ .released binding) : (c.note what).Covered home context := by
  have running : ∀ call binding, .call call ∈ (c.note what).stack →
      call.module? home context = some binding → ¬(c.note what).history.GaveBack binding := by
    intro call binding going module given
    have given : c.history.GaveBack binding :=
      (History.gaveBack_cons.mp given).resolve_left (keeps binding)
    have going : what = .began (.call call) ∨ .call call ∈ c.stack := by
      change Activity.call call ∈ what.shift c.stack at going
      cases what with
      | began activity =>
        rcases List.mem_cons.mp going with rfl | old
        · exact .inl rfl
        · exact .inr old
      | ended => exact .inr (List.mem_of_mem_tail going)
      | _ => exact .inr going
    rcases going with begun | old
    · exact begins call binding begun module given
    · exact h.running call binding old module given
  refine ⟨h.alive, running, fun moment past there target found => ?_,
    fun moment past there call binding => ?_⟩
  · rcases List.suffix_cons_iff.mp there with same | old
    · cases same
      exact h.alive target found
    · exact h.before.alive moment past old target found
  · rcases List.suffix_cons_iff.mp there with same | old
    · rw [same]
      exact running call binding
    · exact h.before.running moment past old call binding

theorem ended (h : c.Covered home context) (activity : Activity κ) :
    (c.note (.ended activity)).Covered home context :=
  h.note (by simp) (by simp)

/-! What has nothing to do with instances, bindings and calls -/

theorem bind (h : c.Covered home context) : c.bind.Covered home context :=
  h.of_instances rfl (List.subset_cons_self _ _) rfl

theorem changeRecord (h : c.Covered home context) (id : RecordId) (change : Record → Record) :
    (c.changeRecord id change).Covered home context :=
  h.of_instances rfl (List.Subset.refl _) rfl

theorem eraseRecord (h : c.Covered home context) (id : RecordId) :
    (c.eraseRecord id).Covered home context :=
  h.of_instances rfl (List.Subset.refl _) rfl

theorem register (h : c.Covered home context) (handle : ExtensionHandle) (entry : Registration) :
    (c.register handle entry).Covered home context :=
  h.of_instances rfl (List.Subset.refl _) rfl

theorem unregister (h : c.Covered home context) (handle : ExtensionHandle) :
    (c.unregister handle).Covered home context :=
  h.of_instances rfl (List.Subset.refl _) rfl

theorem setTasks (h : c.Covered home context) (tasks : TaskQueue (Deferred κ)) :
    (c.setTasks tasks).Covered home context :=
  h.of_instances rfl (List.Subset.refl _) rfl

theorem changeSignal (h : c.Covered home context) (topic : Topic) (change : Signal κ → Signal κ) :
    (c.changeSignal topic change).Covered home context :=
  h.of_instances rfl (List.Subset.refl _) rfl

theorem advance (h : c.Covered home context) : c.advance.Covered home context :=
  h.of_instances rfl (List.Subset.refl _) rfl

theorem evict (h : c.Covered home context) (doc : DocumentHandle) :
    (c.evict doc).Covered home context := by
  have erased : { c with context.documents := c.context.documents.erase doc }.Covered home context :=
    h.of_instances rfl (List.Subset.refl _) rfl
  exact erased.note (by simp) (by simp)

theorem setWorkspace (h : c.Covered home context) (workspace : Option WorkspaceId) :
    (c.setWorkspace workspace).Covered home context := by
  have replaced : { c with context.workspace := workspace }.Covered home context :=
    h.of_instances rfl (List.Subset.refl _) rfl
  exact replaced.note (by simp) (by simp)

theorem openWorkspace (h : c.Covered home context) : c.openWorkspace.Covered home context := by
  have counted : { c with opened := c.opened + 1 }.Covered home context :=
    h.of_instances rfl (List.Subset.refl _) rfl
  exact counted.setWorkspace _

theorem free (h : c.Covered home context) (owner : ExtensionHandle) :
    (c.free owner).Covered home context := by
  have noted : (c.note (.freed owner)).Covered home context := h.note (by simp) (by simp)
  exact noted.of_instances rfl (List.Subset.refl _) rfl

/-! Instances -/

/-- A change that makes no dead instance alive. -/
theorem changeInstance (h : c.Covered home context) (target : InstanceId)
    (change : Instance κ → Instance κ) (same : ∀ found, (change found).binding = found.binding)
    (alive : ∀ found, c.context.instance? target = some found → (change found).isAlive = true →
      found.isAlive = true) : (c.changeInstance target change).Covered home context := by
  refine h.of_history (fun other found there living => ?_) rfl
  rw [Ledger.changeInstance, Context.instance?_modifyInstance] at there
  split at there
  · next at_ =>
    subst at_
    obtain ⟨old, here, rfl⟩ := Option.map_eq_some_iff.mp there
    rw [same]
    exact h.alive other old here (alive old here living)
  · exact h.alive other found there living

/-- An instance is destroyed while its module is held. -/
theorem reap (h : c.Covered home context) (target : InstanceId)
    (kept : ∀ binding, context.binding? target = some binding → ¬c.history.GaveBack binding) :
    (c.reap target).Covered home context := by
  cases there : c.context.instance? target with
  | none => rwa [reap_of_none c there]
  | some found =>
    cases alive : found.isAlive with
    | true => rwa [reap_of_alive c there alive]
    | false =>
      rw [reap_of_dead c there alive]
      refine h.note (fun call binding begun module => ?_) nofun
      cases begun
      exact kept binding module

theorem letGo (h : c.Covered home context) (target : InstanceId)
    (kept : ∀ binding, context.binding? target = some binding → ¬c.history.GaveBack binding) :
    (c.letGo target).Covered home context := by
  refine (h.changeInstance target (fun found => { found with owned := false }) (fun _ => rfl)
    fun found _ living => ?_).reap target kept
  simp only [Instance.isAlive, Bool.false_or] at living
  simp [Instance.isAlive, living]

/-- The mark of an instance that is alive may be set, that of any may be taken back. -/
theorem mark (h : c.Covered home context) (target : InstanceId) (running : Bool)
    (ready : running = true → ∃ found, c.IsReady target found) :
    (c.mark target running).Covered home context := by
  refine h.changeInstance target _ (fun _ => rfl) fun found there living => ?_
  cases running with
  | true =>
    obtain ⟨other, here, owned, -⟩ := ready rfl
    rw [there] at here
    cases here
    simp [Instance.isAlive, owned]
  | false =>
    simp only [Instance.isAlive, Bool.or_false] at living
    simp [Instance.isAlive, living]

/-- An instance is made while its module is held. -/
theorem append (h : c.Covered home context) (code : κ) {binding : BindingId}
    (held : binding ∈ c.held) : (c.append code binding).Covered home context := by
  refine h.of_history (fun target found there alive => ?_) rfl
  rcases instance?_append there with old | made
  · exact h.alive target found old alive
  · exact made ▸ held

/-- An instance is called back while its module is held. -/
theorem enter (h : c.Covered home context) {target : InstanceId} {found : Instance κ}
    (able : c.IsReady target found) {call : Call κ} (own : call.target? = some target)
    (kept : ∀ binding, context.binding? target = some binding → ¬c.history.GaveBack binding) :
    ((c.mark target true).note (.began (.call call))).Covered home context := by
  refine (h.mark target true fun _ => ⟨found, able⟩).note (fun other binding begun module => ?_)
    (by simp)
  cases begun
  exact kept binding ((Call.module?_of_target own).symm.trans module)

/-- A binding is given back when no instance needs it and none of its code is on the stack. -/
theorem release (h : c.Covered home context) {binding : BindingId}
    (spare : ∀ target found, c.context.instance? target = some found → found.isAlive = true →
      found.binding ≠ binding)
    (quiet : ∀ call, .call call ∈ c.stack → call.module? home context ≠ some binding) :
    (c.release binding).Covered home context := by
  have alive : ∀ target found, c.context.instance? target = some found → found.isAlive = true →
      found.binding ∈ c.held.erase binding := fun target found there living =>
    (List.mem_erase_of_ne (spare target found there living)).mpr (h.alive target found there living)
  have running : ∀ call other, .call call ∈ (c.release binding).stack →
      call.module? home context = some other → ¬(c.release binding).history.GaveBack other := by
    intro call other going module given
    rcases History.gaveBack_cons.mp given with same | old
    · cases same
      exact quiet call going module
    · exact h.running call other going module old
  refine ⟨alive, running, fun moment past there target found => ?_,
    fun moment past there call other => ?_⟩
  · rcases List.suffix_cons_iff.mp there with same | old
    · cases same
      exact alive target found
    · exact h.before.alive moment past old target found
  · rcases List.suffix_cons_iff.mp there with same | old
    · rw [same]
      exact running call other
    · exact h.before.running moment past old call other

theorem release? (h : c.Covered home context) (back : Option BindingId)
    (spare : ∀ binding, back = some binding → ∀ target found,
      c.context.instance? target = some found → found.isAlive = true → found.binding ≠ binding)
    (quiet : ∀ binding, back = some binding →
      ∀ call, .call call ∈ c.stack → call.module? home context ≠ some binding) :
    (c.release? back).Covered home context := by
  cases back with
  | none => exact h
  | some binding => exact h.release (spare binding rfl) (quiet binding rfl)

/-! Instances that have their module -/

section

variable (h : c.Covered home context) (kept : c.Kept)
  (known : ∀ target found, c.context.instance? target = some found →
    context.binding? target = some found.binding)
include h kept known

/-- An instance that is alive has its module. -/
theorem living {target : InstanceId} {found : Instance κ}
    (there : c.context.instance? target = some found) (alive : found.isAlive = true)
    (binding : BindingId) (module : context.binding? target = some binding) :
    ¬c.history.GaveBack binding := by
  intro given
  cases (known target found there).symm.trans module
  exact (kept.given found.binding given).2 (h.alive target found there alive)

theorem ready {target : InstanceId} {found : Instance κ} (able : c.IsReady target found)
    (binding : BindingId) (module : context.binding? target = some binding) :
    ¬c.history.GaveBack binding :=
  h.living kept known able.1 (Instance.isAlive_of_owned able.2.1) binding module

/-- So has one that its record is about to let go. -/
theorem owned (holdings : c.Holdings) {id : RecordId} {record : Record} {target : InstanceId}
    (found : c.context.record? id = some record) (owns : record.target = some target)
    (binding : BindingId) (module : context.binding? target = some binding) :
    ¬c.history.GaveBack binding := by
  obtain ⟨made, owned, -⟩ := holdings.owns id target ((c.target?_of_found found).trans owns)
  obtain ⟨found, there, same⟩ := Option.bind_eq_some_iff.mp owned
  refine h.living kept known there ?_ binding module
  cases alive : found.owned with
  | true => exact Instance.isAlive_of_owned alive
  | false => simp [alive] at same

end

end Covered

namespace Holdings

variable {c : Ledger κ} (h : c.Holdings)
include h

/-- What a record without an instance holds, no record with one does. -/
theorem bare {id : RecordId} {record : Record} {binding : BindingId}
    (found : c.context.record? id = some record) (alone : record.target = none)
    (holds : record.module = some binding) (other : RecordId) (target : InstanceId)
    (also : c.module? other = some binding) : c.target? other ≠ some target := by
  intro owns
  cases h.apart id other binding ((c.module?_of_found found).trans holds) also
  cases (((c.target?_of_found found).trans alone).symm.trans owns)

/-- What belongs to no record, or to one without an instance, is needed by no instance as long as none
of its code is on the stack, but for calls that are no callbacks. -/
theorem spare (marked : c.Marked) {home : κ → Option BindingId} {context : Context κ}
    (known : ∀ target found, c.context.instance? target = some found →
      context.binding? target = some found.binding) {stack : List (Activity κ)} {binding : BindingId}
    (callbacks : c.stack.filterMap Activity.callback? = stack.filterMap Activity.callback?)
    (unowned : ∀ id target, c.module? id = some binding → c.target? id ≠ some target)
    (quiet : ∀ call, .call call ∈ stack → call.module? home context ≠ some binding)
    (target : InstanceId) (found : Instance κ) (there : c.context.instance? target = some found)
    (alive : found.isAlive = true) : found.binding ≠ binding := by
  rintro rfl
  simp only [Instance.isAlive, Bool.or_eq_true] at alive
  rcases alive with owned | running
  · have owned : c.owned? target = some found.binding := by simp [owned?, there, owned]
    obtain ⟨id, owns⟩ := h.owned target found.binding owned
    obtain ⟨binding, made, holds⟩ := h.owns id target owns
    rw [owned] at made
    cases made
    exact unowned id target holds owns
  · have going : target ∈ c.callbacks :=
      (marked.marked target).mpr (Context.isRunning_iff.mpr ⟨found, there, running⟩)
    rw [Ledger.callbacks, callbacks] at going
    obtain ⟨activity, going, own⟩ := List.mem_filterMap.mp going
    cases activity with
    | call call =>
      exact quiet call going ((Call.module?_of_target own).trans (known target found there))
    | _ => cases own

/-- What a record held before it takes a new instance, neither this instance needs nor another. -/
theorem spare_of_adopted (marked : c.Marked) {home : κ → Option BindingId} {context : Context κ}
    (known : ∀ target found, c.context.instance? target = some found →
      context.binding? target = some found.binding) {code made : κ} {fresh : ExtensionContext}
    {rest : List (Activity κ)} {binding back : BindingId}
    (top : c.stack = .call (.create binding code fresh) :: rest) {id : RecordId} {record : Record}
    (found : c.context.record? id = some record) (alone : record.target = none)
    (holds : record.module = some back)
    (quiet : ∀ call, .call call ∈ c.stack.tail → call.module? home context ≠ some back)
    {target : InstanceId} {owner : Instance κ}
    (there : (c.append made binding).context.instance? target = some owner)
    (alive : owner.isAlive = true) : owner.binding ≠ back := by
  rcases instance?_append there with old | new
  · have callbacks : c.stack.filterMap Activity.callback? =
        c.stack.tail.filterMap Activity.callback? := by
      rw [top]
      rfl
    exact h.spare marked known callbacks (h.bare found alone holds) quiet target owner old alive
  · have under : binding ∈ c.builds := mem_builds (top ▸ List.mem_cons_self)
    rw [new]
    rintro rfl
    exact (h.building _ under).2 id ((c.module?_of_found found).trans holds)

end Holdings

/-- What a record without an instance holds is given back while none of its code is on the stack. -/
theorem Covered.giveBack {home : κ → Option BindingId} {context : Context κ} {c d : Ledger κ}
    (h : d.Covered home context) (holdings : c.Holdings) (marked : c.Marked)
    (known : ∀ target found, c.context.instance? target = some found →
      context.binding? target = some found.binding) {id : RecordId} {record : Record}
    (found : c.context.record? id = some record) (alone : record.target = none)
    (instances : d.context.instances = c.context.instances) (stack : d.stack = c.stack)
    (quiet : ∀ binding, record.module = some binding →
      ∀ call, .call call ∈ d.stack → call.module? home context ≠ some binding) :
    (d.release? record.module).Covered home context := by
  refine h.release? record.module (fun binding holds target owner there => ?_) quiet
  have callbacks := congrArg (List.filterMap Activity.callback?) stack.symm
  refine holdings.spare marked known callbacks (holdings.bare found alone holds)
    (quiet binding holds) target owner ?_
  rwa [Context.instance?, ← instances]

end Ledger

namespace Step

variable {home : κ → Option BindingId} {context : Context κ} {c d : Ledger κ}

/-- As long as modules are given back in time all code has its module. -/
theorem covered (h : c.Covered home context) (kept : c.Kept) (holdings : c.Holdings)
    (marked : c.Marked) (step : Step c d) (none : d.history.NoneUnbound)
    (known : ∀ target binding, d.context.binding? target = some binding →
      context.binding? target = some binding)
    (timely : d.history.GivesBackInTime home context) : d.Covered home context := by
  have made : ∀ target found, c.context.instance? target = some found →
      context.binding? target = some found.binding := fun target found there =>
    known target found.binding (step.binding? (by rw [Context.binding?, there]; rfl))
  cases step with
  | bind => exact h.bind
  | cancel owner => exact (h.note (by simp) (by simp)).setTasks _
  | renounce owner => exact (h.note (by simp) (by simp)).free owner
  | unregister handle => exact (h.unregister handle).note (by simp) (by simp)
  | unbind binding => cases none _ (List.mem_cons_of_mem _ List.mem_cons_self)
  | release binding taken unclaimed unbuilt =>
    have quiet := timely.released _ _ binding (List.suffix_refl _) rfl
    exact h.release
      (holdings.spare marked made rfl (fun id target holds => absurd holds (unclaimed id)) quiet) quiet
  | construct id code fresh =>
    refine (h.bind.changeRecord id _).note (fun call binding begun module given => ?_) (by simp)
    cases begun
    cases module
    exact Nat.lt_irrefl _ (kept.given _ given).1
  | decline binding code fresh rest top =>
    have under : binding ∈ c.builds := Ledger.mem_builds (top ▸ List.mem_cons_self)
    have quiet := timely.released _ _ binding (List.suffix_refl _) rfl
    refine (h.ended _).release (holdings.spare marked made ?_ (fun id target holds => ?_) quiet) quiet
    · rw [top]
      exact congrArg (fun stack => stack.tail.filterMap Activity.callback?) top.symm
    · exact absurd holds ((holdings.building binding under).2 id)
  | adopt id record binding code new fresh rest top found alone free =>
    have under : binding ∈ c.builds := Ledger.mem_builds (top ▸ List.mem_cons_self)
    have entered := ((h.ended (.call (.create binding code fresh))).append new
      (kept.building binding under)).register record.handle
        ⟨record.descriptor.name, ⟨c.context.instances.length⟩⟩
    exact ((entered.release? record.module (fun back holds target owner =>
      holdings.spare_of_adopted marked made top found alone holds
        (timely.quiet (List.suffix_cons _ _) back holds))
      (timely.quiet (List.suffix_cons _ _))).changeRecord id _).note (by simp) (by simp)
  | duplicate binding code new fresh rest top =>
    have under : binding ∈ c.builds := Ledger.mem_builds (top ▸ List.mem_cons_self)
    refine ((h.ended _).append new (kept.building binding under)).letGo ⟨c.context.instances.length⟩
      fun other module given => ?_
    have given : c.history.GaveBack other := by simpa using given
    have here : context.binding? ⟨c.context.instances.length⟩ = some binding := by
      refine known _ binding ?_
      rw [Ledger.binding?_letGo]
      exact Ledger.binding?_append_self _ new binding
    cases here.symm.trans module
    exact (kept.given binding given).2 (kept.building binding under)
  | clean id record target found owns =>
    have begun : (c.note (.cleaning record)).Covered home context := h.note (by simp) (by simp)
    refine (((begun.changeRecord id _).unregister record.handle).free record.handle).letGo target
      fun binding module => ?_
    simpa using h.owned kept made holdings found owns binding module
  | cleaned id record now found alone same freed =>
    have released : (c.release? record.module).Covered home context := same ▸ h.giveBack holdings
      marked made found alone rfl rfl (timely.quiet (same ▸ List.suffix_cons _ _))
    exact (released.changeRecord id _).note (by simp) (by simp)
  | cleanBare id record found alone =>
    have begun : (c.note (.cleaning record)).Covered home context := h.note (by simp) (by simp)
    have released := begun.giveBack holdings marked made found alone rfl rfl
      (timely.quiet (List.suffix_cons _ _))
    exact (released.changeRecord id _).note (by simp) (by simp)
  | discard id record target found owns =>
    have begun : (c.note (.discarded record)).Covered home context := h.note (by simp) (by simp)
    refine (begun.eraseRecord id).letGo target fun binding module => ?_
    simpa using h.owned kept made holdings found owns binding module
  | discardBare id record found alone =>
    have begun : (c.note (.discarded record)).Covered home context := h.note (by simp) (by simp)
    exact (begun.eraseRecord id).giveBack holdings marked made found alone rfl rfl
      (timely.quiet (List.suffix_refl _))
  | enter target found call able asks =>
    have own : call.target? = some target := by
      rcases asks with rfl | ⟨dialog, rfl⟩ <;> rfl
    exact h.enter able own (h.ready kept made able)
  | leave target call rest top callback =>
    refine ((h.ended _).mark target false (by simp)).reap target fun binding module => ?_
    have going : target ∈ c.callbacks :=
      List.mem_filterMap.mpr ⟨.call call, top ▸ List.mem_cons_self, callback⟩
    obtain ⟨found, there, running⟩ := Context.isRunning_iff.mp ((marked.marked target).mp going)
    have fresh := h.living kept made there (Instance.isAlive_of_running running) binding module
    simpa using fresh
  | openUri uri =>
    refine h.note (fun other binding begun module => ?_) (by simp)
    cases begun
    cases module
  | observe topic slots slot emitted rest top listed idle =>
    refine (h.changeSignal topic _).note (fun other binding begun module => ?_) (by simp)
    cases begun
    exact timely.left _ _ _ binding (List.suffix_refl _) rfl trivial module
  | observed topic slot emitted rest top => exact (h.ended _).changeSignal topic _
  | perform limit rest task tasks code top taken plain =>
    refine (h.setTasks tasks).note (fun other binding begun module => ?_) (by simp)
    cases begun
    exact timely.left _ _ _ binding (List.suffix_refl _) rfl trivial module
  | redeliver limit rest task tasks target handle number notice event found top taken delivery able =>
    exact (h.setTasks tasks).enter able rfl (h.ready kept made able)
  | deliver number notice entry found turn able =>
    have reached : (c.note (.reached number entry.2.target)).Covered home context :=
      h.note (by simp) (by simp)
    refine reached.enter able rfl fun binding module given => ?_
    exact h.ready kept made able binding module (by simpa using given)
  | defer number notice entry event turn busy => exact (h.note (by simp) (by simp)).setTasks _
  | dispatch event => exact h.advance.note (by simp) (by simp)
  | finish | emit | emitted | drain | drained | broken | endDrain | fanOut | miss | settle =>
    exact h.note (by simp) (by simp)
  | evict doc => exact h.evict doc
  | openWorkspace => exact h.openWorkspace
  | shutWorkspace => exact h.setWorkspace .none
  | lose limit rest task tasks => exact (h.setTasks tasks).note (by simp) (by simp)
  | _ => exact h.of_instances rfl (List.Subset.refl _) rfl

end Step

/-- All code has its module after every path on which modules are given back in time. -/
theorem Path.covered {home : κ → Option BindingId} {context : Context κ} {c : Ledger κ}
    (path : Path Ledger.empty c) (none : c.history.NoneUnbound)
    (known : ∀ target binding, c.context.binding? target = some binding →
      context.binding? target = some binding)
    (timely : c.history.GivesBackInTime home context) : c.Covered home context := by
  induction path with
  | refl =>
    refine ⟨fun target found there => ?_, fun call binding going => ?_,
      fun moment past there => ?_, fun moment past there => ?_⟩
    · cases there
    · cases going
    · cases List.suffix_nil.mp there
    · cases List.suffix_nil.mp there
  | tail path step ih =>
    have sound := Path.sound path Ledger.empty_sound
    have before := none.mono step.history_grows
    exact step.covered (ih before (fun target binding made => known target binding
      (step.binding? made)) (timely.mono step.history_grows)) (Path.kept path before) sound.holdings
      (Path.marked path Ledger.empty_marked) none known timely

/-- Unless somebody gives back what a record holds, the modules of all instances that are alive are
held at every moment and now, and so are those of all code on the stack, if and only if no module is
given back while its code is on the stack and no handler and no task starts that a module given back
left behind. -/
theorem Reached.keeps_modules_iff {site : Site κ} {foreign : (proxyInterface κ μ).Foreign}
    {levels : Nat} {calm : Bool} {s : State κ μ} (reached : Reached site foreign levels calm s)
    (none : s.history.NoneUnbound) (home : κ → Option BindingId) :
    (s.history.KeepsModules home s.toContext ∧ ∀ target found, s.instance? target = some found →
      found.isAlive = true → found.binding ∈ s.bench.held) ↔
    s.history.GivesBackInTime home s.toContext := by
  refine ⟨fun keeps => keeps.1.givesBackInTime, fun timely => ?_⟩
  have covered := Path.covered reached.ledger.path none (fun _ _ made => made) timely
  exact ⟨covered.before, covered.alive⟩

/-! ## Two lives of a module -/

/-- Whether a binding is given back. -/
def Happening.releases : Happening κ → Bool
  | .released _ => true
  | _ => false

/-- Whether code begins that belongs to no instance. -/
def Happening.detaches : Happening κ → Bool
  | .began (.call (.observe _ _ _)) => true
  | .began (.call (.task _)) => true
  | _ => false

namespace Sample

/-- A handler and a notice of a sub-extension run, and its record is cleaned up afterwards. -/
def cleanAfter : State Unit Unit := after () (fun _ => .done ()) do
  let _ ← ask (.load "a" ⟨1⟩ "e/a.plugin")
  let _ ← ask (.init "a")
  let doc ← ask (.addDocument ⟨7⟩)
  let _ ← ask (.connect (.document doc .saved) (some ⟨1⟩) ())
  let _ ← ask (.emit (.document doc .saved) .plain)
  let _ ← ask (.dispatch (.document .created ⟨7⟩))
  let _ ← ask (.cleanup "a")

/-- Cleaning up gives the module back in time when nothing of it is on the stack. -/
theorem cleanAfter_keeps_modules :
    cleanAfter.history.KeepsModules (fun _ => some ⟨0⟩) cleanAfter.toContext := by
  have life : Reached (site ()) (foreign fun _ => .done ()) 8 false cleanAfter := reached _ _ _
  have quiet : ∀ n < cleanAfter.history.length,
      (cleanAfter.history[n]?.any fun moment => moment.what.releases) = true →
      (History.stack (cleanAfter.history.drop (n + 1))).isEmpty = true := by
    decide +kernel
  have early : ∀ n < cleanAfter.history.length,
      (cleanAfter.history[n]?.any fun moment => moment.what.detaches) = true →
      ∀ moment ∈ cleanAfter.history.drop (n + 1), moment.what.releases = false := by
    decide +kernel
  refine ((life.keeps_modules_iff (by decide +kernel) _).mpr ⟨?_, ?_⟩).1
  · intro moment past binding there what call going
    obtain ⟨n, place, earlier⟩ := History.exists_getElem?_of_suffix there
    have releases : (cleanAfter.history[n]?.any fun moment => moment.what.releases) = true := by
      rw [place, Option.any_some, what]
      rfl
    have alone := quiet n (List.getElem?_eq_some_iff.mp place).1 releases
    rw [earlier, List.isEmpty_iff.mp alone] at going
    cases going
  · rintro moment past call binding there what detached - ⟨older, before, released⟩
    obtain ⟨n, place, earlier⟩ := History.exists_getElem?_of_suffix there
    have detaches : (cleanAfter.history[n]?.any fun moment => moment.what.detaches) = true := by
      rw [place, Option.any_some, what]
      cases call with
      | observe => rfl
      | task => rfl
      | _ => cases detached
    have fresh := early n (List.getElem?_eq_some_iff.mp place).1 detaches older (earlier ▸ before)
    rw [released] at fresh
    cases fresh

/-- An instance that unloads its own record when it takes a notice. -/
def unloadWithin : State Unit Unit := after () (fun _ => do let _ ← ask (.unload "a")) do
  let _ ← ask (.load "a" ⟨1⟩ "e/a.plugin")
  let _ ← ask (.init "a")
  let _ ← ask (.dispatch (.document .created ⟨7⟩))

/-- Unloading a sub-extension from inside of its own callback gives its module back while it is alive
and running. -/
theorem unloadWithin_not_keeps_modules : unloadWithin.history.NoneUnbound ∧
    ¬unloadWithin.history.KeepsModules (fun _ => none) unloadWithin.toContext := by
  refine ⟨by decide +kernel, fun keeps => ?_⟩
  have facts : (unloadWithin.history[4]?.map fun moment =>
      ((moment.context.instance? ⟨0⟩).map fun found => (found.isAlive, found.binding), moment.held))
      = some (some (true, ⟨0⟩), []) := by
    decide +kernel
  obtain ⟨moment, there, both⟩ := Option.map_eq_some_iff.mp facts
  obtain ⟨instances, held⟩ := Prod.mk.inj both
  obtain ⟨found, here, tells⟩ := Option.map_eq_some_iff.mp instances
  have needed := keeps.alive moment _ (History.suffix_of_getElem? there) ⟨0⟩ found here
    (Prod.mk.inj tells).1
  rw [held] at needed
  cases needed

end Sample

end ExtensionProxy
