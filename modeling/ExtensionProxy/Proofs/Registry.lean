import ExtensionProxy.Proofs.IdentityCache
import ExtensionProxy.Proofs.Runs

/-!
# Who is registered

The registry goes by handles and records own instances, and two records may have been loaded for one
handle.  Initializing registers what the record comes to own, and cleaning up takes it out again.
Unloading takes out once more whatever is registered for the handle, after the record was cleaned up,
and that is nobody's but another record's.

As long as that last step finds nothing, the registry lists exactly the records that are initialized.
Where it finds something, a record is left that is initialized and not listed.
-/

set_option autoImplicit false

namespace ExtensionProxy

variable {κ μ : Type}

/-! ## What the history tells -/

namespace Happening

/-- A record is thrown away that owns an instance. -/
def abandons : Happening κ → Bool
  | .discarded record => record.target.isSome
  | _ => false

/-- Unloading takes something out of the registry. -/
def strikes : Happening κ → Bool
  | .unregistered _ entry => entry.isSome
  | _ => false

end Happening

namespace History

variable {past : History κ}

/-- What was registered by initializing, in order. -/
def initialized (history : History κ) : List (ExtensionHandle × Registration) :=
  (history.filterMap fun moment =>
    match moment.what with
    | .initialized _ handle entry => some (handle, entry)
    | _ => none).reverse

theorem initialized_cons (what : Happening κ) (context : Context κ) (held : List BindingId) :
    initialized (⟨what, context, held⟩ :: past) = match what with
      | .initialized _ handle entry => initialized past ++ [(handle, entry)]
      | _ => initialized past := by
  cases what <;> simp [initialized]

theorem initialized_farewell (c : Ledger κ) (target : InstanceId) :
    initialized (c.farewell target ++ past) = initialized past := by
  simp only [Ledger.farewell]
  split
  · split
    · rfl
    · exact initialized_cons _ _ _
  · rfl

theorem initialized_release? (c : Ledger κ) (given : Option BindingId) :
    (c.release? given).history.initialized = c.history.initialized := by
  cases given with
  | none => rfl
  | some binding => exact initialized_cons _ _ _

/-- No record was thrown away that owned an instance. -/
def NoneAbandoned (history : History κ) : Prop :=
  ∀ moment ∈ history, moment.what.abandons = false

/-- No unloading took anything out of the registry that cleaning up had left there. -/
def NoneStruck (history : History κ) : Prop := ∀ moment ∈ history, moment.what.strikes = false

instance (history : History κ) : Decidable history.NoneAbandoned :=
  inferInstanceAs (Decidable (∀ moment ∈ history, moment.what.abandons = false))

instance (history : History κ) : Decidable history.NoneStruck :=
  inferInstanceAs (Decidable (∀ moment ∈ history, moment.what.strikes = false))

theorem NoneAbandoned.mono {older newer : History κ} (h : newer.NoneAbandoned)
    (grown : older <:+ newer) : older.NoneAbandoned :=
  fun moment there => h moment (grown.subset there)

theorem NoneStruck.mono {older newer : History κ} (h : newer.NoneStruck)
    (grown : older <:+ newer) : older.NoneStruck :=
  fun moment there => h moment (grown.subset there)

end History

/-! ## Records and their instances -/

namespace Ledger

variable {c d : Ledger κ}

/-- The handle and the instance of a record that owns one. -/
def owner? (c : Ledger κ) (id : RecordId) : Option (ExtensionHandle × InstanceId) :=
  (c.context.record? id).bind fun record => record.target.map fun target => (record.handle, target)

theorem owner?_eq_some {id : RecordId} {handle : ExtensionHandle} {target : InstanceId} :
    c.owner? id = some (handle, target) ↔ ∃ record, c.context.record? id = some record ∧
      record.handle = handle ∧ record.target = some target := by
  simp [owner?, Option.bind_eq_some_iff, and_comm]

theorem target?_of_owner? {id : RecordId} {handle : ExtensionHandle} {target : InstanceId}
    (owns : c.owner? id = some (handle, target)) : c.target? id = some target := by
  obtain ⟨record, found, -, here⟩ := owner?_eq_some.mp owns
  exact (target?_of_found c found).trans here

theorem owner?_of_found {id : RecordId} {record : Record}
    (found : c.context.record? id = some record) :
    c.owner? id = record.target.map fun target => (record.handle, target) := by
  rw [owner?, found]
  rfl

theorem owner?_changeRecord (c : Ledger κ) (id other : RecordId) (change : Record → Record) :
    (c.changeRecord id change).owner? other
      = if other = id then (c.context.record? id).bind fun record =>
          (change record).target.map fun target => ((change record).handle, target)
        else c.owner? other :=
  c.view_changeRecord (fun record => record.target.map fun target => (record.handle, target)) id other
    change

/-- A change that leaves handle and instance of a record alone. -/
theorem owner?_changeRecord_of_same (c : Ledger κ) (id : RecordId) {change : Record → Record}
    (handle : ∀ record, (change record).handle = record.handle)
    (target : ∀ record, (change record).target = record.target) :
    (c.changeRecord id change).owner? = c.owner? :=
  funext (c.view_changeRecord_of_same
    (fun record => record.target.map fun target => (record.handle, target)) id
    fun record => by rw [handle, target])

theorem owner?_eraseRecord (c : Ledger κ) (id other : RecordId) :
    (c.eraseRecord id).owner? other = if other = id then none else c.owner? other :=
  c.view_eraseRecord (fun record => record.target.map fun target => (record.handle, target)) id other

/-! ## What a step does to the registry -/

/-- What a step does to the registry and to those who own an instance. -/
inductive Enrolment (c d : Ledger κ) : Prop
  /-- Nothing of that changes. -/
  | same (registry : d.context.registry = c.context.registry) (owners : d.owner? = c.owner?)
      (initialized : d.history.initialized = c.history.initialized)
  /-- A record comes to own an instance and is registered. -/
  | enlist (id : RecordId) (handle : ExtensionHandle) (entry : Registration)
      (free : c.context.registry.get? handle = none) (alone : c.owner? id = none)
      (registry : d.context.registry = c.context.registry.insert handle entry)
      (owners : ∀ other, d.owner? other = if other = id then some (handle, entry.target)
        else c.owner? other)
      (initialized : d.history.initialized = c.history.initialized ++ [(handle, entry)])
      (made : entry.target = ⟨c.context.instances.length⟩)
      (counted : d.context.instances.length = c.context.instances.length + 1)
  /-- A record lets go of its instance, and what is registered for its handle is taken out. -/
  | clean (id : RecordId) (handle : ExtensionHandle) (target : InstanceId)
      (owns : c.owner? id = some (handle, target))
      (registry : d.context.registry = c.context.registry.erase handle)
      (owners : ∀ other, d.owner? other = if other = id then none else c.owner? other)
      (initialized : d.history.initialized = c.history.initialized)
      (told : ∃ record past, record.handle = handle ∧ record.target = some target ∧
        History.Adds c.history d.history ⟨.cleaning record, c.context, c.held⟩ past)
  /-- What is registered for a handle is taken out, whose it may be. -/
  | strike (handle : ExtensionHandle)
      (registry : d.context.registry = c.context.registry.erase handle)
      (owners : d.owner? = c.owner?)
      (initialized : d.history.initialized = c.history.initialized)
      (told : ⟨.unregistered handle (c.context.registry.get? handle), d.context, d.held⟩ ∈ d.history)
  /-- A record is thrown away that owns an instance. -/
  | abandon (record : Record) (target : InstanceId) (owns : record.target = some target)
      (registry : d.context.registry = c.context.registry)
      (initialized : d.history.initialized = c.history.initialized)
      (told : ⟨.discarded record, c.context, c.held⟩ ∈ d.history)

/-- The record that is made next owns nothing yet. -/
theorem Filing.owner?_load (filing : c.Filing) (record : Record) (alone : record.target = none)
    (other : RecordId) :
    (((c.context.records.insert ⟨c.context.recordCount⟩ record).get? other).bind fun record =>
      record.target.map fun target => (record.handle, target)) = c.owner? other := by
  rw [OrderedMap.get?_insert, owner?]
  split
  · next same =>
    rw [filing.made other (same ▸ Nat.le_refl _)]
    simp [alone]
  · rfl

theorem Filing.enrolment (filing : c.Filing) (step : Step c d) : Enrolment c d := by
  cases step with
  | load record bare alone => exact .same rfl (funext (filing.owner?_load record alone)) rfl
  | restage id stage =>
    exact .same rfl (owner?_changeRecord_of_same c id (fun _ => rfl) fun _ => rfl) rfl
  | construct id code context =>
    exact .same rfl (owner?_changeRecord_of_same c.bind id (fun _ => rfl) fun _ => rfl)
      (History.initialized_cons _ _ _)
  | adopt id record binding code made context rest top found alone free =>
    let entry : Registration := ⟨record.descriptor.name, ⟨c.context.instances.length⟩⟩
    have absent : c.context.registry.get? record.handle = none :=
      Option.not_isSome_iff_eq_none.mp fun there => Bool.false_ne_true (free.symm.trans there)
    refine .enlist id record.handle entry absent ?_ rfl (fun other => ?_) ?_ rfl
      (List.length_append ..)
    · rw [owner?_of_found found, alone]
      rfl
    · refine (owner?_changeRecord (release? record.module (register record.handle entry
        ((c.note (.ended (.call (.create binding code context)))).append made binding))) id other
          _).trans ?_
      split
      · exact congrArg (Option.bind · _) found
      · rfl
    · refine (History.initialized_cons _ _ _).trans (congrArg (· ++ _) ?_)
      exact (History.initialized_release? _ record.module).trans (History.initialized_cons _ _ _)
  | unregister handle =>
    exact .strike handle rfl rfl (History.initialized_cons _ _ _) List.mem_cons_self
  | clean id record target found owns =>
    refine .clean id record.handle target ?_ rfl (fun other => ?_) ?_
      ⟨record, c.history, rfl, owns, by simp⟩
    · rw [owner?_of_found found, owns]
      rfl
    · refine (owner?_changeRecord (c.note (.cleaning record)) id other fun record =>
        { record with target := none }).trans ?_
      split
      · exact congrArg (Option.bind · _) found
      · rfl
    · refine (History.initialized_farewell _ target).trans ?_
      exact (History.initialized_cons _ _ _).trans (History.initialized_cons _ _ _)
  | cleaned id record now found alone same freed =>
    refine .same rfl ?_ ?_
    · exact owner?_changeRecord_of_same (c.release? record.module) id (fun _ => rfl) fun _ => rfl
    · exact (History.initialized_cons _ _ _).trans (History.initialized_release? c record.module)
  | cleanBare id record found alone =>
    refine .same rfl ?_ ?_
    · exact owner?_changeRecord_of_same ((c.note (.cleaning record)).release? record.module) id
        (fun _ => rfl) fun _ => rfl
    · refine (History.initialized_cons _ _ _).trans ?_
      exact (History.initialized_release? _ record.module).trans (History.initialized_cons _ _ _)
  | discard id record target found owns =>
    refine .abandon record target owns rfl ?_ ?_
    · exact (History.initialized_farewell _ target).trans (History.initialized_cons _ _ _)
    · exact List.mem_append_right _ List.mem_cons_self
  | discardBare id record found alone =>
    refine .same rfl (funext fun other => ?_) ?_
    · refine (owner?_eraseRecord (c.note (.discarded record)) id other).trans ?_
      split
      · next same =>
        rw [same, owner?_of_found found, alone]
        rfl
      · rfl
    · exact (History.initialized_release? _ record.module).trans (History.initialized_cons _ _ _)
  | leave target call rest top callback =>
    refine .same rfl rfl ?_
    exact (History.initialized_farewell _ target).trans (History.initialized_cons _ _ _)
  | duplicate binding code made context rest top =>
    refine .same rfl rfl ?_
    exact (History.initialized_farewell _ _).trans (History.initialized_cons _ _ _)
  | _ => exact .same rfl rfl rfl

/-! ## What the registry lists -/

/-- The registry is in step, and its entries are listed in the order in which they were registered. -/
structure Enrols (c : Ledger κ) : Prop where
  inStep : c.context.registry.InStep
  ordered : c.context.registry.entries.Sublist c.history.initialized

theorem Enrols.step (h : c.Enrols) (filing : c.Filing) (step : Step c d) : d.Enrols := by
  obtain ⟨inStep, ordered⟩ := h
  have fewer : ∀ {handle : ExtensionHandle}, d.context.registry = c.context.registry.erase handle →
      d.history.initialized = c.history.initialized → d.Enrols := by
    intro handle registry initialized
    refine ⟨registry ▸ inStep.erase handle, ?_⟩
    rw [registry, initialized, IdentityCache.entries_erase inStep]
    exact List.filter_sublist.trans ordered
  cases filing.enrolment step with
  | same registry owners initialized =>
    exact ⟨registry ▸ inStep, by rwa [registry, initialized]⟩
  | enlist id handle entry free alone registry owners initialized =>
    refine ⟨registry ▸ inStep.insert free entry, ?_⟩
    rw [registry, initialized, IdentityCache.entries_insert inStep free]
    exact ordered.append_right _
  | clean id handle target owns registry owners initialized => exact fewer registry initialized
  | strike handle registry owners initialized told => exact fewer registry initialized
  | abandon record target owns registry initialized told =>
    exact ⟨registry ▸ inStep, by rwa [registry, initialized]⟩

/-- Every entry of the registry is that of a record that owns the instance. -/
def Owned (c : Ledger κ) : Prop := ∀ handle entry, c.context.registry.get? handle = some entry →
  ∃ id, c.owner? id = some (handle, entry.target)

theorem Owned.step (h : c.Owned) (filing : c.Filing) (step : Step c d)
    (kept : d.history.NoneAbandoned) : d.Owned := by
  intro handle entry there
  cases filing.enrolment step with
  | same registry owners initialized =>
    rw [owners]
    exact h handle entry (registry ▸ there)
  | enlist id other new free alone registry owners initialized =>
    rw [registry, IdentityCache.get?_insert] at there
    split at there
    · next same =>
      cases there
      exact ⟨id, by rw [owners, if_pos rfl, same]⟩
    · obtain ⟨owner, owns⟩ := h handle entry there
      refine ⟨owner, ?_⟩
      rw [owners, if_neg, owns]
      rintro rfl
      exact Option.some_ne_none _ (owns.symm.trans alone)
  | clean id other target owns registry owners initialized =>
    rw [registry, IdentityCache.get?_erase] at there
    split at there
    · cases there
    · next different =>
      obtain ⟨owner, owned⟩ := h handle entry there
      refine ⟨owner, ?_⟩
      rw [owners, if_neg, owned]
      rintro rfl
      exact different (Prod.mk.inj (Option.some.inj (owned.symm.trans owns))).1
  | strike other registry owners initialized told =>
    rw [registry, IdentityCache.get?_erase] at there
    rw [owners]
    split at there
    · cases there
    · exact h handle entry there
  | abandon record target owns registry initialized told =>
    have gone : record.target.isSome = false := kept _ told
    simp [owns] at gone

/-- Every record that owns an instance is registered with it. -/
def Listed (c : Ledger κ) : Prop := ∀ id handle target, c.owner? id = some (handle, target) →
  ∃ entry, c.context.registry.get? handle = some entry ∧ entry.target = target

theorem Listed.step (h : c.Listed) (filing : c.Filing) (holdings : c.Holdings) (step : Step c d)
    (kept : d.history.NoneAbandoned) (aimed : d.history.NoneStruck) : d.Listed := by
  intro id handle target owns
  cases filing.enrolment step with
  | same registry owners initialized =>
    rw [registry]
    exact h id handle target (owners ▸ owns)
  | enlist other new entry free alone registry owners initialized =>
    rw [owners] at owns
    rw [registry, IdentityCache.get?_insert]
    split at owns
    · cases owns
      exact ⟨entry, if_pos rfl, rfl⟩
    · obtain ⟨found, there, same⟩ := h id handle target owns
      refine ⟨found, ?_, same⟩
      rw [if_neg, there]
      rintro rfl
      exact Option.some_ne_none _ (there.symm.trans free)
  | clean other gone left lets registry owners initialized =>
    rw [owners] at owns
    split at owns
    · cases owns
    · next different =>
      obtain ⟨found, there, same⟩ := h id handle target owns
      refine ⟨found, ?_, same⟩
      rw [registry, IdentityCache.get?_erase, if_neg, there]
      -- Were the handles the same, the entry would reach the instances of both records.
      rintro rfl
      obtain ⟨found', there', same'⟩ := h other handle left lets
      cases there.symm.trans there'
      have single : c.target? id = some left := by
        rw [target?_of_owner? owns, ← same, same']
      exact different (holdings.single single (target?_of_owner? lets))
  | strike other registry owners initialized told =>
    obtain ⟨found, there, same⟩ := h id handle target (owners ▸ owns)
    refine ⟨found, ?_, same⟩
    rw [registry, IdentityCache.get?_erase, if_neg, there]
    rintro rfl
    have missed : (c.context.registry.get? handle).isSome = false := aimed _ told
    simp [there] at missed
  | abandon record left lets registry initialized told =>
    have gone : record.target.isSome = false := kept _ told
    simp [lets] at gone

end Ledger

/-! ## After every path -/

namespace Path

variable {c : Ledger κ}

theorem enrols (path : Path Ledger.empty c) : c.Enrols := by
  induction path with
  | refl => exact ⟨.empty, .slnil⟩
  | tail path step ih => exact ih.step (Path.sound path Ledger.empty_sound).filing step

theorem owned (path : Path Ledger.empty c) (kept : c.history.NoneAbandoned) : c.Owned := by
  induction path with
  | refl => exact nofun
  | tail path step ih =>
    have sound := Path.sound path Ledger.empty_sound
    exact (ih (kept.mono step.history_grows)).step sound.filing step kept

theorem listed (path : Path Ledger.empty c) (kept : c.history.NoneAbandoned)
    (aimed : c.history.NoneStruck) : c.Listed := by
  induction path with
  | refl => exact nofun
  | tail path step ih =>
    have sound := Path.sound path Ledger.empty_sound
    exact (ih (kept.mono step.history_grows) (aimed.mono step.history_grows)).step sound.filing
      sound.holdings step kept aimed

end Path

/-- The registry lists exactly the records that are initialized, each once and in the order in which
they were initialized, and reaches the instance of each. -/
structure Context.ListsInitialized (context : Context κ)
    (order : List (ExtensionHandle × Registration)) : Prop where
  /-- What the registry tells about itself agrees; no handle is listed twice. -/
  agrees : context.registry.Agrees
  handles : ∀ handle, handle ∈ context.registry.keys ↔ ∃ id record,
    context.record? id = some record ∧ record.isInitialized = true ∧ record.handle = handle
  ordered : context.registry.entries.Sublist order
  reaches : ∀ id record, context.record? id = some record → record.isInitialized = true →
    ∃ entry, context.registry.get? record.handle = some entry ∧
      record.target = some entry.target ∧ context.isAlive entry.target = true

namespace Ledger

variable {c : Ledger κ}

/-- What a record owns is alive. -/
theorem Holdings.isAlive (h : c.Holdings) {id : RecordId} {target : InstanceId}
    (owns : c.target? id = some target) : c.context.isAlive target = true := by
  obtain ⟨binding, owned, -⟩ := h.owns id target owns
  rw [owned?] at owned
  cases there : c.context.instance? target with
  | none => simp [there] at owned
  | some found =>
    by_cases held : found.owned = true
    · exact (Context.isAlive_of_found there).trans (Instance.isAlive_of_owned held)
    · simp [there, held] at owned

/-- A record that owns an instance is initialized. -/
theorem Holdings.exists_initialized (h : c.Holdings) {id : RecordId} {handle : ExtensionHandle}
    {target : InstanceId} (owns : c.owner? id = some (handle, target)) :
    ∃ record, c.context.record? id = some record ∧ record.isInitialized = true ∧
      record.handle = handle := by
  obtain ⟨record, found, same, here⟩ := owner?_eq_some.mp owns
  obtain ⟨binding, -, holds⟩ := h.owns id target (target?_of_owner? owns)
  have module : record.module = some binding := (module?_of_found c found).symm.trans holds
  exact ⟨record, found, by simp [Record.isInitialized, here, module], same⟩

theorem Enrols.listsInitialized (h : c.Enrols) (owned : c.Owned) (listed : c.Listed)
    (holdings : c.Holdings) : c.context.ListsInitialized c.history.initialized := by
  have reaches : ∀ id record, c.context.record? id = some record → record.isInitialized = true →
      ∃ entry, c.context.registry.get? record.handle = some entry ∧
        record.target = some entry.target ∧ c.context.isAlive entry.target = true := by
    intro id record found initialized
    obtain ⟨target, owns⟩ :=
      Option.isSome_iff_exists.mp (Bool.and_eq_true_iff.mp initialized).2
    obtain ⟨entry, there, rfl⟩ := listed id record.handle target (owner?_eq_some.mpr
      ⟨record, found, rfl, owns⟩)
    exact ⟨entry, there, owns, holdings.isAlive ((target?_of_found c found).trans owns)⟩
  refine ⟨h.inStep.agrees, fun handle => ⟨fun there => ?_, ?_⟩, h.ordered, reaches⟩
  · obtain ⟨entry, there⟩ := Option.isSome_iff_exists.mp ((h.inStep.contains_iff handle).mpr there)
    obtain ⟨id, owns⟩ := owned handle entry there
    exact ⟨id, holdings.exists_initialized owns⟩
  · rintro ⟨id, record, found, initialized, rfl⟩
    obtain ⟨entry, there, -⟩ := reaches id record found initialized
    exact (h.inStep.contains_iff _).mp (Option.isSome_iff_exists.mpr ⟨entry, there⟩)

end Ledger

/-- When unloading is done with the registry it has taken out what was there. -/
theorem Step.strikes {c d : Ledger κ} (step : Step c d) {moment : Moment κ} {past : History κ}
    (adds : History.Adds c.history d.history moment past) {handle : ExtensionHandle}
    {entry : Option Registration} (what : moment.what = .unregistered handle entry) :
    d.history = moment :: past ∧ moment.context = d.context ∧
      entry = c.context.registry.get? handle ∧
      d.context.registry = c.context.registry.erase handle ∧ d.owner? = c.owner? := by
  cases step with
  | unregister other =>
    obtain ⟨rfl, rfl⟩ := History.adds_single.mp adds
    cases what
    exact ⟨rfl, rfl, rfl, rfl, rfl⟩
  | _ => grind

/-- Unless a record is thrown away without being cleaned up, the registry lists exactly what is
initialized, now and whenever unloading was done with it, if and only if no unloading took out what
another record had registered. -/
theorem Reached.registry_lists_iff {site : Site κ} {foreign : (proxyInterface κ μ).Foreign}
    {levels : Nat} {calm : Bool} {s : State κ μ} (reached : Reached site foreign levels calm s)
    (kept : s.history.NoneAbandoned) :
    (s.ListsInitialized s.history.initialized ∧ ∀ moment past, moment :: past <:+ s.history →
      ∀ handle entry, moment.what = .unregistered handle entry →
        moment.context.ListsInitialized (History.initialized past)) ↔ s.history.NoneStruck := by
  have path := reached.ledger.path
  have lists : ∀ {c : Ledger κ}, Path Ledger.empty c → c.history.NoneAbandoned →
      c.history.NoneStruck → c.context.ListsInitialized c.history.initialized :=
    fun path kept aimed => (Path.enrols path).listsInitialized (Path.owned path kept)
      (Path.listed path kept aimed) (Path.sound path Ledger.empty_sound).holdings
  constructor
  · rintro ⟨-, after⟩ ⟨what, context, held⟩ there
    cases what with
    | unregistered handle entry =>
      cases entry with
      | none => rfl
      | some entry =>
        exfalso
        obtain ⟨later, past, split⟩ := List.append_of_mem there
        have begun : ⟨.unregistered handle (some entry), context, held⟩ :: past <:+ s.history :=
          ⟨later, split.symm⟩
        rcases path.adds begun with absent | ⟨a, b, first, step, rest, adds⟩
        · cases List.suffix_nil.mp absent
        obtain ⟨history, same, had, registry, owners⟩ := step.strikes adds rfl
        have last := Path.history_grows rest
        -- The record whose entry was taken out is initialized still, and should be listed.
        obtain ⟨id, owns⟩ := Path.owned first (kept.mono (step.history_grows.trans last)) handle
          entry had.symm
        obtain ⟨record, found, initialized, rfl⟩ :=
          (Path.sound (first.tail step) Ledger.empty_sound).holdings.exists_initialized
            ((congrFun owners id).trans owns)
        obtain ⟨found', there', -⟩ := (after _ past begun record.handle (some entry) rfl).reaches id
          record (same ▸ found) initialized
        rw [same, registry, IdentityCache.get?_erase, if_pos rfl] at there'
        cases there'
    | _ => rfl
  · intro aimed
    refine ⟨lists path kept aimed, fun moment past begun handle entry what => ?_⟩
    rcases path.adds begun with absent | ⟨a, b, first, step, rest, adds⟩
    · cases List.suffix_nil.mp absent
    obtain ⟨history, same, -⟩ := step.strikes adds what
    have last := Path.history_grows rest
    have now := lists (first.tail step) (kept.mono last) (aimed.mono last)
    obtain ⟨what', context, held⟩ := moment
    cases what
    rw [history, History.initialized_cons, ← same] at now
    exact now

/-- Two records for two handles are initialized, and one of them is unloaded. -/
def Sample.unloadOwn : State Unit Unit := Sample.after () (fun _ => .done ()) do
  let _ ← ask (.load "a" ⟨1⟩ "e/a.plugin")
  let _ ← ask (.load "b" ⟨2⟩ "e/a.plugin")
  let _ ← ask (.init "a")
  let _ ← ask (.init "b")
  let _ ← ask (.unload "a")

/-- Unloading a record that is registered leaves the others listed. -/
theorem Sample.unloadOwn_lists :
    Sample.unloadOwn.ListsInitialized Sample.unloadOwn.history.initialized :=
  ((Reached.registry_lists_iff (Sample.reached _ _ _) (by decide +kernel)).mpr
    (by decide +kernel)).1

/-- Two records are loaded for one handle, the first is initialized, and the second is unloaded. -/
def Sample.unloadOther : State Unit Unit := Sample.after () (fun _ => .done ()) do
  let _ ← ask (.load "a" ⟨1⟩ "e/a.plugin")
  let _ ← ask (.load "b" ⟨1⟩ "e/a.plugin")
  let _ ← ask (.init "a")
  let _ ← ask (.unload "b")

/-- Unloading a record that was never initialized takes the registration of another: the first record
is initialized and not listed. -/
theorem Sample.unloadOther_not_lists : Sample.unloadOther.history.NoneAbandoned ∧
    ¬Sample.unloadOther.ListsInitialized Sample.unloadOther.history.initialized := by
  refine ⟨by decide +kernel, fun lists => ?_⟩
  have facts : (Sample.unloadOther.record? ⟨0⟩).map (fun record =>
      (record.isInitialized, Sample.unloadOther.registry.get? record.handle)) = some (true, none) := by
    decide +kernel
  obtain ⟨record, found, both⟩ := Option.map_eq_some_iff.mp facts
  obtain ⟨initialized, absent⟩ := Prod.mk.inj both
  obtain ⟨entry, there, -⟩ := lists.reaches ⟨0⟩ record found initialized
  exact Option.some_ne_none entry (there.symm.trans absent)

end ExtensionProxy
