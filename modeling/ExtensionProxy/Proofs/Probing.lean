import ExtensionProxy.Proofs.Attempts
import ExtensionProxy.Proofs.Candidate
import ExtensionProxy.Proofs.Conduct.Service

/-!
# Probing predicts loading

A descriptor is probed, loaded and initialized at three different times and by three functions.  They
come to agree because each of them asks a question that no state has a say in: whether the descriptor at
a path is valid, and whether a module binds.  Both the counterpart that probing binds and the module path
that loading puts into the record are the path of the descriptor with the extension of modules.

So a path is matched exactly if it can be loaded and the module of the record binds.  What initializing
the record comes to is then up to the factory and nobody else.  Probing takes no part in any of this:
however many paths are probed, at most the log grows and bindings are counted on.
-/

set_option autoImplicit false

namespace ExtensionProxy

variable {κ μ : Type} {site : Site κ} {path : String} {handle : ExtensionHandle} {record : Record}

/-! ## Probing leaves nothing behind -/

/-- Lets a run work on one argument after the other. -/
def Run.each {σ α β : Type} (run : α → Run σ β) : List α → Run σ (List β)
  | [] => pure []
  | first :: rest => do
    let value ← run first
    let values ← Run.each run rest
    pure (value :: values)

namespace Site

/-- Probes paths one after the other. -/
def probeAll (site : Site κ) (paths : List String) : Run (State κ μ) (List ProbeOutcome) :=
  Run.each (fun path => Run.zoom State.benchLens (site.probe path)) paths

/-- The counterpart has the extension of the other kind. -/
theorem counterpart_of_kind {σ : Type} {kind : CandidateKind} {other : String}
    (isKind : site.settings.loader.classify path = kind)
    (named : site.settings.loader.counterpartExtension kind = some other)
    (extension : Path.isExtension other = true) :
    site.settings.loader.counterpart path =
      (pure (some (Path.withExtension path other)) : Run σ _) := by
  simp only [LoaderSettings.counterpart, isKind, named, Path.withExtension?, extension, if_true]

theorem counterpart_of_descriptor {σ : Type}
    (extension : Path.isExtension site.settings.loader.moduleExtension = true)
    (kind : site.settings.loader.classify path = .descriptor) :
    site.settings.loader.counterpart path =
      (pure (some (Path.withExtension path site.settings.loader.moduleExtension)) : Run σ _) :=
  counterpart_of_kind kind rfl extension

/-- Probing comes to an outcome if both extensions can be ones. -/
theorem probe_gives_some (descriptor : Path.isExtension site.settings.loader.descriptorExtension = true)
    (module : Path.isExtension site.settings.loader.moduleExtension = true) (path : String) :
    ∃ outcome, (site.probe path).Gives outcome := by
  cases kind : site.settings.loader.classify path with
  | descriptor => exact ⟨_, probe_descriptor_gives kind (counterpart_of_descriptor module kind)⟩
  | module => exact ⟨_, probe_module_gives kind (counterpart_of_kind kind rfl descriptor)⟩
  | other => exact ⟨_, probe_other_gives kind⟩

/-- After a probe nothing has changed but the log and the number of the next binding. -/
theorem probe_apply (descriptor : Path.isExtension site.settings.loader.descriptorExtension = true)
    (module : Path.isExtension site.settings.loader.moduleExtension = true) (path : String)
    (s : State κ μ) :
    ∃ outcome log next, Run.zoom State.benchLens (site.probe path) s =
      (.ok outcome, { s with bench := ⟨s.bench.held, next, log⟩ }) := by
  obtain ⟨outcome, gives⟩ := probe_gives_some descriptor module path
  obtain ⟨extra, log, reached⟩ := site.probe_probes path s.bench
  refine ⟨outcome, log, s.bench.next + extra, ?_⟩
  have probed : site.probe path s.bench = (.ok outcome, ⟨s.bench.held, s.bench.next + extra, log⟩) :=
    Prod.ext (gives s.bench) reached
  simp only [Run.zoom, State.benchLens, probed]

theorem probeAll_apply (descriptor : Path.isExtension site.settings.loader.descriptorExtension = true)
    (module : Path.isExtension site.settings.loader.moduleExtension = true) (paths : List String)
    (s : State κ μ) :
    ∃ outcomes log next, site.probeAll paths s =
      (.ok outcomes, { s with bench := ⟨s.bench.held, next, log⟩ }) := by
  induction paths generalizing s with
  | nil => exact ⟨[], s.bench.log, s.bench.next, rfl⟩
  | cons path paths ih =>
    obtain ⟨outcome, log, next, probed⟩ := probe_apply descriptor module path s
    obtain ⟨outcomes, log', next', rest⟩ := ih { s with bench := ⟨s.bench.held, next, log⟩ }
    refine ⟨outcome :: outcomes, log', next', ?_⟩
    rw [probeAll] at rest
    rw [probeAll, Run.each, Run.bind_apply_of_ok _ probed, Run.bind_apply_of_ok _ rest]
    rfl

end Site

/-! ## What loading comes to -/

/-- A descriptor knows its path. -/
theorem Descriptor.path_of_ofKeyFile {settings : LoaderSettings} {environment : Environment}
    {file : KeyFile} {descriptor : Descriptor}
    (made : Descriptor.ofKeyFile settings environment path file = .ok descriptor) :
    descriptor.path = path := by
  unfold Descriptor.ofKeyFile at made
  simp only at made
  split at made
  · cases made
  · split at made
    · cases made
    · split at made
      · cases made
      · cases made
        rfl

theorem Site.path_of_descriptor {descriptor : Descriptor}
    (valid : site.descriptor path = .ok descriptor) : descriptor.path = path := by
  unfold Site.descriptor Descriptor.ofFile at valid
  split at valid
  · cases valid
  · exact Descriptor.path_of_ofKeyFile valid

/-- The record that is made for a valid descriptor. -/
def Site.freshRecord (site : Site κ) (handle : ExtensionHandle) (descriptor : Descriptor) : Record :=
  ⟨handle, descriptor, Path.withExtension descriptor.path site.settings.loader.moduleExtension,
    .probed, none, none⟩

/-- The module of a record is the counterpart of its descriptor. -/
theorem Site.modulePath_freshRecord {descriptor : Descriptor}
    (valid : site.descriptor path = .ok descriptor) (handle : ExtensionHandle) :
    (site.freshRecord handle descriptor).modulePath =
      Path.withExtension path site.settings.loader.moduleExtension := by
  rw [freshRecord, path_of_descriptor valid]

/-- A valid descriptor is loaded. -/
theorem loadRecord_of_valid (extension : Path.isExtension site.settings.loader.moduleExtension = true)
    {descriptor : Descriptor} (valid : site.descriptor path = .ok descriptor)
    (handle : ExtensionHandle) (s : State κ μ) :
    ∃ reached, loadRecord site handle path s = (.ok (some ⟨s.recordCount⟩), reached) ∧
      reached.record? ⟨s.recordCount⟩ = some (site.freshRecord handle descriptor) := by
  simp only [loadRecord, valid, Descriptor.modulePath?, Path.withExtension?, extension, if_true]
  exact ⟨_, rfl, (OrderedMap.get?_insert s.records _ _ _).trans (if_pos rfl)⟩

/-- A descriptor that is not valid is refused. -/
theorem loadRecord_of_invalid {cause : Cause} (invalid : site.descriptor path = .error cause)
    (handle : ExtensionHandle) (s : State κ μ) :
    ∃ reached, loadRecord site handle path s = (.ok none, reached) := by
  simp only [loadRecord, invalid]
  exact ⟨_, rfl⟩

/-- A valid descriptor is not loaded where the extension of modules cannot be one. -/
theorem loadRecord_of_slash (slash : Path.isExtension site.settings.loader.moduleExtension = false)
    {descriptor : Descriptor} (valid : site.descriptor path = .ok descriptor)
    (handle : ExtensionHandle) (s : State κ μ) :
    ∃ why, loadRecord site handle path s = (.error why, s) := by
  simp only [loadRecord, valid, Descriptor.modulePath?, Path.withExtension?, slash]
  exact ⟨_, rfl⟩

/-- Loading comes to one of three ends, told apart by the descriptor and the extension of modules. -/
theorem loadRecord_ends (handle : ExtensionHandle) (path : String) (s : State κ μ) :
    (site.isDescriptor path = false ∧ ∃ reached, loadRecord site handle path s = (.ok none, reached)) ∨
    (site.isDescriptor path = true ∧ Path.isExtension site.settings.loader.moduleExtension = false ∧
      ∃ why, loadRecord site handle path s = (.error why, s)) ∨
    (site.isDescriptor path = true ∧ Path.isExtension site.settings.loader.moduleExtension = true ∧
      ∃ id reached, loadRecord site handle path s = (.ok (some id), reached)) := by
  rw [Site.isDescriptor]
  cases valid : site.descriptor path with
  | error cause => exact .inl ⟨rfl, loadRecord_of_invalid valid handle s⟩
  | ok descriptor =>
    cases extension : Path.isExtension site.settings.loader.moduleExtension with
    | false => exact .inr (.inl ⟨rfl, rfl, loadRecord_of_slash extension valid handle s⟩)
    | true =>
      obtain ⟨reached, loaded, -⟩ := loadRecord_of_valid extension valid handle s
      exact .inr (.inr ⟨rfl, rfl, _, reached, loaded⟩)

/-- A path is loaded exactly if it is a valid descriptor and the extension of modules can be one. -/
theorem loadRecord_loads_iff (handle : ExtensionHandle) (path : String) (s : State κ μ) :
    (∃ id reached, loadRecord site handle path s = (.ok (some id), reached)) ↔
      site.isDescriptor path = true ∧ Path.isExtension site.settings.loader.moduleExtension = true := by
  obtain ⟨invalid, _, refused⟩ | ⟨valid, slash, _, stopped⟩ | ⟨valid, extension, _, _, loaded⟩ :=
    @loadRecord_ends _ _ site handle path s
  · simp [refused, invalid]
  · simp [stopped, slash]
  · simp [loaded, valid, extension]

/-- It is refused exactly if it is no valid descriptor. -/
theorem loadRecord_refuses_iff (handle : ExtensionHandle) (path : String) (s : State κ μ) :
    (∃ reached, loadRecord site handle path s = (.ok none, reached)) ↔
      site.isDescriptor path = false := by
  obtain ⟨invalid, _, refused⟩ | ⟨valid, -, _, stopped⟩ | ⟨valid, -, _, _, loaded⟩ :=
    @loadRecord_ends _ _ site handle path s
  · simp [refused, invalid]
  · simp [stopped, valid]
  · simp [loaded, valid]

/-- Where the extension of modules can be one, a path is loaded exactly if it is a valid descriptor. -/
theorem loadRecord_iff (extension : Path.isExtension site.settings.loader.moduleExtension = true)
    (handle : ExtensionHandle) (path : String) (s : State κ μ) :
    (∃ id reached, loadRecord site handle path s = (.ok (some id), reached)) ↔
      site.isDescriptor path = true :=
  (loadRecord_loads_iff handle path s).trans (and_iff_left extension)

/-- What is loaded is the record of a valid descriptor. -/
theorem fresh_of_loadRecord
    (extension : Path.isExtension site.settings.loader.moduleExtension = true) {s reached : State κ μ}
    {id : RecordId} (loaded : loadRecord site handle path s = (.ok (some id), reached)) :
    ∃ descriptor, site.descriptor path = .ok descriptor ∧
      reached.record? id = some (site.freshRecord handle descriptor) := by
  cases valid : site.descriptor path with
  | error cause =>
    obtain ⟨other, refused⟩ := loadRecord_of_invalid valid handle s
    cases refused.symm.trans loaded
  | ok descriptor =>
    obtain ⟨other, run, fresh⟩ := loadRecord_of_valid extension valid handle s
    obtain ⟨same, rfl⟩ := Prod.mk.inj (run.symm.trans loaded)
    cases same
    exact ⟨descriptor, rfl, fresh⟩

/-! ## What initializing comes to -/

/-- Initializing a record is up to the factory of its module: the factory is called with the module bound,
and the record is initialized if the factory makes an instance while the handle stays free, and not
initialized if it declines. -/
def FollowsFactory (site : Site κ) (call : Caller κ μ) (id : RecordId) (record : Record)
    (s : State κ μ) : Prop :=
  ∃ (factory : Factory κ) (log : Array LogEvent),
    site.binder.bind site.files record.modulePath site.settings.loader.factorySymbol = .ok factory ∧
    ((initRecord site call id record s).1 = .ok (.ok true) ↔
      ∃ code returned, call (record.creating ⟨s.bench.next⟩ factory.code s)
          ((s.binding log).loading id) = (.ok (some code), returned) ∧
        returned.registry.contains record.handle = false) ∧
    ((initRecord site call id record s).1 = .ok (.ok false) ↔
      ∃ returned, call (record.creating ⟨s.bench.next⟩ factory.code s)
        ((s.binding log).loading id) = (.ok none, returned))

/-- An instance that was made for a taken handle is not registered. -/
theorem adopt_ne_ok_of_taken (call : Caller κ μ) (id : RecordId) (binding : BindingId) (made : κ)
    {s : State κ μ} (taken : s.registry.contains record.handle = true) (initialized : Bool) :
    (adopt call id record binding made s).1 ≠ .ok (.ok initialized) := by
  intro ran
  rw [adopt_apply_of_taken call id binding made taken] at ran
  obtain ⟨_, _, -, refused⟩ := Run.of_bind_ok (Prod.ext ran rfl)
  cases refused

/-- The factory is called once its module is bound, and its answer decides. -/
theorem construct_iff (call : Caller κ μ) (id : RecordId) (record : Record) (binding : Binding κ)
    (s : State κ μ) :
    ((construct call id record binding s).1 = .ok (.ok true) ↔
      ∃ code returned, call (record.creating binding.id binding.factory.code s) (s.loading id) =
          (.ok (some code), returned) ∧ returned.registry.contains record.handle = false) ∧
    ((construct call id record binding s).1 = .ok (.ok false) ↔
      ∃ returned, call (record.creating binding.id binding.factory.code s) (s.loading id) =
        (.ok none, returned)) := by
  rcases called : call (record.creating binding.id binding.factory.code s) (s.loading id) with
    ⟨why | made, returned⟩
  · simp [construct_of_stopped called]
  · cases made with
    | none =>
      obtain ⟨reached, declined, -⟩ := construct_of_declined called
      simp [declined]
    | some code =>
      rw [construct_of_made called]
      cases taken : returned.registry.contains record.handle with
      | true => simp [adopt_ne_ok_of_taken call id binding.id code taken, taken]
      | false =>
        obtain ⟨reached, registered, -⟩ := adopt_apply_of_free call id binding.id code taken
        simp [registered, taken]

/-- What binds gives a factory. -/
theorem Site.exists_factory (binds : site.binds path = true) : ∃ factory,
    site.binder.bind site.files path site.settings.loader.factorySymbol = .ok factory := by
  unfold Site.binds at binds
  revert binds
  cases site.binder.bind site.files path site.settings.loader.factorySymbol with
  | error cause =>
    intro binds
    cases binds
  | ok factory => exact fun _ => ⟨factory, rfl⟩

/-- A record that was not initialized, with a module that binds and a handle that is free, is initialized
as its factory has it. -/
theorem initRecord_followsFactory (call : Caller κ μ) (id : RecordId) {s : State κ μ}
    (bare : record.target = none) (binds : site.binds record.modulePath = true)
    (free : s.registry.contains record.handle = false) : FollowsFactory site call id record s := by
  obtain ⟨factory, bound⟩ := Site.exists_factory binds
  have notInitialized : record.isInitialized = false := by
    rw [Record.isInitialized, bare, Option.isSome_none, Bool.and_false]
  obtain ⟨log, constructed⟩ := initRecord_apply_of_bound notInitialized free bound call id
  refine ⟨factory, log, bound, ?_⟩
  rw [constructed]
  exact construct_iff call id record ⟨⟨s.bench.next⟩, factory⟩ (s.binding log)

/-! ## Probing predicts loading -/

/-- What probing a descriptor tells of loading it and of initializing its record. -/
structure ProbingPredicts (site : Site κ) (call : Caller κ μ) (handle : ExtensionHandle)
    (path : String) : Prop where
  /-- Probing any paths comes to outcomes, and changes only the log and the number of the next binding. -/
  probes : ∀ paths (s : State κ μ), ∃ outcomes log next, site.probeAll paths s =
    (.ok outcomes, { s with bench := ⟨s.bench.held, next, log⟩ })
  /-- The path is matched at any time if at any time a record is loaded whose module binds. -/
  matched : ∀ s t : State κ μ,
    (Run.zoom State.benchLens (site.probe path) s).1 = .ok .matched ↔
      ∃ id record reached, loadRecord site handle path t = (.ok (some id), reached) ∧
        reached.record? id = some record ∧ site.binds record.modulePath = true
  /-- If it is, then initializing the record at any time is up to the factory. -/
  init : ∀ s t : State κ μ, (Run.zoom State.benchLens (site.probe path) s).1 = .ok .matched →
    ∀ id record reached, loadRecord site handle path t = (.ok (some id), reached) →
      reached.record? id = some record → ∀ later : State κ μ,
        later.registry.contains handle = false → FollowsFactory site call id record later

theorem matched_iff (extension : Path.isExtension site.settings.loader.moduleExtension = true)
    (kind : site.settings.loader.classify path = .descriptor) (s : State κ μ) :
    (Run.zoom State.benchLens (site.probe path) s).1 = .ok .matched ↔
      site.isDescriptor path = true ∧
        site.binds (Path.withExtension path site.settings.loader.moduleExtension) = true := by
  rw [Run.zoom_fst, Site.probe_descriptor_gives kind (Site.counterpart_of_descriptor extension kind),
    ← Bool.and_eq_true]
  split <;> simp_all

/-- Probing predicts loading, for every path of a descriptor. -/
theorem probingPredicts (site : Site κ) (call : Caller κ μ) (handle : ExtensionHandle)
    {path : String} (extension : Path.isExtension site.settings.loader.moduleExtension = true)
    (kind : site.settings.loader.classify path = .descriptor) :
    ProbingPredicts site call handle path where
  probes := by
    have named : Path.extension? path = some site.settings.loader.descriptorExtension := by
      rcases LoaderSettings.extension?_of_classify (by rw [kind]; simp) with ⟨-, named⟩ | ⟨other, -⟩
      · exact named
      · rw [kind] at other
        cases other
    exact Site.probeAll_apply (Path.isExtension_of_extension? named) extension
  matched := by
    intro s t
    rw [matched_iff extension kind, ← loadRecord_iff extension handle path t]
    constructor
    · rintro ⟨⟨id, reached, loaded⟩, binds⟩
      obtain ⟨descriptor, valid, fresh⟩ := fresh_of_loadRecord extension loaded
      exact ⟨id, _, reached, loaded, fresh, by rwa [Site.modulePath_freshRecord valid]⟩
    · rintro ⟨id, record, reached, loaded, found, binds⟩
      obtain ⟨descriptor, valid, fresh⟩ := fresh_of_loadRecord extension loaded
      obtain rfl := Option.some.inj (found.symm.trans fresh)
      rw [Site.modulePath_freshRecord valid] at binds
      exact ⟨⟨id, reached, loaded⟩, binds⟩
  init := by
    intro s t matched id record reached loaded found later free
    obtain ⟨descriptor, valid, fresh⟩ := fresh_of_loadRecord extension loaded
    obtain rfl := Option.some.inj (found.symm.trans fresh)
    have binds := ((matched_iff extension kind s).mp matched).2
    rw [← Site.modulePath_freshRecord valid handle] at binds
    exact initRecord_followsFactory call id rfl binds free

/-- A descriptor that is matched, with foreign code that does nothing but make an instance. -/
theorem Sample.matched_probingPredicts :
    Path.isExtension (Sample.site ()).settings.loader.moduleExtension = true ∧
      (Sample.site ()).settings.loader.classify "e/a.plugin" = .descriptor ∧
      ((Sample.site ()).probe "e/a.plugin" {}).1 = .ok .matched ∧
      ProbingPredicts (Sample.site ()) ((proxyInterface Unit Unit).call (serve (Sample.site ()))
        (Sample.foreign fun _ => .done ()) 8) ⟨1⟩ "e/a.plugin" := by
  have extension : Path.isExtension (Sample.site ()).settings.loader.moduleExtension = true := rfl
  have kind : (Sample.site ()).settings.loader.classify "e/a.plugin" = .descriptor := by decide
  exact ⟨extension, kind, rfl, probingPredicts _ _ _ extension kind⟩

end ExtensionProxy
