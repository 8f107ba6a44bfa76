import ExtensionProxy.Proofs.Tally.Affairs

/-!
# What programs do to the affairs of a tally

Code that makes no requests but harmless ones leaves the affairs as they are, and comes to its end; the
code of other tallies is harmless.  The tally's own programs change its affairs as they are written.
-/

set_option autoImplicit false

namespace ExtensionProxy

variable {κ μ α β : Type}

namespace TallyPart

/-! ## Harmless code -/

variable (part : TallyPart κ μ) (id : TallyId)

/-- The request leaves the tally alone: it is for logging, for what the host answers, for what other code
remembers, or for handlers and tasks that run other code. -/
def Spares : Request κ μ → Prop
  | .tell _ => True
  | .setHost _ => True
  | .connect _ _ code => ¬part.Owns id code
  | .schedule _ code => ¬part.Owns id code
  | .remember change => ∀ memory,
      (part.tallies.get (change memory))[id.index]? = (part.tallies.get memory)[id.index]?
  | _ => False

/-- The program comes to its end, and all its requests leave the tally alone. -/
def Harmless : Program (proxyInterface κ μ) α → Prop
  | .done _ => True
  | .panic _ => False
  | .look next => ∀ s, Harmless (next s)
  | .ask request next => part.Spares id request ∧ ∀ answer, Harmless (next answer)

section Harmless

variable {part : TallyPart κ μ} {id : TallyId} [DecidableEq κ] {site : Site κ} {call : Caller κ μ}

theorem Spares.leadsTo {request : Request κ μ} (spares : part.Spares id request) (s : State κ μ) :
    Run.LeadsTo (part.affairs id) (serve site call request) s (part.affairs id s) := by
  cases request with
  | tell event => exact ⟨(), s.tell event, rfl, rfl⟩
  | setHost change => exact ⟨(), { s with host := change s.host }, rfl, rfl⟩
  | connect topic owner code =>
    exact ⟨_, _, rfl, affairs_connect_other spares topic owner s⟩
  | schedule owner code =>
    refine ⟨_, _, rfl, affairs_schedule_other (fun doc same => spares ?_) owner s⟩
    exact ⟨.report id doc, rfl, (Deferred.task.inj same).symm⟩
  | remember change =>
    refine ⟨_, _, rfl, ?_⟩
    have same : part.tally? (s.remember change) id = part.tally? s id := spares s.memory
    exact congrArg (fun tally => { part.affairs id s with
      tally := Option.map (fun kept : Tally => kept.relabel none) tally }) same
  | _ => exact spares.elim

/-- Whatever else it does, harmless code leaves the affairs as they are. -/
theorem Harmless.leadsTo {program : Program (proxyInterface κ μ) α}
    (harmless : part.Harmless id program) (s : State κ μ) :
    Run.LeadsTo (part.affairs id) (program.run (serve site call)) s (part.affairs id s) := by
  induction program generalizing s with
  | done value => exact Run.leadsTo_pure value s
  | panic message => exact harmless.elim
  | look next ih => exact ih s (harmless s) s
  | ask request next ih =>
    refine (harmless.1.leadsTo s).bind fun answer reached _ same => ?_
    rw [← same]
    exact ih answer (harmless.2 answer) reached

end Harmless

/-! ## Other tallies -/

section Others

variable {part : TallyPart κ μ} {id other : TallyId}

theorem harmless_view {f : State κ μ → β} {next : β → Program (proxyInterface κ μ) α}
    (rest : ∀ s, part.Harmless id (next (f s))) : part.Harmless id (view f >>= next) := rest

theorem tell_harmless (other : TallyId) (event : Tally → LogEvent) :
    part.Harmless id (part.tell other event) := by
  refine harmless_view fun s => ?_
  cases part.tally? s other with
  | none => trivial
  | some tally =>
    show part.Harmless id (if tally.heard then ask (.tell (event tally)) else pure ())
    split
    · exact ⟨trivial, fun _ => trivial⟩
    · trivial

theorem not_owns_embed (injective : Function.Injective part.embed) {own : TallyCode}
    (isOther : own.tally? ≠ some id) : ¬part.Owns id (part.embed own) :=
  fun ⟨_, owns, same⟩ => isOther (injective same ▸ owns)

theorem change_spares (different : other ≠ id) (f : Tally → Tally) :
    part.Spares id (.remember (part.tallies.modify fun tallies => tallies.modify other.index f)) := by
  intro memory
  have apart : other.index ≠ id.index := fun same => different (congrArg TallyId.mk same)
  simp [Lens.modify, part.tallies.get_set, apart]

theorem notify_harmless (injective : Function.Injective part.embed) (different : other ≠ id)
    (notice : Notice) : part.Harmless id (part.notify other notice) := by
  have apart : ∀ own : TallyCode, own.tally? = some other → ¬part.Owns id (part.embed own) :=
    fun own owns => not_owns_embed injective (owns ▸ fun same => different (Option.some.inj same))
  cases notice with
  | documentOpened wrapper =>
    refine harmless_view fun s => harmless_view fun t => ?_
    cases s.documentHandle? wrapper with
    | none => trivial
    | some doc =>
      cases part.tally? t other with
      | none => trivial
      | some tally =>
        exact ⟨change_spares different _, fun _ => ⟨apart _ rfl, fun _ => ⟨apart _ rfl, fun _ =>
          ⟨apart _ rfl, fun _ => tell_harmless other _⟩⟩⟩⟩
  | workspaceOpened wrapper =>
    refine harmless_view fun s => ?_
    cases s.workspaceWrapper? wrapper with
    | none => trivial
    | some workspace => exact ⟨change_spares different _, fun _ => trivial⟩
  | workspaceClosed => exact ⟨change_spares different _, fun _ => trivial⟩

theorem observe_harmless (injective : Function.Injective part.embed) {own : TallyCode}
    (isOther : own.tally? ≠ some id) : part.Harmless id (part.observe own) := by
  have different : ∀ {given}, own.tally? = some given → given ≠ id :=
    fun owns same => isOther (same ▸ owns)
  cases own with
  | typed given doc => exact ⟨change_spares (different rfl) _, fun _ => trivial⟩
  | closed given doc => exact ⟨change_spares (different rfl) _, fun _ => trivial⟩
  | saved given doc =>
    refine harmless_view fun s => ?_
    cases part.tally? s given with
    | none => trivial
    | some tally =>
      have apart : (TallyCode.report given doc).tally? ≠ some id :=
        fun same => different rfl (Option.some.inj same)
      exact ⟨not_owns_embed injective apart, fun _ => trivial⟩
  | _ => trivial

end Others

/-! ## Own code -/

section Own

variable {part : TallyPart κ μ} {id : TallyId} [DecidableEq κ] {site : Site κ} {call : Caller κ μ}

theorem leadsTo_view {f : State κ μ → β} {next : β → Program (proxyInterface κ μ) α} {s : State κ μ}
    {seen : Affairs κ}
    (rest : Run.LeadsTo (part.affairs id) ((next (f s)).run (serve site call)) s seen) :
    Run.LeadsTo (part.affairs id) ((view f >>= next).run (serve site call)) s seen := rest

theorem leadsTo_change {f : Tally → Tally} (g : Tally → Tally) (s : State κ μ)
    (apart : ∀ tally, (f tally).relabel none = g (tally.relabel none)) :
    Run.LeadsTo (part.affairs id) ((part.change id f).run (serve site call)) s
      ((part.affairs id s).change g) :=
  ⟨(), _, rfl, affairs_remember s apart⟩

theorem leadsTo_connect (injective : Function.Injective part.embed) {own : TallyCode}
    (isOwn : own.tally? = some id) (topic : Topic) (owner : Option ExtensionHandle) (s : State κ μ) :
    Run.LeadsTo (part.affairs id)
      ((ask (.connect topic owner (part.embed own))).run (serve site call)) s
      ((part.affairs id s).addHandler topic own) :=
  ⟨_, _, rfl, affairs_connect_own injective isOwn topic owner s⟩

theorem leadsTo_observe (injective : Function.Injective part.embed) {own : TallyCode}
    (isOwn : own.tally? = some id) (s : State κ μ) :
    Run.LeadsTo (part.affairs id) ((part.observe own).run (serve site call)) s
      ((part.affairs id s).observed own) := by
  cases own with
  | typed other doc =>
    cases isOwn
    exact ⟨false, _, rfl, affairs_remember s fun _ => rfl⟩
  | closed other doc =>
    cases isOwn
    exact ⟨false, _, rfl, affairs_remember s fun _ => rfl⟩
  | saved other doc =>
    cases isOwn
    refine leadsTo_view ?_
    cases kept : part.tally? s id with
    | none =>
      refine ⟨false, s, rfl, ?_⟩
      simp [Affairs.observed, affairs, kept]
    | some tally =>
      refine ⟨false, _, rfl, ?_⟩
      simp only [affairs_schedule, Deferred.task.injEq, injective.eq_iff, TallyCode.report.injEq]
      simp [Affairs.observed, affairs, kept, eq_comm]
  | _ => exact Run.leadsTo_pure false s

/-- The requests for a document that was opened, and what follows them. -/
theorem leadsTo_watching (injective : Function.Injective part.embed) (wrapper : DocumentId)
    (doc : DocumentHandle) (owner : Option ExtensionHandle) (s : State κ μ)
    {last : Program (proxyInterface κ μ) Unit} (harmless : part.Harmless id last) :
    Run.LeadsTo (part.affairs id) ((do
        part.change id fun tally => tally.track doc
        let _ ← ask (.connect (.editor wrapper .charAdded) owner (part.embed (.typed id doc)))
        let _ ← ask (.connect (.document wrapper .saved) owner (part.embed (.saved id doc)))
        let _ ← ask (.connect (.document wrapper .closed) owner (part.embed (.closed id doc)))
        last : Program (proxyInterface κ μ) Unit).run (serve site call)) s
      (((((part.affairs id s).change fun tally => tally.track doc).addHandler
        (.editor wrapper .charAdded) (.typed id doc)).addHandler
        (.document wrapper .saved) (.saved id doc)).addHandler
        (.document wrapper .closed) (.closed id doc)) := by
  refine Program.leadsTo_bind (I := proxyInterface κ μ)
    (leadsTo_change (fun tally => tally.track doc) s fun _ => rfl) fun _ s₁ tracked => ?_
  rw [← tracked]
  refine Program.leadsTo_bind (I := proxyInterface κ μ)
    (leadsTo_connect injective rfl _ owner s₁) fun _ s₂ typed => ?_
  rw [← typed]
  refine Program.leadsTo_bind (I := proxyInterface κ μ)
    (leadsTo_connect injective rfl _ owner s₂) fun _ s₃ saved => ?_
  rw [← saved]
  refine Program.leadsTo_bind (I := proxyInterface κ μ)
    (leadsTo_connect injective rfl _ owner s₃) fun _ s₄ closed => ?_
  rw [← closed]
  exact harmless.leadsTo s₄

theorem leadsTo_relabel (label : Option String) (s : State κ μ) :
    Run.LeadsTo (part.affairs id)
      ((part.change id fun tally => tally.relabel label).run (serve site call)) s
      (part.affairs id s) := by
  have same : (part.affairs id s).change (fun tally => tally) = part.affairs id s := by
    simp [Affairs.change]
  have leads : Run.LeadsTo (part.affairs id)
      ((part.change id fun tally => tally.relabel label).run (serve site call)) s _ :=
    leadsTo_change (fun tally => tally) s fun _ => rfl
  rwa [same] at leads

theorem leadsTo_notify (injective : Function.Injective part.embed) (notice : Notice)
    (s : State κ μ) :
    Run.LeadsTo (part.affairs id) ((part.notify id notice).run (serve site call)) s
      ((part.affairs id s).noticed id notice) := by
  cases notice with
  | documentOpened wrapper =>
    refine leadsTo_view (leadsTo_view ?_)
    have wrappers : (part.affairs id s).wrappers[wrapper.index]? = s.documentHandle? wrapper := rfl
    have tally : (part.affairs id s).tally =
        (part.tally? s id).map fun tally => tally.relabel none := rfl
    simp only [Affairs.noticed, wrappers, tally]
    cases s.documentHandle? wrapper with
    | none => exact Run.leadsTo_pure () s
    | some doc =>
      cases part.tally? s id with
      | none => exact Run.leadsTo_pure () s
      | some tally =>
        exact leadsTo_watching injective wrapper doc (some tally.owner) s (tell_harmless id _)
  | workspaceOpened wrapper =>
    refine leadsTo_view ?_
    cases s.workspaceWrapper? wrapper with
    | none => exact Run.leadsTo_pure () s
    | some workspace => exact leadsTo_relabel (some (Tally.labelOf workspace)) s
  | workspaceClosed => exact leadsTo_relabel none s

end Own

end TallyPart

end ExtensionProxy
