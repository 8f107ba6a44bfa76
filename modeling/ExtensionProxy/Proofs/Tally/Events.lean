import ExtensionProxy.Proofs.Frames
import ExtensionProxy.Proofs.Tally.Attending

/-!
# What events do to the affairs of a tally

Each event is dispatched to its end, apart from reading a table of categories that there is no memory
for, and what the tally attends to afterwards follows from what it attended to before.
-/

set_option autoImplicit false

namespace ExtensionProxy

variable {κ μ : Type}

namespace TallyPart

section Events

variable [DecidableEq κ] {part : TallyPart κ μ} {id : TallyId} {call : Caller κ μ}
  {standing : DocumentHandle → Standing} {s : State κ μ}

/-- What an event makes of the affairs. -/
structure Follows (part : TallyPart κ μ) (id : TallyId) (standing : DocumentHandle → Standing)
    (event : HostEvent) (a b : Affairs κ) : Prop where
  attends : part.Attends id (fun doc => (standing doc).after doc event) b
  reports : ∀ doc, b.reports doc = a.reports doc +
    if event.saves doc then (standing doc).openings else 0

omit [DecidableEq κ] in
/-- An event that makes no difference to any document. -/
theorem Follows.of_quiet {event : HostEvent} {a b : Affairs κ}
    (attends : part.Attends id standing b) (reports : b.reports = a.reports)
    (quiet : ∀ doc, (standing doc).after doc event = standing doc)
    (unsaved : ∀ doc, event.saves doc = true → (standing doc).openings = 0) :
    Follows part id standing event a b where
  attends := by
    simp only [quiet]
    exact attends
  reports := by
    intro doc
    rw [reports]
    split
    · next saves => rw [unsaved doc saves, Nat.add_zero]
    · rfl

omit [DecidableEq κ] in
/-- An event that makes a difference to its document only. -/
theorem Follows.of_update {event : HostEvent} {doc : DocumentHandle} {now : Standing}
    {a b : Affairs κ} (about : event.document? = some doc)
    (isNow : (standing doc).after doc event = now)
    (attends : part.Attends id (Function.update standing doc now) b)
    (reports : ∀ other, b.reports other = a.reports other +
      if event.saves other then (standing other).openings else 0) :
    Follows part id standing event a b where
  attends := by
    have same : (fun other => (standing other).after other event) =
        Function.update standing doc now := by
      refine Function.eq_update_iff.mpr ⟨isNow, fun other different => ?_⟩
      refine Standing.after_of_document_ne ?_ _
      rw [about]
      exact fun equal => different (Option.some.inj equal).symm
    rw [same]
    exact attends
  reports := reports

variable (part id) in
theorem addDocument_enrolls (doc : DocumentHandle) (s : State κ μ) :
    ∃ wrapper reached, addDocument doc s = (.ok wrapper, reached) ∧
      part.affairs id reached = (part.affairs id s).enroll doc ∧
      reached.documents.get? doc = some wrapper := by
  have documents : (part.affairs id s).documents = s.documents := rfl
  cases found : s.documents.get? doc with
  | some wrapper =>
    refine ⟨wrapper, s, ?_, ?_, found⟩
    · simp only [addDocument, IdentityCache.addWith, Run.gets_bind_apply, State.documentsLens, found]
      rfl
    · simp only [Affairs.enroll, documents, found]
  | none =>
    have registered : s.documents.register doc ⟨s.documentWrappers.length⟩ =
        (⟨s.documentWrappers.length⟩, s.documents.insert doc ⟨s.documentWrappers.length⟩) := by
      simp only [IdentityCache.register, found]
    refine ⟨(s.documents.register doc ⟨s.documentWrappers.length⟩).1, { s with
      documents := (s.documents.register doc ⟨s.documentWrappers.length⟩).2
      documentWrappers := s.documentWrappers ++ [doc] }, ?_, ?_, ?_⟩
    · simp only [addDocument, IdentityCache.addWith, Run.gets_bind_apply, State.documentsLens, found]
      rfl
    · simp only [Affairs.enroll, documents, found, registered]
      rfl
    · simp only [registered, IdentityCache.get?_insert, if_true]

theorem affairs_reloadCategories (s : State κ μ) :
    part.affairs id (reloadCategories s).2 = part.affairs id s := by
  let holds (t : State κ μ) : Prop := part.affairs id t = part.affairs id s
  refine Run.bind_snd holds rfl fun before reached _ now => ?_
  refine Run.bind_snd holds ?_ fun rows reached' _ now => now
  cases before.host.categories <;> exact now

namespace Attends

theorem leadsTo_emitTopic (attends : part.Attends id standing (part.affairs id s))
    (minds : part.Minds id call) {doc : DocumentHandle} {wrapper : DocumentId}
    (there : s.documents.get? doc = some wrapper) (topic : Topic)
    (of : topic.document? = some wrapper) (own : TallyCode) (isOwn : own.tally? = some id)
    (observes : TallyCode.observer? id doc topic = some own) (emitted : Emitted) :
    Run.LeadsTo (part.affairs id) (emitTopic call topic emitted) s
      ((fun a => a.observed own)^[(standing doc).openings] (part.affairs id s)) := by
  have watched := attends.watched doc wrapper there topic
  have only : ∀ other, other ≠ own → (part.affairs id s).handlers topic other = 0 := by
    intro other different
    rw [watched other of, observes, if_neg fun same => different (Option.some.inj same).symm]
  have emits := minds.leadsTo_emitTopic isOwn emitted only (attends.idle topic)
  rwa [watched own of, observes, if_pos rfl] at emits

theorem leadsTo_emitTopic_silent (attends : part.Attends id standing (part.affairs id s))
    (minds : part.Minds id call) (topic : Topic)
    (silent : ∀ own, (part.affairs id s).handlers topic own = 0) (emitted : Emitted) :
    Run.LeadsTo (part.affairs id) (emitTopic call topic emitted) s (part.affairs id s) := by
  have isOwn : (TallyCode.instance id).tally? = some id := rfl
  have emits := minds.leadsTo_emitTopic isOwn emitted (fun other _ => silent other)
    (attends.idle topic)
  rwa [silent] at emits

theorem leadsTo_emitTopic_unobserved (attends : part.Attends id standing (part.affairs id s))
    (minds : part.Minds id call) {doc : DocumentHandle} {wrapper : DocumentId}
    (there : s.documents.get? doc = some wrapper) (topic : Topic)
    (of : topic.document? = some wrapper) (unobserved : TallyCode.observer? id doc topic = none)
    (emitted : Emitted) :
    Run.LeadsTo (part.affairs id) (emitTopic call topic emitted) s (part.affairs id s) := by
  refine attends.leadsTo_emitTopic_silent minds topic (fun own => ?_) emitted
  rw [attends.watched doc wrapper there topic own of, unobserved]
  rfl

end Attends

theorem leadsTo_fired (event : HostEvent) {doc : DocumentHandle} {wrapper : DocumentId}
    (there : s.documents.get? doc = some wrapper) {signal : DocumentSignal} {b : Affairs κ}
    (emits : Run.LeadsTo (part.affairs id) (emitTopic call (.document wrapper signal) .plain) s b) :
    Run.LeadsTo (part.affairs id) (fireDocument call event doc signal) s
      (if signal = .closed then b.evict doc else b) := by
  have unfolded : fireDocument call event doc signal s = (do
      let emission ← emitTopic call (.document wrapper signal) .plain
      if signal = .closed then
        let _ ← removeDocument doc
      pure { resolved := true, observers := emission.ran } : Run (State κ μ) DispatchOutcome) s := by
    simp only [fireDocument, Run.get_bind_apply, there]
  refine Run.LeadsTo.of_eq (emits.bind fun emission reached _ now => ?_) unfolded
  rw [← now]
  split
  · exact ⟨_, _, rfl, rfl⟩
  · exact Run.leadsTo_pure _ reached

namespace Attends

theorem leadsTo_openDocument (attends : part.Attends id standing (part.affairs id s))
    (minds : part.Minds id call) (event : HostEvent) (number : Nat) {doc : DocumentHandle}
    (opens : event = .document .created doc ∨ event = .document .opened doc) :
    ∃ b, Run.LeadsTo (part.affairs id) (openDocument call event number doc) s b ∧
      Follows part id standing event (part.affairs id s) b := by
  obtain ⟨wrapper, reached, ran, now, there⟩ := addDocument_enrolls part id doc s
  have enrolled := attends.enroll doc
  rw [← now] at enrolled
  have kept : (part.affairs id reached).tally.isSome := by
    obtain ⟨tally, kept, -⟩ := enrolled.counts
    exact kept ▸ rfl
  have isDoc : (part.affairs id reached).wrappers[wrapper.index]? = some doc :=
    enrolled.wrapped doc wrapper there
  have ran : openDocument call event number doc s = broadcast call event.name number
      (.documentOpened wrapper) { resolved := true } reached := Run.bind_apply_of_ok _ ran
  refine ⟨_, (minds.leadsTo_broadcast event.name number (.documentOpened wrapper) { resolved := true }
    enrolled.registers).of_eq ran, ?_⟩
  have unreported : ((part.affairs id reached).noticed id (.documentOpened wrapper)).reports =
      (part.affairs id s).reports := by
    rw [Affairs.noticed_eq isDoc kept, now]
    simp only [Affairs.enroll]
    split <;> rfl
  have about : event.document? = some doc := by rcases opens with rfl | rfl <;> rfl
  have unsaved : ∀ other, event.saves other = false := by
    rcases opens with rfl | rfl <;> exact fun _ => rfl
  refine .of_update about ?_ (enrolled.reopen there) fun other => ?_
  · rcases opens with rfl | rfl <;> simp [Standing.after, HostEvent.opens]
  · rw [unreported, unsaved]
    rfl

omit [DecidableEq κ] in
/-- Nothing stands of a document that is not registered. -/
theorem standing_of_unregistered {a : Affairs κ} (attends : part.Attends id standing a)
    {doc : DocumentHandle} (absent : a.documents.get? doc = none) : standing doc = {} := by
  have unopened := attends.unopened doc absent
  have untyped := attends.untyped doc unopened
  cases stands : standing doc with
  | mk openings typed =>
    rw [stands] at unopened untyped
    rw [Standing.mk.injEq]
    exact ⟨unopened, untyped⟩

/-- Nothing comes of an event whose document is not registered. -/
theorem follows_unregistered (attends : part.Attends id standing (part.affairs id s))
    {event : HostEvent} {doc : DocumentHandle} (about : event.document? = some doc)
    (opens : event.opens doc = false) (absent : s.documents.get? doc = none) :
    Follows part id standing event (part.affairs id s) (part.affairs id s) := by
  have stands := attends.standing_of_unregistered absent
  refine .of_quiet attends rfl (fun other => ?_) fun other saves => ?_
  · by_cases same : other = doc
    · rw [same, stands]
      simp [Standing.after, opens]
    · refine Standing.after_of_document_ne ?_ _
      rw [about]
      exact fun equal => same (Option.some.inj equal).symm
  · rw [HostEvent.saves_iff.mp saves] at about
    rw [Option.some.inj about, stands]

theorem leadsTo_fireDocument (attends : part.Attends id standing (part.affairs id s))
    (minds : part.Minds id call) {moment : DocumentMoment} {signal : DocumentSignal}
    (fires : moment.signal? = some signal) (doc : DocumentHandle) :
    ∃ b, Run.LeadsTo (part.affairs id) (fireDocument call (.document moment doc) doc signal) s b ∧
      Follows part id standing (.document moment doc) (part.affairs id s) b := by
  cases there : s.documents.get? doc with
  | none =>
    refine ⟨part.affairs id s, ?_, attends.follows_unregistered rfl ?_ there⟩
    · refine ⟨{}, s.tell ⟨.debug, "No wrapper for document, dropped",
        [("event", (HostEvent.document moment doc).name), ("document", doc.display)]⟩, ?_, rfl⟩
      simp only [fireDocument, Run.get_bind_apply, there]
      rfl
    · cases moment <;> first | rfl | cases fires
  | some wrapper =>
    cases moment with
    | created | opened => cases fires
    | activated | beforeSave | reloaded =>
      cases fires
      exact ⟨_, leadsTo_fired _ there
        (attends.leadsTo_emitTopic_unobserved minds there (.document wrapper _) rfl rfl .plain),
        .of_quiet attends rfl (fun _ => rfl) nofun⟩
    | saved =>
      cases fires
      have kept : (part.affairs id s).tally.isSome := by
        obtain ⟨tally, kept, -⟩ := attends.counts
        exact kept ▸ rfl
      have emits := attends.leadsTo_emitTopic minds there (.document wrapper .saved) rfl (.saved id doc)
        rfl rfl .plain
      rw [Affairs.saved_iterate id doc _ kept] at emits
      refine ⟨_, leadsTo_fired _ there emits, ?_⟩
      refine ⟨attends.addReports doc _, fun other => ?_⟩
      show _ + (if other = doc then _ else 0) = _
      simp only [HostEvent.saves, decide_eq_true_eq, eq_comm (a := doc)]
      split
      · next same => rw [same]
      · rfl
    | closed =>
      cases fires
      have emits := attends.leadsTo_emitTopic minds there (.document wrapper .closed) rfl
        (.closed id doc) rfl rfl .plain
      have forgets : (fun a : Affairs κ => a.observed (.closed id doc)) =
          fun a => a.change fun tally => tally.forget doc := rfl
      rw [forgets, Affairs.change_iterate] at emits
      refine ⟨_, leadsTo_fired _ there emits, .of_update rfl ?_ (attends.close doc) fun _ => rfl⟩
      simp [Standing.after, HostEvent.opens, HostEvent.types, HostEvent.closes]

theorem leadsTo_fireEditor (attends : part.Attends id standing (part.affairs id s))
    (minds : part.Minds id call) (doc : DocumentHandle) (note : EditorNote) :
    ∃ b, Run.LeadsTo (part.affairs id) (fireEditor call doc note) s b ∧
      Follows part id standing (.editor doc note) (part.affairs id s) b := by
  cases isKind : note.kind with
  | none =>
    refine ⟨part.affairs id s, ⟨{}, s.tell ⟨.warn, "Unknown editor notification code, dropped",
      [("code", toString note.code), ("document", doc.display)]⟩, ?_, rfl⟩, ?_⟩
    · simp only [fireEditor, isKind]
      rfl
    · refine .of_quiet attends rfl (fun other => ?_) nofun
      simp [Standing.after, HostEvent.opens, HostEvent.types, HostEvent.closes, isKind]
  | some kind =>
    cases there : s.documents.get? doc with
    | none =>
      refine ⟨part.affairs id s, ⟨{}, s.tell ⟨.debug, "No wrapper for editor notification, dropped",
        [("document", doc.display), ("kind", kind.name)]⟩, ?_, rfl⟩,
        attends.follows_unregistered rfl rfl there⟩
      simp only [fireEditor, isKind, Run.get_bind_apply, there]
      rfl
    | some wrapper =>
      have fired : ∀ b, Run.LeadsTo (part.affairs id)
          (emitTopic call (.editor wrapper kind) (.note note)) s b →
          Run.LeadsTo (part.affairs id) (fireEditor call doc note) s b := by
        intro b emits
        have unfolded : fireEditor call doc note s = (do
            let emission ← emitTopic call (.editor wrapper kind) (.note note)
            pure { resolved := true, observers := emission.ran, handled := emission.handled } :
              Run (State κ μ) DispatchOutcome) s := by
          simp only [fireEditor, isKind, Run.get_bind_apply, there]
        refine (emits.bind fun emission reached _ now => ?_).of_eq unfolded
        rw [← now]
        exact Run.leadsTo_pure _ reached
      by_cases typed : kind = .charAdded
      · rw [typed] at isKind fired
        have emits := attends.leadsTo_emitTopic minds there (.editor wrapper .charAdded) rfl
          (.typed id doc) rfl rfl (.note note)
        have types : (fun a : Affairs κ => a.observed (.typed id doc)) =
            fun a => a.change fun tally => tally.type doc := rfl
        rw [types, Affairs.change_iterate] at emits
        refine ⟨_, fired _ emits, .of_update rfl ?_ (attends.type doc) fun _ => rfl⟩
        simp [Standing.after, HostEvent.opens, HostEvent.types, isKind]
      · have unobserved : TallyCode.observer? id doc (.editor wrapper kind) = none := by
          cases kind <;> first | rfl | exact absurd rfl typed
        refine ⟨_, fired _ (attends.leadsTo_emitTopic_unobserved minds there _ rfl unobserved _),
          .of_quiet attends rfl (fun other => ?_) nofun⟩
        simp [Standing.after, HostEvent.opens, HostEvent.types, HostEvent.closes, isKind, typed]

theorem leadsTo_setCategory (attends : part.Attends id standing (part.affairs id s))
    (minds : part.Minds id call) (doc : DocumentHandle) (previous : Option CategoryHandle) :
    ∃ b, Run.LeadsTo (part.affairs id) (setCategory call doc previous) s b ∧
      Follows part id standing (.categorySet doc previous) (part.affairs id s) b := by
  obtain ⟨wrapper, reached, ran, now, there⟩ := addDocument_enrolls part id doc s
  have enrolled := attends.enroll doc
  rw [← now] at enrolled
  have emits := enrolled.leadsTo_emitTopic_unobserved minds there (.document wrapper .categoryChanged)
    rfl rfl (.category (previous.bind reached.categories.lookup))
  refine ⟨part.affairs id reached, ?_, .of_quiet enrolled ?_ (fun _ => rfl) nofun⟩
  · refine (emits.bind fun emission last _ same => ?_).of_eq (Run.bind_apply_of_ok _ ran)
    rw [← same]
    exact Run.leadsTo_pure _ last
  · rw [now]
    simp only [Affairs.enroll]
    split <;> rfl

theorem leadsTo_openWorkspace (attends : part.Attends id standing (part.affairs id s))
    (minds : part.Minds id call) (event : HostEvent) (number : Nat) (handle : WorkspaceHandle)
    (config : KeyFile) :
    Run.LeadsTo (part.affairs id) (openWorkspace call event number handle config) s
      (part.affairs id s) := by
  have installs : Run.LeadsTo (part.affairs id) (installWorkspace handle config) s
      (part.affairs id s) := ⟨_, _, rfl, rfl⟩
  refine installs.bind fun both reached _ now => ?_
  obtain ⟨opened, before⟩ := both
  rw [← now] at attends ⊢
  have sends : ∀ mid, part.affairs id mid = part.affairs id reached →
      Run.LeadsTo (part.affairs id) (broadcast call event.name number (.workspaceOpened opened)
        { resolved := true }) mid (part.affairs id reached) := by
    intro mid same
    rw [← same] at attends ⊢
    exact minds.leadsTo_broadcast event.name number (.workspaceOpened opened) { resolved := true }
      attends.registers
  cases replaced : before.bind reached.workspaceWrapper? with
  | none =>
    refine (sends reached rfl).of_eq ?_
    simp only [Run.get_bind_apply, replaced]
  | some workspace =>
    refine (sends (reached.tell ⟨.debug, "Replacing workspace that was never closed",
      [("workspace", workspace.handle.display)]⟩) rfl).of_eq ?_
    simp only [Run.get_bind_apply, replaced]
    rfl

theorem leadsTo_closeWorkspace (attends : part.Attends id standing (part.affairs id s))
    (minds : part.Minds id call) (event : HostEvent) (number : Nat) :
    Run.LeadsTo (part.affairs id) (closeWorkspace call event number) s (part.affairs id s) := by
  have sends : ∀ observers mid, part.affairs id mid = part.affairs id s →
      Run.LeadsTo (part.affairs id) (do
        let outcome ← broadcast call event.name number .workspaceClosed
          { resolved := true, observers := observers }
        let _ ← setWorkspace none
        pure outcome) mid (part.affairs id s) := by
    intro observers mid same
    rw [← same] at attends ⊢
    have informs := minds.leadsTo_broadcast event.name number .workspaceClosed
      { resolved := true, observers := observers } attends.registers
    exact informs.bind fun outcome reached _ now => ⟨outcome, _, rfl, now⟩
  cases opened : s.workspace with
  | none =>
    refine (sends 0 (s.tell ⟨.debug, "No workspace wrapper to close, broadcasting only", []⟩)
      rfl).of_eq ?_
    simp only [closeWorkspace, Run.get_bind_apply, opened]
    rfl
  | some workspace =>
    have emits := attends.leadsTo_emitTopic_silent minds (.workspace workspace .closed)
      (attends.plain _ rfl) .plain
    refine (emits.bind fun emission reached _ now => sends emission.ran reached now).of_eq ?_
    simp only [closeWorkspace, Run.get_bind_apply, opened]
    exact Run.bind_bind_apply _ _ _ s

theorem leadsTo_fireDialog (attends : part.Attends id standing (part.affairs id s))
    (minds : part.Minds id call) (event : HostEvent) (moment : DialogMoment) (dialog : DialogHandle) :
    Run.LeadsTo (part.affairs id) (fireDialog call event moment dialog) s (part.affairs id s) := by
  cases opened : s.workspace with
  | none =>
    refine ⟨{}, s.tell ⟨.warn, "No open workspace, dropped",
      [("event", event.name), ("dialog", dialog.display)]⟩, ?_, rfl⟩
    simp only [fireDialog, Run.get_bind_apply, opened]
    rfl
  | some workspace =>
    have emits := attends.leadsTo_emitTopic_silent minds
      (.workspace workspace moment.signal) (attends.plain _ rfl) (.dialog dialog)
    have unfolded : fireDialog call event moment dialog s = (do
        let emission ← emitTopic call (.workspace workspace moment.signal) (.dialog dialog)
        pure { resolved := true, observers := emission.ran } : Run (State κ μ) DispatchOutcome) s := by
      simp only [fireDialog, Run.get_bind_apply, opened]
    refine (emits.bind fun emission reached _ now => ?_).of_eq unfolded
    exact now ▸ Run.leadsTo_pure _ reached

theorem leadsTo_routeEvent (attends : part.Attends id standing (part.affairs id s))
    (minds : part.Minds id call) {event : HostEvent} (plain : event ≠ .categoriesReloaded)
    (number : Nat) :
    ∃ b, Run.LeadsTo (part.affairs id) (routeEvent call event number) s b ∧
      Follows part id standing event (part.affairs id s) b := by
  cases event with
  | document moment doc =>
    cases moment with
    | created => exact attends.leadsTo_openDocument minds _ number (.inl rfl)
    | opened => exact attends.leadsTo_openDocument minds _ number (.inr rfl)
    | _ => exact attends.leadsTo_fireDocument minds rfl doc
  | categorySet doc previous => exact attends.leadsTo_setCategory minds doc previous
  | editor doc note => exact attends.leadsTo_fireEditor minds doc note
  | workspaceOpened handle config =>
    exact ⟨_, attends.leadsTo_openWorkspace minds _ number handle config,
      .of_quiet attends rfl (fun _ => rfl) nofun⟩
  | workspaceClosed =>
    exact ⟨_, attends.leadsTo_closeWorkspace minds _ number,
      .of_quiet attends rfl (fun _ => rfl) nofun⟩
  | dialog moment dialog =>
    exact ⟨_, attends.leadsTo_fireDialog minds _ moment dialog,
      .of_quiet attends rfl (fun _ => rfl) nofun⟩
  | categoriesReloaded => exact absurd rfl plain

/-- Every event keeps what the tally attends to. -/
theorem dispatch (attends : part.Attends id standing (part.affairs id s))
    (minds : part.Minds id call) (event : HostEvent) :
    Follows part id standing event (part.affairs id s)
      (part.affairs id (ExtensionProxy.dispatch call event s).2) := by
  rw [dispatch_apply]
  by_cases plain : event = .categoriesReloaded
  · -- Reading the host's table may stop the dispatch, so there need not be a value.
    have same : part.affairs id ((do
        let outcome ← routeEvent call event s.dispatches
        Run.note (.settled s.dispatches outcome)
        pure outcome : Run (State κ μ) DispatchOutcome) (s.begun event)).2 = part.affairs id s := by
      rw [plain]
      let holds (t : State κ μ) : Prop := part.affairs id t = part.affairs id s
      exact Run.bind_snd holds (Run.bind_snd holds (affairs_reloadCategories _) fun _ _ _ now => now)
        fun _ _ _ now => now
    exact .of_quiet (same ▸ attends) (congrArg Affairs.reports same) (plain ▸ fun _ => rfl)
      (plain ▸ nofun)
  · have begun : part.Attends id standing (part.affairs id (s.begun event)) := attends
    obtain ⟨b, leads, follows⟩ := begun.leadsTo_routeEvent minds plain s.dispatches
    have ends := leads.bind fun outcome reached _ now =>
      (⟨outcome, reached.note (.settled s.dispatches outcome), rfl, now⟩ :
        Run.LeadsTo (part.affairs id) (do
          Run.note (.settled s.dispatches outcome)
          pure outcome) reached b)
    rw [ends.snd]
    exact follows

end Attends

end Events

end TallyPart

end ExtensionProxy
