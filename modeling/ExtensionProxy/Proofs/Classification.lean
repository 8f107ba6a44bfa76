import ExtensionProxy.Proofs.Frames
import Mathlib.Logic.Relation

/-!
# The dispatcher keeps to the classification of events

Two tables say how the document of an event is resolved and which events are broadcast.  What a dispatch
does is told here for every event and every state, whatever the foreign code does that it calls: which
documents are registered when the first foreign code is called, which foreign code may be called at all,
and what is changed afterwards by the dispatcher itself.
-/

set_option autoImplicit false

namespace ExtensionProxy

variable {κ μ : Type}

/-- What may happen in the dispatch of an event once its document is resolved. -/
inductive Move (call : Caller κ μ) (event : HostEvent) : State κ μ → State κ μ → Prop
  /-- The dispatcher does something itself.  It leaves the registered documents alone, and the deferred
  tasks, too, unless the event is broadcast. -/
  | own {s t : State κ μ} (documents : t.documents = s.documents)
      (tasks : event.isBroadcast = false → t.tasks = s.tasks) : Move call event s t
  /-- Foreign code is called: an observer, unless the event is broadcast. -/
  | foreign (s : State κ μ) (request : Call κ)
      (may : event.isBroadcast = false →
        ∃ topic slot emitted, request = .observe topic slot emitted) :
      Move call event s (call request s).2

abbrev Work (call : Caller κ μ) (event : HostEvent) : State κ μ → State κ μ → Prop :=
  Relation.ReflTransGen (Move call event)

namespace HostEvent

/-- The registered documents when the document of an event is resolved: it is registered as the last one
if the event creates it and it is not registered. -/
def documentsIn (event : HostEvent) (s : State κ μ) : IdentityCache .document DocumentId :=
  match event.resolution, event.document? with
  | .create, some doc => (s.documents.register doc ⟨s.documentWrappers.length⟩).2
  | _, _ => s.documents

/-- The registered documents when the dispatch of an event is over: a document that was closed is not
registered any more, unless an observer stopped the dispatch. -/
def documentsOut (event : HostEvent) (s : State κ μ) (ok : Bool)
    (documents : IdentityCache .document DocumentId) : IdentityCache .document DocumentId :=
  match event with
  | .document .closed doc =>
    if ok && (s.documents.get? doc).isSome then documents.erase doc else documents
  | _ => documents

/-- An event is dropped: its document has to be registered and is not, or the code of the editor's
notification is unknown. -/
def IsDropped (event : HostEvent) (s : State κ μ) : Prop :=
  (event.resolution = .lookup ∧ ∃ doc, event.document? = some doc ∧ s.documents.get? doc = none) ∨
    ∃ doc note, event = .editor doc note ∧ note.kind = none

end HostEvent

/-- The document of an event is resolved first, before foreign code has any part in it.  From then on
the dispatcher changes the registered documents only once, as the last thing that it does. -/
def HostEvent.Resolves (event : HostEvent) (s : State κ μ) : Prop :=
  ∃ opened : State κ μ,
    opened = { s with
      documents := event.documentsIn s, documentWrappers := opened.documentWrappers
      dispatches := opened.dispatches, bench.log := opened.bench.log, history := opened.history } ∧
    ∀ call : Caller κ μ, ∃ last, Work call event opened last ∧
      (dispatch call event s).2.documents
        = event.documentsOut s (dispatch call event s).1.isOk last.documents ∧
      (event.isBroadcast = false → (dispatch call event s).2.tasks = last.tasks)

/-- A dispatch does what the classification of its event says. -/
structure Classified (event : HostEvent) (s : State κ μ) : Prop where
  /-- The document is registered first if the event creates it, and evicted last if it is closed. -/
  resolves : event.Resolves s
  /-- An event that is dropped has the default outcome.  No foreign code is called, and nothing changes
  apart from what is logged and told. -/
  drops : event.IsDropped s → ∃ reached : State κ μ,
    reached = { s with
      dispatches := s.dispatches + 1, bench.log := reached.bench.log, history := reached.history } ∧
    ∀ call : Caller κ μ, dispatch call event s = (.ok {}, reached)
  /-- An event that is not broadcast gets to observers only: of all foreign code that could be called,
  nothing else makes a difference. -/
  observed : event.isBroadcast = false → ∀ call other : Caller κ μ,
    (∀ topic slot emitted, call (.observe topic slot emitted) = other (.observe topic slot emitted)) →
    dispatch call event s = dispatch other event s

/-! ## Moves are a frame -/

section

variable {call : Caller κ μ} {event : HostEvent}

theorem Work.own {s t : State κ μ} (documents : t.documents = s.documents)
    (tasks : t.tasks = s.tasks) : Work call event s t :=
  .single (.own documents fun _ => tasks)

theorem work_frame : Frame (Work call event) where
  refl s := .refl
  trans := .trans
  quiet documents tasks _ := .own documents tasks
  note _ _ _ := .own rfl rfl
  during activity run along := by
    intro s
    let begun := s.note (.began activity)
    have starts : Work call event s begun := .own rfl rfl
    have ends : Work call event (run begun).2 ((run begun).2.note (.ended activity)) :=
      .own rfl rfl
    change Work call event s (Run.ensuring run (Run.note (.ended activity)) begun).2
    rw [Run.ensuring_snd]
    exact (starts.trans (along begun)).trans ends

theorem work_loose (broadcast : event.isBroadcast = true) : LooseFrame (Work call event) where
  toFrame := work_frame
  retask _ _ := .single (.own rfl fun quiet => by simp [broadcast] at quiet)

theorem work_calls (broadcast : event.isBroadcast = true) : call.Along (Work call event) :=
  fun request s => .single (.foreign s request fun quiet => by simp [broadcast] at quiet)

theorem work_observes (topic : Topic) (slot : Slot κ) (emitted : Emitted) :
    (call (.observe topic slot emitted)).Along (Work call event) :=
  fun s => .single (.foreign s _ fun _ => ⟨topic, slot, emitted, rfl⟩)

end

/-! ## Before foreign code is called -/

/-- What a dispatch does last is only to say that it is over. -/
theorem dispatch_route {call : Caller κ μ} {event : HostEvent} {s mid : State κ μ}
    {result : Except Stop DispatchOutcome}
    (ran : routeEvent call event s.dispatches (s.begun event) = (result, mid)) :
    (dispatch call event s).1 = result ∧ (dispatch call event s).2.documents = mid.documents ∧
      (dispatch call event s).2.tasks = mid.tasks := by
  rw [dispatch_apply]
  cases result with
  | ok outcome =>
    rw [Run.bind_apply_of_ok _ ran]
    exact ⟨rfl, rfl, rfl⟩
  | error why =>
    rw [Run.bind_apply_of_error _ ran]
    exact ⟨rfl, rfl, rfl⟩

/-- A document is registered without foreign code. -/
theorem addDocument_apply (doc : DocumentHandle) (s : State κ μ) :
    ∃ wrapper reached, addDocument doc s = (.ok wrapper, reached) ∧
      reached = { s with
        documents := (s.documents.register doc ⟨s.documentWrappers.length⟩).2
        documentWrappers := reached.documentWrappers } := by
  cases there : s.documents.get? doc with
  | some existing =>
    refine ⟨existing, s, ?_, by simp [IdentityCache.register, there]⟩
    simp only [addDocument, IdentityCache.addWith, Run.gets_bind_apply, State.documentsLens, there]
    rfl
  | none =>
    refine ⟨(s.documents.register doc ⟨s.documentWrappers.length⟩).1, { s with
      documents := (s.documents.register doc ⟨s.documentWrappers.length⟩).2
      documentWrappers := s.documentWrappers ++ [doc] }, ?_, rfl⟩
    simp only [addDocument, IdentityCache.addWith, Run.gets_bind_apply, State.documentsLens, there]
    rfl

/-! ## Events that are dropped -/

/-- Nothing comes of an event whose document is not registered. -/
theorem fireDocument_dropped (call : Caller κ μ) (event : HostEvent) {doc : DocumentHandle}
    (signal : DocumentSignal) {s : State κ μ} (absent : s.documents.get? doc = none) :
    fireDocument call event doc signal (s.begun event)
      = (.ok {}, (s.begun event).tell ⟨.debug, "No wrapper for document, dropped",
          [("event", event.name), ("document", doc.display)]⟩) := by
  simp only [fireDocument, Run.get_bind_apply,
    show (s.begun event).documents.get? doc = none from absent]
  rfl

/-- Nothing comes of a notification of an editor whose code is unknown or whose document is not
registered. -/
theorem fireEditor_dropped {event : HostEvent} {doc : DocumentHandle} {note : EditorNote}
    {s : State κ μ} (dropped : note.kind = none ∨ s.documents.get? doc = none) :
    ∃ said, ∀ call : Caller κ μ,
      fireEditor call doc note (s.begun event) = (.ok {}, (s.begun event).tell said) := by
  cases kind : note.kind with
  | none =>
    refine ⟨⟨.warn, "Unknown editor notification code, dropped",
      [("code", toString note.code), ("document", doc.display)]⟩, fun call => ?_⟩
    simp only [fireEditor, kind]
    rfl
  | some known =>
    have absent := dropped.resolve_left (by simp [kind])
    refine ⟨⟨.debug, "No wrapper for editor notification, dropped",
      [("document", doc.display), ("kind", known.name)]⟩, fun call => ?_⟩
    simp only [fireEditor, kind, Run.get_bind_apply,
      show (s.begun event).documents.get? doc = none from absent]
    rfl

/-- An event that is dropped is dropped whatever the foreign code is. -/
theorem HostEvent.IsDropped.route {event : HostEvent} {s : State κ μ} (dropped : event.IsDropped s) :
    ∃ said, ∀ call : Caller κ μ,
      routeEvent call event s.dispatches (s.begun event) = (.ok {}, (s.begun event).tell said) := by
  rcases dropped with ⟨lookup, doc, about, absent⟩ | ⟨doc, note, rfl, unknown⟩
  · cases event with
    | document moment other =>
      cases about
      cases moment with
      | created | opened => cases lookup
      | _ => exact ⟨_, fun call => fireDocument_dropped call _ _ absent⟩
    | editor other note =>
      cases about
      exact fireEditor_dropped (.inr absent)
    | categorySet => cases lookup
    | _ => cases about
  · exact fireEditor_dropped (.inl unknown)

theorem routeEvent_closed (call : Caller κ μ) {doc : DocumentHandle} {wrapper : DocumentId}
    {s : State κ μ} (there : s.documents.get? doc = some wrapper) :
    routeEvent call (.document .closed doc) s.dispatches (s.begun (.document .closed doc))
      = (emitTopic call (.document wrapper .closed) .plain >>= fun emission =>
          removeDocument doc >>= fun _ => pure { resolved := true, observers := emission.ran })
        (s.begun (.document .closed doc)) := by
  change fireDocument call _ doc .closed _ = _
  simp only [fireDocument, Run.get_bind_apply,
    show (s.begun (.document .closed doc)).documents.get? doc = some wrapper from there, if_true]

/-! ## Which documents are registered -/

namespace HostEvent.Resolves

variable {event : HostEvent} {s : State κ μ} {doc : DocumentHandle}

/-- An event that registers no document and evicts none. -/
theorem of_along (same : event.documentsIn s = s.documents)
    (stays : ∀ ok documents, event.documentsOut s ok documents = documents)
    (along : ∀ (call : Caller κ μ) number, (routeEvent call event number).Along (Work call event)) :
    event.Resolves s := by
  refine ⟨s, by rw [same], fun call => ?_⟩
  exact ⟨_, work_frame.dispatch (.own rfl rfl) (along call _ _), (stays _ _).symm, fun _ => rfl⟩

/-- An event that registers its document first. -/
theorem of_create (creates : event.resolution = .create) (about : event.document? = some doc)
    (stays : ∀ ok documents, event.documentsOut s ok documents = documents)
    {rest : Caller κ μ → Nat → DocumentId → Run (State κ μ) DispatchOutcome}
    (routes : ∀ call number, routeEvent call event number = addDocument doc >>= rest call number)
    (along : ∀ call number wrapper, (rest call number wrapper).Along (Work call event)) :
    event.Resolves s := by
  obtain ⟨wrapper, reached, run, frame⟩ := addDocument_apply doc (s.begun event)
  refine ⟨reached, ?_, fun call => ?_⟩
  · have inside : event.documentsIn s
        = (s.documents.register doc ⟨s.documentWrappers.length⟩).2 := by
      simp only [documentsIn, creates, about]
    rw [inside, frame]
    rfl
  · have work := along call s.dispatches wrapper reached
    have ran : routeEvent call event s.dispatches (s.begun event)
        = rest call s.dispatches wrapper reached := by
      rw [routes]
      exact Run.bind_apply_of_ok _ run
    obtain ⟨-, documents, tasks⟩ := dispatch_route ran
    exact ⟨_, work, by rw [documents, stays], fun _ => tasks⟩

/-- A document that is closed is evicted when its observers have run. -/
theorem of_close : (HostEvent.document .closed doc).Resolves s := by
  let event := HostEvent.document .closed doc
  refine ⟨s, rfl, fun call => ?_⟩
  have start : Work call event s (s.begun event) := .own rfl rfl
  cases there : s.documents.get? doc with
  | none =>
    have ran : routeEvent call event s.dispatches (s.begun event) = _ :=
      fireDocument_dropped call event .closed there
    obtain ⟨-, documents, tasks⟩ := dispatch_route ran
    refine ⟨_, start, documents.trans ?_, fun _ => tasks⟩
    simp only [documentsOut, there, Option.isSome_none, Bool.and_false, Bool.false_eq_true, if_false]
    rfl
  | some wrapper =>
    have work : Work call event (s.begun event)
        (emitTopic call (.document wrapper .closed) .plain (s.begun event)).2 :=
      work_frame.emitTopic (fun slot => work_observes _ slot _) _
    have route := routeEvent_closed call there
    cases emits : emitTopic call (.document wrapper .closed) .plain (s.begun event) with
    | mk result mid =>
      rw [emits] at work
      cases result with
      | ok emission =>
        obtain ⟨ok, documents, tasks⟩ := dispatch_route (route.trans (Run.bind_apply_of_ok _ emits))
        refine ⟨mid, start.trans work, ?_, fun _ => tasks⟩
        rw [documents, ok]
        simp [documentsOut, there, Except.isOk, Except.toBool]
        rfl
      | error why =>
        obtain ⟨ok, documents, tasks⟩ :=
          dispatch_route (route.trans (Run.bind_apply_of_error _ emits))
        refine ⟨mid, start.trans work, ?_, fun _ => tasks⟩
        rw [documents, ok]
        simp [documentsOut, Except.isOk, Except.toBool]

end HostEvent.Resolves

/-! ## Every event -/

theorem emitTopic_congr {call other : Caller κ μ} {topic : Topic} {emitted : Emitted}
    (same : ∀ slot, call (.observe topic slot emitted) = other (.observe topic slot emitted)) :
    emitTopic call topic emitted = emitTopic other topic emitted := by
  simp only [emitTopic, same]

/-- The document of an event is resolved before any foreign code is called. -/
theorem HostEvent.resolves (event : HostEvent) (s : State κ μ) : event.Resolves s := by
  cases event with
  | document moment doc =>
    cases moment with
    | created | opened =>
      exact .of_create rfl rfl (fun _ _ => rfl) (fun _ _ => rfl) fun call number wrapper =>
        (work_loose rfl).broadcast (work_calls rfl) _ _ _ _
    | closed => exact .of_close
    | _ =>
      exact .of_along rfl (fun _ _ => rfl) fun call number =>
        work_frame.fireDocument work_observes _ _ nofun
  | categorySet doc previous =>
    refine .of_create rfl rfl (fun _ _ => rfl) (fun _ _ => rfl) fun call number wrapper => ?_
    exact work_frame.bind work_frame.get fun _ =>
      work_frame.bind (work_frame.emitTopic fun slot => work_observes _ _ _) fun _ => work_frame.pure _
  | editor doc note =>
    exact .of_along rfl (fun _ _ => rfl) fun call number => work_frame.fireEditor work_observes _ _
  | workspaceOpened handle config =>
    exact .of_along rfl (fun _ _ => rfl) fun call number =>
      (work_loose rfl).openWorkspace (work_calls rfl) _ _ _ _
  | workspaceClosed =>
    exact .of_along rfl (fun _ _ => rfl) fun call number =>
      (work_loose rfl).closeWorkspace (work_calls rfl) _ _
  | dialog moment dialog =>
    exact .of_along rfl (fun _ _ => rfl) fun call number =>
      work_frame.fireDialog work_observes _ _ _
  | categoriesReloaded =>
    exact .of_along rfl (fun _ _ => rfl) fun call number =>
      work_frame.bind work_frame.reloadCategories fun _ => work_frame.pure _

/-- Of all foreign code only observers matter to an event that is not broadcast. -/
theorem routeEvent_congr {event : HostEvent} (quiet : event.isBroadcast = false)
    {call other : Caller κ μ}
    (same : ∀ topic slot emitted,
      call (.observe topic slot emitted) = other (.observe topic slot emitted)) (number : Nat) :
    routeEvent call event number = routeEvent other event number := by
  have emits : ∀ topic emitted, emitTopic call topic emitted = emitTopic other topic emitted :=
    fun topic emitted => emitTopic_congr fun slot => same topic slot emitted
  cases event with
  | document moment doc =>
    cases moment with
    | created | opened => cases quiet
    | _ => simp only [routeEvent, DocumentMoment.signal?, fireDocument, emits]
  | categorySet | editor | dialog =>
    simp only [routeEvent, setCategory, fireEditor, fireDialog, emits]
  | categoriesReloaded => rfl
  | workspaceOpened | workspaceClosed => cases quiet

/-- Every dispatch does what the classification of its event says. -/
theorem HostEvent.classified (event : HostEvent) (s : State κ μ) : Classified event s := by
  refine ⟨event.resolves s, fun dropped => ?_, fun quiet call other same => ?_⟩
  · obtain ⟨said, routes⟩ := dropped.route
    refine ⟨((s.begun event).tell said).note (.settled s.dispatches {}), rfl, fun call => ?_⟩
    rw [dispatch_apply]
    exact (Run.bind_apply_of_ok _ (routes call)).trans rfl
  · rw [dispatch_apply, dispatch_apply, routeEvent_congr quiet same]

end ExtensionProxy
