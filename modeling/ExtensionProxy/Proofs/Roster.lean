import ExtensionProxy.Proofs.Classification
import ExtensionProxy.Proofs.Foreign
import ExtensionProxy.Proofs.Frames.Requests
import ExtensionProxy.Proofs.IdentityCache
import ExtensionProxy.Proofs.Runs

/-!
# One wrapper from the first notification to the closing

A proxy is driven by dispatches alone if neither its host nor any foreign code registers or evicts a
document itself.  What is registered at a moment then follows from what was registered at the moment
before: nothing changes, or the dispatch of an event that creates a document has just begun, or the
dispatch of a closing evicts its document.  That this goes on is a frame, so it has to be shown for
dispatches only, and nested ones are no different from others.

So a document has one wrapper from the first event that creates it to its closing, and no other event
makes a wrapper.
-/

set_option autoImplicit false

namespace ExtensionProxy

variable {κ μ α β : Type}

/-- The document that an event registers unless it is registered already. -/
def HostEvent.creates? (event : HostEvent) : Option DocumentHandle :=
  if event.resolution = .create then event.document? else none

/-- The document that is registered next: the dispatch of an event that creates it begins. -/
def Happening.creates? : Happening κ → Option DocumentHandle
  | .dispatched _ event => event.creates?
  | _ => none

namespace History

/-- What was registered at the latest moment. -/
def roster : History κ → IdentityCache .document DocumentId
  | [] => .empty
  | latest :: _ => latest.context.documents

/-- The document that is registered after the latest moment. -/
def creates? : History κ → Option DocumentHandle
  | [] => none
  | latest :: _ => latest.what.creates?

/-- What is registered once the past has come about. -/
def Registered (past : History κ) (documents : IdentityCache .document DocumentId) : Prop :=
  match past.creates? with
  | some doc => ∃ wrapper, documents = (past.roster.register doc wrapper).2
  | none => documents = past.roster

/-- A dispatch of a document's closing, which found the document registered, has emitted the closing
signal and evicts the document. -/
structure ClosesAndEvicts (gone : Moment κ) (past : History κ) (doc : DocumentHandle) : Prop where
  evicts : gone.what = .evicted doc (past.roster.get? doc)
  /-- The others are left alone. -/
  rest : gone.context.documents = past.roster.erase doc
  /-- The emission began when the dispatch did, and it came to its end just before. -/
  closes : ∃ number wrapper first older ended between slots, past = ended :: between ∧
    first.what = .dispatched number (.document .closed doc) ∧
    first.context.documents.get? doc = some wrapper ∧
    Emitted (first :: older) between ended (.document wrapper .closed) slots

/-- What is registered at a moment follows from the past. -/
def Follows (moment : Moment κ) (past : History κ) : Prop :=
  past.Registered moment.context.documents ∨ ∃ doc, ClosesAndEvicts moment past doc

end History

/-- At every moment up to now, what is registered follows from the past. -/
structure Chronicle (s : State κ μ) : Prop where
  follows : ∀ {moment past}, moment :: past <:+ s.history → History.Follows moment past
  now : s.history.Registered s.documents

structure Chronicled (s t : State κ μ) : Prop where
  grows : s.history <:+ t.history
  stack : t.history.stack = s.history.stack
  /-- No document is still to be registered, unless nothing has happened. -/
  calm : t.history = s.history ∨ t.history.creates? = none
  chronicle : Chronicle s → Chronicle t

/-! ## The chronicle is a frame -/

namespace Chronicle

theorem push {s t : State κ μ} (before : Chronicle s) {moment : Moment κ}
    (latest : t.history = moment :: s.history) (follows : History.Follows moment s.history)
    (quiet : moment.what.creates? = none) (documents : t.documents = moment.context.documents) :
    Chronicle t where
  follows there := by
    rw [latest] at there
    rcases List.suffix_cons_iff.mp there with same | there
    · cases same
      exact follows
    · exact before.follows there
  now := by
    rw [latest, documents, History.Registered]
    simp only [History.creates?, quiet, History.roster]

theorem note {s : State κ μ} (before : Chronicle s) {what : Happening κ}
    (quiet : what.creates? = none) : Chronicle (s.note what) :=
  before.push rfl (.inl before.now) quiet rfl

end Chronicle

theorem Happening.IsPlain.creates? {what : Happening κ} (plain : what.IsPlain) :
    what.creates? = none := by
  cases what with
  | dispatched => cases plain
  | _ => rfl

namespace Chronicled

theorem of_eq {s t : State κ μ} (documents : t.documents = s.documents)
    (history : t.history = s.history) : Chronicled s t where
  grows := history ▸ List.suffix_refl _
  stack := congrArg _ history
  calm := .inl history
  chronicle before := ⟨history ▸ before.follows, by rw [history, documents]; exact before.now⟩

theorem frame : LooseFrame (Chronicled (κ := κ) (μ := μ)) where
  refl s := of_eq rfl rfl
  trans first second :=
    { grows := first.grows.trans second.grows
      stack := second.stack.trans first.stack
      calm := by
        rcases second.calm with same | quiet
        · rw [same]
          exact first.calm
        · exact .inr quiet
      chronicle := fun before => second.chronicle (first.chronicle before) }
  quiet documents _ history := of_eq documents history
  note what s plain :=
    { grows := List.suffix_cons _ _
      stack := plain.shift _
      calm := .inr plain.creates?
      chronicle := fun before => before.note plain.creates? }
  during activity run along := by
    intro s
    have inside := along (s.note (.began activity))
    change Chronicled s (Run.ensuring run (Run.note (.ended activity)) (s.note (.began activity))).2
    rw [Run.ensuring_snd]
    refine ⟨?_, ?_, .inr rfl, fun before => (inside.chronicle (before.note rfl)).note rfl⟩
    · exact ((List.suffix_cons _ _).trans inside.grows).trans (List.suffix_cons _ _)
    · exact congrArg List.tail inside.stack
  retask tasks s := of_eq rfl rfl

/-! ## Dispatches carry the chronicle on -/

variable {call : Caller κ μ} {event : HostEvent} {s : State κ μ}

theorem begun (quiet : event.creates? = none) : Chronicled s (s.begun event) where
  grows := List.suffix_cons _ _
  stack := rfl
  calm := .inr quiet
  chronicle before := before.push rfl (.inl before.now) quiet rfl

end Chronicled

/-- Wherever it starts, when a run is over no document is still to be registered. -/
def Run.Settles (run : Run (State κ μ) α) : Prop := ∀ s, (run s).2.history.creates? = none

theorem Run.Settles.bind {run : Run (State κ μ) α} {next : α → Run (State κ μ) β}
    (first : run.Settles) (rest : ∀ value, (next value).Along Chronicled) :
    (run >>= next).Settles := by
  intro s
  refine Run.bind_snd (fun s : State κ μ => s.history.creates? = none) (first s)
    fun value reached _ quiet => ?_
  rcases (rest value reached).calm with same | settled
  · rw [same]
    exact quiet
  · exact settled

theorem emitTopic_snd (call : Caller κ μ) (topic : Topic) (emitted : Emitted) (s : State κ μ) :
    let activity := Activity.emission topic (s.observers.signal topic).slots
    (emitTopic call topic emitted s).2
      = State.note (.ended activity)
          (Signal.emit (State.signalLens topic) (fun slot => call (.observe topic slot emitted))
            (s.note (.began activity))).2 :=
  Run.ensuring_snd _ _ _

theorem emitTopic_settles (call : Caller κ μ) (topic : Topic) (emitted : Emitted) :
    (emitTopic call topic emitted).Settles := by
  intro s
  rw [emitTopic_snd]
  rfl

namespace Chronicled

variable {call : Caller κ μ} {event : HostEvent} {s : State κ μ} {doc : DocumentHandle}

/-- The dispatch of an event that creates its document. -/
theorem of_create (creates : event.creates? = some doc)
    {rest : DocumentId → Run (State κ μ) DispatchOutcome}
    (routes : routeEvent call event s.dispatches = addDocument doc >>= rest)
    (along : ∀ wrapper, (rest wrapper).Along Chronicled)
    (settles : ∀ wrapper, (rest wrapper).Settles) : Chronicled s (dispatch call event s).2 := by
  obtain ⟨wrapper, reached, run, same⟩ := addDocument_apply doc (s.begun event)
  have history : reached.history = (s.begun event).history := by rw [same]
  have documents : reached.documents
      = (s.documents.register doc ⟨s.documentWrappers.length⟩).2 := by
    rw [same]
    rfl
  -- The chronicle goes on although the latest moment still says that the document is registered next.
  have opened : Chronicle s → Chronicle reached := by
    refine fun before => ⟨fun there => ?_, ?_⟩
    · rw [history] at there
      rcases List.suffix_cons_iff.mp there with latest | there
      · cases latest
        exact .inl before.now
      · exact before.follows there
    · have next : (s.begun event).history.creates? = some doc := creates
      rw [History.Registered, history, next]
      exact ⟨_, documents⟩
  have ran : dispatch call event s = (rest wrapper >>= fun outcome => do
      Run.note (.settled s.dispatches outcome)
      pure outcome) reached := by
    rw [dispatch_apply, routes, Run.bind_bind_apply]
    exact Run.bind_apply_of_ok _ run
  have tells : ∀ outcome, (do
      Run.note (.settled s.dispatches outcome)
      pure outcome : Run (State κ μ) DispatchOutcome).Along Chronicled := fun outcome =>
    frame.bind (frame.mark trivial) fun _ => frame.pure outcome
  have work := frame.bind (along wrapper) tells reached
  rw [ran]
  refine ⟨?_, ?_, .inr ((settles wrapper).bind tells reached), fun before =>
    work.chronicle (opened before)⟩
  · have grown : s.history <:+ reached.history := history ▸ List.suffix_cons _ _
    exact grown.trans work.grows
  · rw [work.stack, history]
    rfl

theorem emission {topic : Topic} {emitted : Emitted}
    (observes : ∀ slot, (call (.observe topic slot emitted)).Along Chronicled) (start : State κ μ) :
    ∃ (slots : List (Slot κ)) (inner : State κ μ),
      Chronicled (start.note (.began (.emission topic slots))) inner ∧
      (emitTopic call topic emitted start).2 = inner.note (.ended (.emission topic slots)) :=
  ⟨_, _, frame.emit observes _, emitTopic_snd call topic emitted start⟩

/-- The closing signal of a registered document was emitted, and the document is evicted. -/
theorem evicts {wrapper : DocumentId} {slots : List (Slot κ)} {inner : State κ μ}
    (there : s.documents.get? doc = some wrapper)
    (inside : Chronicled ((s.begun (.document .closed doc)).note
      (.began (.emission (.document wrapper .closed) slots))) inner) :
    Chronicled (s.begun (.document .closed doc))
      (removeDocument doc (inner.note (.ended (.emission (.document wrapper .closed) slots)))).2 := by
  refine ⟨?_, congrArg List.tail inside.stack, .inr rfl, fun before => ?_⟩
  · exact (((List.suffix_cons _ _).trans inside.grows).trans (List.suffix_cons _ _)).trans
      (List.suffix_cons _ _)
  · have ended : Chronicle (inner.note (.ended (.emission (.document wrapper .closed) slots))) :=
      (inside.chronicle (before.note rfl)).note rfl
    refine ended.push rfl (.inr ⟨doc, rfl, rfl, ?_⟩) rfl rfl
    exact ⟨s.dispatches, wrapper, _, s.history, _, inner.history, slots, rfl, rfl, there,
      ⟨_, inside.grows, rfl⟩, inside.stack, rfl⟩

/-- A closing evicts the document when its observers have run. -/
theorem of_close
    (observes : ∀ topic slot emitted, (call (.observe topic slot emitted)).Along Chronicled) :
    Chronicled s (dispatch call (.document .closed doc) s).2 := by
  refine frame.dispatch (begun rfl) ?_
  cases there : s.documents.get? doc with
  | none =>
    change Chronicled _ (fireDocument call _ doc .closed _).2
    rw [fireDocument_dropped call _ .closed there]
    exact of_eq rfl rfl
  | some wrapper =>
    rw [routeEvent_closed call there]
    obtain ⟨slots, inner, inside, ends⟩ :=
      emission (fun slot => observes (.document wrapper .closed) slot .plain)
        (s.begun (.document .closed doc))
    have work := frame.emitTopic (fun slot => observes (.document wrapper .closed) slot .plain)
      (s.begun (.document .closed doc))
    cases emits : emitTopic call (.document wrapper .closed) .plain
        (s.begun (.document .closed doc)) with
    | mk result mid =>
      rw [emits] at ends work
      cases result with
      | error why =>
        rw [Run.bind_apply_of_error _ emits]
        exact work
      | ok outcome =>
        rw [Run.bind_apply_of_ok _ emits, show mid = _ from ends]
        exact evicts there inside

theorem of_dispatch (calls : call.Along Chronicled) (event : HostEvent) :
    (dispatch call event).Along Chronicled := by
  intro s
  have observes : ∀ topic slot emitted, (call (.observe topic slot emitted)).Along Chronicled :=
    fun _ _ _ => calls _
  cases event with
  | document moment doc =>
    cases moment with
    | created | opened =>
      refine of_create rfl rfl (fun wrapper => frame.broadcast calls _ _ _ _) fun wrapper => ?_
      exact .bind (fun _ => rfl) fun _ => frame.bind frame.get fun _ => frame.notifyAll calls _ _ _ _ _
    | closed => exact of_close observes
    | _ =>
      refine frame.dispatch (begun rfl) (frame.fireDocument observes _ _ ?_ _)
      nofun
  | categorySet doc previous =>
    refine of_create rfl rfl (fun wrapper => frame.bind frame.get fun s => ?_) fun wrapper s => ?_
    · exact frame.bind (frame.emitTopic fun slot => calls _) fun _ => frame.pure _
    · exact Run.Settles.bind (emitTopic_settles call _ _) (fun _ => frame.pure _) s
  | editor doc note => exact frame.dispatch (begun rfl) (frame.fireEditor observes _ _ _)
  | workspaceOpened handle config =>
    exact frame.dispatch (begun rfl) (frame.openWorkspace calls _ _ _ _ _)
  | workspaceClosed => exact frame.dispatch (begun rfl) (frame.closeWorkspace calls _ _ _)
  | dialog moment dialog =>
    exact frame.dispatch (begun rfl) (frame.fireDialog observes _ _ _ _)
  | categoriesReloaded =>
    exact frame.dispatch (begun rfl) (frame.bind frame.reloadCategories (fun _ => frame.pure _) _)

end Chronicled

/-! ## Proxies that are driven by dispatches -/

/-- Documents are registered and evicted by dispatches alone. -/
def Program.IsDriven (program : Program (proxyInterface κ μ) α) : Prop :=
  program.Makes fun request : Request κ μ => request.isRegistering = false

/-- The states that a proxy reaches between the programs of its host if all of them leave the documents
to dispatches. -/
inductive Driven (site : Site κ) (foreign : (proxyInterface κ μ).Foreign) (levels : Nat) :
    State κ μ → Prop
  /-- A proxy is made. -/
  | create (host : HostView) (memory : μ) : Driven site foreign levels (State.create site host memory)
  /-- A program runs at the top of the stack. -/
  | run {α : Type} {s : State κ μ} (before : Driven site foreign levels s)
      {program : Program (proxyInterface κ μ) α} (driven : program.IsDriven) :
      Driven site foreign levels
        ((proxyInterface κ μ).runTop (serve site) foreign levels program s).2

theorem Chronicled.of_serve {call : Caller κ μ} (calls : call.Along Chronicled) (site : Site κ)
    {request : Request κ μ} (plain : request.isRegistering = false) :
    (serve site call request).Along Chronicled :=
  frame.answer (frame.noting calls) (of_dispatch (frame.noting calls)) site plain

namespace Driven

variable {site : Site κ} {foreign : (proxyInterface κ μ).Foreign} {levels : Nat} {s : State κ μ}

/-- What is registered in a proxy that is driven by dispatches follows from the past at every moment,
and no document is still to be registered. -/
theorem chronicle (all : ∀ call, (foreign call).IsDriven) (driven : Driven site foreign levels s) :
    Chronicle s ∧ s.history.creates? = none := by
  induction driven with
  | create host memory =>
    let start : State κ μ := { host := host, memory := memory }
    have first : Chronicle start := by
      refine ⟨fun there => ?_, rfl⟩
      cases List.suffix_nil.mp there
    have begins : (begin site).Along (Chronicled (κ := κ) (μ := μ)) := by
      refine Chronicled.frame.bind (Chronicled.frame.tell _) fun _ =>
        Chronicled.frame.bind Chronicled.frame.get fun s => ?_
      split
      · exact Chronicled.frame.pure ()
      · exact Chronicled.frame.bind (Chronicled.frame.tell _) fun _ =>
          Chronicled.frame.bind (Chronicled.frame.installWorkspace _ _) fun _ =>
          Chronicled.frame.pure ()
    have along := begins start
    exact ⟨along.chronicle first, along.calm.elim (fun same => same ▸ rfl) id⟩
  | @run α s before program makes ih =>
    obtain ⟨chronicle, calm⟩ := ih
    have calls : Caller.Along Chronicled ((proxyInterface κ μ).call (serve site) foreign levels) :=
      Interface.call_keeps_of (I := proxyInterface κ μ) (R := Chronicled) Chronicled.frame.refl
        Chronicled.frame.trans (fun caller calls request plain => Chronicled.of_serve calls site plain)
        all levels
    have along := Program.run_keeps_of (I := proxyInterface κ μ) (R := Chronicled)
      Chronicled.frame.refl Chronicled.frame.trans
      (fun request plain => Chronicled.of_serve calls site plain) makes s
    exact ⟨along.chronicle chronicle, along.calm.elim (fun same => same ▸ calm) id⟩

end Driven

/-! ## One wrapper for a document -/

/-- The dispatch of an event begins that creates a document. -/
def Moment.Creates (moment : Moment κ) (doc : DocumentHandle) : Prop :=
  ∃ number event, moment.what = .dispatched number event ∧ event.resolution = .create ∧
    event.document? = some doc

/-- What the registered documents of a proxy that is driven by dispatches have to do with the events that
were dispatched. -/
structure Roster (s : State κ μ) : Prop where
  /-- When the dispatch of an event that creates a document has begun, the document is registered next,
  with the wrapper that it had or a new one, and after the others. -/
  created : ∀ {first older doc}, first :: older <:+ s.history → first.Creates doc →
    ∃ next wrapper, next :: first :: older <:+ s.history ∧
      next.context.documents = (first.context.documents.register doc wrapper).2
  /-- A document that is registered was created: the dispatch of an event that creates it found it not
  registered, and ever since it has had the wrapper that it has. -/
  introduced : ∀ {moment past doc wrapper}, moment :: past <:+ s.history →
    moment.context.documents.get? doc = some wrapper →
    ∃ first older, first :: older <:+ past ∧ first.Creates doc ∧
      first.context.documents.get? doc = none ∧
      ∀ {between before}, between :: before <:+ moment :: past → first :: older <:+ before →
        between.context.documents.get? doc = some wrapper
  /-- A document keeps its wrapper until the dispatch of its closing evicts it. -/
  kept : ∀ {earlier past later past' doc wrapper}, later :: past' <:+ s.history →
    earlier :: past <:+ past' → earlier.context.documents.get? doc = some wrapper →
    later.context.documents.get? doc = some wrapper ∨
      ∃ gone before, gone :: before <:+ later :: past' ∧ earlier :: past <:+ before ∧
        History.ClosesAndEvicts gone before doc
  /-- What is registered now was registered at the latest moment. -/
  now : s.documents = s.history.roster

theorem Moment.Creates.creates? {moment : Moment κ} {doc : DocumentHandle}
    (creates : moment.Creates doc) : moment.what.creates? = some doc := by
  obtain ⟨number, event, what, resolution, document⟩ := creates
  simp only [what, Happening.creates?, HostEvent.creates?, resolution, document, if_true]

theorem Moment.creates_of_creates? {moment : Moment κ} {doc : DocumentHandle}
    (creates : moment.what.creates? = some doc) : moment.Creates doc := by
  cases what : moment.what with
  | dispatched number event =>
    rw [what] at creates
    simp only [Happening.creates?, HostEvent.creates?] at creates
    split at creates
    · next resolution => exact ⟨number, event, what, resolution, creates⟩
    · cases creates
  | _ =>
    rw [what] at creates
    cases creates

namespace History

variable {past : History κ} {latest moment : Moment κ} {doc : DocumentHandle} {wrapper : DocumentId}

/-- Between two moments a document keeps its wrapper or is evicted. -/
theorem Follows.kept (follows : Follows moment past)
    (there : past.roster.get? doc = some wrapper) :
    moment.context.documents.get? doc = some wrapper ∨ ClosesAndEvicts moment past doc := by
  rcases follows with registered | ⟨other, evicts⟩
  · left
    rw [Registered] at registered
    split at registered
    · obtain ⟨made, documents⟩ := registered
      rw [documents, IdentityCache.register]
      split
      · exact there
      · next other _ absent =>
        rw [IdentityCache.get?_insert, if_neg, there]
        rintro rfl
        cases there.symm.trans absent
    · rw [registered, there]
  · by_cases same : doc = other
    · exact .inr (same ▸ evicts)
    · left
      rw [evicts.rest, IdentityCache.get?_erase, if_neg same, there]

/-- Between two moments a document gets a wrapper only if an event creates it. -/
theorem Follows.introduced (follows : Follows moment past)
    (there : moment.context.documents.get? doc = some wrapper) :
    past.roster.get? doc = some wrapper ∨
      past.creates? = some doc ∧ past.roster.get? doc = none := by
  rcases follows with registered | ⟨other, evicts⟩
  · rw [Registered] at registered
    split at registered
    · next other creates =>
      obtain ⟨made, documents⟩ := registered
      rw [documents, IdentityCache.register] at there
      split at there
      · exact .inl there
      · next absent =>
        rw [IdentityCache.get?_insert] at there
        split at there
        · next same => exact .inr ⟨same ▸ creates, same ▸ absent⟩
        · exact .inl there
    · exact .inl (registered ▸ there)
  · rw [evicts.rest, IdentityCache.get?_erase] at there
    split at there
    · cases there
    · exact .inl there

end History

namespace Chronicle

variable {s : State κ μ} (chronicle : Chronicle s)

include chronicle

theorem introduced {moment : Moment κ} {past : History κ} {doc : DocumentHandle}
    {wrapper : DocumentId} (there : moment :: past <:+ s.history)
    (has : moment.context.documents.get? doc = some wrapper) :
    ∃ first older, first :: older <:+ past ∧ first.Creates doc ∧
      first.context.documents.get? doc = none ∧
      ∀ {between before}, between :: before <:+ moment :: past → first :: older <:+ before →
        between.context.documents.get? doc = some wrapper := by
  -- Back through the past to the dispatch that found the document not registered.
  induction past generalizing moment with
  | nil =>
    rcases (chronicle.follows there).introduced has with empty | ⟨creates, -⟩
    · cases empty
    · cases creates
  | cons latest older ih =>
    rcases (chronicle.follows there).introduced has with before | ⟨creates, absent⟩
    · obtain ⟨first, oldest, began, creates, absent, since⟩ :=
        ih ((List.suffix_cons _ _).trans there) before
      refine ⟨first, oldest, began.trans (List.suffix_cons _ _), creates, absent,
        fun inside after => ?_⟩
      rcases List.suffix_cons_iff.mp inside with same | inside
      · cases same
        exact has
      · exact since inside after
    · refine ⟨latest, older, List.suffix_refl _, Moment.creates_of_creates? creates, absent,
        fun inside after => ?_⟩
      rcases List.suffix_cons_iff.mp inside with same | inside
      · cases same
        exact has
      · have short := inside.length_le
        have long := after.length_le
        simp only [List.length_cons] at short long
        omega

theorem kept {earlier later : Moment κ} {past past' : History κ} {doc : DocumentHandle}
    {wrapper : DocumentId} (there : later :: past' <:+ s.history) (before : earlier :: past <:+ past')
    (has : earlier.context.documents.get? doc = some wrapper) :
    later.context.documents.get? doc = some wrapper ∨
      ∃ gone between, gone :: between <:+ later :: past' ∧ earlier :: past <:+ between ∧
        History.ClosesAndEvicts gone between doc := by
  -- Forward from the earlier moment; an eviction that was found stays found.
  induction past' generalizing later with
  | nil => cases List.suffix_nil.mp before
  | cons latest older ih =>
    have follows := chronicle.follows there
    have still : latest.context.documents.get? doc = some wrapper ∨
        ∃ gone between, gone :: between <:+ latest :: older ∧ earlier :: past <:+ between ∧
          History.ClosesAndEvicts gone between doc := by
      rcases List.suffix_cons_iff.mp before with same | before
      · cases same
        exact .inl has
      · exact ih ((List.suffix_cons _ _).trans there) before
    rcases still with still | ⟨gone, between, inside, after, evicts⟩
    · exact (follows.kept still).imp_right fun evicts =>
        ⟨later, latest :: older, List.suffix_refl _, before, evicts⟩
    · exact .inr ⟨gone, between, inside.trans (List.suffix_cons _ _), after, evicts⟩

theorem created (calm : s.history.creates? = none) {first : Moment κ} {older : History κ}
    {doc : DocumentHandle} (there : first :: older <:+ s.history) (creates : first.Creates doc) :
    ∃ next wrapper, next :: first :: older <:+ s.history ∧
      next.context.documents = (first.context.documents.register doc wrapper).2 := by
  -- The latest moment creates nothing, so there is a next one.
  obtain ⟨newer, whole⟩ := there
  rcases List.eq_nil_or_concat newer with rfl | ⟨newest, next, rfl⟩
  · rw [← whole] at calm
    cases calm.symm.trans creates.creates?
  · have there : next :: first :: older <:+ s.history := ⟨newest, by simpa using whole⟩
    rcases chronicle.follows there with registered | ⟨other, evicts⟩
    · rw [History.Registered, show History.creates? (first :: older) = some doc from
        creates.creates?] at registered
      obtain ⟨wrapper, documents⟩ := registered
      exact ⟨next, wrapper, there, documents⟩
    · obtain ⟨number, wrapper, _, _, ended, between, slots, same, -, -, emitted⟩ := evicts.closes
      cases same
      obtain ⟨number, event, what, -⟩ := creates
      cases what.symm.trans emitted.finished

theorem roster (calm : s.history.creates? = none) : Roster s where
  created := chronicle.created calm
  introduced := chronicle.introduced
  kept := chronicle.kept
  now := by simpa only [History.Registered, calm] using chronicle.now

end Chronicle

/-- The dispatcher keeps to the classification of events: every dispatch does what the classification of
its event says, in every state and whatever the foreign code does that it calls.  So, in a proxy that is
driven by dispatches, a document keeps one wrapper from the first event that creates it to its closing,
and no other event makes a wrapper. -/
theorem dispatcher_keeps_classification :
    (∀ (event : HostEvent) (s : State κ μ), Classified event s) ∧
      ∀ {site : Site κ} {foreign : (proxyInterface κ μ).Foreign} {levels : Nat} {s : State κ μ},
        (∀ call, (foreign call).IsDriven) → Driven site foreign levels s → Roster s :=
  ⟨HostEvent.classified, fun all driven =>
    (driven.chronicle all).1.roster (driven.chronicle all).2⟩

namespace Sample

/-- A sub-extension that is told of a document saves it and closes it; it is opened again by the host. -/
def reopen : State Unit Unit := after () (fun _ => do
    let _ ← ask (.dispatch (.document .saved ⟨7⟩))
    let _ ← ask (.dispatch (.document .closed ⟨7⟩))) do
  let _ ← ask (.load "a" ⟨1⟩ "e/a.plugin")
  let _ ← ask (.init "a")
  let _ ← ask (.dispatch (.document .opened ⟨7⟩))
  let _ ← ask (.dropRecord "a")
  let _ ← ask (.dispatch (.document .opened ⟨7⟩))

theorem reopen_roster : reopen.documents.get? ⟨7⟩ = some ⟨1⟩ ∧ Roster reopen := by
  refine ⟨by decide +kernel, dispatcher_keeps_classification.2 (fun call => ?_)
    (.run (.create _ _) ?_)⟩
  · cases call with
    | notify | help | observe | task => exact ⟨rfl, fun _ => ⟨rfl, fun _ => trivial⟩⟩
    | _ => trivial
  · exact ⟨rfl, fun _ => ⟨rfl, fun _ => ⟨rfl, fun _ => ⟨rfl, fun _ => ⟨rfl, fun _ => trivial⟩⟩⟩⟩⟩

end Sample

end ExtensionProxy
