import ExtensionProxy.Proofs.Order
import ExtensionProxy.Proofs.Wrappers

/-!
# Closing a document, closing the workspace

A dispatch that closes a document emits the closing signal of the wrapper that is registered, and
evicts the document by its handle when the emission has come to its end.  A dispatch that closes the
workspace emits its closing signal, tells every sub-extension, and takes away what is open then.

Whatever is called meanwhile may close and open again.  Then the observers that are still to come do
not find the wrapper, and what was registered or opened in its place is taken away with it.  Here it
is said exactly when that happens.
-/

set_option autoImplicit false

namespace ExtensionProxy

variable {κ μ : Type}

/-! ## Closing a document -/

namespace Step

variable {c d : Ledger κ} {moment : Moment κ} {past : History κ}

/-- An observer starts by a step of its own. -/
theorem observer_alone (step : Step c d) (adds : History.Adds c.history d.history moment past)
    {topic : Topic} {slot : Slot κ} {emitted : Emitted}
    (what : moment.what = .began (.call (.observe topic slot emitted))) :
    d.history = moment :: past := by
  cases step with
  | observe other slots its telling rest top listed idle =>
    obtain ⟨rfl, rfl⟩ := History.adds_single.mp adds
    rfl
  | enter target found call ready asks =>
    obtain ⟨rfl, rfl⟩ := History.adds_single.mp adds
    rfl
  | _ => grind

/-- An emission ends by a step of its own. -/
theorem emitted_alone (step : Step c d) (adds : History.Adds c.history d.history moment past)
    {topic : Topic} {slots : List (Slot κ)} (what : moment.what = .ended (.emission topic slots)) :
    d.history = moment :: past := by
  cases step with
  | emitted other its rest top =>
    obtain ⟨rfl, rfl⟩ := History.adds_single.mp adds
    rfl
  | _ => grind

end Step

/-- A wrapper that was registered still is when a moment comes that was added alone, unless its
document was evicted. -/
theorem Path.registered_at {c : Ledger κ} (path : Path Ledger.empty c) {first moment : Moment κ}
    {older past : History κ} {doc : DocumentHandle} {wrapper : DocumentId}
    (known : first.context.documents.get? doc = some wrapper)
    (later : History.Adds (first :: older) c.history moment past)
    (alone : ∀ b d, Step b d → History.Adds b.history d.history moment past →
      d.history = moment :: past) :
    History.RegisteredUntilEvicted (first :: older) (moment :: past) moment.context.documents doc
      wrapper := by
  obtain ⟨b, d, before, step, -, adds⟩ := path.added later.there
  have history := alone b d step adds
  have since := Path.registered_since (before.tail step)
    (history ▸ later.after.trans (List.suffix_cons _ _)) known
  rwa [history, (step.tells adds).1] at since

namespace History

/-- An observer of a topic starts, and the emission that runs it began on top of a stack. -/
def StartsObserver (moment : Moment κ) (before : History κ) (topic : Topic)
    (below : List (Activity κ)) : Prop :=
  ∃ slots slot emitted, moment.what = .began (.call (.observe topic slot emitted)) ∧
    stack before = .emission topic slots :: below

/-- A document was closed: its wrapper was there for the observers, and nothing else was evicted. -/
structure Closes (start rest : History κ) (doc : DocumentHandle) (wrapper : DocumentId)
    (ended last : Moment κ) : Prop where
  /-- Every observer that the dispatch runs finds the wrapper registered when it starts. -/
  observed : ∀ moment before, Adds start rest moment before →
    StartsObserver moment before (.document wrapper .closed) (stack start) →
    moment.context.documents.get? doc = some wrapper
  /-- The wrapper is evicted. -/
  evicted : ∀ other, last.context.documents.get? other ≠ some wrapper
  /-- Every other wrapper that is registered when the observers have run is still registered when
  the dispatch returns. -/
  kept : ∀ other found, found ≠ wrapper → ended.context.documents.get? other = some found →
    last.context.documents.get? other = some found

/-- If the document was evicted while its observers ran, none of them started after that, and it was
not registered again when they had run. -/
def ClosedOnce (start rest : History κ) (doc : DocumentHandle) (wrapper : DocumentId)
    (ended : Moment κ) : Prop :=
  ∀ moment before found, Adds start rest moment before → moment.what = .evicted doc found →
    ended.context.documents.get? doc = none ∧
      ∀ later between, Adds (moment :: before) rest later between →
        ¬StartsObserver later between (.document wrapper .closed) (stack start)

section

variable {start rest : History κ} {doc : DocumentHandle} {wrapper : DocumentId} {ended last : Moment κ}
  {topic : Topic} {slots : List (Slot κ)} (finished : ended.what = .ended (.emission topic slots))
  (atStart : ∀ moment before, Adds start rest moment before →
    StartsObserver moment before (.document wrapper .closed) (stack start) →
    RegisteredUntilEvicted start (moment :: before) moment.context.documents doc wrapper)
  (atEnd : RegisteredUntilEvicted start (ended :: rest) ended.context.documents doc wrapper)
  (erased : last.context.documents = ended.context.documents.erase doc)

include atStart atEnd erased

/-- Whoever evicts the document while its observers run hides it from those that are still to come,
and makes the dispatch evict what is registered in its place. -/
theorem Closes.once (closes : Closes start rest doc wrapper ended last) :
    ClosedOnce start rest doc wrapper ended := by
  intro moment before found added evicted
  have gone : ∀ other, ended.context.documents.get? other ≠ some wrapper := by
    rcases atEnd with ⟨-, unevicted⟩ | ⟨-, gone⟩
    · exact (unevicted ⟨moment, before, found, added.grow (List.suffix_cons _ _), evicted⟩).elim
    · exact gone
  refine ⟨?_, fun later between adds starts => ?_⟩
  · by_contra again
    obtain ⟨other, again⟩ := Option.ne_none_iff_exists'.mp again
    have still := closes.kept doc other (fun same => gone doc (same ▸ again)) again
    rw [erased, IdentityCache.get?_erase, if_pos rfl] at still
    cases still
  · have since : Adds start rest later between :=
      adds.since (added.after.trans (List.suffix_cons _ _))
    rcases atStart later between since starts with ⟨-, unevicted⟩ | ⟨-, gone⟩
    · exact unevicted ⟨moment, before, found,
        ⟨adds.after.trans (List.suffix_cons _ _), added.after⟩, evicted⟩
    · exact gone doc (closes.observed later between since starts)

include finished

/-- If nobody evicts the document while its observers run, or only when none is to come and nothing
takes its place, the dispatch closes it. -/
theorem ClosedOnce.closes (only : ∀ other, ended.context.documents.get? other = some wrapper →
      other = doc) (once : ClosedOnce start rest doc wrapper ended) :
    Closes start rest doc wrapper ended last := by
  refine ⟨fun moment before adds starts => ?_, fun other again => ?_,
    fun other found different there => ?_⟩
  · rcases atStart moment before adds starts with ⟨still, -⟩ | ⟨⟨gone, earlier, found, added, what⟩, -⟩
    · exact still
    · obtain ⟨slots, slot, emitted, starting, -⟩ := id starts
      have inside := earlier_of_ne added.there fun same => by
        rw [same, starting] at what
        cases what
      have within := inside.trans ((List.suffix_cons _ _).trans adds.there)
      exact ((once gone earlier found ⟨within, added.after⟩ what).2 moment before
        ⟨adds.there, inside⟩ starts).elim
  · rw [erased, IdentityCache.get?_erase] at again
    split at again
    · cases again
    · next different => exact different (only other again)
  · rw [erased, IdentityCache.get?_erase]
    split
    · next same =>
      subst same
      rcases atEnd with ⟨still, -⟩ | ⟨⟨gone, earlier, found', added, what⟩, -⟩
      · cases still.symm.trans there
        exact (different rfl).elim
      · have inside := earlier_of_ne added.there fun same => by
          rw [same, finished] at what
          cases what
        rw [(once gone earlier found' ⟨inside, added.after⟩ what).1] at there
        cases there
    · exact there

end

end History

/-- A dispatch that closes a registered document emits the closing signal and evicts the document.
Its observers find the wrapper, and it alone is evicted, if and only if nobody else evicted the
document meanwhile with observers still to come or with another wrapper registered in the end. -/
theorem Reached.closes_document_iff {site : Site κ} {foreign : (proxyInterface κ μ).Foreign}
    {levels : Nat} {calm : Bool} {s : State κ μ} (reached : Reached site foreign levels calm s)
    {number : Nat} {doc : DocumentHandle} {wrapper : DocumentId} {first last : Moment κ}
    {older past : History κ} {outcome : DispatchOutcome} (began : first :: older <:+ s.history)
    (what : first.what = .dispatched number (.document .closed doc))
    (resolved : first.context.documents.get? doc = some wrapper)
    (settled : last :: past <:+ s.history) (what' : last.what = .settled number outcome) :
    ∃ ended gone rest, past = gone :: ended :: rest ∧ (∃ found, gone.what = .evicted doc found) ∧
      (∃ slots, History.Emitted (first :: older) rest ended (.document wrapper .closed) slots) ∧
      (History.Closes (first :: older) rest doc wrapper ended last ↔
        History.ClosedOnce (first :: older) rest doc wrapper ended) := by
  have path := reached.ledger.path
  obtain ⟨a, b, before, step, after, adds⟩ := path.added settled
  obtain ⟨rfl, now, -, first', older', event, began', what'', concludes⟩ := step.settles adds what'
  obtain ⟨rfl, rfl⟩ := List.cons.inj (Path.dispatched_unique path began
    (began'.trans (step.history_grows.trans (Path.history_grows after))) what what'')
  cases what.symm.trans what''
  obtain ⟨ended, gone, rest, latest, ⟨slots, emission⟩, evicts, erased⟩ :=
    concludes.closed doc wrapper rfl resolved
  refine ⟨ended, gone, rest, latest, ⟨_, evicts⟩, ⟨slots, emission⟩, ?_⟩
  have inside : ended :: rest <:+ a.history := latest ▸ List.suffix_cons _ _
  have started : first :: older <:+ rest := by
    obtain ⟨begun, suffix, -⟩ := emission.began
    exact (List.suffix_cons _ _).trans suffix
  have atEnd := Path.registered_at before resolved ⟨inside, started⟩
    fun _ _ step adds => step.emitted_alone adds emission.finished
  have atStart : ∀ moment between, History.Adds (first :: older) rest moment between →
      History.StartsObserver moment between (.document wrapper .closed)
        (History.stack (first :: older)) →
      History.RegisteredUntilEvicted (first :: older) (moment :: between) moment.context.documents doc
        wrapper := by
    rintro moment between adds ⟨slots, slot, emitted, starts, -⟩
    exact Path.registered_at before resolved (adds.grow ((List.suffix_cons _ _).trans inside))
      fun _ _ step adds => step.observer_alone adds starts
  -- A wrapper is made for one document, so no other one has it.
  have wraps := (Path.wraps before).madeBefore
  have only : ∀ other, ended.context.documents.get? other = some wrapper → other = doc := by
    intro other there
    have made := wraps first (began'.subset List.mem_cons_self) doc wrapper resolved
    have its := wraps ended (inside.subset List.mem_cons_self) other wrapper there
    exact Option.some.inj (its.symm.trans made)
  have last := (congrArg Context.documents now).trans erased
  exact ⟨fun closes => closes.once atStart atEnd last,
    fun once => once.closes emission.finished atStart atEnd last only⟩

namespace Happening

variable {what : Happening κ}

/-- The dispatch that comes to its end, with its outcome. -/
def settled? : Happening κ → Option (Nat × DispatchOutcome)
  | .settled number outcome => some (number, outcome)
  | _ => none

/-- The document that is evicted, with its wrapper. -/
def evicted? : Happening κ → Option (DocumentHandle × Option DocumentId)
  | .evicted doc wrapper => some (doc, wrapper)
  | _ => none

/-- The workspace that was open, and the one that is open now. -/
def workspaceSet? : Happening κ → Option (Option WorkspaceId × Option WorkspaceId)
  | .workspaceSet before now => some (before, now)
  | _ => none

theorem settled?_eq_some {number : Nat} {outcome : DispatchOutcome}
    (h : what.settled? = some (number, outcome)) : what = .settled number outcome := by
  cases what with
  | settled other its =>
    cases h
    rfl
  | _ => cases h

theorem workspaceSet?_eq_some {before now : Option WorkspaceId}
    (h : what.workspaceSet? = some (before, now)) : what = .workspaceSet before now := by
  cases what with
  | workspaceSet other its =>
    cases h
    rfl
  | _ => cases h

end Happening

namespace Sample

/-- An observer of a closing document opens another one. -/
def openInClosing : State Unit Unit := after () (fun _ => .look fun s =>
    if s.dispatches = 1 then do let _ ← ask (.dispatch (.document .opened ⟨8⟩)) else .done ()) do
  let doc ← ask (.addDocument ⟨7⟩)
  let _ ← ask (.connect (.document doc .closed) none ())
  let _ ← ask (.dispatch (.document .closed ⟨7⟩))

/-- Nobody else evicts the document, so the dispatch closes it. -/
theorem openInClosing_closes : ∃ first older ended gone rest last,
    first :: older <:+ openInClosing.history ∧
    first.what = .dispatched 0 (.document .closed ⟨7⟩) ∧
    first.context.documents.get? ⟨7⟩ = some ⟨0⟩ ∧
    last :: gone :: ended :: rest <:+ openInClosing.history ∧
    (∃ outcome, last.what = .settled 0 outcome) ∧
    History.Closes (first :: older) rest ⟨7⟩ ⟨0⟩ ended last := by
  have begins : openInClosing.history[9]?.map (fun moment =>
      (moment.what.dispatched?, moment.context.documents.get? ⟨7⟩))
      = some (some (0, .document .closed ⟨7⟩), some ⟨0⟩) := by decide +kernel
  have ends : openInClosing.history[0]?.map (fun moment => moment.what.settled?)
      = some (some (0, ⟨true, 1, 0, 0, false⟩)) := by decide +kernel
  obtain ⟨first, place, told⟩ := Option.map_eq_some_iff.mp begins
  obtain ⟨what, resolved⟩ := Prod.mk.inj told
  obtain ⟨last, place', told'⟩ := Option.map_eq_some_iff.mp ends
  have what := Happening.dispatched?_eq_some what
  have what' := Happening.settled?_eq_some told'
  have began := History.suffix_of_getElem? place
  have settled := History.suffix_of_getElem? place'
  have life : Reached (site ()) (foreign fun _ => .look fun s =>
      if s.dispatches = 1 then do let _ ← ask (.dispatch (.document .opened ⟨8⟩)) else .done ())
      8 false openInClosing := reached _ _ _
  obtain ⟨ended, gone, rest, past, -, -, closes⟩ :=
    life.closes_document_iff began what resolved settled what'
  have alone : ∀ moment ∈ (openInClosing.history.drop 1).tail.tail,
      moment.what.evicted?.isSome = false := by decide +kernel
  refine ⟨first, _, ended, gone, rest, last, began, what, resolved, past ▸ settled, ⟨_, what'⟩,
    closes.mpr fun moment before found added evicted => ?_⟩
  have among : moment ∈ (openInClosing.history.drop 1).tail.tail := by
    rw [past]
    exact added.there.subset List.mem_cons_self
  have none := alone moment among
  rw [evicted] at none
  cases none

/-- An observer of a closing document closes it, too, and opens it again. -/
def closeTwice : State Unit Unit := after () (fun _ => .look fun s =>
    if s.dispatches = 1 then do
      let _ ← ask (.dispatch (.document .closed ⟨7⟩))
      let _ ← ask (.dispatch (.document .opened ⟨7⟩))
    else .done ()) do
  let doc ← ask (.addDocument ⟨7⟩)
  let _ ← ask (.connect (.document doc .closed) none ())
  let _ ← ask (.dispatch (.document .closed ⟨7⟩))

/-- The wrapper that was registered for the document in the end is evicted with it. -/
theorem closeTwice_not_closes : ∃ first older ended gone rest last,
    first :: older <:+ closeTwice.history ∧
    first.what = .dispatched 0 (.document .closed ⟨7⟩) ∧
    first.context.documents.get? ⟨7⟩ = some ⟨0⟩ ∧
    last :: gone :: ended :: rest <:+ closeTwice.history ∧
    (∃ outcome, last.what = .settled 0 outcome) ∧
    ¬History.Closes (first :: older) rest ⟨7⟩ ⟨0⟩ ended last := by
  have begins : closeTwice.history[14]?.map (fun moment =>
      (moment.what.dispatched?, moment.context.documents.get? ⟨7⟩))
      = some (some (0, .document .closed ⟨7⟩), some ⟨0⟩) := by decide +kernel
  have stops : closeTwice.history[2]?.map (fun moment => moment.context.documents.get? ⟨7⟩)
      = some (some ⟨1⟩) := by decide +kernel
  have evicts : closeTwice.history[1]?.isSome = true := by decide +kernel
  have ends : closeTwice.history[0]?.map (fun moment =>
      (moment.what.settled?, moment.context.documents.get? ⟨7⟩))
      = some (some (0, ⟨true, 1, 0, 0, false⟩), none) := by decide +kernel
  obtain ⟨first, place, told⟩ := Option.map_eq_some_iff.mp begins
  obtain ⟨what, resolved⟩ := Prod.mk.inj told
  obtain ⟨ended, place', registered⟩ := Option.map_eq_some_iff.mp stops
  obtain ⟨gone, place''⟩ := Option.isSome_iff_exists.mp evicts
  obtain ⟨last, place₃, told'⟩ := Option.map_eq_some_iff.mp ends
  obtain ⟨what', absent⟩ := Prod.mk.inj told'
  have settled := History.suffix_of_getElem? place₃
  rw [History.drop_of_getElem? place'', History.drop_of_getElem? place'] at settled
  refine ⟨first, _, ended, gone, _, last, History.suffix_of_getElem? place,
    Happening.dispatched?_eq_some what, resolved, settled, ⟨_, Happening.settled?_eq_some what'⟩,
    fun closes => ?_⟩
  have still := closes.kept ⟨7⟩ ⟨1⟩ (by decide) registered
  rw [absent] at still
  cases still

end Sample

/-! ## Closing the workspace -/

/-- A dispatch that closes the workspace takes away what is open in the end.  A workspace that was
opened meanwhile is left alone if and only if none is open then: the workspace was not replaced
meanwhile, or it was taken away after that. -/
theorem Reached.closes_workspace_iff {site : Site κ} {foreign : (proxyInterface κ μ).Foreign}
    {levels : Nat} {calm : Bool} {s : State κ μ} (reached : Reached site foreign levels calm s)
    {number : Nat} {first last : Moment κ} {older past : History κ} {outcome : DispatchOutcome}
    (began : first :: older <:+ s.history) (what : first.what = .dispatched number .workspaceClosed)
    (settled : last :: past <:+ s.history) (what' : last.what = .settled number outcome) :
    ∃ shut rest before, past = shut :: rest ∧ shut.what = .workspaceSet before none ∧
      ((∀ workspace, before = some workspace → first.context.workspace ≠ some workspace →
          last.context.workspace = some workspace) ↔
        ∀ workspace, ¬History.LastSet (first :: older) rest (some workspace)) := by
  have path := reached.ledger.path
  obtain ⟨a, b, early, step, after, adds⟩ := path.added settled
  obtain ⟨rfl, now, -, first', older', event, began', what'', concludes⟩ := step.settles adds what'
  obtain ⟨rfl, rfl⟩ := List.cons.inj (Path.dispatched_unique path began
    (began'.trans (step.history_grows.trans (Path.history_grows after))) what what'')
  cases what.symm.trans what''
  obtain ⟨shut, rest, latest, started, ⟨before, shuts⟩, closed⟩ := concludes.shut rfl
  refine ⟨shut, rest, before, latest, shuts, ?_⟩
  obtain ⟨c, d, soon, step', -, adds'⟩ :=
    early.added (latest ▸ List.suffix_refl _ : shut :: rest <:+ a.history)
  obtain ⟨-, rfl, rfl, -⟩ := step'.sets adds' shuts
  rw [now, closed]
  have since := Path.workspace_since soon started
  constructor
  · intro keeps workspace set
    rcases since with ⟨-, unset⟩ | ⟨last, other⟩
    · exact unset _ set
    · have opened := last.unique set
      cases keeps workspace opened (other workspace opened)
  · intro unset workspace opened different
    rcases since with ⟨same, -⟩ | ⟨last, -⟩
    · exact absurd (same.symm.trans opened) different
    · exact absurd (opened ▸ last) (unset workspace)

namespace Sample

/-- A sub-extension is told of the closing of the workspace, and leaves it at that. -/
def closeWorkspace : State Unit Unit := after () (fun _ => .done ()) do
  let _ ← ask (.load "a" ⟨1⟩ "e/a.plugin")
  let _ ← ask (.init "a")
  let _ ← ask (.dispatch (.workspaceOpened ⟨1⟩ .empty))
  let _ ← ask (.dispatch .workspaceClosed)

/-- The workspace that is taken away is the one that was open when the dispatch began. -/
theorem closeWorkspace_keeps : ∃ first older last shut rest before,
    first :: older <:+ closeWorkspace.history ∧ first.what = .dispatched 1 .workspaceClosed ∧
    last :: shut :: rest <:+ closeWorkspace.history ∧ (∃ outcome, last.what = .settled 1 outcome) ∧
    shut.what = .workspaceSet before none ∧
    ∀ workspace, before = some workspace → first.context.workspace ≠ some workspace →
      last.context.workspace = some workspace := by
  have begins : closeWorkspace.history[8]?.map (fun moment => moment.what.dispatched?)
      = some (some (1, .workspaceClosed)) := by decide +kernel
  have ends : closeWorkspace.history[0]?.map (fun moment => moment.what.settled?)
      = some (some (1, ⟨true, 0, 1, 0, false⟩)) := by decide +kernel
  obtain ⟨first, place, told⟩ := Option.map_eq_some_iff.mp begins
  obtain ⟨last, place', told'⟩ := Option.map_eq_some_iff.mp ends
  have what := Happening.dispatched?_eq_some told
  have what' := Happening.settled?_eq_some told'
  have began := History.suffix_of_getElem? place
  have settled := History.suffix_of_getElem? place'
  have life : Reached (site ()) (foreign fun _ => .done ()) 8 false closeWorkspace := reached _ _ _
  obtain ⟨shut, rest, before, past, shuts, keeps⟩ :=
    life.closes_workspace_iff began what settled what'
  refine ⟨first, _, last, shut, rest, before, began, what, past ▸ settled, ⟨_, what'⟩, shuts,
    keeps.mpr fun workspace ⟨moment, earlier, replaced, added, set, _⟩ => ?_⟩
  have unset : ∀ moment ∈ (closeWorkspace.history.drop 2).take 6,
      moment.what.workspaceSet?.isSome = false := by decide +kernel
  have left : closeWorkspace.history.drop 2 = rest := by
    rw [← List.tail_drop, past, List.tail_cons]
  have place : rest[6]? = some first := by rw [← left, List.getElem?_drop, place]
  have among : moment ∈ rest.take 6 := by
    refine History.mem_take_of_suffix place added.there ?_
    rw [← left, List.drop_drop]
    exact added.after
  have none := unset moment (left ▸ among)
  rw [set] at none
  cases none

/-- A sub-extension that is told of the closing of the workspace opens another one. -/
def replaceInClosing : State Unit Unit := after () (fun _ => .look fun s =>
    if s.dispatches = 2 then do let _ ← ask (.dispatch (.workspaceOpened ⟨2⟩ .empty)) else .done ()) do
  let _ ← ask (.load "a" ⟨1⟩ "e/a.plugin")
  let _ ← ask (.init "a")
  let _ ← ask (.dispatch (.workspaceOpened ⟨1⟩ .empty))
  let _ ← ask (.dispatch .workspaceClosed)

/-- The workspace that was opened meanwhile is taken away with the one that was closed. -/
theorem replaceInClosing_not_keeps : ∃ first older last shut rest,
    first :: older <:+ replaceInClosing.history ∧ first.what = .dispatched 1 .workspaceClosed ∧
    first.context.workspace = some ⟨0⟩ ∧ last :: shut :: rest <:+ replaceInClosing.history ∧
    (∃ outcome, last.what = .settled 1 outcome) ∧ shut.what = .workspaceSet (some ⟨1⟩) none ∧
    last.context.workspace = none := by
  have begins : replaceInClosing.history[13]?.map (fun moment =>
      (moment.what.dispatched?, moment.context.workspace))
      = some (some (1, .workspaceClosed), some ⟨0⟩) := by decide +kernel
  have sets : replaceInClosing.history[1]?.map (fun moment => moment.what.workspaceSet?)
      = some (some (some ⟨1⟩, none)) := by decide +kernel
  have ends : replaceInClosing.history[0]?.map (fun moment =>
      (moment.what.settled?, moment.context.workspace))
      = some (some (1, ⟨true, 0, 1, 0, false⟩), none) := by decide +kernel
  obtain ⟨first, place, told⟩ := Option.map_eq_some_iff.mp begins
  obtain ⟨what, opened⟩ := Prod.mk.inj told
  obtain ⟨shut, place', shuts⟩ := Option.map_eq_some_iff.mp sets
  obtain ⟨last, place'', told'⟩ := Option.map_eq_some_iff.mp ends
  obtain ⟨what', absent⟩ := Prod.mk.inj told'
  have settled := History.suffix_of_getElem? place''
  rw [History.drop_of_getElem? place'] at settled
  exact ⟨first, _, last, shut, _, History.suffix_of_getElem? place,
    Happening.dispatched?_eq_some what, opened, settled, ⟨_, Happening.settled?_eq_some what'⟩,
    Happening.workspaceSet?_eq_some shuts, absent⟩

end Sample

end ExtensionProxy
