import ExtensionProxy.Proofs.Runs
import ExtensionProxy.Proofs.Stack

/-!
# What is left of an owner's handlers

A handler is run by an emission that found it connected when it began.  So a handler that had been
connected before some moment, and that runs after it, was still connected at that moment or was
listed by an emission that was going on.

Cleaning up drops the handlers of the owner from the signals that can be reached, but it does not
look at emissions.  What it leaves behind is made precise here, and shown to be all that can run
later.
-/

set_option autoImplicit false

namespace ExtensionProxy

variable {κ μ : Type}

/-! ## Handlers that can run -/

namespace Ledger

/-- A handler can run: it is connected, or an emission that is going on lists it. -/
def CanRun (c : Ledger κ) (topic : Topic) (slot : Slot κ) : Prop :=
  slot ∈ (c.context.observers.signal topic).slots ∨
    ∃ slots, .emission topic slots ∈ c.stack ∧ slot ∈ slots

/-- The id of the next handler of a signal. -/
def nextHandler (c : Ledger κ) (topic : Topic) : Nat := (c.context.observers.signal topic).nextId

/-- The handlers that can run have been counted. -/
def Counted (c : Ledger κ) : Prop := ∀ topic slot, c.CanRun topic slot → slot.id < c.nextHandler topic

theorem empty_counted : (empty : Ledger κ).Counted := by
  rintro topic slot (connected | ⟨slots, going, -⟩)
  · cases connected
  · cases going

end Ledger

namespace Step

variable {c d : Ledger κ}

/-- What a step does to the handlers of a signal: one is connected, or some are dropped. -/
theorem handlers_cases (step : Step c d) (topic : Topic) :
    (∃ owner code, (d.context.observers.signal topic).slots
        = (c.context.observers.signal topic).slots ++ [⟨c.nextHandler topic, owner, code⟩] ∧
      d.nextHandler topic = c.nextHandler topic + 1) ∨
    ((d.context.observers.signal topic).slots.Sublist (c.context.observers.signal topic).slots ∧
      d.nextHandler topic = c.nextHandler topic) := by
  have change := step.signal_becomes topic
  simp only [Ledger.nextHandler]
  generalize d.context.observers.signal topic = after at change ⊢
  cases change with
  | connect owner code => exact .inl ⟨owner, code, rfl, rfl⟩
  | disconnect | disconnectOwner => exact .inr ⟨List.filter_sublist, rfl⟩
  | same | enter | leave => exact .inr ⟨.refl _, rfl⟩

/-- A handler that is connected was connected before, or it is new. -/
theorem connected (step : Step c d) {topic : Topic} {slot : Slot κ}
    (now : slot ∈ (d.context.observers.signal topic).slots) :
    slot ∈ (c.context.observers.signal topic).slots ∨ c.nextHandler topic ≤ slot.id := by
  rcases step.handlers_cases topic with ⟨owner, code, slots, -⟩ | ⟨sub, -⟩
  · rw [slots] at now
    rcases List.mem_append.mp now with old | new
    · exact .inl old
    · rw [List.mem_singleton.mp new]
      exact .inr (Nat.le_refl _)
  · exact .inl (sub.subset now)

theorem nextHandler_grows (step : Step c d) (topic : Topic) :
    c.nextHandler topic ≤ d.nextHandler topic := by
  rcases step.handlers_cases topic with ⟨_, _, -, next⟩ | ⟨-, next⟩ <;> omega

/-- An emission that is going on was going on before, or it has just begun. -/
theorem emission (step : Step c d) {topic : Topic} {slots : List (Slot κ)}
    (now : .emission topic slots ∈ d.stack) :
    .emission topic slots ∈ c.stack ∨ slots = (c.context.observers.signal topic).slots := by
  rcases step.stack_cases with same | ⟨activity, begins, pushed⟩ | ⟨activity, popped⟩ |
    ⟨call, rest, target, code, top, replaced, -⟩
  · exact .inl (same ▸ now)
  · rcases List.mem_cons.mp (pushed ▸ now) with rfl | old
    · cases begins
      exact .inr rfl
    · exact .inl old
  · exact .inl (popped ▸ List.mem_cons_of_mem _ now)
  · rcases List.mem_cons.mp (replaced ▸ now) with same | old
    · cases same
    · exact .inl (top ▸ List.mem_cons_of_mem _ old)

/-- A handler that can run could run before, or it is new. -/
theorem canRun (step : Step c d) {topic : Topic} {slot : Slot κ} (now : d.CanRun topic slot) :
    c.CanRun topic slot ∨ c.nextHandler topic ≤ slot.id := by
  rcases now with now | ⟨slots, going, listed⟩
  · exact (step.connected now).imp_left .inl
  · rcases step.emission going with old | rfl
    · exact .inl (.inr ⟨slots, old, listed⟩)
    · exact .inl (.inl listed)

theorem counted (h : c.Counted) (step : Step c d) : d.Counted := by
  intro topic slot now
  have grown := step.nextHandler_grows topic
  have old : ∀ slot, c.CanRun topic slot → slot.id < d.nextHandler topic := fun slot before =>
    Nat.lt_of_lt_of_le (h topic slot before) grown
  rcases now with now | ⟨slots, going, listed⟩
  · rcases step.handlers_cases topic with ⟨owner, code, slots, next⟩ | ⟨sub, -⟩
    · rw [slots] at now
      rcases List.mem_append.mp now with before | new
      · exact old slot (.inl before)
      · rw [List.mem_singleton.mp new, next]
        exact Nat.lt_succ_self _
    · exact old slot (.inl (sub.subset now))
  · rcases step.emission going with before | rfl
    · exact old slot (.inr ⟨slots, before, listed⟩)
    · exact old slot (.inl listed)

end Step

namespace Path

variable {c d : Ledger κ}

theorem counted (path : Path c d) (h : c.Counted) : d.Counted := by
  induction path with
  | refl => exact h
  | tail _ step ih => exact step.counted ih

theorem nextHandler_grows (path : Path c d) (topic : Topic) :
    c.nextHandler topic ≤ d.nextHandler topic := by
  induction path with
  | refl => exact Nat.le_refl _
  | tail _ step ih => exact Nat.le_trans ih (step.nextHandler_grows topic)

theorem connected (path : Path c d) {topic : Topic} {slot : Slot κ}
    (now : slot ∈ (d.context.observers.signal topic).slots) :
    slot ∈ (c.context.observers.signal topic).slots ∨ c.nextHandler topic ≤ slot.id := by
  induction path with
  | refl => exact .inl now
  | tail path step ih =>
    rcases step.connected now with before | new
    · exact ih before
    · exact .inr (Nat.le_trans (nextHandler_grows path topic) new)

theorem canRun (path : Path c d) {topic : Topic} {slot : Slot κ} (now : d.CanRun topic slot) :
    c.CanRun topic slot ∨ c.nextHandler topic ≤ slot.id := by
  induction path with
  | refl => exact .inl now
  | tail path step ih =>
    rcases step.canRun now with before | new
    · exact ih before
    · exact .inr (Nat.le_trans (nextHandler_grows path topic) new)

end Path

/-! ## The steps in question -/

namespace Step

variable {c d : Ledger κ} {moment : Moment κ} {past : History κ}

/-- A handler is run by the emission on top of the stack, which lists it. -/
theorem observes (step : Step c d) (adds : History.Adds c.history d.history moment past)
    {topic : Topic} {slot : Slot κ} {emitted : Emitted}
    (what : moment.what = .began (.call (.observe topic slot emitted))) :
    past = c.history ∧ c.CanRun topic slot := by
  cases step with
  | observe other slots handler told rest top listed idle =>
    obtain ⟨rfl, rfl⟩ := History.adds_single.mp adds
    cases what
    exact ⟨rfl, .inr ⟨slots, top ▸ List.mem_cons_self, listed⟩⟩
  | _ => grind

/-- When a record has been cleaned up nothing more changes in this step. -/
theorem cleans (step : Step c d) (adds : History.Adds c.history d.history moment past)
    {record : Record} (what : moment.what = .cleaned record) :
    d.history = moment :: past ∧ d.context = moment.context := by
  cases step with
  | cleaned id before now found alone same freed =>
    rcases History.adds_cons.mp adds with ⟨-, rfl, rfl⟩ | adds
    · exact ⟨rfl, rfl⟩
    · grind
  | cleanBare id before found alone =>
    rcases History.adds_cons.mp adds with ⟨-, rfl, rfl⟩ | adds
    · exact ⟨rfl, rfl⟩
    · grind
  | _ => grind

/-- Releasing an owner drops its handlers from the signals that can be reached. -/
theorem frees (step : Step c d) (adds : History.Adds c.history d.history moment past)
    {owner : ExtensionHandle} (what : moment.what = .freed owner) :
    d.context.observers
      = moment.context.observers.dropOwner moment.context.isReachable owner := by
  cases step with
  | renounce other =>
    rcases History.adds_cons.mp adds with ⟨-, rfl, -⟩ | adds
    · cases what
      rfl
    · grind
  | clean id record target =>
    rcases History.adds_farewell.mp adds with ⟨-, -, dying, -, -, rfl⟩ | adds
    · cases what
    · rcases History.adds_cons.mp adds with ⟨-, rfl, -⟩ | adds
      · cases what
        rfl
      · grind
  | _ => grind

end Step

/-! ## After cleaning up -/

namespace History

/-- After a moment no handler of an owner starts again that had been connected by then. -/
def Silences (history : History κ) (moment : Moment κ) (past : History κ)
    (owner : ExtensionHandle) : Prop :=
  ∀ start later topic slot emitted, start :: later <:+ history → moment :: past <:+ later →
    start.what = .began (.call (.observe topic slot emitted)) → slot.owner = some owner →
    (moment.context.observers.signal topic).nextId ≤ slot.id

/-- A handler of an owner is left behind at a moment: an emission that is going on lists it, or it is
connected although the owner was released, because its topic was out of reach then or because it was
connected afterwards. -/
def Leaves (moment : Moment κ) (past : History κ) (owner : ExtensionHandle) (topic : Topic)
    (slot : Slot κ) : Prop :=
  (∃ slots, .emission topic slots ∈ stack (moment :: past) ∧ slot ∈ slots) ∨
    slot ∈ (moment.context.observers.signal topic).slots ∧
      ∀ release before, release :: before <:+ past → release.what = .freed owner →
        release.context.isReachable topic = false ∨
          (release.context.observers.signal topic).nextId ≤ slot.id

end History

/-- A handler that is still connected after its owner was released was out of reach, or is new. -/
theorem Path.escapes {c : Ledger κ} (path : Path Ledger.empty c) {topic : Topic} {slot : Slot κ}
    {owner : ExtensionHandle} (owned : slot.owner = some owner)
    (connected : slot ∈ (c.context.observers.signal topic).slots) {release : Moment κ}
    {before : History κ} (there : release :: before <:+ c.history)
    (what : release.what = .freed owner) :
    release.context.isReachable topic = false ∨
      (release.context.observers.signal topic).nextId ≤ slot.id := by
  obtain ⟨a, b, -, step, rest, adds⟩ := path.added there
  have observers := step.frees adds what
  have signal := Observers.signal_dropOwner release.context.observers
    release.context.isReachable owner topic
  rw [← observers] at signal
  rcases rest.connected connected with now | new
  · cases reach : release.context.isReachable topic with
    | false => exact .inl rfl
    | true =>
      rw [signal, reach, if_pos rfl] at now
      have kept := (List.mem_filter.mp now).2
      simp [owned] at kept
  · refine .inr (Nat.le_trans (Nat.le_of_eq ?_) new)
    rw [Ledger.nextHandler, signal]
    split <;> rfl

/-- A handler of the owner that can run after its record was cleaned up was left behind, or is
new. -/
theorem Path.leaves {c : Ledger κ} (path : Path Ledger.empty c) {moment : Moment κ}
    {past : History κ} (there : moment :: past <:+ c.history) {record : Record}
    (what : moment.what = .cleaned record) {topic : Topic} {slot : Slot κ}
    (owned : slot.owner = some record.handle) (now : c.CanRun topic slot) :
    History.Leaves moment past record.handle topic slot ∨
      (moment.context.observers.signal topic).nextId ≤ slot.id := by
  obtain ⟨a, b, first, step, rest, adds⟩ := path.added there
  obtain ⟨history, context⟩ := step.cleans adds what
  rw [← context]
  rcases rest.canRun now with old | new
  · refine .inl ?_
    rcases old with connected | ⟨slots, going, listed⟩
    · refine .inr ⟨context ▸ connected, fun release before earlier freed => ?_⟩
      have inside : release :: before <:+ b.history :=
        history ▸ earlier.trans (List.suffix_cons _ _)
      exact Path.escapes (first.tail step) owned connected inside freed
    · exact .inl ⟨slots, by rwa [Ledger.stack, history] at going, listed⟩
  · exact .inr new

/-- What is left behind had been connected. -/
theorem Path.leaves_old {c : Ledger κ} (path : Path Ledger.empty c) {moment : Moment κ}
    {past : History κ} (there : moment :: past <:+ c.history) {record : Record}
    (what : moment.what = .cleaned record) {topic : Topic} {slot : Slot κ}
    (left : History.Leaves moment past record.handle topic slot) :
    slot.id < (moment.context.observers.signal topic).nextId := by
  obtain ⟨a, b, first, step, rest, adds⟩ := path.added there
  obtain ⟨history, context⟩ := step.cleans adds what
  rw [← context]
  refine Path.counted (first.tail step) Ledger.empty_counted topic slot ?_
  rcases left with ⟨slots, going, listed⟩ | ⟨connected, -⟩
  · exact .inr ⟨slots, by rwa [Ledger.stack, history], listed⟩
  · exact .inl (by rwa [context])

/-- Once a record has been cleaned up, no handler of its owner that had been connected by then starts
again if and only if none starts that was left behind.  Cleaning up leaves behind what an emission
in progress still lists, what is connected to a document that was evicted or a workspace that was
replaced, and what was connected while or after the owner was released. -/
theorem Reached.cleaned_silences_iff {site : Site κ} {foreign : (proxyInterface κ μ).Foreign}
    {levels : Nat} {calm : Bool} {s : State κ μ} (reached : Reached site foreign levels calm s)
    {moment : Moment κ} {past : History κ} (there : moment :: past <:+ s.history) {record : Record}
    (what : moment.what = .cleaned record) :
    s.history.Silences moment past record.handle ↔
      ∀ start later topic slot emitted, start :: later <:+ s.history → moment :: past <:+ later →
        start.what = .began (.call (.observe topic slot emitted)) →
        slot.owner = some record.handle → ¬History.Leaves moment past record.handle topic slot := by
  have path := reached.ledger.path
  constructor
  · intro silent start later topic slot emitted begun after began owned left
    have new := silent start later topic slot emitted begun after began owned
    exact Nat.not_lt_of_le new (path.leaves_old there what left)
  · intro none start later topic slot emitted begun after began owned
    rcases path.adds begun with absent | ⟨a, b, first, step, -, adds⟩
    · cases List.suffix_nil.mp absent
    obtain ⟨rfl, now⟩ := step.observes adds began
    refine (Path.leaves first after what owned now).resolve_left fun left => ?_
    exact none start a.history topic slot emitted begun after began owned left

/-! ## Two lives with an owner's handler -/

namespace Happening

/-- Whose record was cleaned up. -/
def cleaned? : Happening κ → Option ExtensionHandle
  | .cleaned record => some record.handle
  | _ => none

/-- Which handler starts. -/
def observer? : Happening κ → Option (Topic × Slot κ)
  | .began (.call (.observe topic slot _)) => some (topic, slot)
  | _ => none

theorem cleaned?_eq_some {what : Happening κ} {owner : ExtensionHandle}
    (h : what.cleaned? = some owner) : ∃ record, what = .cleaned record ∧ record.handle = owner := by
  cases what with
  | cleaned record => exact ⟨record, rfl, Option.some.inj h⟩
  | _ => cases h

theorem observer?_eq_some {what : Happening κ} {topic : Topic} {slot : Slot κ}
    (h : what.observer? = some (topic, slot)) :
    ∃ emitted, what = .began (.call (.observe topic slot emitted)) := by
  cases what with
  | began activity =>
    cases activity with
    | call request =>
      cases request with
      | observe topic slot emitted =>
        cases h
        exact ⟨emitted, rfl⟩
      | _ => cases h
    | _ => cases h
  | _ => cases h

end Happening

namespace Sample

/-- Handlers run, the record that owns one of them is cleaned up, and the signal is emitted again. -/
def cleanBetween : State Unit Unit := after () (fun _ => .done ()) do
  let _ ← ask (.load "a" ⟨1⟩ "e/a.plugin")
  let _ ← ask (.init "a")
  let doc ← ask (.addDocument ⟨7⟩)
  let _ ← ask (.connect (.document doc .saved) (some ⟨1⟩) ())
  let _ ← ask (.connect (.document doc .saved) none ())
  let _ ← ask (.emit (.document doc .saved) .plain)
  let _ ← ask (.cleanup "a")
  let _ ← ask (.emit (.document doc .saved) .plain)

/-- Cleaning up between two emissions silences the owner. -/
theorem cleanBetween_silences : ∃ moment past record, moment :: past <:+ cleanBetween.history ∧
    moment.what = .cleaned record ∧ record.handle = ⟨1⟩ ∧
    cleanBetween.history.Silences moment past record.handle := by
  have facts : cleanBetween.history[4]?.map (fun moment => moment.what.cleaned?)
      = some (some ⟨1⟩) := by decide +kernel
  obtain ⟨moment, there, tells⟩ := Option.map_eq_some_iff.mp facts
  obtain ⟨record, what, owner⟩ := Happening.cleaned?_eq_some tells
  have cleaned := History.suffix_of_getElem? there
  have life : Reached (site ()) (foreign fun _ => .done ()) 8 false cleanBetween := reached _ _ _
  refine ⟨moment, _, record, cleaned, what, owner, (life.cleaned_silences_iff cleaned what).mpr ?_⟩
  intro start later topic slot emitted begun after began owned
  have recent := History.mem_take_of_suffix there begun after
  have strangers : ∀ moment ∈ cleanBetween.history.take 4,
      (moment.what.observer?.bind fun started => started.2.owner) ≠ some ⟨1⟩ := by
    decide +kernel
  refine absurd ?_ (strangers start recent)
  rw [began, ← owner]
  exact owned

/-- The first of two handlers cleans the record up that owns the second. -/
def cleanWithin : State Bool Unit :=
  after false (fun code => if code then do let _ ← ask (.cleanup "a") else .done ()) do
    let _ ← ask (.load "a" ⟨1⟩ "e/a.plugin")
    let _ ← ask (.init "a")
    let doc ← ask (.addDocument ⟨7⟩)
    let _ ← ask (.connect (.document doc .saved) none true)
    let _ ← ask (.connect (.document doc .saved) (some ⟨1⟩) false)
    let _ ← ask (.emit (.document doc .saved) .plain)

/-- Cleaning up within an emission does not take the owner's handler out of it: the handler starts
after its record was cleaned up. -/
theorem cleanWithin_not_silences : ∃ moment past record, moment :: past <:+ cleanWithin.history ∧
    moment.what = .cleaned record ∧ record.handle = ⟨1⟩ ∧
    ¬cleanWithin.history.Silences moment past record.handle := by
  let topic := Topic.document ⟨0⟩ .saved
  have facts : cleanWithin.history[4]?.map (fun moment =>
      (moment.what.cleaned?, (moment.context.observers.signal topic).nextId))
      = some (some ⟨1⟩, 3) := by decide +kernel
  obtain ⟨moment, there, tells⟩ := Option.map_eq_some_iff.mp facts
  obtain ⟨cleaned, next⟩ := Prod.mk.inj tells
  obtain ⟨record, what, owner⟩ := Happening.cleaned?_eq_some cleaned
  have starts : cleanWithin.history[2]?.map (fun moment => moment.what.observer?)
      = some (some (topic, ⟨2, some ⟨1⟩, false⟩)) := by decide +kernel
  obtain ⟨start, here, observer⟩ := Option.map_eq_some_iff.mp starts
  obtain ⟨emitted, began⟩ := Happening.observer?_eq_some observer
  refine ⟨moment, _, record, History.suffix_of_getElem? there, what, owner, fun silent => ?_⟩
  have new := silent start _ topic _ emitted (History.suffix_of_getElem? here)
    (History.suffix_drop_of_getElem? there (by decide)) began (congrArg some owner.symm)
  rw [next] at new
  exact absurd new (by decide)

end Sample

end ExtensionProxy
