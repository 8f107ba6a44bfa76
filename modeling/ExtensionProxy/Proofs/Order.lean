import ExtensionProxy.Proofs.Turns

/-!
# The order of notices

Whoever takes the notices of two dispatches takes them in the order in which the dispatches began,
with two exceptions.  A dispatch that begins while an earlier one is going on runs to its end first, so
it may get to an instance before the earlier one does.  And a notice that waits in the queue because
its target was running is passed by one that finds the target idle again.
-/

set_option autoImplicit false

namespace ExtensionProxy

variable {κ μ : Type}

/-! ## The order of dispatches -/

namespace History

/-- One dispatch began before another. -/
def DispatchedBefore (history : History κ) (earlier later : Nat) : Prop :=
  ∃ moment past, moment :: past <:+ history ∧ (∃ event, moment.what = .dispatched later event) ∧
    ∃ first ∈ past, ∃ event, first.what = .dispatched earlier event

end History

/-- A dispatch takes the next number. -/
theorem Step.dispatches {c d : Ledger κ} {moment : Moment κ} {past : History κ} (step : Step c d)
    (adds : History.Adds c.history d.history moment past) {number : Nat} {event : HostEvent}
    (what : moment.what = .dispatched number event) :
    past = c.history ∧ number = c.context.dispatches ∧ d.context.dispatches = number + 1 := by
  cases step with
  | dispatch event' =>
    obtain ⟨rfl, rfl⟩ := History.adds_single.mp adds
    cases what
    exact ⟨rfl, rfl, rfl⟩
  | _ => grind

/-- A dispatch comes to its end when it has done what its event asks for. -/
theorem Step.settles {c d : Ledger κ} {moment : Moment κ} {past : History κ} (step : Step c d)
    (adds : History.Adds c.history d.history moment past) {number : Nat} {outcome : DispatchOutcome}
    (what : moment.what = .settled number outcome) :
    past = c.history ∧ moment.context = c.context ∧ c.MaySettle number outcome ∧
      ∃ first older event, first :: older <:+ c.history ∧ first.what = .dispatched number event ∧
        c.Concludes number event first older := by
  cases step with
  | settle other outcome' may first older event began what' concludes =>
    obtain ⟨rfl, rfl⟩ := History.adds_single.mp adds
    cases what
    exact ⟨rfl, rfl, may, first, older, event, began, what', concludes⟩
  | _ => grind

/-- Numbers are taken by dispatches only. -/
theorem Step.dispatches_cases {c d : Ledger κ} (step : Step c d) :
    d.context.dispatches = c.context.dispatches ∨
      d.context.dispatches = c.context.dispatches + 1 ∧ ∃ event context held,
        d.history = ⟨.dispatched c.context.dispatches event, context, held⟩ :: c.history := by
  cases step with
  | dispatch event => exact .inr ⟨rfl, event, _, _, rfl⟩
  | _ => exact .inl rfl

namespace Path

variable {c : Ledger κ} {number : Nat}

/-- Every number below the next one was taken by a dispatch. -/
theorem dispatched (path : Path Ledger.empty c) (taken : number < c.context.dispatches) :
    ∃ moment ∈ c.history, ∃ event, moment.what = .dispatched number event := by
  induction path with
  | refl => exact absurd taken (Nat.not_lt_zero _)
  | @tail b d _ step ih =>
    have old : number < b.context.dispatches →
        ∃ moment ∈ d.history, ∃ event, moment.what = .dispatched number event := by
      intro taken
      obtain ⟨moment, there, told⟩ := ih taken
      exact ⟨moment, step.history_grows.subset there, told⟩
    rcases step.dispatches_cases with same | ⟨next, event, context, held, history⟩
    · exact old (same ▸ taken)
    · rcases Nat.lt_succ_iff_lt_or_eq.mp (next ▸ taken) with before | rfl
      · exact old before
      · exact ⟨_, history ▸ List.mem_cons_self, event, rfl⟩

/-- Only numbers that were taken are dispatches. -/
theorem number_lt (path : Path Ledger.empty c) {moment : Moment κ} {event : HostEvent}
    (there : moment ∈ c.history) (what : moment.what = .dispatched number event) :
    number < c.context.dispatches := by
  obtain ⟨newer, past, split⟩ := List.append_of_mem there
  obtain ⟨a, b, -, step, rest, adds⟩ :=
    path.added (⟨newer, split.symm⟩ : moment :: past <:+ c.history)
  have grown := Path.dispatches_grow rest
  have next := (step.dispatches adds what).2.2
  omega

/-- No two dispatches have one number. -/
theorem dispatched_unique (path : Path Ledger.empty c) {one other : Moment κ}
    {past past' : History κ} {event event' : HostEvent} (there : one :: past <:+ c.history)
    (there' : other :: past' <:+ c.history) (what : one.what = .dispatched number event)
    (what' : other.what = .dispatched number event') : one :: past = other :: past' := by
  refine History.unique_of (fun what => ∃ event, what = .dispatched number event) ?_ there there'
    ⟨event, what⟩ ⟨event', what'⟩
  rintro one other past past' there ⟨event, what⟩ ⟨event', what'⟩ before
  obtain ⟨a, b, first, step, -, adds⟩ := path.added there
  obtain ⟨rfl, rfl, -⟩ := step.dispatches adds what
  exact Nat.lt_irrefl _ (Path.number_lt first (before.subset List.mem_cons_self) what')

/-- A dispatch begins before it gets to an instance. -/
theorem dispatched_of_turn (path : Path Ledger.empty c) {turn : Moment κ} {past : History κ}
    {target : InstanceId} (there : turn :: past <:+ c.history)
    (what : turn.what = .reached number target) :
    ∃ moment ∈ past, ∃ event, moment.what = .dispatched number event := by
  obtain ⟨a, b, first, step, -, adds⟩ := path.added there
  obtain ⟨rfl, -, notice, entry, ⟨⟨done, rest, listed, -⟩, -⟩, -⟩ := step.reaches adds what
  obtain ⟨fan, before, suffix, fanned, -⟩ := History.exists_of_fanOut? listed
  obtain ⟨a', b', first', step', -, adds'⟩ := first.added suffix
  obtain ⟨rfl, -, -, -, -, -, taken⟩ := step'.fansOut adds' fanned
  obtain ⟨moment, older, told⟩ := Path.dispatched first' taken
  exact ⟨moment, suffix.subset (List.mem_cons_of_mem _ older), told⟩

/-- Dispatches are numbered in the order in which they begin. -/
theorem dispatchedBefore (path : Path Ledger.empty c) {earlier later : Nat} (order : earlier < later)
    {moment : Moment κ} {event : HostEvent} (there : moment ∈ c.history)
    (what : moment.what = .dispatched later event) :
    c.history.DispatchedBefore earlier later := by
  obtain ⟨newer, past, split⟩ := List.append_of_mem there
  have suffix : moment :: past <:+ c.history := ⟨newer, split.symm⟩
  obtain ⟨a, b, first, step, -, adds⟩ := path.added suffix
  obtain ⟨rfl, rfl, -⟩ := step.dispatches adds what
  exact ⟨moment, a.history, suffix, ⟨event, what⟩, Path.dispatched first order⟩

theorem lt_of_dispatchedBefore (path : Path Ledger.empty c) {earlier later : Nat}
    (order : c.history.DispatchedBefore earlier later) : earlier < later := by
  obtain ⟨moment, past, suffix, ⟨event, what⟩, first, older, event', what'⟩ := order
  obtain ⟨a, b, before, step, -, adds⟩ := path.added suffix
  obtain ⟨rfl, rfl, -⟩ := step.dispatches adds what
  exact Path.number_lt before older what'

end Path

/-! ## The order of callbacks -/

/-- How the callback for a later notice comes to begin first. -/
inductive History.Overtakes (history : History κ) (target : InstanceId) (earlier later : Nat) : Prop
  /-- The later dispatch began after the earlier one and got to the instance before it. -/
  | nested (first second : Moment κ) (past past' : History κ) (there : first :: past <:+ history)
      (what : first.what = .reached earlier target) (before : second :: past' <:+ past)
      (what' : second.what = .reached later target)
      (begun : past'.DispatchedBefore earlier later)
  /-- The earlier notice waits because the instance was running; it is still waiting when the later
  one gets to the instance, which is idle. -/
  | waiting (first second : Moment κ) (past past' : History κ)
      (there : second :: past' <:+ history) (what' : second.what = .reached later target)
      (idle : second.context.isRunning target = false) (before : first :: past <:+ past')
      (what : first.what = .reached earlier target)
      (busy : first.context.isRunning target = true)
      (waits : ∀ moment ∈ past', ¬moment.what.Notifies earlier target)

/-- If the callback for a later notice began first, the notice had overtaken the earlier one. -/
theorem Path.overtakes {c : Ledger κ} (path : Path Ledger.empty c) {target : InstanceId}
    {earlier later : Nat} (order : earlier < later) {one other : Moment κ} {past past' : History κ}
    (there : one :: past <:+ c.history) (what : one.what.Notifies earlier target)
    (old : other :: past' <:+ past) (what' : other.what.Notifies later target) :
    c.history.Overtakes target earlier later := by
  have there' := (old.trans (List.suffix_cons _ _)).trans there
  obtain ⟨first, before, within, reached, came⟩ := Path.turn_of_start path there what
  obtain ⟨second, before', within', reached', came'⟩ := Path.turn_of_start path there' what'
  have suffix := (within.trans (List.suffix_cons _ _)).trans there
  have suffix' := (within'.trans (List.suffix_cons _ _)).trans there'
  have different : first ≠ second := by
    rintro rfl
    cases reached.symm.trans reached'
    exact Nat.lt_irrefl _ order
  rcases History.suffix_total suffix suffix' with ahead | behind
  · have ahead := History.earlier_of_ne ahead different
    -- The earlier notice waited, else its callback would have begun before the later dispatch got
    -- there.
    rcases came with ⟨rfl, -⟩ | ⟨busy, -⟩
    · have old := History.earlier_of_ne old fun same => by
        rw [same, reached] at what'
        exact what'
      have longer := (ahead.trans ((List.suffix_cons _ _).trans (within'.trans
        ((List.suffix_cons _ _).trans old)))).length_le
      exact absurd longer (Nat.not_succ_le_self _)
    · rcases came' with ⟨rfl, idle⟩ | ⟨busy', -⟩
      · refine .waiting first second before before' suffix' reached' idle ahead reached busy
          fun moment among notified => ?_
        obtain ⟨newer, rest, split⟩ := List.append_of_mem among
        have earlier : moment :: rest <:+ before' := ⟨newer, split.symm⟩
        have within : moment :: rest <:+ past :=
          earlier.trans ((List.suffix_cons _ _).trans ((List.suffix_cons _ _).trans old))
        have same := Path.start_unique path there
          (within.trans ((List.suffix_cons _ _).trans there)) what notified
        have shorter := within.length_le
        rw [← same] at shorter
        exact absurd shorter (Nat.not_succ_le_self _)
      · have less := Path.seq_lt_of_starts path there what old what' suffix reached busy suffix'
          reached' busy'
        exact absurd (Path.seq_le_of_turns path suffix' reached' ahead reached)
          (Nat.not_le_of_lt less)
  · have behind := History.earlier_of_ne behind different.symm
    obtain ⟨dispatch, among, event, told⟩ := Path.dispatched_of_turn path suffix' reached'
    obtain ⟨a, b, first', step, -, adds⟩ := path.added suffix'
    obtain ⟨rfl, -⟩ := step.reaches adds reached'
    exact .nested first second before a.history suffix reached behind reached'
      (Path.dispatchedBefore first' order among told)

/-- The callbacks of an instance for two notices begin in the order of their dispatches, unless the
later notice overtakes the earlier one. -/
theorem Reached.notices_ordered {site : Site κ} {foreign : (proxyInterface κ μ).Foreign}
    {levels : Nat} {calm : Bool} {s : State κ μ} (reached : Reached site foreign levels calm s)
    {earlier later : Nat} (order : s.history.DispatchedBefore earlier later) {target : InstanceId}
    {one other : Moment κ} {past past' : History κ} (there : one :: past <:+ s.history)
    (what : one.what.Notifies earlier target) (there' : other :: past' <:+ s.history)
    (what' : other.what.Notifies later target) :
    one :: past <:+ past' ∨ s.history.Overtakes target earlier later := by
  have path := reached.ledger.path
  have order := Path.lt_of_dispatchedBefore path order
  have apart : one ≠ other := by
    rintro rfl
    obtain ⟨code, notice, same⟩ := Happening.notifies_iff.mp what
    obtain ⟨code', notice', same'⟩ := Happening.notifies_iff.mp what'
    cases same.symm.trans same'
    exact Nat.lt_irrefl _ order
  rcases History.suffix_total there there' with old | old
  · rcases List.suffix_cons_iff.mp old with same | old
    · exact absurd (List.cons.inj same).1 apart
    · exact .inl old
  · rcases List.suffix_cons_iff.mp old with same | old
    · exact absurd (List.cons.inj same).1 apart.symm
    · exact .inr (path.overtakes order there what old what')

/-! ## A dispatch within a dispatch -/

namespace Sample

/-- Two sub-extensions are told of a document; the first opens another one meanwhile. -/
def openWithin : State Unit Unit := after () (fun _ => .look fun s =>
    if s.dispatches = 1 then do let _ ← ask (.dispatch (.document .created ⟨8⟩)) else .done ()) do
  let _ ← ask (.load "a" ⟨1⟩ "e/a.plugin")
  let _ ← ask (.load "b" ⟨2⟩ "e/a.plugin")
  let _ ← ask (.init "a")
  let _ ← ask (.init "b")
  let _ ← ask (.dispatch (.document .created ⟨7⟩))
  let _ ← ask .runPending

/-- The document that was opened meanwhile is the later one. -/
theorem openWithin_dispatched : openWithin.history.DispatchedBefore 0 1 := by
  have second : openWithin.history[16]?.map (fun moment => moment.what.dispatched?)
      = some (some (1, .document .created ⟨8⟩)) := by decide +kernel
  have first : openWithin.history[20]?.map (fun moment => moment.what.dispatched?)
      = some (some (0, .document .created ⟨7⟩)) := by decide +kernel
  obtain ⟨later, there, told⟩ := Option.map_eq_some_iff.mp second
  obtain ⟨earlier, there', told'⟩ := Option.map_eq_some_iff.mp first
  refine ⟨later, _, History.suffix_of_getElem? there, ⟨_, Happening.dispatched?_eq_some told⟩,
    earlier, ?_, _, Happening.dispatched?_eq_some told'⟩
  exact (History.suffix_drop_of_getElem? there' (by decide)).subset List.mem_cons_self

/-- The first sub-extension, which was running, is told of the second document later. -/
theorem openWithin_ordered : ∃ one other past past', one :: past <:+ openWithin.history ∧
    one.what.Notifies 0 ⟨0⟩ ∧ other :: past' <:+ openWithin.history ∧ other.what.Notifies 1 ⟨0⟩ ∧
    (one :: past <:+ past' ∨ openWithin.history.Overtakes ⟨0⟩ 0 1) := by
  have first : openWithin.history[17]?.map (fun moment => moment.what.notified?)
      = some (some (0, ⟨0⟩)) := by decide +kernel
  have second : openWithin.history[3]?.map (fun moment => moment.what.notified?)
      = some (some (1, ⟨0⟩)) := by decide +kernel
  obtain ⟨one, place, told⟩ := Option.map_eq_some_iff.mp first
  obtain ⟨other, place', told'⟩ := Option.map_eq_some_iff.mp second
  have there := History.suffix_of_getElem? place
  have there' := History.suffix_of_getElem? place'
  have what := Happening.notified?_eq_some told
  have what' := Happening.notified?_eq_some told'
  have life : Reached (site ()) (foreign fun _ => .look fun s =>
      if s.dispatches = 1 then do let _ ← ask (.dispatch (.document .created ⟨8⟩)) else .done ())
      8 false openWithin := reached _ _ _
  exact ⟨one, other, _, _, there, what, there', what',
    life.notices_ordered openWithin_dispatched there what there' what'⟩

/-- The second sub-extension is told of the second document before it is told of the first. -/
theorem openWithin_not_ordered : openWithin.history.DispatchedBefore 0 1 ∧
    ∃ one other past past', one :: past <:+ openWithin.history ∧ one.what.Notifies 0 ⟨1⟩ ∧
      other :: past' <:+ past ∧ other.what.Notifies 1 ⟨1⟩ := by
  have first : openWithin.history[7]?.map (fun moment => moment.what.notified?)
      = some (some (0, ⟨1⟩)) := by decide +kernel
  have second : openWithin.history[12]?.map (fun moment => moment.what.notified?)
      = some (some (1, ⟨1⟩)) := by decide +kernel
  obtain ⟨one, place, told⟩ := Option.map_eq_some_iff.mp first
  obtain ⟨other, place', told'⟩ := Option.map_eq_some_iff.mp second
  exact ⟨openWithin_dispatched, one, other, _, _, History.suffix_of_getElem? place,
    Happening.notified?_eq_some told, History.suffix_drop_of_getElem? place' (by decide),
    Happening.notified?_eq_some told'⟩

end Sample

end ExtensionProxy
