import ExtensionProxy.Proofs.Drains
import ExtensionProxy.Proofs.Frames
import ExtensionProxy.Proofs.Order
import ExtensionProxy.Proofs.Waiting

/-!
# Every notice is delivered once

A dispatch gets to each instance that was registered when it fanned out.  One that is idle is called at
once.  One that is running is called by the first drain that begins later, unless its handle is cleaned
up before that.  Nobody is called twice, nobody is called who was not listed, and nobody is called who
was cleaned up.

Drains are begun by the host only, when nothing is going on: then no instance is running while a drain
takes what waits for it.
-/

set_option autoImplicit false

namespace ExtensionProxy

variable {κ μ : Type}

/-! ## Owners -/

/-- A record keeps its instance until it is cleaned up. -/
theorem Step.owner_kept {c d : Ledger κ} {id : RecordId} {handle : ExtensionHandle}
    {target : InstanceId} (filing : c.Filing) (step : Step c d) (kept : d.history.NoneAbandoned)
    (owns : c.owner? id = some (handle, target)) :
    d.owner? id = some (handle, target) ∨
      ∃ record past, record.handle = handle ∧ record.target = some target ∧
        History.Adds c.history d.history ⟨.cleaning record, c.context, c.held⟩ past := by
  cases filing.enrolment step with
  | same registry owners initialized => exact .inl (owners ▸ owns)
  | enlist other new entry free alone registry owners initialized =>
    refine .inl ?_
    rw [owners, if_neg, owns]
    rintro rfl
    exact Option.some_ne_none _ (owns.symm.trans alone)
  | clean other given gone owned registry owners initialized told =>
    by_cases same : id = other
    · subst same
      cases owns.symm.trans owned
      exact .inr told
    · exact .inl (by rw [owners, if_neg same, owns])
  | strike other registry owners initialized => exact .inl (owners ▸ owns)
  | abandon record gone owned registry initialized told =>
    have absent : record.target.isSome = false := kept _ told
    simp [owned] at absent

namespace Path

variable {a c : Ledger κ} {handle : ExtensionHandle} {target : InstanceId}

theorem owner_kept {id : RecordId} (first : Path Ledger.empty a) (path : Path a c)
    (kept : c.history.NoneAbandoned) (owns : a.owner? id = some (handle, target)) :
    c.owner? id = some (handle, target) ∨
      ∃ moment past record, History.Adds a.history c.history moment past ∧
        moment.what = .cleaning record ∧ record.handle = handle ∧ record.target = some target := by
  induction path with
  | refl => exact .inl owns
  | tail path step ih =>
    have filing := (Path.sound (first.trans path) Ledger.empty_sound).filing
    rcases ih (kept.mono step.history_grows) with owns | ⟨moment, past, record, adds, rest⟩
    · rcases step.owner_kept filing kept owns with owns | ⟨record, past, handle, owned, adds⟩
      · exact .inl owns
      · exact .inr ⟨_, past, record, adds.since (Path.history_grows path), rfl, handle, owned⟩
    · exact .inr ⟨moment, past, record, adds.grow step.history_grows, rest⟩

/-- An instance that was listed is owned under its handle, unless its record was cleaned up since. -/
theorem owner_since (path : Path Ledger.empty c) (kept : c.history.NoneAbandoned) {number : Nat}
    {notice : Notice} {fan : Moment κ} {older : History κ} (there : fan :: older <:+ c.history)
    (what : fan.what = .fannedOut number notice) {entry : ExtensionHandle × Registration}
    (listed : entry ∈ fan.context.registry.entries) :
    (∃ id, c.owner? id = some (entry.1, entry.2.target)) ∨
      ∃ moment past record, History.Adds (fan :: older) c.history moment past ∧
        moment.what = .cleaning record ∧ record.handle = entry.1 ∧
        record.target = some entry.2.target := by
  obtain ⟨a, first, rest, history, context⟩ := Path.at_fan path there what
  have registered : a.context.registry.get? entry.1 = some entry.2 := by
    refine ((Path.enrols first).inStep.mem_entries entry.1 entry.2).mp ?_
    rw [context]
    exact listed
  have early := kept.mono (Path.history_grows rest)
  obtain ⟨id, owns⟩ := Path.owned first early entry.1 entry.2 registered
  rcases Path.owner_kept first rest kept owns with owns | cleaned
  · exact .inl ⟨id, owns⟩
  · rw [history] at cleaned
    exact .inr cleaned

/-- An instance that was listed is there, unless its record was cleaned up since. -/
theorem owned_since (path : Path Ledger.empty c) (kept : c.history.NoneAbandoned) {number : Nat}
    {notice : Notice} {fan : Moment κ} {older : History κ} (there : fan :: older <:+ c.history)
    (what : fan.what = .fannedOut number notice) {entry : ExtensionHandle × Registration}
    (listed : entry ∈ fan.context.registry.entries) :
    (∃ found, c.context.instance? entry.2.target = some found ∧ found.owned = true) ∨
      ∃ moment past record, History.Adds (fan :: older) c.history moment past ∧
        moment.what = .cleaning record ∧ record.handle = entry.1 ∧
        record.target = some entry.2.target := by
  refine (path.owner_since kept there what listed).imp_left fun ⟨id, owns⟩ => ?_
  have holdings := (Path.sound path Ledger.empty_sound).holdings
  obtain ⟨binding, owned, -⟩ := holdings.owns id _ (Ledger.target?_of_owner? owns)
  obtain ⟨found, there, same⟩ := Option.bind_eq_some_iff.mp owned
  refine ⟨found, there, ?_⟩
  cases alive : found.owned with
  | true => rfl
  | false => simp [alive] at same

end Path

/-! ## After cleaning up -/

namespace Step

variable {c d : Ledger κ} {target : InstanceId}

/-- An instance that was let go is never owned again. -/
theorem unowned (step : Step c d) (filing : c.Filing)
    (made : target.index < c.context.instances.length) (gone : c.owned? target = none) :
    d.owned? target = none := by
  cases filing.transfer step with
  | same modules targets instances => rw [instances, gone]
  | construct modules targets instances => rw [instances, gone]
  | bare id alone next builds modules targets instances => rw [instances, gone]
  | part id other lets next builds modules targets instances =>
    rw [instances, gone]
    split <;> rfl
  | gain id fresh binding alone unmade next builds modules targets instances new =>
    have other : target ≠ fresh := by
      rintro rfl
      rw [new] at made
      exact Nat.lt_irrefl _ made
    rw [instances, if_neg other, gone]

/-- Cleaning a record up lets its instance go. -/
theorem lets_go (step : Step c d) {moment : Moment κ} {past : History κ}
    (adds : History.Adds c.history d.history moment past) {record : Record}
    (what : moment.what = .cleaning record) (owns : record.target = some target) :
    d.owned? target = none ∧ ∃ id, c.owner? id = some (record.handle, target) := by
  cases step with
  | clean id record' target' found owns' =>
    rcases History.adds_farewell.mp adds with ⟨-, -, dying, -, -, rfl⟩ | adds
    · cases what
    rcases History.adds_cons.mp adds with ⟨-, rfl, -⟩ | adds
    · cases what
    obtain ⟨rfl, -⟩ := History.adds_single.mp adds
    cases what
    cases owns.symm.trans owns'
    exact ⟨(Ledger.owned?_letGo _ target target).trans (if_pos rfl), id,
      Ledger.owner?_eq_some.mpr ⟨record, found, rfl, owns⟩⟩
  | cleanBare id record' found alone =>
    obtain rfl : record' = record := by grind
    cases owns.symm.trans alone
  | _ => grind

end Step

namespace Path

variable {a c : Ledger κ} {number : Nat} {target : InstanceId}

theorem instances_grow (path : Path a c) :
    a.context.instances.length ≤ c.context.instances.length := by
  induction path with
  | refl => exact Nat.le_refl _
  | tail _ step ih => exact Nat.le_trans ih step.instances_grow

theorem unowned (first : Path Ledger.empty a) (path : Path a c)
    (made : target.index < a.context.instances.length) (gone : a.owned? target = none) :
    c.owned? target = none := by
  induction path with
  | refl => exact gone
  | tail path step ih =>
    have filing := (Path.sound (first.trans path) Ledger.empty_sound).filing
    exact step.unowned filing (Nat.lt_of_lt_of_le made (Path.instances_grow path)) ih

/-- No callback of an instance begins after its record was cleaned up. -/
theorem silent_of_cleaned (path : Path Ledger.empty c) {moment start : Moment κ}
    {past before : History κ} {record : Record} (there : moment :: past <:+ c.history)
    (what : moment.what = .cleaning record) (owns : record.target = some target)
    (begun : start :: before <:+ c.history) (notified : start.what.Notifies number target) :
    start :: before <:+ past := by
  obtain ⟨b, d, first, step, rest, adds⟩ := path.added there
  have sound := Path.sound first Ledger.empty_sound
  obtain ⟨gone, id, owner⟩ := step.lets_go adds what owns
  rcases rest.adds begun with old | ⟨e, f, between, later, -, adds'⟩
  · rcases History.old_or_adds step.history_grows old with old | adds'
    · exact old.trans adds.after
    · refine step.begins_before adds adds' notified (fun _ _ same => ?_) fun again => ?_
      · cases what.symm.trans same
      · rw [what] at again
        exact again
  · obtain ⟨⟨found, here, owned, -⟩, -⟩ := later.notifies adds' notified
    obtain ⟨binding, holds, -⟩ := sound.holdings.owns id target (Ledger.target?_of_owner? owner)
    have made : target.index < b.context.instances.length := by
      obtain ⟨found, here, -⟩ := Option.bind_eq_some_iff.mp holds
      exact (List.getElem?_eq_some_iff.mp here).1
    have still := Path.unowned (first.tail step) between
      (Nat.lt_of_lt_of_le made step.instances_grow) gone
    simp [Ledger.owned?, here, owned] at still

/-- If nobody took an entry out of the registry that was not its own, no callback of an instance
begins after an instance was cleaned up that was initialized under the handle of its listing. -/
theorem silent_of_handle (path : Path Ledger.empty c) (kept : c.history.NoneAbandoned)
    (aimed : c.history.NoneStruck) {fan moment start : Moment κ} {older past before : History κ}
    {notice : Notice} {entry : ExtensionHandle × Registration}
    (fanned : fan.what = .fannedOut number notice) (listed : entry ∈ fan.context.registry.entries)
    (adds : History.Adds (fan :: older) c.history moment past) {record : Record}
    (what : moment.what = .cleaning record) (same : record.handle = entry.1)
    (owns : record.target ≠ none) (begun : start :: before <:+ c.history)
    (notified : start.what.Notifies number entry.2.target) : start :: before <:+ past := by
  obtain ⟨target, owns⟩ := Option.ne_none_iff_exists'.mp owns
  obtain ⟨b, d, first, step, rest, adds'⟩ := path.added adds.there
  have inside : b.history <:+ c.history := step.history_grows.trans (Path.history_grows rest)
  obtain ⟨-, id, owner⟩ := step.lets_go adds' what owns
  have since : fan :: older <:+ b.history := by
    rcases History.old_or_adds step.history_grows
      (adds.after.trans ((List.suffix_cons _ _).trans adds'.there)) with old | new
    · exact old
    · have whole := (step.fansOut new fanned).2.2.2.1
      have first := adds'.there.length_le
      have second := adds.after.length_le
      rw [whole, List.length_cons, List.length_cons] at first
      rw [List.length_cons] at second
      omega
  rcases Path.owner_since first (kept.mono inside) since fanned listed with
    ⟨other, owner'⟩ | ⟨moment', past', record', adds'', what', -, owns'⟩
  · obtain ⟨one, registered, rfl⟩ :=
      Path.listed first (kept.mono inside) (aimed.mono inside) _ _ _ owner
    obtain ⟨two, registered', same'⟩ :=
      Path.listed first (kept.mono inside) (aimed.mono inside) _ _ _ owner'
    rw [same, registered'] at registered
    cases registered
    exact Path.silent_of_cleaned path adds.there what (owns.trans (congrArg some same')) begun notified
  · have early := Path.silent_of_cleaned path (adds''.there.trans inside) what' owns' begun notified
    exact early.trans ((List.suffix_cons _ _).trans (adds''.there.trans adds'.after))

end Path

/-! ## What a dispatch does for one instance -/

namespace History

/-- A drain, which began at a moment, came to its end at another one; no drain began meanwhile. -/
structure Drains (history : History κ) (drain : Moment κ) (earlier : History κ) (limit : Nat)
    (last : Moment κ) (before : History κ) : Prop where
  adds : Adds (drain :: earlier) history last before
  what : last.what = .drained
  top : stack before = [.drain limit]
  alone : ∀ other between bound, Adds (drain :: earlier) before other between →
    other.what ≠ .began (.drain bound)

/-- The first drain that began after a history. -/
structure NextDrain (since history : History κ) (drain : Moment κ) (earlier : History κ)
    (limit : Nat) : Prop where
  adds : Adds since history drain earlier
  what : drain.what = .began (.drain limit)
  first : ∀ other between bound, Adds since earlier other between →
    other.what ≠ .began (.drain bound)

/-- The turn of an instance that a dispatch listed under a handle when it fanned out. -/
structure IsServed (history fan : History κ) (number : Nat) (handle : ExtensionHandle)
    (target : InstanceId) (turn : Moment κ) (past : History κ) : Prop where
  /-- The dispatch gets to the instance. -/
  there : turn :: past <:+ history
  what : turn.what = .reached number target
  /-- It does so after it fanned out. -/
  after : fan <:+ past
  /-- If the instance is idle, its callback begins at once. -/
  idle : turn.context.isAlive target = true → turn.context.isRunning target = false →
    ∃ start, start :: turn :: past <:+ history ∧ start.what.Notifies number target
  /-- If the instance is running, its callback begins in a drain that began later. -/
  later : turn.context.isRunning target = true → ∀ start before, start :: before <:+ history →
    start.what.Notifies number target → ∃ drain earlier limit,
      Adds (turn :: past) before drain earlier ∧ drain.what = .began (.drain limit) ∧
      stack before = [.drain limit]
  /-- It begins in the first of them, unless what waits for the handle was withdrawn before that drain
  came to its end. -/
  soon : turn.context.isRunning target = true → ∀ drain earlier limit,
    NextDrain (turn :: past) history drain earlier limit →
    ∃ last before, history.Drains drain earlier limit last before ∧
      ((∃ start early, Adds (drain :: earlier) before start early ∧
          start.what.Notifies number target) ∨
        ∃ moment early, Adds fan before moment early ∧ moment.what.Withdraws handle)
  /-- If the instance is gone, its record was cleaned up meanwhile. -/
  gone : turn.context.isAlive target = false → ∃ moment earlier record,
    Adds fan past moment earlier ∧ moment.what = .cleaning record ∧ record.handle = handle ∧
      record.target = some target
  /-- No callback for the notice begins after the instance was cleaned up, nor after another one was
  that had the same handle, provided that the registry was only changed by those whose entry it was. -/
  cleaned : ∀ moment earlier record, Adds fan history moment earlier →
    moment.what = .cleaning record → record.target = some target ∨
      history.NoneStruck ∧ record.handle = handle ∧ record.target ≠ none →
    ∀ start before, start :: before <:+ history → start.what.Notifies number target →
      start :: before <:+ earlier
  /-- Nor does the callback of an instance that was running at its turn begin after what waits for the
  handle was withdrawn. -/
  withdrawn : turn.context.isRunning target = true → ∀ moment earlier,
    Adds (turn :: past) history moment earlier → moment.what.Withdraws handle →
    ∀ start before, start :: before <:+ history → start.what.Notifies number target →
      start :: before <:+ earlier

end History

namespace Path

variable {c : Ledger κ} {number : Nat} {turn fan : Moment κ} {past older : History κ}
  {notice : Notice} {entry : ExtensionHandle × Registration}

/-- A drain whose limit lies above the number of a deferred notice began after it was deferred. -/
theorem drain_after (path : Path Ledger.empty c) {drain : Moment κ} {before : History κ}
    {target : InstanceId} {limit : Nat} (there : drain :: before <:+ c.history)
    (what : drain.what = .began (.drain limit)) (there' : turn :: past <:+ c.history)
    (reached : turn.what = .reached number target)
    (above : turn.context.tasks.nextSeq < limit) : turn :: past <:+ before := by
  rcases History.suffix_total there there' with old | new
  · exfalso
    have old : drain :: before <:+ past := History.earlier_of_ne old fun same => by
      rw [same, reached] at what
      cases what
    obtain ⟨a, b, first, step, -, adds⟩ := path.added there'
    obtain ⟨rfl, now, -⟩ := step.reaches adds reached
    obtain ⟨a', b', -, step', rest, adds'⟩ := first.added old
    obtain ⟨-, -, -, rfl⟩ := step'.drains adds' what
    rw [now] at above
    exact Nat.not_lt_of_le (Path.nextSeq_grows (rest.head step')) above
  · refine History.earlier_of_ne new fun same => ?_
    rw [← same, reached] at what
    cases what

section

variable (kept : c.history.NoneAbandoned) (outermost : c.history.DrainsOutermost)
  (there : turn :: past <:+ c.history) (reached : turn.what = .reached number entry.2.target)
  (busy : turn.context.isRunning entry.2.target = true) (after : fan :: older <:+ past)
  (fanned : fan.what = .fannedOut number notice) (listed : entry ∈ fan.context.registry.entries)

include outermost there reached busy after fanned listed

/-- Whoever was running when a dispatch got to it is called in a drain that began later. -/
theorem later_of_busy (path : Path Ledger.empty c) {start : Moment κ} {before : History κ}
    (begun : start :: before <:+ c.history)
    (notified : start.what.Notifies number entry.2.target) :
    ∃ drain earlier limit, History.Adds (turn :: past) before drain earlier ∧
      drain.what = .began (.drain limit) ∧ History.stack before = [.drain limit] := by
  obtain ⟨a, b, first, step, rest, adds⟩ := path.added begun
  have inside : a.history <:+ c.history := step.history_grows.trans (Path.history_grows rest)
  obtain ⟨rfl, since, limit, below, task, top, early, -, -, place, -⟩ :=
    takes_of_busy there reached busy after fanned listed first step rest adds notified
  obtain ⟨rfl, drain, earlier, began, what, -⟩ := History.drain_alone (outermost.mono inside) top
  exact ⟨drain, earlier, limit,
    ⟨began, drain_after first began what since reached (place ▸ early)⟩, what, top⟩

include kept

/-- Whoever was running when a dispatch got to it is called later, or the notice is withdrawn, or it
still waits. -/
theorem awaits_outermost (path : Path Ledger.empty c) :
    c.Awaits number entry.1 entry.2.target turn.context.tasks.nextSeq ∨
      (∃ start before, History.Adds (turn :: past) c.history start before ∧
        start.what.Notifies number entry.2.target) ∨
      ∃ moment past', History.Adds (fan :: older) c.history moment past' ∧
        moment.what.Withdraws entry.1 := by
  have since : fan :: older <:+ turn :: past := after.trans (List.suffix_cons _ _)
  rcases path.awaits there reached busy after fanned listed with waits | ⟨moment, before, adds, stops⟩
  · exact .inl waits
  cases stops with
  | delivered notifies => exact .inr (.inl ⟨moment, before, adds, notifies⟩)
  | withdrawn withdraws => exact .inr (.inr ⟨moment, before, adds.since since, withdraws⟩)
  | lost what =>
    -- While a drain takes what waits nothing else is going on, so the instance is not running.
    obtain ⟨a, b, first, step, rest, adds'⟩ := path.added adds.there
    have inside : a.history <:+ c.history := step.history_grows.trans (Path.history_grows rest)
    obtain ⟨rfl, -, unready, limit, below, -, top, -⟩ := step.loses adds' what
    obtain ⟨rfl, -⟩ := History.drain_alone (outermost.mono inside) top
    rcases Path.owned_since first (kept.mono inside) (since.trans adds.after) fanned listed with
      ⟨found, here, owned⟩ | ⟨moment', past', record, adds'', what', same, owns⟩
    · have idle : a.callbacks = [] := by rw [Ledger.callbacks, top]; rfl
      have marked := (Path.marked first Ledger.empty_marked).marked entry.2.target
      rw [idle] at marked
      have still : found.running = false := by
        simpa [Context.isRunning_of_found here] using marked
      exact absurd ⟨here, owned, still⟩ (unready found)
    · refine .inr (.inr ⟨moment', past', adds''.grow inside, ?_⟩)
      rw [what']
      exact ⟨same, by simp [owns]⟩

omit there in
/-- The first drain that begins after the turn delivers what waits. -/
theorem soon_of_busy (path : Path Ledger.empty c) (quiet : c.stack = [])
    (unbroken : c.history.about .breaks = []) {drain : Moment κ} {earlier : History κ} {limit : Nat}
    (next : History.NextDrain (turn :: past) c.history drain earlier limit) :
    ∃ last before, c.history.Drains drain earlier limit last before ∧
      ((∃ start early, History.Adds (drain :: earlier) before start early ∧
          start.what.Notifies number entry.2.target) ∨
        ∃ moment early, History.Adds (fan :: older) before moment early ∧
          moment.what.Withdraws entry.1) := by
  obtain ⟨adds, began, first⟩ := next
  have alone := outermost drain earlier limit adds.there began
  obtain ⟨last, before, ended, what, top, since⟩ := path.drain_done quiet adds.there began alone
  have what : last.what = .drained := by
    rcases what with drained | broken
    · exact drained
    · have there : last ∈ c.history.about .breaks :=
        List.mem_filter.mpr ⟨ended.there.subset List.mem_cons_self, by rw [broken]; rfl⟩
      rw [unbroken] at there
      cases there
  have inside : before <:+ c.history := (List.suffix_cons _ _).trans ended.there
  have none : ∀ other between bound, History.Adds (drain :: earlier) before other between →
      other.what ≠ .began (.drain bound) := by
    intro other between bound adds' what'
    have going := since between adds'.after ((List.suffix_cons _ _).trans adds'.there)
    rw [outermost other between bound (adds'.there.trans inside) what'] at going
    cases List.suffix_nil.mp going
  refine ⟨last, before, ⟨ended, what, top, none⟩, ?_⟩
  obtain ⟨a, b, path', step, rest, adds'⟩ := path.added ended.there
  obtain ⟨rfl, bound, below, top', empty⟩ := step.completes adds' what
  obtain ⟨same, -⟩ := List.cons.inj (top'.symm.trans top)
  cases same
  have within : turn :: past <:+ a.history :=
    adds.after.trans ((List.suffix_cons _ _).trans ended.after)
  -- When the drain is through nothing waits below its limit, so the notice was delivered or withdrawn,
  -- and it was not delivered by an earlier drain because there was none.
  rcases awaits_outermost (kept.mono inside) (outermost.mono inside) within reached busy after fanned
    listed path' with ⟨task, waits, place, -⟩ | ⟨start, early, begun, notified⟩ | withdrawn
  · have below := (TaskQueue.takeBelow_eq_none (path'.ordered Ledger.empty_ordered)).mp empty task waits
    obtain ⟨b, d, first', step', -, adds''⟩ := path'.added ended.after
    obtain ⟨rfl, -, -, rfl⟩ := step'.drains adds'' began
    exact absurd (seq_lt_of_turn first' adds.after reached busy) (Nat.not_lt_of_le (place ▸ below))
  · refine .inl ⟨start, early, ⟨begun.there, ?_⟩, notified⟩
    obtain ⟨other, between, bound', after', what', top''⟩ := later_of_busy (outermost.mono inside)
      within reached busy after fanned listed path' begun.there notified
    rcases History.suffix_total ended.after
      (after'.there.trans ((List.suffix_cons _ _).trans begun.there)) with old | new
    · exact old.trans after'.there
    · rcases List.suffix_cons_iff.mp new with same | new
      · exact same ▸ after'.there
      · exact absurd what' (first other between bound' ⟨new, after'.after⟩)
  · exact .inr withdrawn

end

/-- What is known of the turn of an instance when nothing is going on. -/
theorem isServed (path : Path Ledger.empty c) (quiet : c.stack = [])
    (unbroken : c.history.about .breaks = []) (kept : c.history.NoneAbandoned)
    (outermost : c.history.DrainsOutermost) (there : turn :: past <:+ c.history)
    (reached : turn.what = .reached number entry.2.target) (after : fan :: older <:+ past)
    (fanned : fan.what = .fannedOut number notice)
    (listed : entry ∈ fan.context.registry.entries) :
    c.history.IsServed (fan :: older) number entry.1 entry.2.target turn past := by
  obtain ⟨a, b, first, step, rest, adds⟩ := path.added there
  obtain ⟨rfl, now, notice', entry', -, -, came⟩ := step.reaches adds reached
  have inside : a.history <:+ c.history := step.history_grows.trans (Path.history_grows rest)
  refine ⟨there, reached, after, fun alive idle => ?_, fun busy start before begun notified => ?_,
    fun busy drain earlier limit next => ?_, fun gone => ?_,
    fun moment earlier record adds what own start before begun notified => ?_,
    fun busy moment earlier adds withdraws start before begun notified => ?_⟩
  · rcases came with ⟨found, ready, start, history, notified⟩ | ⟨busy, -⟩ | gone
    · exact ⟨start, history ▸ Path.history_grows rest, notified⟩
    · rw [now, busy] at idle
      cases idle
    · rw [now, gone] at alive
      cases alive
  · exact later_of_busy outermost there reached busy after fanned listed path begun notified
  · exact soon_of_busy kept outermost reached busy after fanned listed path quiet unbroken next
  · rcases Path.owned_since first (kept.mono inside) after fanned listed with
      ⟨found, there, owned⟩ | cleaned
    · rw [now] at gone
      cases gone.symm.trans
        ((Context.isAlive_of_found there).trans (Instance.isAlive_of_owned owned))
    · exact cleaned
  · rcases own with owns | ⟨aimed, same, owns⟩
    · exact silent_of_cleaned path adds.there what owns begun notified
    · exact silent_of_handle path kept aimed fanned listed adds what same owns begun notified
  · exact silent_of_withdrawn there reached busy after fanned listed path adds.after adds.there
      withdraws begun notified

end Path

/-! ## What a dispatch does -/

namespace History

/-- What a dispatch does that fanned out to those who were registered. -/
structure Delivers (history : History κ) (number : Nat) (notice : Notice) (fan : Moment κ)
    (older : History κ) : Prop where
  /-- Everybody who was listed has a turn. -/
  served : ∀ entry ∈ fan.context.registry.entries, ∃ turn past,
    history.IsServed (fan :: older) number entry.1 entry.2.target turn past
  /-- Nobody has two turns. -/
  turns : ∀ target one past other past', one :: past <:+ history → other :: past' <:+ history →
    one.what = .reached number target → other.what = .reached number target →
    one :: past = other :: past'
  /-- Nobody is called twice. -/
  once : ∀ target one past other past', one :: past <:+ history → other :: past' <:+ history →
    one.what.Notifies number target → other.what.Notifies number target →
    one :: past = other :: past'
  /-- Nobody else is called. -/
  listed : ∀ start ∈ history, ∀ target, start.what.Notifies number target →
    ∃ entry ∈ fan.context.registry.entries, entry.2.target = target
  /-- Whoever is called is told what was sent. -/
  told : ∀ start ∈ history, ∀ target code sent,
    start.what = .began (.call (.notify target code number sent)) → sent = notice
  /-- The outcome counts those who were alive at their turns. -/
  counted : ∀ last past outcome, last :: past <:+ history → last.what = .settled number outcome →
    History.turns number past = fan.context.registry.entries.map (fun entry => entry.2.target) ∧
      outcome.delivered + outcome.deferred = History.aliveTurns number past

end History

/-! ## Nobody is entered twice -/

namespace History

variable {history : History κ} {moment : Moment κ} {number : Nat}

theorem outcome?_ne_none {outcome : DispatchOutcome} (there : moment ∈ history)
    (what : moment.what = .settled number outcome) : history.outcome? number ≠ none := by
  intro none
  have kept := mem_about.mpr ⟨there, show moment.what.strand? = some (.dispatch number) by rw [what]; rfl⟩
  simpa [what] using List.findSome?_eq_none_iff.mp none moment kept

theorem exists_of_outcome? {outcome : DispatchOutcome}
    (told : history.outcome? number = some outcome) :
    ∃ moment past, moment :: past <:+ history ∧ moment.what = .settled number outcome := by
  obtain ⟨moment, kept, tells⟩ := List.exists_of_findSome?_eq_some told
  obtain ⟨there, strand⟩ := mem_about.mp kept
  obtain ⟨past, suffix⟩ := exists_suffix_of_mem there
  split at tells
  · next other outcome' what =>
    rw [what] at strand
    cases tells
    cases strand
    exact ⟨moment, past, suffix, what⟩
  · cases tells

end History

namespace Path

variable {c : Ledger κ} {number : Nat} {fan : Moment κ} {older : History κ} {notice : Notice}

/-- A callback is told what its dispatch sent. -/
theorem sends_of_start (path : Path Ledger.empty c) {start : Moment κ} (there : start ∈ c.history)
    {target : InstanceId} {code : κ}
    (what : start.what = .began (.call (.notify target code number notice))) :
    c.history.Sends number notice := by
  obtain ⟨past, there⟩ := History.exists_suffix_of_mem there
  obtain ⟨a, b, first, step, rest, adds⟩ := path.added there
  have grown : a.history <:+ c.history := step.history_grows.trans (Path.history_grows rest)
  obtain ⟨-, direct | late⟩ := step.begins_notify adds what
  · obtain ⟨entry, turn, -⟩ := direct
    obtain ⟨done, others, listing, -⟩ := turn.listed
    obtain ⟨fan, older, suffix, fanned, -⟩ := History.exists_of_fanOut? listing
    exact ⟨fan, older, suffix.trans grown, fanned⟩
  · obtain ⟨-, limit, below, task, -, -, tasks, -, handle, event, delivery⟩ := late
    obtain ⟨-, sends, -⟩ := Path.addressed first task (tasks ▸ List.mem_cons_self) _ _ _ _ _ delivery
    exact sends.mono grown

/-- When a dispatch that fanned out comes to its end, everybody who was listed has had a turn. -/
theorem turns_of_settled (path : Path Ledger.empty c) (there : fan :: older <:+ c.history)
    (fanned : fan.what = .fannedOut number notice) {last : Moment κ} {past : History κ}
    {outcome : DispatchOutcome} (settled : last :: past <:+ c.history)
    (what : last.what = .settled number outcome) :
    past.turns number = fan.context.registry.entries.map (fun entry => entry.2.target) ∧
      outcome.delivered + outcome.deferred = past.aliveTurns number := by
  have inside : fan :: older <:+ past := by
    rcases History.suffix_total there settled with old | new
    · refine History.earlier_of_ne old fun same => ?_
      rw [same, what] at fanned
      cases fanned
    · exfalso
      have new := History.earlier_of_ne new fun same => by
        rw [← same, what] at fanned
        cases fanned
      obtain ⟨a, b, -, step, -, adds⟩ := path.added there
      obtain ⟨rfl, -, -, -, -, unsettled, -⟩ := step.fansOut adds fanned
      exact History.outcome?_ne_none (new.subset List.mem_cons_self) what unsettled
  obtain ⟨a, b, first, step, -, adds⟩ := path.added settled
  obtain ⟨rfl, -, may, -⟩ := step.settles adds what
  refine ⟨?_, may.counted⟩
  obtain ⟨⟨notice', entries⟩, listing⟩ := Option.ne_none_iff_exists'.mp
    (History.fanOut?_ne_none (inside.subset List.mem_cons_self) fanned)
  obtain ⟨fan', older', suffix, fanned', rfl⟩ := History.exists_of_fanOut? listing
  obtain ⟨rfl, -⟩ := List.cons.inj (Path.fan_unique first inside fanned suffix fanned')
  exact may.told notice' _ listing

end Path

namespace Ledger.IsReached

variable {c : Ledger κ} {number : Nat} {fan : Moment κ} {older : History κ} {notice : Notice}

/-- In a calm life every dispatch has come to its end. -/
theorem exists_settled (h : c.IsReached true) (begun : number < c.context.dispatches) :
    ∃ last past outcome, last :: past <:+ c.history ∧ last.what = .settled number outcome := by
  obtain ⟨outcome, told⟩ := Option.ne_none_iff_exists'.mp (h.settled rfl number begun)
  obtain ⟨last, past, there, what⟩ := History.exists_of_outcome? told
  exact ⟨last, past, outcome, there, what⟩

/-- In a calm life everybody who was listed has a turn. -/
theorem exists_turn (h : c.IsReached true) (there : fan :: older <:+ c.history)
    (fanned : fan.what = .fannedOut number notice) {entry : ExtensionHandle × Registration}
    (listed : entry ∈ fan.context.registry.entries) :
    ∃ turn before, turn :: before <:+ c.history ∧ turn.what = .reached number entry.2.target ∧
      fan :: older <:+ before := by
  obtain ⟨last, past, outcome, settled, what⟩ : ∃ last past outcome,
      last :: past <:+ c.history ∧ last.what = .settled number outcome := by
    obtain ⟨a, b, -, step, rest, adds⟩ := h.path.added there
    obtain ⟨-, -, -, -, -, -, begun⟩ := step.fansOut adds fanned
    exact h.exists_settled
      (Nat.lt_of_lt_of_le begun (Nat.le_trans step.dispatches_grow (Path.dispatches_grow rest)))
  obtain ⟨told, -⟩ := Path.turns_of_settled h.path there fanned settled what
  have turned : entry.2.target ∈ History.turns number past := by
    rw [told]
    exact List.mem_map_of_mem listed
  obtain ⟨turn, among, reached⟩ := History.mem_turns.mp turned
  obtain ⟨newer, before, split⟩ := List.append_of_mem among
  have earlier : turn :: before <:+ past := ⟨newer, split.symm⟩
  have suffix := earlier.trans ((List.suffix_cons _ _).trans settled)
  obtain ⟨handle, fan', older', notice', other, after, fanned', -⟩ :=
    Path.turn_listed h.path suffix reached
  obtain ⟨rfl, rfl⟩ := List.cons.inj (Path.fan_unique h.path there fanned
    (after.trans ((List.suffix_cons _ _).trans suffix)) fanned')
  exact ⟨turn, before, suffix, reached, after⟩

/-- Whoever is called was listed. -/
theorem listed_of_notified {calm : Bool} (h : c.IsReached calm) (there : fan :: older <:+ c.history)
    (fanned : fan.what = .fannedOut number notice) {start : Moment κ} {before : History κ}
    {target : InstanceId} (begun : start :: before <:+ c.history)
    (notified : start.what.Notifies number target) :
    ∃ entry ∈ fan.context.registry.entries, entry.2.target = target := by
  obtain ⟨turn, past, within, reached, -⟩ := Path.turn_of_start h.path begun notified
  have suffix := (within.trans (List.suffix_cons _ _)).trans begun
  obtain ⟨handle, fan', older', notice', entry, after, fanned', listed, -, same⟩ :=
    Path.turn_listed h.path suffix reached
  obtain ⟨rfl, -⟩ := List.cons.inj (Path.fan_unique h.path there fanned
    (after.trans ((List.suffix_cons _ _).trans suffix)) fanned')
  exact ⟨entry, listed, same⟩

/-- What a dispatch sends is delivered. -/
theorem delivers (h : c.IsReached true) (kept : c.history.NoneAbandoned)
    (outermost : c.history.DrainsOutermost) (there : fan :: older <:+ c.history)
    (fanned : fan.what = .fannedOut number notice) : c.history.Delivers number notice fan older where
  served entry listed := by
    obtain ⟨turn, before, suffix, reached, after⟩ := h.exists_turn there fanned listed
    exact ⟨turn, before, h.path.isServed h.quiet (h.unbroken rfl) kept outermost suffix reached after
      fanned listed⟩
  turns _ _ _ _ _ one_there other_there := Path.turn_unique h.path one_there other_there
  once _ _ _ _ _ one_there other_there := Path.start_unique h.path one_there other_there
  listed start among target notified := by
    obtain ⟨newer, before, split⟩ := List.append_of_mem among
    exact h.listed_of_notified there fanned (⟨newer, split.symm⟩ : start :: before <:+ _) notified
  told _ among _ _ _ what := by
    obtain ⟨fan', older', there', fanned'⟩ := Path.sends_of_start h.path among what
    obtain ⟨rfl, -⟩ := List.cons.inj (Path.fan_unique h.path there fanned there' fanned')
    cases fanned.symm.trans fanned'
    rfl
  counted _ _ _ settled what := Path.turns_of_settled h.path there fanned settled what

/-- A dispatch of an event that is for every sub-extension fans out. -/
theorem announces (h : c.IsReached true) {first : Moment κ} (there : first ∈ c.history)
    {event : HostEvent} (what : first.what = .dispatched number event)
    (broadcast : event.isBroadcast = true) :
    ∃ fan ∈ c.history, ∃ notice, fan.what = .fannedOut number notice := by
  obtain ⟨last, past, outcome, settled, ended⟩ := h.exists_settled (Path.number_lt h.path there what)
  obtain ⟨a, b, -, step, rest, adds⟩ := h.path.added settled
  have inside : a.history <:+ c.history := step.history_grows.trans (Path.history_grows rest)
  obtain ⟨rfl, -, -, first', older', event', began, what', concludes⟩ := step.settles adds ended
  obtain ⟨newer, older, split⟩ := List.append_of_mem there
  obtain ⟨rfl, -⟩ := List.cons.inj (Path.dispatched_unique h.path
    (⟨newer, split.symm⟩ : first :: older <:+ c.history) (began.trans inside) what what')
  cases what.symm.trans what'
  obtain ⟨⟨notice, entries⟩, listing⟩ :=
    Option.ne_none_iff_exists'.mp (concludes.announced broadcast)
  obtain ⟨fan, before, suffix, fanned, -⟩ := History.exists_of_fanOut? listing
  exact ⟨fan, (suffix.trans inside).subset List.mem_cons_self, notice, fanned⟩

end Ledger.IsReached

end ExtensionProxy
