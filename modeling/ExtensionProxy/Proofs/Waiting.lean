import ExtensionProxy.Proofs.Runs
import ExtensionProxy.Proofs.Turns

/-!
# What waits

A notice that an instance could not take, because one of its callbacks was running, waits in the queue
for the owner of the handle under which the instance was listed.  It waits until a drain delivers it,
until it is withdrawn, or until a drain takes it while nobody is there to take it.  In the last case it
is lost: the instance is gone, or the drain was begun by a callback of the very instance.
-/

set_option autoImplicit false

namespace ExtensionProxy

variable {κ μ : Type}

/-! ## The listing of a dispatch -/

namespace History

variable {history : History κ} {moment : Moment κ} {number : Nat}

theorem fanOut?_ne_none {notice : Notice} (there : moment ∈ history)
    (what : moment.what = .fannedOut number notice) : history.fanOut? number ≠ none := by
  intro none
  have kept := mem_about.mpr ⟨there, show moment.what.strand? = some (.dispatch number) by rw [what]; rfl⟩
  simpa [what] using List.findSome?_eq_none_iff.mp none moment kept

/-- A dispatch sent a notice when it fanned out. -/
def Sends (history : History κ) (number : Nat) (notice : Notice) : Prop :=
  ∃ fan older, fan :: older <:+ history ∧ fan.what = .fannedOut number notice

theorem Sends.mono {older newer : History κ} {notice : Notice} (h : older.Sends number notice)
    (grown : older <:+ newer) : newer.Sends number notice := by
  obtain ⟨fan, before, suffix, fanned⟩ := h
  exact ⟨fan, before, suffix.trans grown, fanned⟩

/-- A dispatch listed an instance under a handle when it fanned out. -/
def Lists (history : History κ) (number : Nat) (handle : ExtensionHandle) (target : InstanceId) :
    Prop :=
  ∃ fan older notice entry, fan :: older <:+ history ∧ fan.what = .fannedOut number notice ∧
    entry ∈ fan.context.registry.entries ∧ entry.1 = handle ∧ entry.2.target = target

theorem Lists.mono {older newer : History κ} {handle : ExtensionHandle} {target : InstanceId}
    (h : older.Lists number handle target) (grown : older <:+ newer) :
    newer.Lists number handle target := by
  obtain ⟨fan, before, notice, entry, suffix, rest⟩ := h
  exact ⟨fan, before, notice, entry, suffix.trans grown, rest⟩

end History

namespace Path

variable {c : Ledger κ} {number : Nat} {notice notice' : Notice} {fan : Moment κ}
  {older : History κ}

/-- A dispatch fans out once. -/
theorem fan_unique (path : Path Ledger.empty c) (there : fan :: older <:+ c.history)
    (what : fan.what = .fannedOut number notice) {other : Moment κ} {past : History κ}
    (there' : other :: past <:+ c.history) (what' : other.what = .fannedOut number notice') :
    fan :: older = other :: past := by
  refine History.unique_of (fun what => ∃ told, what = .fannedOut number told) ?_ there there'
    ⟨notice, what⟩ ⟨notice', what'⟩
  rintro one other past past' there ⟨told, what⟩ ⟨told', what'⟩ before
  obtain ⟨a, b, -, step, -, adds⟩ := path.added there
  obtain ⟨rfl, -, -, -, fresh, -⟩ := step.fansOut adds what
  exact History.fanOut?_ne_none (before.subset List.mem_cons_self) what' fresh

/-- What a dispatch gets to was listed when it fanned out. -/
theorem turn_listed (path : Path Ledger.empty c) {turn : Moment κ} {past : History κ}
    {target : InstanceId} (there : turn :: past <:+ c.history)
    (what : turn.what = .reached number target) : ∃ handle, past.Lists number handle target := by
  obtain ⟨a, b, first, step, -, adds⟩ := path.added there
  obtain ⟨rfl, -, notice, entry, ⟨⟨done, rest, listed, -⟩, -⟩, same, -⟩ := step.reaches adds what
  obtain ⟨fan, older, suffix, fanned, entries⟩ := History.exists_of_fanOut? listed
  exact ⟨entry.1, fan, older, notice, entry, suffix, fanned,
    entries ▸ List.mem_append_right _ List.mem_cons_self, rfl, same⟩

/-- The ledger with which a dispatch fanned out. -/
theorem at_fan (path : Path Ledger.empty c) (there : fan :: older <:+ c.history)
    (what : fan.what = .fannedOut number notice) :
    ∃ a, Path Ledger.empty a ∧ Path a c ∧ a.history = fan :: older ∧ a.context = fan.context := by
  obtain ⟨a, b, first, step, rest, adds⟩ := path.added there
  obtain ⟨-, context, same, history, -⟩ := step.fansOut adds what
  refine ⟨b, first.tail step, rest, history, ?_⟩
  rw [same, context]
  rfl

/-- An instance is listed under one handle. -/
theorem entry_unique (path : Path Ledger.empty c) (there : fan :: older <:+ c.history)
    (what : fan.what = .fannedOut number notice) {one other : ExtensionHandle × Registration}
    (listed : one ∈ fan.context.registry.entries) (listed' : other ∈ fan.context.registry.entries)
    (same : one.2.target = other.2.target) : one = other := by
  obtain ⟨a, first, -, -, context⟩ := Path.at_fan path there what
  have nodup := (Path.distinct first).listed (Path.enrols first)
  rw [context] at nodup
  exact List.inj_on_of_nodup_map nodup listed listed' same

end Path

/-! ## What waits -/

/-- What waits for an owner is withdrawn: a record with an instance is cleaned up, or somebody cancels
the tasks. -/
def Happening.Withdraws (owner : ExtensionHandle) : Happening κ → Prop
  | .cleaning record => record.handle = owner ∧ record.target ≠ none
  | .cancelled other => other = owner
  | _ => False

/-- How a notice for an instance that was listed under a handle stops waiting. -/
inductive Happening.StopsWaiting (number : Nat) (handle : ExtensionHandle) (target : InstanceId)
    (what : Happening κ) : Prop where
  /-- Its callback begins. -/
  | delivered (notifies : what.Notifies number target)
  /-- What waits for the handle is withdrawn. -/
  | withdrawn (withdraws : what.Withdraws handle)
  /-- Nobody can take it. -/
  | lost (same : what = .lost number target)

/-- The notice of a dispatch waits for an instance, for the owner of a handle. -/
def Ledger.Awaits (c : Ledger κ) (number : Nat) (handle : ExtensionHandle) (target : InstanceId)
    (seq : Nat) : Prop :=
  ∃ task ∈ c.context.tasks.tasks, task.seq = seq ∧ task.owner = some handle ∧
    ∃ notice event, task.code = .delivery target handle number notice event

/-- What waits goes on waiting, or it is delivered, withdrawn or lost. -/
theorem Step.awaits {c d : Ledger κ} {number seq : Nat} {handle : ExtensionHandle}
    {target : InstanceId} (waits : c.Awaits number handle target seq) (step : Step c d) :
    d.Awaits number handle target seq ∨
      ∃ moment past, History.Adds c.history d.history moment past ∧
        moment.what.StopsWaiting number handle target := by
  obtain ⟨task, there, place, owner, notice, event, code⟩ := waits
  have stays : task ∈ d.context.tasks.tasks → d.Awaits number handle target seq :=
    fun there => ⟨task, there, place, owner, notice, event, code⟩
  have keeps : ∀ {other : ExtensionHandle}, other ≠ handle →
      task ∈ (c.context.tasks.cancelOwner other).tasks := by
    intro other different
    refine List.mem_filter.mpr ⟨there, ?_⟩
    rw [owner, bne_iff_ne]
    exact fun same => different (Option.some.inj same).symm
  cases step with
  | schedule | defer => exact .inl (stays (List.mem_append_left _ there))
  | cancel other =>
    by_cases same : other = handle
    · exact .inr ⟨⟨.cancelled other, c.context, c.held⟩, c.history, by simp, .withdrawn same⟩
    · exact .inl (stays (keeps same))
  | renounce other =>
    by_cases same : other = handle
    · exact .inr ⟨⟨.cancelled other, c.context, c.held⟩, c.history, by simp, .withdrawn same⟩
    · exact .inl (stays (keeps same))
  | clean id record gone found owns =>
    by_cases same : record.handle = handle
    · exact .inr ⟨⟨.cleaning record, c.context, c.held⟩, c.history, by simp,
        .withdrawn ⟨same, by simp [owns]⟩⟩
    · exact .inl (stays (keeps same))
  | perform limit rest first tasks plain top taken foreign =>
    rw [(TaskQueue.takeBelow_eq_some taken).1] at there
    rcases List.mem_cons.mp there with rfl | there
    · cases code.symm.trans foreign
    · exact .inl (stays there)
  | redeliver limit rest first tasks other owner' its notice' event' found top taken delivery ready =>
    rw [(TaskQueue.takeBelow_eq_some taken).1] at there
    rcases List.mem_cons.mp there with rfl | there
    · cases code.symm.trans delivery
      exact .inr ⟨_, c.history, History.adds_single.mpr ⟨rfl, rfl⟩, .delivered ⟨rfl, rfl⟩⟩
    · exact .inl (stays there)
  | lose limit rest first tasks other owner' its notice' event' top taken delivery unready =>
    rw [(TaskQueue.takeBelow_eq_some taken).1] at there
    rcases List.mem_cons.mp there with rfl | there
    · cases code.symm.trans delivery
      exact .inr ⟨_, c.history, History.adds_single.mpr ⟨rfl, rfl⟩, .lost rfl⟩
    · exact .inl (stays there)
  | _ => exact .inl (stays there)


namespace Path

variable {c : Ledger κ} {number : Nat}

/-- What an instance could not take at its turn waits from then on until it stops waiting. -/
theorem awaits (path : Path Ledger.empty c) {turn fan : Moment κ} {past older : History κ}
    {notice : Notice} {entry : ExtensionHandle × Registration} (there : turn :: past <:+ c.history)
    (reached : turn.what = .reached number entry.2.target)
    (busy : turn.context.isRunning entry.2.target = true) (before : fan :: older <:+ past)
    (fanned : fan.what = .fannedOut number notice)
    (listed : entry ∈ fan.context.registry.entries) :
    c.Awaits number entry.1 entry.2.target turn.context.tasks.nextSeq ∨
      ∃ moment past', History.Adds (turn :: past) c.history moment past' ∧
        moment.what.StopsWaiting number entry.1 entry.2.target := by
  induction path with
  | refl => cases List.suffix_nil.mp there
  | @tail b d path step ih =>
    have grown := step.history_grows
    rcases History.old_or_adds grown there with old | adds
    · rcases ih old with waits | ⟨moment, past', adds, stops⟩
      · rcases step.awaits waits with waits | ⟨moment, past', adds, stops⟩
        · exact .inl waits
        · exact .inr ⟨moment, past', adds.since old, stops⟩
      · exact .inr ⟨moment, past', adds.grow grown, stops⟩
    · obtain ⟨rfl, now, notice', entry', isTurn, same, came⟩ := step.reaches adds reached
      rcases came with ⟨found, ready, -⟩ | ⟨-, history, event, tasks⟩ | gone
      · rw [now] at busy
        cases ready.isRunning.symm.trans busy
      · obtain ⟨done, rest, listing, -⟩ := isTurn.listed
        obtain ⟨fan', older', suffix, fanned', entries⟩ := History.exists_of_fanOut? listing
        obtain ⟨rfl, rfl⟩ := List.cons.inj (Path.fan_unique path before fanned suffix fanned')
        have mine : entry' ∈ fan.context.registry.entries :=
          entries ▸ List.mem_append_right _ List.mem_cons_self
        obtain rfl := Path.entry_unique path before fanned mine listed same
        refine .inl ⟨⟨b.context.tasks.nextSeq, some entry'.1,
          .delivery entry'.2.target entry'.1 number notice' event⟩, ?_, by rw [now], rfl, notice',
          event, rfl⟩
        rw [tasks]
        exact List.mem_append_right _ List.mem_cons_self
      · rw [now] at busy
        cases gone.symm.trans (Context.isAlive_of_isRunning busy)

end Path

/-! ## What was lost -/

/-- A notice is lost by a drain that takes it while nobody can take it. -/
theorem Step.loses {c d : Ledger κ} {moment : Moment κ} {past : History κ} {number : Nat}
    {target : InstanceId} (step : Step c d)
    (adds : History.Adds c.history d.history moment past) (what : moment.what = .lost number target) :
    past = c.history ∧ moment.context.instances = c.context.instances ∧
      (∀ found, ¬c.IsReady target found) ∧ ∃ limit rest task, c.stack = .drain limit :: rest ∧
        task.seq < limit ∧ c.context.tasks.tasks = task :: d.context.tasks.tasks ∧
        d.context.tasks.nextSeq = c.context.tasks.nextSeq ∧
        ∃ handle notice event, task.code = .delivery target handle number notice event := by
  cases step with
  | lose limit rest task tasks target' handle number' notice event top taken delivery unready =>
    obtain ⟨rfl, rfl⟩ := History.adds_single.mp adds
    cases what
    obtain ⟨all, early, next⟩ := TaskQueue.takeBelow_eq_some taken
    exact ⟨rfl, rfl, unready, limit, rest, task, top, early, all, next, handle, notice, event, delivery⟩
  | _ => grind

/-- Notices wait as they were sent, for the owners under whose handles the instances were listed. -/
def Ledger.Addressed (c : Ledger κ) : Prop :=
  ∀ task ∈ c.context.tasks.tasks, ∀ target handle number notice event,
    task.code = .delivery target handle number notice event → task.owner = some handle ∧
      c.history.Sends number notice ∧ c.history.Lists number handle target

theorem Step.addressed {c d : Ledger κ} (h : c.Addressed) (step : Step c d) : d.Addressed := by
  intro task there target handle number notice event code
  rcases step.tasks_mem there with old | ⟨plain, foreign⟩ |
    ⟨number', notice', entry, event', turn, busy, rfl, history⟩
  · obtain ⟨owner, sends, lists⟩ := h task old target handle number notice event code
    exact ⟨owner, sends.mono step.history_grows, lists.mono step.history_grows⟩
  · cases foreign.symm.trans code
  · cases code
    obtain ⟨done, rest, listing, -⟩ := turn.listed
    obtain ⟨fan, older, suffix, fanned, entries⟩ := History.exists_of_fanOut? listing
    have there := suffix.trans step.history_grows
    exact ⟨rfl, ⟨fan, older, there, fanned⟩, fan, older, notice, entry, there, fanned,
      entries ▸ List.mem_append_right _ List.mem_cons_self, rfl, rfl⟩

/-- A number was given out, and no task of the owner of a handle waits under it. -/
def Ledger.NoneAwaits (c : Ledger κ) (handle : ExtensionHandle) (seq : Nat) : Prop :=
  seq < c.context.tasks.nextSeq ∧ ∀ task ∈ c.context.tasks.tasks, task.seq = seq →
    task.owner ≠ some handle

theorem Step.noneAwaits {c d : Ledger κ} {handle : ExtensionHandle} {seq : Nat}
    (h : c.NoneAwaits handle seq) (step : Step c d) : d.NoneAwaits handle seq := by
  obtain ⟨given, none⟩ := h
  rcases step.tasks_cases with ⟨owner, code, tasks⟩ | ⟨sub, same⟩
  · rw [Ledger.NoneAwaits, tasks]
    refine ⟨Nat.lt_succ_of_lt given, fun task there place => ?_⟩
    rcases List.mem_append.mp there with old | new
    · exact none task old place
    · rw [List.mem_singleton.mp new] at place
      exact absurd place (Nat.ne_of_gt given)
  · exact ⟨same ▸ given, fun task there => none task (sub.subset there)⟩

namespace Path

variable {a c : Ledger κ} {number : Nat} {target : InstanceId}

theorem addressed (path : Path Ledger.empty c) : c.Addressed := by
  induction path with
  | refl => exact fun task there => (List.not_mem_nil there).elim
  | tail _ step ih => exact step.addressed ih

theorem noneAwaits (path : Path a c) {handle : ExtensionHandle} {seq : Nat}
    (h : a.NoneAwaits handle seq) : c.NoneAwaits handle seq := by
  induction path with
  | refl => exact h
  | tail _ step ih => exact step.noneAwaits ih

/-- The task with which a drain deals is the one that was deferred at the turn. -/
theorem task_of_turn (path : Path Ledger.empty c) {turn fan : Moment κ} {past older : History κ}
    {notice : Notice} {entry : ExtensionHandle × Registration} (there : turn :: past <:+ c.history)
    (reached : turn.what = .reached number entry.2.target) (before : fan :: older <:+ past)
    (fanned : fan.what = .fannedOut number notice)
    (listed : entry ∈ fan.context.registry.entries) {task : Task (Deferred κ)}
    (waits : task ∈ c.context.tasks.tasks) {handle : ExtensionHandle} {notice' : Notice}
    {event : String} (code : task.code = .delivery entry.2.target handle number notice' event) :
    task.seq = turn.context.tasks.nextSeq ∧ task.owner = some entry.1 := by
  obtain ⟨mine, earlier, suffix, reached', -, seq⟩ := Path.waiting path task waits _ _ _ _ _ code
  obtain ⟨rfl, rfl⟩ := List.cons.inj (Path.turn_unique path there suffix reached reached')
  obtain ⟨owner, -, fan', older', _, entry', suffix', fanned', listed', rfl, same⟩ :=
    Path.addressed path task waits _ _ _ _ _ code
  have within := (before.trans (List.suffix_cons _ _)).trans there
  obtain ⟨rfl, rfl⟩ := List.cons.inj (Path.fan_unique path within fanned suffix' fanned')
  obtain rfl := Path.entry_unique path within fanned listed' listed same
  exact ⟨seq.symm, owner⟩

end Path

/-! ## How it stopped waiting -/

namespace Step

variable {c d : Ledger κ} {moment : Moment κ} {past : History κ} {handle : ExtensionHandle}

/-- What is withdrawn waits no more. -/
theorem withdraws (step : Step c d) (adds : History.Adds c.history d.history moment past)
    (what : moment.what.Withdraws handle) :
    ∀ task ∈ d.context.tasks.tasks, task.owner ≠ some handle := by
  have gone : ∀ {other}, other = handle →
      ∀ task ∈ (c.context.tasks.cancelOwner other).tasks, task.owner ≠ some handle := by
    rintro other rfl task there
    simpa using (List.mem_filter.mp there).2
  cases happened : moment.what with
  | cancelled other =>
    rw [happened] at what
    cases step with
    | cancel owner =>
      obtain ⟨rfl, -⟩ := History.adds_single.mp adds
      cases happened
      exact gone what
    | renounce owner =>
      rcases History.adds_cons.mp adds with ⟨-, rfl, -⟩ | adds
      · cases happened
      · obtain ⟨rfl, -⟩ := History.adds_single.mp adds
        cases happened
        exact gone what
    | _ => grind
  | cleaning record =>
    rw [happened] at what
    cases step with
    | clean id record' target found owns =>
      rcases History.adds_farewell.mp adds with ⟨-, -, dying, -, -, rfl⟩ | adds
      · cases happened
      rcases History.adds_cons.mp adds with ⟨-, rfl, -⟩ | adds
      · cases happened
      obtain ⟨rfl, -⟩ := History.adds_single.mp adds
      cases happened
      exact gone what.1
    | cleanBare id record' found alone =>
      obtain rfl : record' = record := by grind
      exact absurd alone what.2
    | _ => grind
  | _ =>
    rw [happened] at what
    exact what.elim

end Step

/-- Whatever a step adds beside the callback for a notice and the turn for it comes after them. -/
theorem Step.begins_before {c d : Ledger κ} {gone start : Moment κ} {before early : History κ}
    {number : Nat} {target : InstanceId} (step : Step c d)
    (adds : History.Adds c.history d.history gone before)
    (begun : History.Adds c.history d.history start early)
    (notified : start.what.Notifies number target)
    (reached : ∀ other its, gone.what ≠ .reached other its)
    (apart : ¬gone.what.Notifies number target) : start :: early <:+ before := by
  have short : ∀ {past : History κ}, c.history <:+ past → ¬gone :: past <:+ c.history :=
    fun after inside => Nat.not_succ_le_self _ (inside.trans after).length_le
  rcases History.suffix_total begun.there adds.there with old | new
  · exact History.earlier_of_ne old fun same => apart (same ▸ notified)
  have new := History.earlier_of_ne new fun same => apart (same ▸ notified)
  rcases (step.notifies begun notified).2 with ⟨-, -, -, -, rfl⟩ | ⟨rfl, -⟩
  · exact absurd (History.earlier_of_ne new fun same => reached _ _ (congrArg Moment.what same))
      (short adds.after)
  · exact absurd new (short adds.after)

/-- Nothing waits under the number of a task that was taken. -/
theorem Ledger.noneAwaits_of_taken {c d : Ledger κ} (ordered : c.context.tasks.IsOrdered)
    {task : Task (Deferred κ)} (tasks : c.context.tasks.tasks = task :: d.context.tasks.tasks)
    (next : d.context.tasks.nextSeq = c.context.tasks.nextSeq) (handle : ExtensionHandle) :
    d.NoneAwaits handle task.seq := by
  refine ⟨next ▸ ordered.made task (tasks ▸ List.mem_cons_self), fun other there same => ?_⟩
  have sorted := ordered.sorted
  rw [tasks, List.pairwise_cons] at sorted
  exact absurd same (Nat.ne_of_gt (sorted.1 other there))

namespace Path

/-- The number under which a notice waits is given out at the turn. -/
theorem seq_lt_of_turn {c : Ledger κ} (path : Path Ledger.empty c) {turn : Moment κ}
    {past : History κ} {number : Nat} {target : InstanceId} (there : turn :: past <:+ c.history)
    (reached : turn.what = .reached number target)
    (busy : turn.context.isRunning target = true) :
    turn.context.tasks.nextSeq < c.context.tasks.nextSeq := by
  obtain ⟨a, b, -, step, rest, adds⟩ := path.added there
  obtain ⟨-, now, notice, entry, -, -, came⟩ := step.reaches adds reached
  rw [now] at busy
  rcases came with ⟨found, ready, -⟩ | ⟨-, -, event, tasks⟩ | gone
  · cases ready.isRunning.symm.trans busy
  · have grown := Path.nextSeq_grows rest
    rw [tasks] at grown
    rw [now]
    exact grown
  · cases gone.symm.trans (Context.isAlive_of_isRunning busy)

variable {a b c d : Ledger κ} {number : Nat} {turn fan gone start : Moment κ}
  {past older before early : History κ} {notice : Notice} {entry : ExtensionHandle × Registration}

section

variable (there : turn :: past <:+ c.history) (reached : turn.what = .reached number entry.2.target)
  (busy : turn.context.isRunning entry.2.target = true) (after : fan :: older <:+ past)
  (fanned : fan.what = .fannedOut number notice) (listed : entry ∈ fan.context.registry.entries)

include there reached busy after fanned listed

/-- The callback of an instance that was running at its turn begins when a drain takes what waits. -/
theorem takes_of_busy (first : Path Ledger.empty b) (step : Step b d) (last : Path d c)
    (adds : History.Adds b.history d.history start early)
    (notified : start.what.Notifies number entry.2.target) :
    early = b.history ∧ turn :: past <:+ early ∧ ∃ limit below task,
      b.stack = .drain limit :: below ∧ task.seq < limit ∧
      b.context.tasks.tasks = task :: d.context.tasks.tasks ∧
      d.context.tasks.nextSeq = b.context.tasks.nextSeq ∧
      task.seq = turn.context.tasks.nextSeq ∧ task.owner = some entry.1 := by
  have path := (first.tail step).trans last
  have inside : d.history <:+ c.history := Path.history_grows last
  obtain ⟨⟨found, ready⟩, direct | late⟩ := step.notifies adds notified
  · obtain ⟨notice', entry', -, -, rfl⟩ := direct
    obtain ⟨rfl, -⟩ := List.cons.inj (Path.turn_unique path there
      (((List.suffix_cons _ _).trans adds.there).trans inside) reached rfl)
    cases ready.isRunning.symm.trans busy
  · obtain ⟨rfl, limit, below, task, top, small, tasks, next, handle, notice', event, code⟩ := late
    have waits : task ∈ b.context.tasks.tasks := tasks ▸ List.mem_cons_self
    obtain ⟨mine, earlier, suffix, reached', -⟩ := Path.waiting first task waits _ _ _ _ _ code
    obtain ⟨rfl, rfl⟩ := List.cons.inj (Path.turn_unique path there
      (suffix.trans (step.history_grows.trans inside)) reached reached')
    exact ⟨rfl, suffix, limit, below, task, top, small, tasks, next,
      Path.task_of_turn first suffix reached after fanned listed waits code⟩

/-- Where nothing waits any more, no callback begins any more. -/
theorem silent_after (first : Path Ledger.empty a) (rest : Path a c)
    (none : a.NoneAwaits entry.1 turn.context.tasks.nextSeq) (begun : start :: early <:+ c.history)
    (notified : start.what.Notifies number entry.2.target) : start :: early <:+ a.history := by
  rcases rest.adds begun with old | ⟨b, d, between, step, last, adds⟩
  · exact old
  obtain ⟨-, -, limit, below, task, -, -, tasks, -, place, owner⟩ := takes_of_busy there reached busy
    after fanned listed (first.trans between) step last adds notified
  exact absurd owner ((Path.noneAwaits between none).2 task (tasks ▸ List.mem_cons_self) place)

/-- What was delivered waits no more. -/
theorem noneAwaits_of_start (path : Path Ledger.empty c) (begun : start :: early <:+ c.history)
    (notified : start.what.Notifies number entry.2.target) :
    c.NoneAwaits entry.1 turn.context.tasks.nextSeq := by
  obtain ⟨b, d, first, step, last, adds⟩ := path.added begun
  obtain ⟨-, -, limit, below, task, -, -, tasks, next, place, -⟩ := takes_of_busy there reached busy
    after fanned listed first step last adds notified
  have ordered := Path.ordered first Ledger.empty_ordered
  exact Path.noneAwaits last (place ▸ Ledger.noneAwaits_of_taken ordered tasks next entry.1)

/-- What was withdrawn after the turn is not delivered after that. -/
theorem silent_of_withdrawn (path : Path Ledger.empty c) (since : turn :: past <:+ before)
    (withdrawn : gone :: before <:+ c.history) (what : gone.what.Withdraws entry.1)
    (begun : start :: early <:+ c.history)
    (notified : start.what.Notifies number entry.2.target) : start :: early <:+ before := by
  obtain ⟨b, d, first, step, last, adds⟩ := path.added withdrawn
  have path' := first.tail step
  have within : turn :: past <:+ d.history := since.trans ((List.suffix_cons _ _).trans adds.there)
  have inside := silent_after there reached busy after fanned listed path' last
    ⟨seq_lt_of_turn path' within reached busy, fun task there _ => step.withdraws adds what task there⟩
    begun notified
  rcases History.old_or_adds step.history_grows inside with old | adds'
  · exact old.trans adds.after
  · refine step.begins_before adds adds' notified (fun _ _ same => ?_) fun again => ?_
    · rw [same] at what
      exact what
    · obtain ⟨code, notice, same⟩ := Happening.notifies_iff.mp again
      rw [same] at what
      exact what

/-- What was lost is never delivered. -/
theorem silent_of_lost (path : Path Ledger.empty c) (lost : gone :: before <:+ c.history)
    (what : gone.what = .lost number entry.2.target) (begun : start :: early <:+ c.history) :
    ¬start.what.Notifies number entry.2.target := by
  intro notified
  obtain ⟨b, d, first, step, last, adds⟩ := path.added lost
  obtain ⟨rfl, -, -, limit, below, task, top, small, tasks, next, handle, notice', event, code⟩ :=
    step.loses adds what
  have waits : task ∈ b.context.tasks.tasks := tasks ▸ List.mem_cons_self
  have inside : b.history <:+ c.history := step.history_grows.trans (Path.history_grows last)
  obtain ⟨mine, earlier, suffix, reached', -⟩ := Path.waiting first task waits _ _ _ _ _ code
  obtain ⟨rfl, rfl⟩ := List.cons.inj
    (Path.turn_unique path there (suffix.trans inside) reached reached')
  obtain ⟨place, owner⟩ := Path.task_of_turn first suffix reached after fanned listed waits code
  -- The drain took the task, so nothing waits under its number from then on, and before that nothing
  -- was delivered, or the task would not have waited.
  have none := Ledger.noneAwaits_of_taken (Path.ordered first Ledger.empty_ordered) tasks next entry.1
  have old := silent_after there reached busy after fanned listed (first.tail step) last
    (place ▸ none) begun notified
  rcases History.old_or_adds step.history_grows old with old | adds'
  · have none := noneAwaits_of_start suffix reached busy after fanned listed first old notified
    exact none.2 task waits place owner
  · obtain ⟨rfl, -⟩ :=
      takes_of_busy there reached busy after fanned listed first step last adds' notified
    have same : start :: b.history = gone :: b.history := by
      rcases History.suffix_total adds'.there adds.there with one | other
      · exact one.eq_of_length rfl
      · exact (other.eq_of_length rfl).symm
    rw [(List.cons.inj same).1, what] at notified
    exact notified

end

end Path

/-! ## What becomes of a notice -/

/-- What becomes of a notice that an instance could not take at its turn. -/
structure Ledger.Tends (c : Ledger κ) (number : Nat) (handle : ExtensionHandle)
    (target : InstanceId) (turn : Moment κ) (past : History κ) : Prop where
  /-- It waits, or it stopped waiting after the turn. -/
  fate : c.Awaits number handle target turn.context.tasks.nextSeq ∨
    ∃ moment before, History.Adds (turn :: past) c.history moment before ∧
      moment.what.StopsWaiting number handle target
  /-- A drain delivers it, below which none of the callbacks of the instance is running. -/
  delivered : ∀ start before, start :: before <:+ c.history → start.what.Notifies number target →
    ∃ limit rest, History.stack before = .drain limit :: rest ∧
      target ∉ rest.filterMap Activity.callback?
  /-- It is lost to a drain; the instance is alive then exactly if one of its callbacks is running
  below the drain. -/
  lost : ∀ moment before, moment :: before <:+ c.history → moment.what = .lost number target →
    ∃ limit rest, History.stack before = .drain limit :: rest ∧
      (moment.context.isAlive target = true ↔ target ∈ rest.filterMap Activity.callback?)
  /-- What is lost is never delivered. -/
  never : ∀ moment ∈ c.history, moment.what = .lost number target →
    ∀ start ∈ c.history, ¬start.what.Notifies number target

namespace Path

variable {b c : Ledger κ} {number : Nat} {target : InstanceId}

/-- The callbacks that are running below a drain are those of the instances that are running. -/
theorem mem_below_drain (path : Path Ledger.empty b) {limit : Nat} {rest : List (Activity κ)}
    (top : b.stack = .drain limit :: rest) :
    target ∈ rest.filterMap Activity.callback? ↔ b.context.isRunning target = true := by
  have marked := (Path.marked path Ledger.empty_marked).marked target
  rwa [Ledger.callbacks, top] at marked

/-- A drain loses a notice because the instance is gone, or because it is running below the drain. -/
theorem lost_cases (path : Path Ledger.empty c) {moment : Moment κ} {before : History κ}
    (there : moment :: before <:+ c.history) (what : moment.what = .lost number target) :
    ∃ limit rest, History.stack before = .drain limit :: rest ∧
      (moment.context.isAlive target = true ↔ target ∈ rest.filterMap Activity.callback?) := by
  obtain ⟨b, d, first, step, -, adds⟩ := path.added there
  obtain ⟨rfl, instances, unready, limit, rest, task, top, -⟩ := step.loses adds what
  have same : moment.context.isAlive target = b.context.isAlive target := by
    simp only [Context.isAlive, Context.instance?, instances]
  refine ⟨limit, rest, top, ?_⟩
  rw [same, mem_below_drain first top]
  refine ⟨fun alive => ?_, Context.isAlive_of_isRunning⟩
  cases here : b.context.instance? target with
  | none => simp [Context.isAlive, here] at alive
  | some found =>
    rw [Context.isAlive_of_found here] at alive
    rw [Context.isRunning_of_found here]
    by_contra idle
    rw [Bool.not_eq_true] at idle
    exact unready found ⟨here, by simpa [Instance.isAlive, idle] using alive, idle⟩

end Path

/-- A drain that takes the notice of a dispatch while its target is running drops it with a warning, and
does nothing else with it. -/
def Caller.WarnsOfDrop (call : Caller κ μ) (number : Nat) (handle : ExtensionHandle)
    (target : InstanceId) : Prop :=
  ∀ (task : Task (Deferred κ)) (notice : Notice) (event : String) (s : State κ μ),
    task.code = .delivery target handle number notice event → s.isRunning target = true →
    runDeferred call task s = (.ok (), (s.note (.lost number target)).tell
      ⟨.warn, "Sub-extension still busy, delivery dropped",
        [("handle", handle.display), ("event", event)]⟩)

theorem Caller.warnsOfDrop (call : Caller κ μ) (number : Nat) (handle : ExtensionHandle)
    (target : InstanceId) : call.WarnsOfDrop number handle target := by
  intro task notice event s delivery running
  obtain ⟨found, here, busy⟩ := Context.isRunning_iff.mp running
  have refused : deliver call target (fun code => call (.notify target code number notice)) s =
      (.ok .busy, s) := by
    simp only [deliver, Run.get_bind_apply, here, busy, if_true]
    rfl
  simp only [runDeferred, delivery, notify]
  rw [Run.bind_apply_of_ok _ refused]
  rfl

/-- A notice that an instance could not take at its turn waits until it is delivered, withdrawn, or
lost to a drain within a callback of that instance.  Such a drain warns of what it drops, and does
nothing else with it. -/
theorem Reached.notices_tended {site : Site κ} {foreign : (proxyInterface κ μ).Foreign}
    {levels : Nat} {calm : Bool} {s : State κ μ} (reached : Reached site foreign levels calm s)
    {number : Nat} {target : InstanceId} {turn : Moment κ} {past : History κ}
    (there : turn :: past <:+ s.history) (what : turn.what = .reached number target)
    (busy : turn.context.isRunning target = true) :
    ∃ handle, past.Lists number handle target ∧
      s.ledger.Tends number handle target turn past ∧
      ∀ call : Caller κ μ, call.WarnsOfDrop number handle target := by
  have path := reached.ledger.path
  obtain ⟨handle, fan, older, notice, entry, before, fanned, listed, rfl, rfl⟩ :=
    Path.turn_listed path there what
  refine ⟨entry.1, ⟨fan, older, notice, entry, before, fanned, listed, rfl, rfl⟩, ?_,
    fun call => call.warnsOfDrop number entry.1 entry.2.target⟩
  refine ⟨path.awaits there what busy before fanned listed, fun start earlier begun notified => ?_,
    fun moment earlier inside lost => path.lost_cases inside lost,
    fun moment inside lost start among => ?_⟩
  · obtain ⟨b, d, first, step, last, adds⟩ := path.added begun
    obtain ⟨rfl, -, limit, below, -, top, -⟩ :=
      Path.takes_of_busy there what busy before fanned listed first step last adds notified
    obtain ⟨⟨found, ready⟩, -⟩ := step.notifies adds notified
    refine ⟨limit, below, top, fun going => ?_⟩
    cases ready.isRunning.symm.trans ((Path.mem_below_drain first top).mp going)
  · obtain ⟨before', lost'⟩ := History.exists_suffix_of_mem inside
    obtain ⟨early, begun⟩ := History.exists_suffix_of_mem among
    exact path.silent_of_lost there what busy before fanned listed lost' lost begun

/-! ## A drain within a callback -/

namespace Happening

variable {κ : Type} {what : Happening κ} {number : Nat} {target : InstanceId}

/-- The dispatch that gets to an instance, and the instance. -/
def reached? : Happening κ → Option (Nat × InstanceId)
  | .reached number target => some (number, target)
  | _ => none

/-- The dispatch whose notice is lost, and the instance for which it waited. -/
def lost? : Happening κ → Option (Nat × InstanceId)
  | .lost number target => some (number, target)
  | _ => none

theorem reached?_eq_some (h : what.reached? = some (number, target)) :
    what = .reached number target := by
  cases what with
  | reached other its =>
    cases h
    rfl
  | _ => cases h

theorem lost?_eq_some (h : what.lost? = some (number, target)) : what = .lost number target := by
  cases what with
  | lost other its =>
    cases h
    rfl
  | _ => cases h

end Happening

namespace Sample

/-- A sub-extension that is told of a document opens another one and runs what is pending. -/
def drainWithin : State Unit Unit := after () (fun _ => .look fun s =>
    if s.dispatches = 1 then do
      let _ ← ask (.dispatch (.document .created ⟨8⟩))
      let _ ← ask .runPending
    else .done ()) do
  let _ ← ask (.load "a" ⟨1⟩ "e/a.plugin")
  let _ ← ask (.init "a")
  let _ ← ask (.dispatch (.document .created ⟨7⟩))
  let _ ← ask .runPending

/-- The sub-extension is running when the second dispatch gets to it. -/
theorem drainWithin_busy : ∃ turn past, turn :: past <:+ drainWithin.history ∧
    turn.what = .reached 1 ⟨0⟩ ∧ turn.context.isRunning ⟨0⟩ = true := by
  have facts : drainWithin.history[10]?.map (fun moment =>
      (moment.what.reached?, moment.context.isRunning ⟨0⟩)) = some (some (1, ⟨0⟩), true) := by
    decide +kernel
  obtain ⟨turn, place, told⟩ := Option.map_eq_some_iff.mp facts
  obtain ⟨what, busy⟩ := Prod.mk.inj told
  exact ⟨turn, _, History.suffix_of_getElem? place, Happening.reached?_eq_some what, busy⟩

/-- What the sub-extension could not take is lost to its own drain. -/
theorem drainWithin_tended : ∃ turn past, turn :: past <:+ drainWithin.history ∧
    turn.what = .reached 1 ⟨0⟩ ∧ turn.context.isRunning ⟨0⟩ = true ∧
    ∃ handle, History.Lists past 1 handle ⟨0⟩ ∧
      drainWithin.ledger.Tends 1 handle ⟨0⟩ turn past ∧
      ∀ call : Caller Unit Unit, call.WarnsOfDrop 1 handle ⟨0⟩ := by
  obtain ⟨turn, past, there, what, busy⟩ := drainWithin_busy
  have life : Reached (site ()) (foreign fun _ => .look fun s =>
      if s.dispatches = 1 then do
        let _ ← ask (.dispatch (.document .created ⟨8⟩))
        let _ ← ask .runPending
      else .done ()) 8 false drainWithin := reached _ _ _
  exact ⟨turn, past, there, what, busy, life.notices_tended there what busy⟩

/-- The notice that was deferred is taken by a drain while its target is alive, which its record owns
to the end; the target is never told, and nothing waits any more. -/
theorem drainWithin_loses : (∃ turn past, turn :: past <:+ drainWithin.history ∧
      turn.what = .reached 1 ⟨0⟩ ∧ turn.context.isRunning ⟨0⟩ = true ∧
      ∃ lost before, lost :: before <:+ drainWithin.history ∧ turn :: past <:+ before ∧
        lost.what = .lost 1 ⟨0⟩ ∧ lost.context.isAlive ⟨0⟩ = true) ∧
    (drainWithin.instance? ⟨0⟩).map (fun found => found.owned) = some true ∧
    (∀ start ∈ drainWithin.history, ¬start.what.Notifies 1 ⟨0⟩) ∧
    drainWithin.tasks.tasks.isEmpty = true := by
  have turns : drainWithin.history[10]?.map (fun moment =>
      (moment.what.reached?, moment.context.isRunning ⟨0⟩)) = some (some (1, ⟨0⟩), true) := by
    decide +kernel
  have losses : drainWithin.history[7]?.map (fun moment =>
      (moment.what.lost?, moment.context.isAlive ⟨0⟩)) = some (some (1, ⟨0⟩), true) := by
    decide +kernel
  obtain ⟨turn, place, told⟩ := Option.map_eq_some_iff.mp turns
  obtain ⟨what, busy⟩ := Prod.mk.inj told
  obtain ⟨lost, place', told'⟩ := Option.map_eq_some_iff.mp losses
  obtain ⟨what', alive⟩ := Prod.mk.inj told'
  have silent : ∀ start ∈ drainWithin.history, start.what.notified? ≠ some (1, ⟨0⟩) := by
    decide +kernel
  refine ⟨⟨turn, _, History.suffix_of_getElem? place, Happening.reached?_eq_some what, busy, lost, _,
    History.suffix_of_getElem? place', History.suffix_drop_of_getElem? place (by decide),
    Happening.lost?_eq_some what', alive⟩, by decide +kernel, fun start among notified => ?_,
    by decide +kernel⟩
  obtain ⟨code, notice, happened⟩ := Happening.notifies_iff.mp notified
  exact silent start among (by rw [happened]; rfl)

end Sample

end ExtensionProxy
