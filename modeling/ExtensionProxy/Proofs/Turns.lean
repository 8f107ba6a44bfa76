import ExtensionProxy.Proofs.Marks
import ExtensionProxy.Proofs.Registry

/-!
# The turns of a notice

A dispatch gets to each of the instances that it listed once.  There the callback runs at once, or the
notice waits in the queue with the number that the queue gave it, or there is nobody to take it.  What
waited is taken from the queue in the order of these numbers, so what is known of the numbers is known
of the order of the callbacks.
-/

set_option autoImplicit false

namespace ExtensionProxy

variable {κ : Type}

/-- The callback of an instance for the notice of a dispatch begins. -/
def Happening.Notifies (number : Nat) (target : InstanceId) : Happening κ → Prop
  | .began (.call (.notify other _ its _)) => other = target ∧ its = number
  | _ => False

theorem Happening.notifies_iff {number : Nat} {target : InstanceId} {what : Happening κ} :
    what.Notifies number target ↔
      ∃ code notice, what = .began (.call (.notify target code number notice)) := by
  constructor
  · intro notifies
    cases what with
    | began activity =>
      cases activity with
      | call request =>
        cases request with
        | notify other code its notice =>
          obtain ⟨rfl, rfl⟩ := notifies
          exact ⟨code, notice, rfl⟩
        | _ => cases notifies
      | _ => cases notifies
    | _ => cases notifies
  · rintro ⟨code, notice, rfl⟩
    exact ⟨rfl, rfl⟩

namespace Happening

/-- The dispatch that begins. -/
def dispatched? : Happening κ → Option (Nat × HostEvent)
  | .dispatched number event => some (number, event)
  | _ => none

/-- The dispatch and the instance whose callback begins. -/
def notified? : Happening κ → Option (Nat × InstanceId)
  | .began (.call (.notify target _ number _)) => some (number, target)
  | _ => none

theorem dispatched?_eq_some {what : Happening κ} {number : Nat} {event : HostEvent}
    (h : what.dispatched? = some (number, event)) : what = .dispatched number event := by
  cases what with
  | dispatched other its =>
    cases h
    rfl
  | _ => cases h

theorem notified?_eq_some {what : Happening κ} {number : Nat} {target : InstanceId}
    (h : what.notified? = some (number, target)) : what.Notifies number target := by
  cases what with
  | began activity =>
    cases activity with
    | call request =>
      cases request with
      | notify other code its notice =>
        cases h
        exact ⟨rfl, rfl⟩
      | _ => cases h
    | _ => cases h
  | _ => cases h

end Happening

namespace History

variable {history past : History κ} {number : Nat} {target : InstanceId}

/-- A dispatch has got to an instance. -/
theorem mem_turns : target ∈ history.turns number ↔
    ∃ moment ∈ history, moment.what = .reached number target := by
  induction history with
  | nil => simp [turns, about]
  | cons moment past ih =>
    obtain ⟨what, context, held⟩ := moment
    rw [turns_cons]
    simp only [List.mem_cons, exists_eq_or_imp, ← ih]
    cases what with
    | reached other whose =>
      by_cases same : other = number
      · simp [same, or_comm, eq_comm]
      · simp [same]
    | _ => simp

/-- What was listed was registered when the dispatch fanned out. -/
theorem exists_of_fanOut? {notice : Notice} {entries : List (ExtensionHandle × Registration)}
    (listed : history.fanOut? number = some (notice, entries)) :
    ∃ moment past, moment :: past <:+ history ∧ moment.what = .fannedOut number notice ∧
      moment.context.registry.entries = entries := by
  obtain ⟨moment, kept, tells⟩ := List.exists_of_findSome?_eq_some listed
  obtain ⟨there, strand⟩ := mem_about.mp kept
  obtain ⟨past, suffix⟩ := exists_suffix_of_mem there
  split at tells
  · next other notice' what =>
    rw [what] at strand
    cases tells
    cases strand
    exact ⟨moment, past, suffix, what, rfl⟩
  · cases tells

end History

/-! ## The registry names an instance once -/

namespace Ledger

variable {c d : Ledger κ}

/-- The instances that were ever registered are different ones. -/
structure Distinct (c : Ledger κ) : Prop where
  once : (c.history.initialized.map fun entry => entry.2.target).Nodup
  made : ∀ entry ∈ c.history.initialized, entry.2.target.index < c.context.instances.length

theorem Distinct.listed (h : c.Distinct) (enrols : c.Enrols) :
    (c.context.registry.entries.map fun entry => entry.2.target).Nodup :=
  h.once.sublist (enrols.ordered.map _)

end Ledger

namespace Step

variable {c d : Ledger κ}

/-- No instance is ever forgotten. -/
theorem instances_grow (step : Step c d) :
    c.context.instances.length ≤ d.context.instances.length := by
  have changed : ∀ (e : Ledger κ) target (change : Instance κ → Instance κ),
      (e.changeInstance target change).context.instances.length = e.context.instances.length :=
    fun e target change => List.length_modify ..
  cases step with
  | adopt => exact Nat.le_of_lt (List.length_append .. ▸ Nat.lt_succ_self _)
  | duplicate binding code made context rest top =>
    refine Nat.le_trans (Nat.le_succ _) (Nat.le_of_eq (Eq.symm ?_))
    exact (changed _ _ _).trans (List.length_append ..)
  | clean | discard | enter | leave | deliver | redeliver => exact Nat.le_of_eq (changed _ _ _).symm
  | _ => exact Nat.le_refl _

theorem distinct (h : c.Distinct) (filing : c.Filing) (step : Step c d) : d.Distinct := by
  obtain ⟨once, made⟩ := h
  have same : d.history.initialized = c.history.initialized → d.Distinct := by
    intro initialized
    refine ⟨initialized ▸ once, fun entry there => ?_⟩
    exact Nat.lt_of_lt_of_le (made entry (initialized ▸ there)) step.instances_grow
  cases filing.enrolment step with
  | enlist id handle entry free alone registry owners initialized fresh counted =>
    refine ⟨?_, fun other there => ?_⟩
    · rw [initialized, List.map_append, List.nodup_append]
      refine ⟨once, List.nodup_singleton _, ?_⟩
      rintro target old new last same
      obtain ⟨other, there, rfl⟩ := List.mem_map.mp old
      have same : other.2.target = entry.target := same.trans (List.mem_singleton.mp last)
      have below := made other there
      rw [same, fresh] at below
      exact Nat.lt_irrefl _ below
    · rw [counted]
      rcases List.mem_append.mp (initialized ▸ there) with old | new
      · exact Nat.lt_succ_of_lt (made other old)
      · rw [List.mem_singleton.mp new, fresh]
        exact Nat.lt_succ_self _
  | same registry owners initialized => exact same initialized
  | clean id handle target owns registry owners initialized => exact same initialized
  | strike handle registry owners initialized => exact same initialized
  | abandon record target owns registry initialized => exact same initialized

end Step

theorem Path.distinct {c : Ledger κ} (path : Path Ledger.empty c) : c.Distinct := by
  induction path with
  | refl => exact ⟨.nil, fun entry there => (List.not_mem_nil there).elim⟩
  | tail path step ih => exact step.distinct ih (Path.sound path Ledger.empty_sound).filing

/-! ## The steps in question -/

namespace Step

variable {c d : Ledger κ} {moment : Moment κ} {past : History κ}

/-- A notice is sent to what is registered now. -/
theorem fansOut (step : Step c d) (adds : History.Adds c.history d.history moment past)
    {number : Nat} {notice : Notice} (what : moment.what = .fannedOut number notice) :
    past = c.history ∧ moment.context = c.context ∧ d = c.note (.fannedOut number notice) ∧
      d.history = moment :: past ∧ c.history.fanOut? number = none ∧
      c.history.outcome? number = none ∧ number < c.context.dispatches := by
  cases step with
  | fanOut other notice' begun fresh unsettled =>
    obtain ⟨rfl, rfl⟩ := History.adds_single.mp adds
    cases what
    exact ⟨rfl, rfl, rfl, rfl, fresh, unsettled, begun⟩
  | _ => grind

/-- A dispatch gets to the next entry of its listing. -/
theorem reaches (step : Step c d) (adds : History.Adds c.history d.history moment past)
    {number : Nat} {target : InstanceId} (what : moment.what = .reached number target) :
    past = c.history ∧ moment.context = c.context ∧
      ∃ notice entry, c.IsTurn number notice entry ∧ entry.2.target = target ∧
        ((∃ found, c.IsReady target found ∧ ∃ start : Moment κ,
            d.history = start :: moment :: past ∧ start.what.Notifies number target) ∨
          (c.context.isRunning target = true ∧ d.history = moment :: past ∧
            ∃ event, d.context.tasks = c.context.tasks.schedule (some entry.1)
              (.delivery target entry.1 number notice event)) ∨
          c.context.isAlive target = false) := by
  cases step with
  | deliver other notice entry found turn ready =>
    rcases History.adds_cons.mp adds with ⟨-, rfl, -⟩ | adds
    · cases what
    · obtain ⟨rfl, rfl⟩ := History.adds_single.mp adds
      cases what
      exact ⟨rfl, rfl, notice, entry, turn, rfl, .inl ⟨found, ready, _, rfl, rfl, rfl⟩⟩
  | defer other notice entry event turn busy =>
    obtain ⟨rfl, rfl⟩ := History.adds_single.mp adds
    cases what
    exact ⟨rfl, rfl, notice, entry, turn, rfl, .inr (.inl ⟨busy, rfl, event, rfl⟩)⟩
  | miss other notice entry turn gone =>
    obtain ⟨rfl, rfl⟩ := History.adds_single.mp adds
    cases what
    exact ⟨rfl, rfl, notice, entry, turn, rfl, .inr (.inr gone)⟩
  | _ => grind

/-- The callback for a notice begins when the dispatch that sends it gets to the instance, or the notice
is taken from the queue. -/
theorem begins_notify (step : Step c d) (adds : History.Adds c.history d.history moment past)
    {number : Nat} {target : InstanceId} {code : κ} {notice : Notice}
    (what : moment.what = .began (.call (.notify target code number notice))) :
    (∃ found, c.IsReady target found) ∧
      ((∃ entry, c.IsTurn number notice entry ∧ entry.2.target = target ∧
          past = ⟨.reached number target, c.context, c.held⟩ :: c.history) ∨
        (past = c.history ∧ ∃ limit rest task, c.stack = .drain limit :: rest ∧
          task.seq < limit ∧ c.context.tasks.tasks = task :: d.context.tasks.tasks ∧
          d.context.tasks.nextSeq = c.context.tasks.nextSeq ∧
          ∃ handle event, task.code = .delivery target handle number notice event)) := by
  cases step with
  | deliver other notice' entry found turn ready =>
    rcases History.adds_cons.mp adds with ⟨-, rfl, rfl⟩ | adds
    · cases what
      exact ⟨⟨found, ready⟩, .inl ⟨entry, turn, rfl, rfl⟩⟩
    · obtain ⟨rfl, rfl⟩ := History.adds_single.mp adds
      cases what
  | redeliver limit rest task tasks target' handle other notice' event found top taken delivery
      ready =>
    obtain ⟨rfl, rfl⟩ := History.adds_single.mp adds
    cases what
    obtain ⟨all, below, next⟩ := TaskQueue.takeBelow_eq_some taken
    exact ⟨⟨found, ready⟩, .inr ⟨rfl, limit, rest, task, top, below, all, next, handle, event,
      delivery⟩⟩
  | enter target' found call ready asks =>
    obtain ⟨rfl, rfl⟩ := History.adds_single.mp adds
    cases what
    rcases asks with same | ⟨dialog, same⟩ <;> cases same
  | _ => grind

/-- Whatever the notice is. -/
theorem notifies (step : Step c d) (adds : History.Adds c.history d.history moment past)
    {number : Nat} {target : InstanceId} (what : moment.what.Notifies number target) :
    (∃ found, c.IsReady target found) ∧
      ((∃ notice entry, c.IsTurn number notice entry ∧ entry.2.target = target ∧
          past = ⟨.reached number target, c.context, c.held⟩ :: c.history) ∨
        (past = c.history ∧ ∃ limit rest task, c.stack = .drain limit :: rest ∧
          task.seq < limit ∧ c.context.tasks.tasks = task :: d.context.tasks.tasks ∧
          d.context.tasks.nextSeq = c.context.tasks.nextSeq ∧
          ∃ handle notice event, task.code = .delivery target handle number notice event)) := by
  obtain ⟨code, notice, what⟩ := Happening.notifies_iff.mp what
  obtain ⟨ready, direct | late⟩ := step.begins_notify adds what
  · exact ⟨ready, .inl ⟨notice, direct⟩⟩
  · obtain ⟨same, limit, rest, task, top, below, all, next, handle, event, delivery⟩ := late
    exact ⟨ready, .inr ⟨same, limit, rest, task, top, below, all, next, handle, notice, event,
      delivery⟩⟩

/-- A task waits because it waited before, or because foreign code or a busy instance left it. -/
theorem tasks_mem (step : Step c d) {task : Task (Deferred κ)}
    (there : task ∈ d.context.tasks.tasks) :
    task ∈ c.context.tasks.tasks ∨ (∃ code, task.code = .task code) ∨
      ∃ number notice entry event, c.IsTurn number notice entry ∧
        c.context.isRunning entry.2.target = true ∧
        task = ⟨c.context.tasks.nextSeq, some entry.1,
          .delivery entry.2.target entry.1 number notice event⟩ ∧
        d.history = ⟨.reached number entry.2.target, c.context, c.held⟩ :: c.history := by
  cases step with
  | schedule owner code =>
    rcases List.mem_append.mp there with old | new
    · exact .inl old
    · exact .inr (.inl ⟨code, by rw [List.mem_singleton.mp new]⟩)
  | defer number notice entry event turn busy =>
    rcases List.mem_append.mp there with old | new
    · exact .inl old
    · exact .inr (.inr ⟨number, notice, entry, event, turn, busy, List.mem_singleton.mp new, rfl⟩)
  | cancel | renounce | clean => exact .inl (List.mem_of_mem_filter there)
  | perform limit rest gone tasks _ top taken | redeliver limit rest gone tasks _ _ _ _ _ _ top taken
    | lose limit rest gone tasks _ _ _ _ _ top taken =>
    rw [(TaskQueue.takeBelow_eq_some taken).1]
    exact .inl (List.mem_cons_of_mem _ there)
  | _ => exact .inl there

end Step

/-! ## One turn, at most one callback -/

namespace Path

variable {c : Ledger κ} {number : Nat} {target : InstanceId}

/-- What a dispatch listed are different instances. -/
theorem listing_nodup (path : Path Ledger.empty c) {notice : Notice}
    {entries : List (ExtensionHandle × Registration)}
    (listed : c.history.fanOut? number = some (notice, entries)) :
    (entries.map fun entry => entry.2.target).Nodup := by
  obtain ⟨moment, past, there, what, rfl⟩ := History.exists_of_fanOut? listed
  obtain ⟨a, b, first, step, -, adds⟩ := path.added there
  rw [(step.fansOut adds what).2.1]
  exact (Path.distinct first).listed (Path.enrols first)

/-- A dispatch gets to an instance that it has not got to before. -/
theorem turn_fresh (path : Path Ledger.empty c) {notice : Notice}
    {entry : ExtensionHandle × Registration} (turn : c.IsTurn number notice entry) :
    entry.2.target ∉ c.history.turns number := by
  obtain ⟨done, rest, listed, turns⟩ := turn.listed
  have nodup := Path.listing_nodup path listed
  rw [List.map_append, List.map_cons, List.nodup_append] at nodup
  rw [turns]
  exact fun there => nodup.2.2 _ there _ List.mem_cons_self rfl

/-- A dispatch gets to an instance once. -/
theorem turn_unique (path : Path Ledger.empty c) {one other : Moment κ} {past past' : History κ}
    (there : one :: past <:+ c.history) (there' : other :: past' <:+ c.history)
    (what : one.what = .reached number target) (what' : other.what = .reached number target) :
    one :: past = other :: past' := by
  refine History.unique_of (· = .reached number target) ?_ there there' what what'
  intro one other past past' there what what' before
  obtain ⟨a, b, first, step, -, adds⟩ := path.added there
  obtain ⟨rfl, -, notice, entry, turn, rfl, -⟩ := step.reaches adds what
  refine Path.turn_fresh first turn (History.mem_turns.mpr ⟨other, ?_, what'⟩)
  exact before.subset List.mem_cons_self

/-- The numbers of the queue grow. -/
theorem nextSeq_grows {d : Ledger κ} (path : Path c d) :
    c.context.tasks.nextSeq ≤ d.context.tasks.nextSeq :=
  (path.below_shrinks (Nat.zero_le _)).2

end Path

/-! ## What waits -/

namespace Ledger

/-- A notice waits for an instance that was running when the dispatch got to it, under the number
that the queue gave next. -/
def Waiting (c : Ledger κ) : Prop :=
  ∀ task ∈ c.context.tasks.tasks, ∀ target handle number notice event,
    task.code = .delivery target handle number notice event →
    ∃ turn past, turn :: past <:+ c.history ∧ turn.what = .reached number target ∧
      turn.context.isRunning target = true ∧ turn.context.tasks.nextSeq = task.seq

theorem empty_ordered : (empty : Ledger κ).context.tasks.IsOrdered :=
  ⟨.nil, fun _ there => (List.not_mem_nil there).elim⟩

/-- Whatever waits got its number after a limit. -/
def Above (limit : Nat) (c : Ledger κ) : Prop :=
  limit < c.context.tasks.nextSeq ∧ ∀ task ∈ c.context.tasks.tasks, limit < task.seq

end Ledger

theorem Step.waiting {c d : Ledger κ} (h : c.Waiting) (step : Step c d) : d.Waiting := by
  intro task there target handle number notice event code
  rcases step.tasks_mem there with old | ⟨plain, foreign⟩ |
    ⟨number', notice', entry, event', turn, busy, rfl, history⟩
  · obtain ⟨turn, past, suffix, rest⟩ := h task old target handle number notice event code
    exact ⟨turn, past, suffix.trans step.history_grows, rest⟩
  · cases foreign.symm.trans code
  · cases code
    exact ⟨⟨.reached number entry.2.target, c.context, c.held⟩, c.history, ⟨[], history.symm⟩, rfl,
      busy, rfl⟩

theorem Step.above {c d : Ledger κ} {limit : Nat} (h : c.Above limit) (step : Step c d) :
    d.Above limit := by
  obtain ⟨next, waits⟩ := h
  rcases step.tasks_cases with ⟨owner, code, tasks⟩ | ⟨sub, same⟩
  · rw [Ledger.Above, tasks]
    refine ⟨Nat.lt_succ_of_lt next, fun task there => ?_⟩
    rcases List.mem_append.mp there with old | new
    · exact waits task old
    · rw [List.mem_singleton.mp new]
      exact next
  · exact ⟨same ▸ next, fun task there => waits task (sub.subset there)⟩

namespace Path

variable {c d : Ledger κ} {number : Nat} {target : InstanceId}

theorem waiting (path : Path Ledger.empty c) : c.Waiting := by
  induction path with
  | refl => exact fun task there => (List.not_mem_nil there).elim
  | tail _ step ih => exact step.waiting ih

theorem above {limit : Nat} (path : Path c d) (h : c.Above limit) : d.Above limit := by
  induction path with
  | refl => exact h
  | tail _ step ih => exact step.above ih

/-- Where a callback came from: it began as soon as the dispatch got to the idle instance, or the
dispatch found the instance running and whatever waits now got a later number. -/
theorem turn_of_start (path : Path Ledger.empty c) {start : Moment κ} {past : History κ}
    (there : start :: past <:+ c.history) (what : start.what.Notifies number target) :
    ∃ turn before, turn :: before <:+ past ∧ turn.what = .reached number target ∧
      ((past = turn :: before ∧ turn.context.isRunning target = false) ∨
        (turn.context.isRunning target = true ∧ c.Above turn.context.tasks.nextSeq)) := by
  obtain ⟨a, b, first, step, rest, adds⟩ := path.added there
  obtain ⟨⟨found, ready⟩, direct | late⟩ := step.notifies adds what
  · obtain ⟨notice, entry, turn, rfl, rfl⟩ := direct
    refine ⟨_, _, List.suffix_refl _, rfl, .inl ⟨rfl, ready.isRunning⟩⟩
  · obtain ⟨rfl, limit, below, task, top, early, tasks, next, handle, notice, event, code⟩ := late
    have ordered := Path.ordered first Ledger.empty_ordered
    obtain ⟨turn, before, suffix, reached, busy, seq⟩ := Path.waiting first task
      (tasks ▸ List.mem_cons_self) target handle number notice event code
    refine ⟨turn, before, suffix, reached, .inr ⟨busy, Path.above rest ⟨?_, ?_⟩⟩⟩
    · rw [seq, next]
      exact ordered.made task (tasks ▸ List.mem_cons_self)
    · intro other waits
      have sorted := ordered.sorted
      rw [tasks] at sorted
      rw [seq]
      exact (List.pairwise_cons.mp sorted).1 other waits

/-- Of two callbacks that waited the earlier had the smaller number. -/
theorem seq_lt_of_starts (path : Path Ledger.empty c) {other : Nat}
    {start first turn earlier : Moment κ} {past past' before before' : History κ}
    (there : start :: past <:+ c.history) (what : start.what.Notifies number target)
    (old : first :: past' <:+ past) (what' : first.what.Notifies other target)
    (suffix : turn :: before <:+ c.history) (reached : turn.what = .reached number target)
    (busy : turn.context.isRunning target = true)
    (suffix' : earlier :: before' <:+ c.history) (reached' : earlier.what = .reached other target)
    (busy' : earlier.context.isRunning target = true) :
    earlier.context.tasks.nextSeq < turn.context.tasks.nextSeq := by
  obtain ⟨a, b, path', step, rest, adds⟩ := path.added there
  have inside : a.history <:+ c.history := step.history_grows.trans (Path.history_grows rest)
  obtain ⟨⟨found, ready⟩, direct | late⟩ := step.notifies adds what
  · obtain ⟨notice, entry, -, -, rfl⟩ := direct
    have same := Path.turn_unique path suffix ((List.suffix_cons _ _).trans there) reached rfl
    obtain ⟨rfl, -⟩ := List.cons.inj same
    cases ready.isRunning.symm.trans busy
  · obtain ⟨rfl, limit, below, task, top, early, tasks, next, handle, notice, event, code⟩ := late
    obtain ⟨mine, _, suffix₁, what₁, -, seq⟩ := Path.waiting path' task
      (tasks ▸ List.mem_cons_self) target handle number notice event code
    obtain ⟨rfl, -⟩ := List.cons.inj
      (Path.turn_unique path suffix (suffix₁.trans inside) reached what₁)
    obtain ⟨its, past₂, suffix₂, what₂, came⟩ := Path.turn_of_start path' old what'
    have within := (suffix₂.trans (List.suffix_cons _ _)).trans (old.trans inside)
    obtain ⟨rfl, -⟩ := List.cons.inj (Path.turn_unique path suffix' within reached' what₂)
    rcases came with ⟨-, idle⟩ | ⟨-, above⟩
    · cases idle.symm.trans busy'
    · rw [seq]
      exact above.2 task (tasks ▸ List.mem_cons_self)

/-- Of two turns the earlier found the smaller number. -/
theorem seq_le_of_turns (path : Path Ledger.empty c) {other : Nat} {its : InstanceId}
    {turn earlier : Moment κ} {past past' : History κ} (there : turn :: past <:+ c.history)
    (what : turn.what = .reached number target) (old : earlier :: past' <:+ past)
    (what' : earlier.what = .reached other its) :
    earlier.context.tasks.nextSeq ≤ turn.context.tasks.nextSeq := by
  obtain ⟨a, b, path', step, -, adds⟩ := path.added there
  obtain ⟨rfl, now, -⟩ := step.reaches adds what
  obtain ⟨a', b', -, step', rest, adds'⟩ := path'.added old
  obtain ⟨-, then_, -⟩ := step'.reaches adds' what'
  rw [now, then_]
  exact Path.nextSeq_grows (rest.head step')

/-- An instance is called at most once for the notice of a dispatch. -/
theorem start_unique (path : Path Ledger.empty c) {one other : Moment κ} {past past' : History κ}
    (there : one :: past <:+ c.history) (there' : other :: past' <:+ c.history)
    (what : one.what.Notifies number target) (what' : other.what.Notifies number target) :
    one :: past = other :: past' := by
  refine History.unique_of (·.Notifies number target) ?_ there there' what what'
  intro one other past past' there what what' old
  have there' := (old.trans (List.suffix_cons _ _)).trans there
  obtain ⟨turn, before, within, reached, came⟩ := Path.turn_of_start path there what
  obtain ⟨turn', before', within', reached', -⟩ := Path.turn_of_start path there' what'
  have suffix := (within.trans (List.suffix_cons _ _)).trans there
  have suffix' := (within'.trans (List.suffix_cons _ _)).trans there'
  obtain ⟨rfl, rfl⟩ := List.cons.inj (Path.turn_unique path suffix suffix' reached reached')
  -- Two starts for one turn: either the turn itself lies between them, or both came from the queue.
  rcases came with ⟨rfl, -⟩ | ⟨busy, -⟩
  · have old := History.earlier_of_ne old fun same => by
      rw [same, reached] at what'
      exact what'
    exact absurd (within'.trans ((List.suffix_cons _ _).trans old)).length_le (by simp)
  · exact Nat.lt_irrefl _
      (Path.seq_lt_of_starts path there what old what' suffix reached busy suffix' reached' busy)

end Path

end ExtensionProxy
