import ExtensionProxy.Proofs.Tally.Programs
import Mathlib.Logic.Function.Iterate

/-!
# What reaches a tally

The tally is one sub-extension among others, whose code leaves its affairs alone.  An emission then does
to the affairs what each handler of its own does, one after the other, and a notice that goes to every
registered sub-extension does what the tally makes of it.
-/

set_option autoImplicit false

namespace ExtensionProxy

variable {κ μ α : Type}

namespace TallyPart

variable (part : TallyPart κ μ) (id : TallyId)

/-- Among the foreign code the tally's runs as it is, and all other is harmless. -/
structure RunsAmong (foreign : (proxyInterface κ μ).Foreign) : Prop where
  injective : Function.Injective part.embed
  create : ∀ binding heard context,
    foreign (.create binding (part.embed (.factory heard)) context) = part.create heard context
  notify : ∀ target number notice,
    foreign (.notify target (part.embed (.instance id)) number notice) = part.notify id notice
  observe : ∀ topic (slot : Slot κ) emitted own, own.tally? = some id → slot.code = part.embed own →
    foreign (.observe topic slot emitted) = part.observe own
  notifyOther : ∀ target code number notice, ¬part.Owns id code →
    part.Harmless id (foreign (.notify target code number notice))
  observeOther : ∀ topic (slot : Slot κ) emitted, ¬part.Owns id slot.code →
    part.Harmless id (foreign (.observe topic slot emitted))

variable [DecidableEq κ]

/-- What calls of foreign code do to the affairs. -/
structure Minds (call : Caller κ μ) : Prop where
  notify : ∀ target number notice s,
    Run.LeadsTo (part.affairs id) (call (.notify target (part.embed (.instance id)) number notice)) s
      ((part.affairs id s).noticed id notice)
  observe : ∀ topic (slot : Slot κ) emitted own s, own.tally? = some id → slot.code = part.embed own →
    Run.LeadsTo (part.affairs id) (call (.observe topic slot emitted)) s
      ((part.affairs id s).observed own)
  notifyOther : ∀ target code number notice s, ¬part.Owns id code →
    Run.LeadsTo (part.affairs id) (call (.notify target code number notice)) s (part.affairs id s)
  observeOther : ∀ topic (slot : Slot κ) emitted s, ¬part.Owns id slot.code →
    Run.LeadsTo (part.affairs id) (call (.observe topic slot emitted)) s (part.affairs id s)

variable {part : TallyPart κ μ} {id : TallyId} {site : Site κ} {call : Caller κ μ}
  {foreign : (proxyInterface κ μ).Foreign}

theorem leadsTo_during {activity : Activity κ} {run : Run (State κ μ) α} {s : State κ μ}
    {seen : Affairs κ}
    (leads : Run.LeadsTo (part.affairs id) run (s.note (.began activity)) seen) :
    Run.LeadsTo (part.affairs id) (Run.during activity run) s seen :=
  leads.ensuring fun reached same => ⟨(), reached.note (.ended activity), rfl, same⟩

theorem RunsAmong.minds (among : part.RunsAmong id foreign) (levels : Nat) :
    part.Minds id (Caller.noting ((proxyInterface κ μ).call (serve site) foreign (levels + 1))) where
  notify target number notice s := by
    refine leadsTo_during ?_
    show Run.LeadsTo _ (Program.run _ (foreign _)) _ _
    rw [among.notify]
    exact leadsTo_notify among.injective notice _
  observe topic slot emitted own s isOwn runs := by
    refine leadsTo_during ?_
    show Run.LeadsTo _ (Program.run _ (foreign _)) _ _
    rw [among.observe topic slot emitted own isOwn runs]
    exact leadsTo_observe among.injective isOwn _
  notifyOther target code number notice s other :=
    leadsTo_during ((among.notifyOther target code number notice other).leadsTo _)
  observeOther topic slot emitted s other :=
    leadsTo_during ((among.observeOther topic slot emitted other).leadsTo _)

/-! ## Emissions -/

theorem affairs_mark (topic : Topic) (change : Signal κ → Signal κ) (s : State κ μ)
    (keeps : ∀ signal, (change signal).slots = signal.slots) :
    part.affairs id ((State.signalLens topic).modify change s) =
      (part.affairs id s).setMarks topic (change (s.observers.signal topic)).running := by
  rw [affairs_modify_signal]
  simp only [Affairs.setMarks, Affairs.mk.injEq, true_and, and_true]
  refine ⟨funext fun other => funext fun own => ?_, funext fun other => ?_⟩
  · by_cases same : other = topic <;> simp [affairs, same, keeps]
  · rw [Function.update_apply]
    split <;> rfl

/-- A handler runs under its mark, which is taken back afterwards. -/
theorem leadsTo_runSlot (run : Slot κ → Run (State κ μ) Bool) (slot : Slot κ)
    (change : Affairs κ → Affairs κ) {topic : Topic}
    (commutes : ∀ a marks, change (a.setMarks topic marks) = (change a).setMarks topic marks)
    (keeps : ∀ a, (change a).marks = a.marks)
    (runs : ∀ s, Run.LeadsTo (part.affairs id) (run slot) s (change (part.affairs id s)))
    {s : State κ μ} (idle : (part.affairs id s).marks topic = []) :
    Run.LeadsTo (part.affairs id) (Signal.runSlot (State.signalLens topic) run slot) s
      (change (part.affairs id s)) := by
  have none : (s.observers.signal topic).running = [] := idle
  have entered : part.affairs id ((State.signalLens topic).modify
      (fun signal => signal.enter slot.id) s) =
        (part.affairs id s).setMarks topic (slot.id :: (s.observers.signal topic).running) :=
    affairs_mark topic _ s fun _ => rfl
  refine (Run.leadsTo_modify _ s).bind fun _ reached _ marked => ?_
  have ran := runs reached
  rw [marked, entered, commutes] at ran
  refine ran.ensuring fun reached' same => ⟨(), _, rfl, ?_⟩
  have running : (reached'.observers.signal topic).running = [slot.id] := by
    have marks := congrFun (congrArg Affairs.marks same) topic
    simp only [Affairs.setMarks, Function.update_self] at marks
    exact marks.trans (congrArg (slot.id :: ·) none)
  rw [affairs_mark topic (fun signal => signal.leave slot.id) reached' fun _ => rfl, same]
  simp only [Signal.leave, running, List.erase_cons_head, Affairs.setMarks_setMarks]
  exact Affairs.setMarks_of_eq ((congrFun (keeps _) topic).trans idle)

/-- An emission does what each of the tally's own handlers does, and these run the same code. -/
theorem Minds.leadsTo_emitSlots (minds : part.Minds id call) {topic : Topic} {own : TallyCode}
    (isOwn : own.tally? = some id) (emitted : Emitted) {rest : List (Slot κ)}
    (only : ∀ slot ∈ rest, part.Owns id slot.code → slot.code = part.embed own)
    (emission : Signal.Emission) {s : State κ μ} (idle : (part.affairs id s).marks topic = []) :
    Run.LeadsTo (part.affairs id) (Signal.emitSlots (State.signalLens topic)
        (fun slot => call (.observe topic slot emitted)) rest emission) s
      ((fun a => a.observed own)^[rest.countP fun slot => slot.code = part.embed own]
        (part.affairs id s)) := by
  induction rest generalizing emission s with
  | nil => exact Run.leadsTo_pure emission s
  | cons slot rest ih =>
    -- Between two handlers of the topic none is marked, so that none is skipped.
    have unmarked : ((State.signalLens topic).get s).isRunning slot.id = false := by
      have none : (s.observers.signal topic).running = [] := idle
      show (s.observers.signal topic).running.contains slot.id = false
      rw [none]
      rfl
    have unfolded : Signal.emitSlots (State.signalLens topic)
          (fun slot => call (.observe topic slot emitted)) (slot :: rest) emission s =
        (Signal.runSlot (State.signalLens topic) (fun slot => call (.observe topic slot emitted)) slot
          >>= fun answer => Signal.emitSlots (State.signalLens topic)
            (fun slot => call (.observe topic slot emitted)) rest (emission.add answer)) s := by
      simp only [Signal.emitSlots, Run.gets_bind_apply, unmarked, Bool.false_eq_true, if_false]
    have others : ∀ other ∈ rest, part.Owns id other.code → other.code = part.embed own :=
      fun other there => only other (List.mem_cons_of_mem slot there)
    refine Run.LeadsTo.of_eq ?_ unfolded
    by_cases runs : slot.code = part.embed own
    · have ran := leadsTo_runSlot (fun slot => call (.observe topic slot emitted)) slot
        (fun a => a.observed own) (fun _ => Affairs.observed_setMarks own topic)
        (fun _ => Affairs.marks_observed own)
        (fun s => minds.observe topic slot emitted own s isOwn runs) idle
      refine ran.bind fun answer reached _ now => ?_
      rw [List.countP_cons_of_pos (by simpa using runs), Function.iterate_succ_apply, ← now]
      refine ih others _ ?_
      rw [now, Affairs.marks_observed, idle]
    · have other : ¬part.Owns id slot.code := fun owns => runs (only slot List.mem_cons_self owns)
      have ran := leadsTo_runSlot (fun slot => call (.observe topic slot emitted)) slot
        (fun a => a) (fun _ _ => rfl) (fun _ => rfl)
        (fun s => minds.observeOther topic slot emitted s other) idle
      refine ran.bind fun answer reached _ now => ?_
      rw [List.countP_cons_of_neg (by simpa using runs), ← now]
      exact ih others _ (now ▸ idle)

theorem Minds.leadsTo_emitTopic (minds : part.Minds id call) {topic : Topic} {own : TallyCode}
    (isOwn : own.tally? = some id) (emitted : Emitted) {s : State κ μ}
    (only : ∀ other, other ≠ own → (part.affairs id s).handlers topic other = 0)
    (idle : (part.affairs id s).marks topic = []) :
    Run.LeadsTo (part.affairs id) (emitTopic call topic emitted) s
      ((fun a => a.observed own)^[(part.affairs id s).handlers topic own] (part.affairs id s)) := by
  have listed : ∀ slot ∈ (s.observers.signal topic).slots, part.Owns id slot.code →
      slot.code = part.embed own := by
    rintro slot there ⟨other, owns, runs⟩
    by_cases same : other = own
    · rw [← runs, same]
    · have none := only other same
      simp only [affairs, owns, if_true] at none
      exact absurd runs.symm (by simpa using List.countP_eq_zero.mp none slot there)
  have count : (part.affairs id s).handlers topic own =
      (s.observers.signal topic).slots.countP fun slot => slot.code = part.embed own := if_pos isOwn
  rw [count]
  exact leadsTo_during (minds.leadsTo_emitSlots isOwn emitted listed {} idle)

/-! ## Notices -/

omit [DecidableEq κ] in
theorem instances_leave {instances : List (Instance κ)} {place : Nat} {found : Instance κ}
    (there : instances[place]? = some found) (idle : found.running = false) :
    (instances.modify place fun found => { found with running := true }).modify place
      (fun found => { found with running := false }) = instances := by
  apply List.ext_getElem?
  intro n
  simp only [List.getElem?_modify, Option.map_eq_map]
  by_cases same : place = n
  · obtain ⟨code, binding, owned, running⟩ := found
    cases idle
    simp [← same, there]
  · simp [same]

/-- Reaching an instance that waits does what its callback does. -/
theorem leadsTo_deliver (callback : κ → Run (State κ μ) α) (change : Affairs κ → Affairs κ)
    (commutes : ∀ a instances, change (a.setInstances instances) = (change a).setInstances instances)
    {target : InstanceId} {found : Instance κ} {s : State κ μ}
    (there : s.instance? target = some found) (owned : found.owned = true)
    (idle : found.running = false)
    (runs : ∀ s, Run.LeadsTo (part.affairs id) (callback found.code) s (change (part.affairs id s))) :
    Run.LeadsTo (part.affairs id) (deliver call target callback) s (change (part.affairs id s)) := by
  let begun := s.modifyInstance target fun found => { found with running := true }
  have kept : (change (part.affairs id s)).instances = s.instances :=
    congrArg Affairs.instances (commutes (part.affairs id s) s.instances)
  have entered : Run.LeadsTo (part.affairs id) (enterInstance call target (callback found.code)) s
      (change (part.affairs id s)) := by
    -- The callback finds its instance running, of which what it does takes no notice.
    have ran := runs begun
    have begins : part.affairs id begun = (part.affairs id s).setInstances begun.instances := rfl
    rw [begins, commutes] at ran
    refine Run.LeadsTo.ensuring (s := begun) ran fun reached same => ?_
    let left := reached.modifyInstance target fun found => { found with running := false }
    have instances : reached.instances = begun.instances := congrArg Affairs.instances same
    have back : left.instances = s.instances := by
      show reached.instances.modify _ _ = _
      rw [instances]
      exact instances_leave there idle
    have leaves : left.instance? target = some found := by
      show left.instances[target.index]? = _
      rw [back]
      exact there
    refine ⟨(), left, ?_, ?_⟩
    · simp only [leaveInstance, Run.modify_bind_apply, Run.get_bind_apply]
      rw [leaves]
      simp only [owned, if_true, Run.pure_apply]
      rfl
    · show (part.affairs id reached).setInstances left.instances = _
      rw [same, back, ← kept]
      rfl
  have delivers : deliver call target callback s =
      (enterInstance call target (callback found.code) >>= fun value => pure (.delivered value)) s := by
    simp only [deliver, Run.get_bind_apply, there, idle, owned, Bool.false_eq_true, if_false, if_true]
  refine Run.LeadsTo.of_eq (entered.bind fun value reached _ same => ?_) delivers
  rw [← same]
  exact Run.leadsTo_pure _ reached

theorem leadsTo_notifyEntry (event : String) {number : Nat} {notice : Notice}
    (handle : ExtensionHandle) {entry : Registration} (outcome : DispatchOutcome) {s : State κ μ}
    {seen : Affairs κ}
    (delivers : Run.LeadsTo (part.affairs id) (ExtensionProxy.notify call entry.target number notice)
      (s.note (.reached number entry.target)) seen) :
    Run.LeadsTo (part.affairs id) (notifyEntry call event number notice handle entry outcome) s
      seen := by
  refine delivers.bind fun delivery reached _ same => ?_
  rw [← same]
  cases delivery with
  | delivered value => exact Run.leadsTo_pure _ reached
  | gone => exact ⟨outcome, _, rfl, rfl⟩
  | busy =>
    have noReport : ∀ doc, Deferred.delivery entry.target handle number notice event ≠
        .task (part.embed (.report id doc)) := fun _ => nofun
    exact ⟨outcome.addDeferred, _, rfl, affairs_schedule_other noReport (some handle) _⟩

/-- The entry's instance runs other code, if there is one. -/
def IsOther (part : TallyPart κ μ) (id : TallyId) (a : Affairs κ) (entry : Registration) : Prop :=
  ∀ found, a.instances[entry.target.index]? = some found → ¬part.Owns id found.code

/-- The tally's instance is registered once, is owned by its record and does not run. -/
def Registers (part : TallyPart κ μ) (id : TallyId) (a : Affairs κ) : Prop :=
  ∃ front handle entry back binding, a.registry.entries = front ++ (handle, entry) :: back ∧
    a.instances[entry.target.index]? = some ⟨part.embed (.instance id), binding, true, false⟩ ∧
    ∀ other ∈ front ++ back, part.IsOther id a other.2

theorem Minds.leadsTo_notify_other (minds : part.Minds id call) (number : Nat) (notice : Notice)
    {entry : Registration} {s : State κ μ} (isOther : part.IsOther id (part.affairs id s) entry) :
    Run.LeadsTo (part.affairs id) (ExtensionProxy.notify call entry.target number notice) s
      (part.affairs id s) := by
  cases there : s.instance? entry.target with
  | none =>
    refine Run.LeadsTo.of_eq (Run.leadsTo_pure Delivery.gone s) ?_
    simp only [ExtensionProxy.notify, deliver, Run.get_bind_apply, there]
  | some found =>
    cases running : found.running with
    | true =>
      refine Run.LeadsTo.of_eq (Run.leadsTo_pure Delivery.busy s) ?_
      simp only [ExtensionProxy.notify, deliver, Run.get_bind_apply, there, running, if_true]
    | false =>
      cases owned : found.owned with
      | true =>
        exact leadsTo_deliver _ (fun a => a) (fun _ _ => rfl) there owned running fun s =>
          minds.notifyOther entry.target found.code number notice s (isOther found there)
      | false =>
        refine Run.LeadsTo.of_eq (Run.leadsTo_pure Delivery.gone s) ?_
        simp only [ExtensionProxy.notify, deliver, Run.get_bind_apply, there, running, owned,
          Bool.false_eq_true, if_false]

theorem Minds.leadsTo_notifyAll_others (minds : part.Minds id call) (event : String) (number : Nat)
    (notice : Notice) {entries : List (ExtensionHandle × Registration)} (outcome : DispatchOutcome)
    {s : State κ μ} (others : ∀ other ∈ entries, part.IsOther id (part.affairs id s) other.2) :
    Run.LeadsTo (part.affairs id) (notifyAll call event number notice entries outcome) s
      (part.affairs id s) := by
  induction entries generalizing outcome s with
  | nil => exact Run.leadsTo_pure outcome s
  | cons first rest ih =>
    have isOther : part.IsOther id (part.affairs id (s.note (.reached number first.2.target)))
        first.2 :=
      others first List.mem_cons_self
    refine (leadsTo_notifyEntry event first.1 outcome
      (minds.leadsTo_notify_other number notice isOther)).bind fun next reached _ same => ?_
    have now : part.affairs id reached = part.affairs id s := same
    rw [← now]
    exact ih next fun other there => now ▸ others other (List.mem_cons_of_mem first there)

omit [DecidableEq κ] in
theorem notifyAll_append (event : String) (number : Nat) (notice : Notice)
    (front back : List (ExtensionHandle × Registration)) (outcome : DispatchOutcome) (s : State κ μ) :
    notifyAll call event number notice (front ++ back) outcome s =
      (notifyAll call event number notice front outcome >>=
        notifyAll call event number notice back) s := by
  induction front generalizing outcome s with
  | nil => rfl
  | cons first rest ih =>
    refine Eq.trans ?_ (Run.bind_bind_apply _ _ _ s).symm
    exact Run.bind_apply_congr fun next reached _ => ih next reached

/-- A notice to every registered sub-extension does what the tally makes of it. -/
theorem Minds.leadsTo_notifyAll (minds : part.Minds id call) (event : String) (number : Nat)
    (notice : Notice) (outcome : DispatchOutcome) {s : State κ μ}
    (registers : part.Registers id (part.affairs id s)) :
    Run.LeadsTo (part.affairs id) (notifyAll call event number notice s.registry.entries outcome) s
      ((part.affairs id s).noticed id notice) := by
  obtain ⟨front, handle, entry, back, binding, entries, there, others⟩ := registers
  have entries : s.registry.entries = front ++ (handle, entry) :: back := entries
  rw [entries]
  refine Run.LeadsTo.of_eq ?_ (notifyAll_append event number notice front _ outcome s)
  refine (minds.leadsTo_notifyAll_others event number notice outcome fun other first =>
    others other (List.mem_append_left _ first)).bind fun next reached _ now => ?_
  rw [← now] at there others ⊢
  have taken : Run.LeadsTo (part.affairs id) (ExtensionProxy.notify call entry.target number notice)
      (reached.note (.reached number entry.target)) ((part.affairs id reached).noticed id notice) :=
    leadsTo_deliver _ (fun a => a.noticed id notice) (Affairs.noticed_setInstances notice) there rfl rfl
      fun s => minds.notify entry.target number notice s
  refine (leadsTo_notifyEntry event handle next taken).bind fun last reached' _ same => ?_
  rw [← same]
  refine minds.leadsTo_notifyAll_others event number notice last fun other late => ?_
  rw [same, IsOther, Affairs.instances_noticed]
  exact others other (List.mem_append_right _ late)

theorem Minds.leadsTo_broadcast (minds : part.Minds id call) (event : String) (number : Nat)
    (notice : Notice) (outcome : DispatchOutcome) {s : State κ μ}
    (registers : part.Registers id (part.affairs id s)) :
    Run.LeadsTo (part.affairs id) (broadcast call event number notice outcome) s
      ((part.affairs id s).noticed id notice) :=
  minds.leadsTo_notifyAll event number notice outcome (s := s.note (.fannedOut number notice)) registers

end TallyPart

end ExtensionProxy
