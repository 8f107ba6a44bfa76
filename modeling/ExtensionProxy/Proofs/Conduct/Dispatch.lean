import ExtensionProxy.Proofs.Conduct.Delivery
import ExtensionProxy.Proofs.Conduct.Emission

/-!
# Dispatching is lawful

A dispatch is carried on by nobody but the run that began it: what foreign code does meanwhile adds
nothing to it.  So the entries of its listing have their turns one after the other, and when it
comes to its end all of them had their turns and the outcome counts those that were alive.
-/

set_option autoImplicit false

namespace ExtensionProxy

open Ledger

variable {κ μ α β : Type} {c d : Ledger κ} {base : List (Activity κ)} {ok : Bool} {number : Nat}
  {call : Caller κ μ} {s : State κ μ}

/-! ## How far a dispatch has come -/

namespace Ledger

/-- A dispatch has begun, and nothing else is known of it. -/
structure IsFresh (c : Ledger κ) (number : Nat) : Prop where
  begun : number < c.context.dispatches
  silent : c.history.fanOut? number = none
  untold : c.history.turns number = []
  uncounted : c.history.aliveTurns number = 0
  unsettled : c.history.outcome? number = none

/-- A dispatch has come to the rest of its listing; the outcome counts the turns that were taken. -/
structure IsUnderway (c : Ledger κ) (number : Nat) (notice : Notice)
    (done rest : List (ExtensionHandle × Registration)) (outcome : DispatchOutcome) : Prop where
  begun : number < c.context.dispatches
  fanned : c.history.fanOut? number = some (notice, done ++ rest)
  told : c.history.turns number = done.map fun entry => entry.2.target
  counted : outcome.delivered + outcome.deferred = c.history.aliveTurns number
  unsettled : c.history.outcome? number = none

/-- What does not belong to a dispatch leaves it as it is. -/
theorem IsFresh.after (h : c.IsFresh number) (exec : Exec {} c ok d) : d.IsFresh number := by
  obtain ⟨begun, silent, untold, uncounted, unsettled⟩ := h
  have same := exec.tells.apart number begun nofun
  simp only [History.fanOut?, History.turns, History.aliveTurns, History.outcome?, ← same] at *
  exact ⟨Nat.lt_of_lt_of_le begun exec.path.dispatches_grow, silent, untold, uncounted, unsettled⟩

theorem IsUnderway.after {notice : Notice} {done rest : List (ExtensionHandle × Registration)}
    {outcome : DispatchOutcome} (h : c.IsUnderway number notice done rest outcome)
    (exec : Exec {} c ok d) : d.IsUnderway number notice done rest outcome := by
  obtain ⟨begun, fanned, told, counted, unsettled⟩ := h
  have same := exec.tells.apart number begun nofun
  simp only [History.fanOut?, History.turns, History.aliveTurns, History.outcome?, ← same] at *
  exact ⟨Nat.lt_of_lt_of_le begun exec.path.dispatches_grow, fanned, told, counted, unsettled⟩

theorem MaySettle.after {outcome : DispatchOutcome} (h : c.MaySettle number outcome)
    (exec : Exec {} c ok d) : d.MaySettle number outcome := by
  obtain ⟨begun, unsettled, told, counted⟩ := h
  have same := exec.tells.apart number begun nofun
  simp only [History.fanOut?, History.turns, History.aliveTurns, History.outcome?, ← same] at *
  exact ⟨Nat.lt_of_lt_of_le begun exec.path.dispatches_grow, unsettled, told, counted⟩

/-- A dispatch that has come to the end of its listing. -/
structure HasTold (c : Ledger κ) (number : Nat) (outcome : DispatchOutcome) : Prop where
  may : c.MaySettle number outcome
  fanned : c.history.fanOut? number ≠ none

theorem HasTold.after {outcome : DispatchOutcome} (h : c.HasTold number outcome)
    (exec : Exec {} c ok d) : d.HasTold number outcome := by
  refine ⟨h.may.after exec, ?_⟩
  rw [History.fanOut?, exec.tells.apart number h.may.begun (by simp)]
  exact h.fanned

/-- A dispatch that notified nobody may come to its end. -/
theorem IsFresh.maySettle (h : c.IsFresh number) {outcome : DispatchOutcome}
    (delivered : outcome.delivered = 0) (deferred : outcome.deferred = 0) :
    c.MaySettle number outcome := by
  refine ⟨h.begun, h.unsettled, fun notice entries fanned => ?_, ?_⟩
  · rw [h.silent] at fanned
    cases fanned
  · rw [delivered, deferred, h.uncounted]

/-- A dispatch that fans out comes to the whole listing. -/
theorem IsFresh.underway (h : c.IsFresh number) (notice : Notice) {outcome : DispatchOutcome}
    (delivered : outcome.delivered = 0) (deferred : outcome.deferred = 0) :
    (c.note (.fannedOut number notice)).IsUnderway number notice [] c.context.registry.entries
      outcome := by
  have uncounted : (c.note (.fannedOut number notice)).history.aliveTurns number = 0 :=
    History.aliveTurns_cons.trans h.uncounted
  exact ⟨h.begun, History.fanOut?_cons.trans (if_pos rfl), History.turns_cons.trans h.untold,
    by rw [delivered, deferred, uncounted], History.outcome?_cons.trans h.unsettled⟩

theorem IsUnderway.isTurn {notice : Notice} {done rest : List (ExtensionHandle × Registration)}
    {entry : ExtensionHandle × Registration} {outcome : DispatchOutcome}
    (h : c.IsUnderway number notice done (entry :: rest) outcome) : c.IsTurn number notice entry :=
  ⟨⟨done, rest, h.fanned, h.told⟩, h.unsettled⟩

/-- A dispatch that has come to the end of its listing may come to its end. -/
theorem IsUnderway.hasTold {notice : Notice} {done : List (ExtensionHandle × Registration)}
    {outcome : DispatchOutcome} (h : c.IsUnderway number notice done [] outcome) :
    c.HasTold number outcome := by
  refine ⟨⟨h.begun, h.unsettled, fun other entries fanned => ?_, h.counted⟩, ?_⟩
  · have listed := fanned.symm.trans h.fanned
    cases listed
    rw [h.told, List.append_nil]
  · rw [h.fanned]
    exact Option.some_ne_none _

/-- An entry had its turn. -/
theorem IsUnderway.next {notice : Notice} {done rest : List (ExtensionHandle × Registration)}
    {entry : ExtensionHandle × Registration} {outcome : DispatchOutcome}
    (h : c.IsUnderway number notice done (entry :: rest) outcome) (next : DispatchOutcome)
    (counts : next.delivered + next.deferred = outcome.delivered + outcome.deferred
      + if c.context.isAlive entry.2.target = true then 1 else 0) :
    (c.note (.reached number entry.2.target)).IsUnderway number notice (done ++ [entry]) rest
      next := by
  refine ⟨h.begun, ?_, ?_, ?_, ?_⟩
  · simp only [note, History.fanOut?_cons]
    rw [h.fanned, List.append_assoc, List.singleton_append]
  · simp [note, History.turns_cons, h.told]
  · rw [counts, h.counted]
    by_cases alive : c.context.isAlive entry.2.target = true <;>
      simp [note, History.aliveTurns_cons, alive]
  · simp only [note, History.outcome?_cons]
    exact h.unsettled

end Ledger

/-- A step of a dispatch by which no slot and no record changes. -/
theorem Exec.of_turn (step : Step c d) (slots : d.context.slots = c.context.slots)
    (records : d.context.records = c.context.records)
    (dispatches : d.context.dispatches = c.context.dispatches)
    (about : ∀ strand, strand ≠ .dispatch number →
      d.history.about strand = c.history.about strand)
    (begun : number < c.context.dispatches) : Exec { number := some number } c ok d := by
  refine ⟨.single step, ⟨fun id _ loose _ slot => ?_, fun id _ _ _ _ => ?_⟩, fun given same => ?_,
    fun other _ others => about _ fun same => others (congrArg some (Strand.dispatch.inj same).symm),
    fun _ other above below => ?_, fun _ => about _ nofun⟩
  · rw [slots]
    exact loose slot
  · rw [Context.record?, records]
    rfl
  · cases same
    exact begun
  · exact absurd (dispatches ▸ below) (Nat.not_lt_of_le above)

/-- The judgement for a run that carries a dispatch on. -/
abbrev Carries (number : Nat) (c : Ledger κ) (base : List (Activity κ))
    (out : Except Stop α × State κ μ) (known : α → Ledger κ → Prop) : Prop :=
  Yields { number := some number } c base out known

namespace Carries

/-- A run that has nothing to do with the dispatch. -/
theorem of_lawful {out : Except Stop α × State κ μ} {known : α → Ledger κ → Prop}
    (h : Lawful {} c base true out) (begun : number < c.context.dispatches)
    (kept : ∀ value d, Exec {} c true d → known value d) : Carries number c base out known := by
  refine ⟨h.weaken fun given same => ?_, fun value reached run => ?_⟩
  · cases same
    exact begun
  · have exec := h.exec
    rw [run] at exec
    exact kept value _ exec

theorem done {value : α} {known : α → Ledger κ → Prop} (begun : number < s.ledger.context.dispatches)
    (holds : known value s.ledger) :
    Carries number s.ledger s.ledger.stack (.ok value, s) known := by
  refine Yields.done (.refl fun given same => ?_) rfl holds
  cases same
  exact begun

/-- One run after the other. -/
theorem bind {run : Run (State κ μ) α} {next : α → Run (State κ μ) β}
    {first : α → Ledger κ → Prop} {second : β → Ledger κ → Prop} (sound : c.Sound)
    (start : Carries number c base (run s) first)
    (rest : ∀ value (reached : State κ μ), reached.ledger.Sound → first value reached.ledger →
      Carries number reached.ledger reached.ledger.stack (next value reached) second) :
    Carries number c base ((run >>= next) s) second :=
  Yields.bind sound start fun value reached sound known _ => rest value reached sound known

end Carries

/-! ## Notices -/

namespace Carries

/-- One entry has its turn. -/
theorem notifyEntry (lawful : call.IsLawful) (sound : s.ledger.Sound) {event : String}
    {notice : Notice} {entry : ExtensionHandle × Registration}
    {listed rest : List (ExtensionHandle × Registration)} {outcome : DispatchOutcome}
    (under : s.ledger.IsUnderway number notice listed (entry :: rest) outcome) :
    Carries number s.ledger s.ledger.stack
      (ExtensionProxy.notifyEntry call.noting event number notice entry.1 entry.2 outcome s)
      fun next d => d.IsUnderway number notice (listed ++ [entry]) rest next := by
  let reached := s.note (.reached number entry.2.target)
  have apart : ∀ strand, strand ≠ .dispatch number →
      reached.ledger.history.about strand = s.ledger.history.about strand := fun _ different =>
    about_note_of_ne (.reached number entry.2.target) rfl different s.ledger
  simp only [ExtensionProxy.notifyEntry, Run.note_bind_apply]
  change Carries _ _ _ ((ExtensionProxy.notify call.noting entry.2.target number notice >>= _)
    reached) _
  simp only [notify]
  rcases deliver_cases call.noting entry.2.target
    (fun code => call.noting (.notify entry.2.target code number notice)) reached with
    ⟨found, ready, run⟩ | ⟨busy, run⟩ | ⟨gone, run⟩
  · have step := Step.deliver s.ledger number notice entry found under.isTurn ready
    have alive : s.ledger.context.isAlive entry.2.target = true := ready.isAlive
    have now := under.next outcome.addDelivered (by
      simp only [alive, DispatchOutcome.addDelivered, if_true]
      omega)
    have start : Exec { number := some number } s.ledger true ((reached.ledger.mark entry.2.target
        true).note (.began (.call (.notify entry.2.target found.code number notice)))) :=
      .of_turn step rfl rfl rfl apart under.begun
    have inner := Lawful.enterInstance (s := reached) lawful entry.2.target
      (.notify entry.2.target found.code number notice) rfl (step.sound sound)
    cases entered : enterInstance call.noting entry.2.target
        (call.noting (.notify entry.2.target found.code number notice)) reached with
    | mk result final =>
      obtain ⟨exec, stack⟩ := inner
      rw [entered] at exec stack
      cases result with
      | error stop =>
        rw [Run.bind_apply_of_error _ (run.trans (Run.bind_apply_of_error _ entered))]
        exact ⟨⟨start.trans (exec.weaken start.own_after), stack⟩, by simp⟩
      | ok value =>
        rw [Run.bind_apply_of_ok _ (run.trans (Run.bind_apply_of_ok _ entered))]
        refine ⟨⟨start.trans (exec.weaken start.own_after), stack⟩, fun next last same => ?_⟩
        cases same
        have entered : ((reached.ledger.mark entry.2.target true).note (.began (.call (.notify
            entry.2.target found.code number notice)))).IsUnderway number notice
            (listed ++ [entry]) rest outcome.addDelivered :=
          ⟨now.begun, now.fanned, now.told, now.counted, now.unsettled⟩
        exact entered.after exec
  · have running : s.ledger.context.isRunning entry.2.target = true := busy
    have step := Step.defer s.ledger number notice entry event under.isTurn running
    have alive : s.ledger.context.isAlive entry.2.target = true :=
      Context.isAlive_of_isRunning running
    have now := under.next outcome.addDeferred (by
      simp only [alive, DispatchOutcome.addDeferred, if_true]
      omega)
    rw [Run.bind_apply_of_ok _ run]
    refine ⟨⟨.of_turn step rfl rfl rfl apart under.begun, rfl⟩, fun next last same => ?_⟩
    cases same
    exact ⟨now.begun, now.fanned, now.told, now.counted, now.unsettled⟩
  · have step := Step.miss s.ledger number notice entry under.isTurn gone
    have now := under.next outcome (by
      simp [show s.ledger.context.isAlive entry.2.target = false from gone])
    rw [Run.bind_apply_of_ok _ run]
    refine ⟨⟨.of_turn step rfl rfl rfl apart under.begun, rfl⟩, fun next last same => ?_⟩
    cases same
    exact now

/-- The rest of the listing has its turns. -/
theorem notifyAll (lawful : call.IsLawful) {event : String} {notice : Notice}
    (rest : List (ExtensionHandle × Registration)) :
    ∀ (listed : List (ExtensionHandle × Registration)) (outcome : DispatchOutcome) (s : State κ μ),
      s.ledger.Sound → s.ledger.IsUnderway number notice listed rest outcome →
      Carries number s.ledger s.ledger.stack
        (ExtensionProxy.notifyAll call.noting event number notice rest outcome s)
        fun outcome d => d.HasTold number outcome := by
  induction rest with
  | nil => exact fun listed outcome s _ under => done under.begun under.hasTold
  | cons entry rest ih =>
    intro listed outcome s sound under
    exact bind sound (notifyEntry lawful sound under) fun next reached sound' now =>
      ih (listed ++ [entry]) next reached sound' now

/-- A notice is sent to whoever is registered. -/
theorem broadcast (lawful : call.IsLawful) (sound : s.ledger.Sound) (fresh : s.ledger.IsFresh number)
    {event : String} {notice : Notice} {outcome : DispatchOutcome}
    (delivered : outcome.delivered = 0) (deferred : outcome.deferred = 0) :
    Carries number s.ledger s.ledger.stack
      (ExtensionProxy.broadcast call.noting event number notice outcome s)
      fun outcome d => d.HasTold number outcome := by
  have step := Step.fanOut s.ledger number notice fresh.begun fresh.silent fresh.unsettled
  have start : Exec { number := some number } s.ledger true
      (s.ledger.note (.fannedOut number notice)) :=
    .of_turn step rfl rfl rfl (fun _ different =>
      about_note_of_ne (.fannedOut number notice) rfl different s.ledger) fresh.begun
  exact Yields.follow start (notifyAll lawful s.registry.entries [] outcome
    (s.note (.fannedOut number notice)) (step.sound sound) (fresh.underway notice delivered deferred))

/-! ## Events -/

/-- A run that notifies nobody leaves a fresh dispatch fresh. -/
theorem still {out : Except Stop α × State κ μ} (h : Lawful {} c base true out)
    (fresh : c.IsFresh number) : Carries number c base out fun _ d => d.IsFresh number :=
  of_lawful h fresh.begun fun _ _ exec => fresh.after exec

/-- A dispatch that notifies nobody comes to its end. -/
theorem settled (outcome : DispatchOutcome) (fresh : s.ledger.IsFresh number)
    (delivered : outcome.delivered = 0) (deferred : outcome.deferred = 0) :
    Carries number s.ledger s.ledger.stack (.ok outcome, s) fun outcome d =>
      d.MaySettle number outcome :=
  done fresh.begun (fresh.maySettle delivered deferred)

variable (lawful : call.IsLawful) (sound : s.ledger.Sound) (fresh : s.ledger.IsFresh number)

include lawful sound fresh

/-- A document that is closed is evicted after its observers ran. -/
theorem fireDocument (event : HostEvent) (doc : DocumentHandle) (signal : DocumentSignal) :
    Carries number s.ledger s.ledger.stack
      (ExtensionProxy.fireDocument call.noting event doc signal s)
      fun outcome d => d.MaySettle number outcome ∧ (signal = .closed → ∀ wrapper,
        s.documents.get? doc = some wrapper →
        ∃ ended gone past, d.ClosesDocument doc wrapper s.history ended gone past) := by
  simp only [ExtensionProxy.fireDocument, Run.get_bind_apply]
  cases registered : s.documents.get? doc with
  | none =>
    exact (settled (s := s.tell _) {} fresh rfl rfl).imp fun _ _ _ may =>
      ⟨may, fun _ wrapper there => nomatch there⟩
  | some wrapper =>
    obtain ⟨inner, ended, past, latest, now, emitted⟩ :=
      Lawful.emitTopic_emitted lawful sound (.document wrapper signal) .plain
    have emits : Carries number s.ledger s.ledger.stack
        (ExtensionProxy.emitTopic call.noting (.document wrapper signal) .plain s)
        fun _ d => d.IsFresh number ∧ d.history = ended :: past ∧ ended.context = d.context := by
      refine ⟨(still inner fresh).lawful, fun value reached run => ?_⟩
      have fresh := (still inner fresh).known value reached run
      rw [run] at latest now
      exact ⟨fresh, latest, now⟩
    clear latest now
    refine bind sound emits fun emission reached sound ⟨fresh, latest, now⟩ => ?_
    by_cases closed : signal = .closed
    · subst closed
      let last := ({ reached with documents := reached.documents.erase doc } : State κ μ).note
        (.evicted doc (reached.documents.get? doc))
      have removed : Exec {} reached.ledger true last.ledger := (Lawful.removeDocument doc).exec
      have closes : last.ledger.ClosesDocument doc wrapper s.history ended
          ⟨.evicted doc (reached.documents.get? doc), last.toContext, last.bench.held⟩ past :=
        ⟨congrArg _ latest, ⟨_, emitted⟩, by rw [now]; rfl, by rw [now]; rfl⟩
      refine Yields.done (s := last) (removed.weaken fun given same => ?_) rfl ⟨?_, ?_⟩
      · cases same
        exact fresh.begun
      · exact (fresh.after removed).maySettle rfl rfl
      · rintro - other there
        cases there
        exact ⟨_, _, _, closes⟩
    · simp only [closed, if_false]
      exact (settled _ fresh rfl rfl).imp fun _ _ _ may => ⟨may, fun same => nomatch same⟩

theorem fireEditor (doc : DocumentHandle) (note : EditorNote) :
    Carries number s.ledger s.ledger.stack
      (ExtensionProxy.fireEditor call.noting doc note s)
      fun outcome d => d.MaySettle number outcome := by
  simp only [ExtensionProxy.fireEditor]
  cases note.kind with
  | none => exact settled (s := s.tell _) {} fresh rfl rfl
  | some kind =>
    simp only [Run.get_bind_apply]
    cases s.documents.get? doc with
    | none => exact settled (s := s.tell _) {} fresh rfl rfl
    | some wrapper =>
      exact bind sound (still (Lawful.emitTopic lawful sound _ _) fresh)
        fun _ _ _ fresh => settled _ fresh rfl rfl

theorem fireDialog (event : HostEvent) (moment : DialogMoment) (dialog : DialogHandle) :
    Carries number s.ledger s.ledger.stack
      (ExtensionProxy.fireDialog call.noting event moment dialog s)
      fun outcome d => d.MaySettle number outcome := by
  simp only [ExtensionProxy.fireDialog, Run.get_bind_apply]
  cases s.workspace with
  | none => exact settled (s := s.tell _) {} fresh rfl rfl
  | some workspace =>
    exact bind sound (still (Lawful.emitTopic lawful sound _ _) fresh)
      fun _ _ _ fresh => settled _ fresh rfl rfl

theorem setCategory (doc : DocumentHandle) (previous : Option CategoryHandle) :
    Carries number s.ledger s.ledger.stack
      (ExtensionProxy.setCategory call.noting doc previous s)
      fun outcome d => d.MaySettle number outcome := by
  refine bind sound (still (Lawful.addDocument doc) fresh) fun wrapper reached sound fresh => ?_
  simp only [Run.get_bind_apply]
  exact bind sound (still (Lawful.emitTopic lawful sound _ _) fresh) fun _ _ _ fresh =>
    settled _ fresh rfl rfl

theorem openDocument (event : HostEvent) (doc : DocumentHandle) :
    Carries number s.ledger s.ledger.stack
      (ExtensionProxy.openDocument call.noting event number doc s)
      fun outcome d => d.HasTold number outcome :=
  bind sound (still (Lawful.addDocument doc) fresh) fun _ _ sound fresh =>
    broadcast lawful sound fresh rfl rfl

theorem openWorkspace (event : HostEvent) (handle : WorkspaceHandle) (config : KeyFile) :
    Carries number s.ledger s.ledger.stack
      (ExtensionProxy.openWorkspace call.noting event number handle config s)
      fun outcome d => d.HasTold number outcome := by
  refine bind sound (still (Lawful.installWorkspace handle config) fresh)
    fun installed reached sound fresh => ?_
  obtain ⟨opened, before⟩ := installed
  simp only [Run.get_bind_apply]
  cases before.bind reached.workspaceWrapper? with
  | none => exact broadcast lawful sound fresh rfl rfl
  | some replaced => exact broadcast (s := reached.tell _) lawful sound fresh rfl rfl

/-- The observers of a workspace run before its closing is announced, and whatever workspace is open
then is taken away. -/
theorem closeWorkspace (event : HostEvent) :
    Carries number s.ledger s.ledger.stack
      (ExtensionProxy.closeWorkspace call.noting event number s)
      fun outcome d => d.HasTold number outcome ∧
        ∃ shut past, d.ClosesWorkspace s.history shut past := by
  have announce : ∀ (ran : Nat) (reached : State κ μ), s.history <:+ reached.history →
      reached.ledger.Sound → reached.ledger.IsFresh number →
      Carries number reached.ledger reached.ledger.stack
        ((ExtensionProxy.broadcast call.noting event.name number .workspaceClosed
          { resolved := true, observers := ran } >>= fun outcome =>
            ExtensionProxy.setWorkspace none >>= fun _ => pure outcome) reached)
        fun outcome d => d.HasTold number outcome ∧
          ∃ shut past, d.ClosesWorkspace s.history shut past := by
    intro ran reached after sound fresh
    have announced : Carries number reached.ledger reached.ledger.stack
        (ExtensionProxy.broadcast call.noting event.name number .workspaceClosed
          { resolved := true, observers := ran } reached)
        fun outcome d => d.HasTold number outcome ∧ reached.history <:+ d.history :=
      (broadcast lawful sound fresh rfl rfl).imp fun _ _ path told =>
        ⟨told, Path.history_grows path⟩
    refine bind sound announced fun outcome still sound ⟨told, grown⟩ => ?_
    let last := ({ still with workspace := none } : State κ μ).note
      (.workspaceSet still.workspace none)
    have shut : Exec {} still.ledger true last.ledger := Lawful.shutWorkspace.exec
    refine Yields.done (s := last) (shut.weaken fun given same => ?_) rfl
      ⟨told.after shut, _, still.history, rfl, after.trans grown, ⟨_, rfl⟩, rfl⟩
    cases same
    exact told.may.begun
  simp only [ExtensionProxy.closeWorkspace, Run.get_bind_apply]
  cases s.workspace with
  | none => exact announce 0 (s.tell _) (List.suffix_refl _) sound fresh
  | some workspace =>
    have emits := (still (Lawful.emitTopic lawful sound (.workspace workspace .closed) .plain)
      fresh).imp fun _ d path fresh => And.intro fresh (Path.history_grows path)
    refine bind sound emits fun emission reached sound ⟨fresh, grown⟩ => ?_
    exact announce emission.ran reached grown sound fresh

/-- Whatever an event asks for, its dispatch has done it afterwards and may come to its end. -/
theorem routeEvent (event : HostEvent) {first : Moment κ} {older : History κ}
    (began : s.history = first :: older) (now : first.context.documents = s.documents) :
    Carries number s.ledger s.ledger.stack
      (ExtensionProxy.routeEvent call.noting event number s)
      fun outcome d => d.MaySettle number outcome ∧ d.Concludes number event first older := by
  cases event with
  | document moment doc =>
    simp only [ExtensionProxy.routeEvent]
    cases fires : moment.signal? with
    | none =>
      refine (openDocument lawful sound fresh _ doc).imp fun _ d _ told =>
        ⟨told.may, fun _ => told.fanned, fun _ _ same => ?_, nofun⟩
      cases same
      cases fires
    | some signal =>
      refine (fireDocument lawful sound fresh _ doc signal).imp fun _ d _ ⟨may, closes⟩ =>
        ⟨may, fun announces => ?_, fun _ wrapper same there => ?_, nofun⟩
      · cases moment <;> first | (cases fires; done) | cases announces
      · cases same
        cases fires
        rw [now] at there
        exact began ▸ closes rfl wrapper there
  | categorySet doc previous =>
    exact (setCategory lawful sound fresh doc previous).imp fun _ _ _ may => ⟨may, nofun, nofun, nofun⟩
  | editor doc note =>
    exact (fireEditor lawful sound fresh doc note).imp fun _ _ _ may => ⟨may, nofun, nofun, nofun⟩
  | workspaceOpened handle config =>
    exact (openWorkspace lawful sound fresh _ handle config).imp fun _ _ _ told =>
      ⟨told.may, fun _ => told.fanned, nofun, nofun⟩
  | workspaceClosed =>
    exact (closeWorkspace lawful sound fresh _).imp fun _ _ _ ⟨told, shuts⟩ =>
      ⟨told.may, fun _ => told.fanned, nofun, fun _ => began ▸ shuts⟩
  | dialog moment dialog =>
    exact (fireDialog lawful sound fresh _ moment dialog).imp fun _ _ _ may => ⟨may, nofun, nofun, nofun⟩
  | categoriesReloaded =>
    exact (bind sound (still Lawful.reloadCategories fresh) fun _ _ _ fresh =>
      settled _ fresh rfl rfl).imp fun _ _ _ may => ⟨may, nofun, nofun, nofun⟩

end Carries

/-! ## A whole dispatch -/

/-- The next dispatch begins. -/
theorem Ledger.Numbered.isFresh (h : c.Numbered) (event : HostEvent) :
    (c.advance.note (.dispatched c.context.dispatches event)).IsFresh c.context.dispatches := by
  have none : ∀ {number}, c.context.dispatches ≤ number → c.history.about (.dispatch number) = [] :=
    fun beyond => h _ beyond
  refine ⟨Nat.lt_succ_self _, ?_, ?_, ?_, ?_⟩
  · exact History.fanOut?_cons.trans (by simp [History.fanOut?, advance, none (Nat.le_refl _)])
  · exact History.turns_cons.trans (by simp [History.turns, advance, none (Nat.le_refl _)])
  · exact History.aliveTurns_cons.trans
      (by simp [History.aliveTurns, advance, none (Nat.le_refl _)])
  · exact History.outcome?_cons.trans (by simp [History.outcome?, advance, none (Nat.le_refl _)])

/-- A dispatch takes its number, does what its event asks for, and comes to its end unless it is
stopped. -/
theorem Lawful.dispatch (lawful : call.IsLawful) (sound : s.ledger.Sound) (event : HostEvent) :
    Lawful {} s.ledger s.ledger.stack true (ExtensionProxy.dispatch call.noting event s) := by
  let number := s.dispatches
  let begun : State κ μ := { s with dispatches := s.dispatches + 1 }.note (.dispatched number event)
  have step : Step s.ledger begun.ledger := .dispatch s.ledger event
  have fresh : begun.ledger.IsFresh number := sound.numbered.isFresh event
  obtain ⟨⟨exec, stack⟩, may⟩ := Carries.routeEvent (s := begun.tell ⟨.debug,
    "Dispatching host notification", [("event", event.name)]⟩) lawful (step.sound sound) fresh event
    rfl rfl
  change Lawful {} _ _ _ ((ExtensionProxy.routeEvent call.noting event number >>= fun outcome =>
    Run.note (.settled number outcome) >>= fun _ => pure outcome) (begun.tell _))
  have first : ∀ strand, strand ≠ .dispatch number → begun.ledger.history.about strand
      = s.ledger.history.about strand := fun _ different =>
    about_note_of_ne (.dispatched number event) rfl different s.ledger.advance
  have ne : ∀ {other}, other < number → Strand.dispatch other ≠ .dispatch number := by
    intro other below same
    cases same
    exact Nat.lt_irrefl _ below
  -- What others began before is left alone, and what began since came to its end.
  have apart : ∀ {ok d}, Tells { number := some number } begun.ledger ok d → ∀ other,
      other < number →
        d.history.about (.dispatch other) = s.ledger.history.about (.dispatch other) := by
    intro ok d tells other below
    have different : some number ≠ some other := fun same => Nat.ne_of_gt below (Option.some.inj same)
    exact (tells.apart other (Nat.lt_succ_of_lt below) different).trans (first _ (ne below))
  cases run : ExtensionProxy.routeEvent call.noting event number (begun.tell ⟨.debug,
      "Dispatching host notification", [("event", event.name)]⟩) with
  | mk result reached =>
    rw [run] at exec stack may
    cases result with
    | error stop =>
      rw [Run.bind_apply_of_error _ run]
      exact ⟨⟨(Relation.ReflTransGen.single step).trans exec.path,
        ⟨exec.keeps.loose, exec.keeps.same⟩, by simp,
        fun other below _ => apart exec.tells other below,
        fun fine => absurd fine Bool.false_ne_true, fun fine => absurd fine Bool.false_ne_true⟩, stack⟩
    | ok outcome =>
      rw [Run.bind_apply_of_ok _ run]
      obtain ⟨may, concludes⟩ := may outcome reached rfl
      have last := Step.settle reached.ledger number outcome may _ _ event
        (Path.history_grows exec.path) rfl concludes
      have untouched : ∀ strand, strand ≠ .dispatch number →
          (reached.ledger.note (.settled number outcome)).history.about strand
            = reached.ledger.history.about strand := fun _ different =>
        about_note_of_ne (.settled number outcome) rfl different reached.ledger
      refine ⟨⟨((Relation.ReflTransGen.single step).trans exec.path).tail last,
        ⟨exec.keeps.loose, exec.keeps.same⟩, by simp, fun other below _ => ?_,
        fun _ other above below => ?_, fun _ => ?_⟩, stack⟩
      · exact (untouched _ (ne below)).trans (apart exec.tells other below)
      · by_cases same : number = other
        · subst same
          exact (Option.isSome_iff_ne_none.mp (by
            simp [State.ledger, State.note, History.outcome?_cons]))
        · have settled := exec.tells.settled rfl other
            (Nat.lt_of_le_of_ne above same) below
          rw [History.outcome?, ← untouched _ fun equal => same (Strand.dispatch.inj equal).symm]
            at settled
          exact settled
      · exact (untouched .breaks (by simp)).trans ((exec.tells.unbroken rfl).trans (first _ (by simp)))

end ExtensionProxy
