import ExtensionProxy.Proofs.Conduct.Dispatch
import ExtensionProxy.Proofs.Turns

/-!
# Whoever an outermost dispatch gets to is idle

A dispatch that begins when nothing is going on gets to one sub-extension after the other, and
whatever foreign code runs for the one is over before the next has its turn.  So at each turn nothing
is going on but the dispatch, and since marks tell who is running nobody is marked: the callback of
everybody who is alive begins at once.  A sub-extension that panics cuts the dispatch short; what is
said here holds of everybody who had a turn before.
-/

set_option autoImplicit false

namespace ExtensionProxy

open Ledger

variable {κ μ α β : Type} {c d : Ledger κ} {number : Nat} {call : Caller κ μ} {s : State κ μ}

namespace Ledger

/-- Nobody was running when the dispatch got to it. -/
def Direct (c : Ledger κ) (number : Nat) : Prop :=
  ∀ moment ∈ c.history.about (.dispatch number), ∀ target,
    moment.what = .reached number target → moment.context.isRunning target = false

/-- A dispatch has begun and nothing else is going on, and nobody was running when it got to it. -/
structure Outermost (c : Ledger κ) (number : Nat) : Prop where
  sound : c.Sound
  marked : c.Marked
  quiet : c.stack = []
  begun : number < c.context.dispatches
  direct : c.Direct number

/-- When nothing is going on nobody is marked. -/
theorem Marked.isRunning (h : c.Marked) (quiet : c.stack = []) (target : InstanceId) :
    c.context.isRunning target = false := by
  refine Bool.eq_false_iff.mpr fun running => ?_
  have there := (h.marked target).mpr running
  rw [callbacks, quiet] at there
  cases there

/-- A moment that is no turn of the dispatch. -/
theorem Direct.note (h : c.Direct number) (what : Happening κ)
    (other : ∀ target, what ≠ .reached number target) : (c.note what).Direct number := by
  intro moment there
  rw [history_note, History.about_cons] at there
  split at there
  · rcases List.mem_cons.mp there with rfl | old
    · exact fun target same => absurd same (other target)
    · exact h moment old
  · exact h moment there

/-- A turn of somebody who is idle. -/
theorem Direct.reached (h : c.Direct number) {target : InstanceId}
    (idle : c.context.isRunning target = false) : (c.note (.reached number target)).Direct number := by
  intro moment there
  rw [history_note, History.about_cons, if_pos (by rfl)] at there
  rcases List.mem_cons.mp there with rfl | old
  · intro other same
    cases same
    exact idle
  · exact h moment old

/-- What does not belong to the dispatch adds no turns. -/
theorem Direct.after (h : c.Direct number) (begun : number < c.context.dispatches) {ok : Bool}
    (exec : Exec {} c ok d) : d.Direct number := by
  rw [Direct, exec.tells.apart number begun (by simp)]
  exact h

namespace Outermost

/-- A run that does not belong to the dispatch and leaves nothing on the stack. -/
theorem after (h : c.Outermost number) {ok : Bool} (exec : Exec {} c ok d) (stack : d.stack = c.stack) :
    d.Outermost number :=
  ⟨exec.path.sound h.sound, exec.path.marked h.marked, stack.trans h.quiet,
    Nat.lt_of_lt_of_le h.begun exec.path.dispatches_grow, h.direct.after h.begun exec⟩

theorem lawful (h : s.ledger.Outermost number) {out : Except Stop α × State κ μ}
    (run : Lawful {} s.ledger s.ledger.stack true out) : out.2.ledger.Outermost number :=
  h.after run.exec run.stack

/-- A run that does not belong to the dispatch, and what is done after it. -/
theorem bind (h : s.ledger.Outermost number) {run : Run (State κ μ) α}
    {next : α → Run (State κ μ) β} (first : Lawful {} s.ledger s.ledger.stack true (run s))
    (rest : ∀ value (reached : State κ μ), reached.ledger.Outermost number →
      Exec {} s.ledger true reached.ledger → (next value reached).2.ledger.Outermost number) :
    ((run >>= next) s).2.ledger.Outermost number := by
  refine Run.bind_snd (fun s : State κ μ => s.ledger.Outermost number) (h.lawful first)
    fun value reached ran now => ?_
  have exec := first.exec
  rw [ran] at exec
  exact rest value reached now exec

end Outermost

end Ledger

/-! ## Turns -/

namespace Ledger.Outermost

variable {event : String} {notice : Notice} {entry : ExtensionHandle × Registration}
  {listed rest : List (ExtensionHandle × Registration)} {outcome : DispatchOutcome}

/-- One entry has its turn. -/
theorem notifyEntry (lawful : call.IsLawful) (h : s.ledger.Outermost number)
    (under : s.ledger.IsUnderway number notice listed (entry :: rest) outcome) :
    (ExtensionProxy.notifyEntry call.noting event number notice entry.1 entry.2 outcome
      s).2.ledger.Outermost number := by
  have carried : Carries number s.ledger s.ledger.stack (ExtensionProxy.notifyEntry call.noting event
      number notice entry.1 entry.2 outcome s) _ := Carries.notifyEntry lawful h.sound under
  obtain ⟨exec, stack⟩ := carried.lawful
  refine ⟨exec.path.sound h.sound, exec.path.marked h.marked, stack.trans h.quiet,
    Nat.lt_of_lt_of_le h.begun exec.path.dispatches_grow, ?_⟩
  -- The turn finds nobody running, so the notice is taken at once or there is nobody to take it.
  have idle := h.marked.isRunning h.quiet entry.2.target
  let reached := s.note (.reached number entry.2.target)
  have turn : reached.ledger.Direct number := h.direct.reached idle
  simp only [ExtensionProxy.notifyEntry, Run.note_bind_apply]
  change ((ExtensionProxy.notify call.noting entry.2.target number notice >>= _)
    reached).2.ledger.Direct number
  simp only [ExtensionProxy.notify]
  rcases deliver_cases call.noting entry.2.target
    (fun code => call.noting (.notify entry.2.target code number notice)) reached with
    ⟨found, ready, run⟩ | ⟨busy, run⟩ | ⟨gone, run⟩
  · have step := Step.deliver s.ledger number notice entry found under.isTurn ready
    have inner := Lawful.enterInstance (s := reached) lawful entry.2.target
      (.notify entry.2.target found.code number notice) rfl (step.sound h.sound)
    have marked : (reached.ledger.mark entry.2.target true).Direct number := turn
    have after := (marked.note _ (by simp)).after h.begun inner.exec
    cases ran : enterInstance call.noting entry.2.target
        (call.noting (.notify entry.2.target found.code number notice)) reached with
    | mk result final =>
      rw [ran] at after
      cases result with
      | error stop =>
        rw [Run.bind_apply_of_error _ (run.trans (Run.bind_apply_of_error _ ran))]
        exact after
      | ok value =>
        rw [Run.bind_apply_of_ok _ (run.trans (Run.bind_apply_of_ok _ ran))]
        exact after
  · have running : s.ledger.context.isRunning entry.2.target = true := busy
    rw [idle] at running
    cases running
  · rw [Run.bind_apply_of_ok _ run]
    exact turn

/-- The rest of the listing has its turns. -/
theorem notifyAll (lawful : call.IsLawful) (rest : List (ExtensionHandle × Registration)) :
    ∀ (listed : List (ExtensionHandle × Registration)) (outcome : DispatchOutcome) (s : State κ μ),
      s.ledger.Outermost number → s.ledger.IsUnderway number notice listed rest outcome →
      (ExtensionProxy.notifyAll call.noting event number notice rest outcome
        s).2.ledger.Outermost number := by
  induction rest with
  | nil =>
    intro _ _ _ h _
    exact h
  | cons entry rest ih =>
    -- Whatever the first entry's turn leads to, nothing is going on when the next one has its turn.
    intro listed outcome s h under
    have now : (ExtensionProxy.notifyEntry call.noting event number notice entry.1 entry.2 outcome
        s).2.ledger.Outermost number := h.notifyEntry lawful under
    have carried : Carries number s.ledger s.ledger.stack (ExtensionProxy.notifyEntry call.noting
        event number notice entry.1 entry.2 outcome s) _ := Carries.notifyEntry lawful h.sound under
    exact Run.bind_snd (fun s : State κ μ => s.ledger.Outermost number) now fun next reached ran now =>
      ih _ next reached now (carried.known next reached ran)

/-- A notice is sent to whoever is registered. -/
theorem broadcast (lawful : call.IsLawful) (h : s.ledger.Outermost number)
    (fresh : s.ledger.IsFresh number) (delivered : outcome.delivered = 0)
    (deferred : outcome.deferred = 0) :
    (ExtensionProxy.broadcast call.noting event number notice outcome
      s).2.ledger.Outermost number := by
  have step := Step.fanOut s.ledger number notice fresh.begun fresh.silent fresh.unsettled
  exact notifyAll lawful s.registry.entries [] outcome (s.note (.fannedOut number notice))
    ⟨step.sound h.sound, step.marked h.marked, h.quiet, h.begun, h.direct.note _ (by simp)⟩
    (fresh.underway notice delivered deferred)

end Ledger.Outermost

/-! ## Events -/

namespace Ledger.Outermost

variable (lawful : call.IsLawful) (h : s.ledger.Outermost number)

include lawful h

theorem fireDocument (event : HostEvent) (doc : DocumentHandle) (signal : DocumentSignal) :
    (ExtensionProxy.fireDocument call.noting event doc signal s).2.ledger.Outermost number := by
  simp only [ExtensionProxy.fireDocument, Run.get_bind_apply]
  cases s.documents.get? doc with
  | none => exact h
  | some wrapper =>
    refine h.bind (Lawful.emitTopic lawful h.sound _ _) fun emission reached now _ => ?_
    by_cases closed : signal = .closed
    · simp only [closed, if_true]
      exact now.bind (Lawful.removeDocument doc) fun _ _ last _ => last
    · simp only [closed, if_false]
      exact now

theorem fireEditor (doc : DocumentHandle) (note : EditorNote) :
    (ExtensionProxy.fireEditor call.noting doc note s).2.ledger.Outermost number := by
  simp only [ExtensionProxy.fireEditor]
  cases note.kind with
  | none => exact h
  | some kind =>
    simp only [Run.get_bind_apply]
    cases s.documents.get? doc with
    | none => exact h
    | some wrapper =>
      exact h.bind (Lawful.emitTopic lawful h.sound _ _) fun _ _ now _ => now

theorem fireDialog (event : HostEvent) (moment : DialogMoment) (dialog : DialogHandle) :
    (ExtensionProxy.fireDialog call.noting event moment dialog s).2.ledger.Outermost number := by
  simp only [ExtensionProxy.fireDialog, Run.get_bind_apply]
  cases s.workspace with
  | none => exact h
  | some workspace => exact h.bind (Lawful.emitTopic lawful h.sound _ _) fun _ _ now _ => now

theorem setCategory (doc : DocumentHandle) (previous : Option CategoryHandle) :
    (ExtensionProxy.setCategory call.noting doc previous s).2.ledger.Outermost number := by
  refine h.bind (Lawful.addDocument doc) fun wrapper reached now _ => ?_
  simp only [Run.get_bind_apply]
  exact now.bind (Lawful.emitTopic lawful now.sound _ _) fun _ _ last _ => last

variable (fresh : s.ledger.IsFresh number)

include fresh

theorem openDocument (event : HostEvent) (doc : DocumentHandle) :
    (ExtensionProxy.openDocument call.noting event number doc s).2.ledger.Outermost number :=
  h.bind (Lawful.addDocument doc) fun _ _ now exec => now.broadcast lawful (fresh.after exec) rfl rfl

theorem openWorkspace (event : HostEvent) (handle : WorkspaceHandle) (config : KeyFile) :
    (ExtensionProxy.openWorkspace call.noting event number handle config
      s).2.ledger.Outermost number := by
  refine h.bind (Lawful.installWorkspace handle config) fun installed reached now exec => ?_
  obtain ⟨opened, before⟩ := installed
  simp only [Run.get_bind_apply]
  cases before.bind reached.workspaceWrapper? with
  | none => exact now.broadcast lawful (fresh.after exec) rfl rfl
  | some replaced => exact broadcast (s := reached.tell _) lawful now (fresh.after exec) rfl rfl

theorem closeWorkspace (event : HostEvent) :
    (ExtensionProxy.closeWorkspace call.noting event number s).2.ledger.Outermost number := by
  have announce : ∀ (ran : Nat) (reached : State κ μ), reached.ledger.Outermost number →
      reached.ledger.IsFresh number →
      ((ExtensionProxy.broadcast call.noting event.name number .workspaceClosed
        { resolved := true, observers := ran } >>= fun outcome =>
          ExtensionProxy.setWorkspace none >>= fun _ => pure outcome) reached).2.ledger.Outermost
        number := by
    intro ran reached now fresh
    have told : (ExtensionProxy.broadcast call.noting event.name number .workspaceClosed
        { resolved := true, observers := ran } reached).2.ledger.Outermost number :=
      now.broadcast lawful fresh rfl rfl
    exact Run.bind_snd (fun s : State κ μ => s.ledger.Outermost number) told fun _ _ _ last =>
      last.bind Lawful.shutWorkspace fun _ _ shut _ => shut
  simp only [ExtensionProxy.closeWorkspace, Run.get_bind_apply]
  cases s.workspace with
  | none => exact announce 0 (s.tell _) h fresh
  | some workspace =>
    exact h.bind (Lawful.emitTopic lawful h.sound _ _) fun emission reached now exec =>
      announce emission.ran reached now (fresh.after exec)

/-- Whatever an event asks for. -/
theorem routeEvent (event : HostEvent) :
    (ExtensionProxy.routeEvent call.noting event number s).2.ledger.Outermost number := by
  cases event with
  | document moment doc =>
    simp only [ExtensionProxy.routeEvent]
    cases moment.signal? with
    | none => exact openDocument lawful h fresh _ doc
    | some signal => exact fireDocument lawful h _ doc signal
  | categorySet doc previous => exact setCategory lawful h doc previous
  | editor doc note => exact fireEditor lawful h doc note
  | workspaceOpened handle config => exact openWorkspace lawful h fresh _ handle config
  | workspaceClosed => exact closeWorkspace lawful h fresh _
  | dialog moment dialog => exact fireDialog lawful h _ moment dialog
  | categoriesReloaded => exact h.bind Lawful.reloadCategories fun _ _ now _ => now

end Ledger.Outermost

/-! ## A whole dispatch -/

/-- Nobody is running when an outermost dispatch gets to it. -/
theorem dispatch_direct (lawful : call.IsLawful) (sound : s.ledger.Sound) (marked : s.ledger.Marked)
    (quiet : s.ledger.stack = []) (event : HostEvent) :
    (ExtensionProxy.dispatch call.noting event s).2.ledger.Direct s.dispatches := by
  let number := s.dispatches
  let begun : State κ μ := { s with dispatches := s.dispatches + 1 }.note (.dispatched number event)
  have step : Step s.ledger begun.ledger := .dispatch s.ledger event
  -- Nothing is known yet of a dispatch whose number has not been taken.
  have silent : s.ledger.advance.Direct number := by
    have none : s.ledger.history.about (.dispatch number) = [] :=
      sound.numbered number (Nat.le_refl number)
    rw [Direct, history_advance, none]
    intro moment there
    cases there
  have start : begun.ledger.Outermost number :=
    ⟨step.sound sound, step.marked marked, quiet, Nat.lt_succ_self number,
      silent.note (.dispatched number event) (by simp)⟩
  have told : (ExtensionProxy.routeEvent call.noting event number (begun.tell ⟨.debug,
      "Dispatching host notification", [("event", event.name)]⟩)).2.ledger.Outermost number :=
    Outermost.routeEvent (s := begun.tell _) lawful start (sound.numbered.isFresh event) event
  change ((ExtensionProxy.routeEvent call.noting event number >>= fun outcome =>
    Run.note (.settled number outcome) >>= fun _ => pure outcome) (begun.tell _)).2.ledger.Direct
      number
  refine Run.bind_snd (fun s : State κ μ => s.ledger.Direct number) told.direct
    fun outcome reached _ direct => ?_
  exact direct.note (.settled number outcome) (by simp)

/-- Whoever is alive when an outermost dispatch gets to it is called at once, also if the dispatch is
stopped later. -/
theorem dispatch_notifies (lawful : call.IsLawful) (path : Path Ledger.empty s.ledger)
    (quiet : s.ledger.stack = []) (event : HostEvent) {moment : Moment κ} {past : History κ}
    (there : moment :: past <:+ (ExtensionProxy.dispatch call.noting event s).2.history)
    {target : InstanceId} (what : moment.what = .reached s.dispatches target)
    (alive : moment.context.isAlive target = true) :
    ∃ start, start :: moment :: past <:+ (ExtensionProxy.dispatch call.noting event s).2.history ∧
      start.what.Notifies s.dispatches target := by
  have sound := path.sound Ledger.empty_sound
  have direct := dispatch_direct lawful sound (path.marked Ledger.empty_marked) quiet event
  have part : moment ∈ (ExtensionProxy.dispatch call.noting event s).2.ledger.history.about
      (.dispatch s.dispatches) := by
    refine List.mem_filter.mpr ⟨there.subset List.mem_cons_self, ?_⟩
    rw [what]
    exact beq_self_eq_true _
  have idle := direct moment part target what
  obtain ⟨before, after, -, step, rest, adds⟩ :=
    Path.added (path.trans (Lawful.dispatch lawful sound event).exec.path) there
  -- The step that added the turn found the instance ready, busy or gone; the last two are excluded.
  obtain ⟨-, context, notice, entry, -, -, ready | busy | gone⟩ := step.reaches adds what
  · obtain ⟨found, -, start, history, notifies⟩ := ready
    exact ⟨start, history ▸ rest.history_grows, notifies⟩
  · rw [← context, idle] at busy
    cases busy.1
  · rw [← context, alive] at gone
    cases gone

end ExtensionProxy
