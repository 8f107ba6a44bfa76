import ExtensionProxy.Proofs.Holdings
import ExtensionProxy.Proofs.Queue
import ExtensionProxy.Proofs.Timeline
import ExtensionProxy.Proxy.Interface

/-!
# Lawful runs

A run of the proxy is lawful if it takes a path of steps, leaves the call stack as it found it, and
keeps its hands off what others are working on: a record that is in no slot is in the hands of
whoever took it, and a dispatch that has begun is the affair of whoever began it.

`Lawful` is the judgement that is proved of every function of the proxy, given that the foreign code
it calls is lawful; laws about all foreign code then follow by induction on the levels of the stack.
-/

set_option autoImplicit false

namespace ExtensionProxy

variable {κ μ α β : Type}

/-! ## What steps keep -/

namespace Ledger

/-- Nothing has happened yet in dispatches that are still to come. -/
def Numbered (c : Ledger κ) : Prop :=
  ∀ number, c.context.dispatches ≤ number → c.history.about (.dispatch number) = []

/-- A part of a dispatch adds nothing to what is known elsewhere. -/
theorem about_note_of_ne (what : Happening κ) {number : Nat} {strand : Strand}
    (here : what.strand? = some (.dispatch number)) (h : strand ≠ .dispatch number) (c : Ledger κ) :
    (c.note what).history.about strand = c.history.about strand :=
  History.about_cons_of_ne here h.symm c.history

theorem about_reap (target : InstanceId) (c : Ledger κ) (strand : Strand) :
    (c.reap target).history.about strand = c.history.about strand := by
  simp only [reap, farewell]
  split
  · split <;> rfl
  · rfl

theorem about_release? (binding : Option BindingId) (c : Ledger κ) (strand : Strand) :
    (c.release? binding).history.about strand = c.history.about strand := by
  cases binding <;> rfl

/-- A dispatch that fanned out is one of those that have begun. -/
theorem Numbered.lt_of_fanOut? {c : Ledger κ} (h : c.Numbered) {number : Nat}
    {listing : Notice × List (ExtensionHandle × Registration)}
    (fanned : c.history.fanOut? number = some listing) : number < c.context.dispatches := by
  refine Nat.lt_of_not_le fun beyond => ?_
  simp [History.fanOut?, h number beyond] at fanned

/-- What is proved beside the steps and needed to take them. -/
structure Sound (c : Ledger κ) : Prop where
  /-- Records and slots. -/
  filing : c.Filing
  /-- Who holds what. -/
  holdings : c.Holdings
  /-- Dispatches are numbered. -/
  numbered : c.Numbered
  /-- Tasks wait in order. -/
  ordered : c.context.tasks.IsOrdered

end Ledger

namespace Step

variable {c d : Ledger κ}

theorem numbered (h : c.Numbered) (step : Step c d) : d.Numbered := by
  intro number beyond
  have other : ∀ {taken}, taken < c.context.dispatches → c.context.dispatches ≤ number →
      Strand.dispatch number ≠ .dispatch taken := by
    intro taken below above same
    cases same
    exact Nat.not_lt_of_le above below
  cases step with
  | dispatch event =>
    exact (Ledger.about_note_of_ne (.dispatched _ event) rfl
      (fun same => Nat.ne_of_gt beyond (Strand.dispatch.inj same)) c.advance).trans
        (h number (Nat.le_of_succ_le beyond))
  | fanOut taken notice begun =>
    exact (Ledger.about_note_of_ne (.fannedOut taken notice) rfl (other begun beyond) c).trans
      (h number beyond)
  | settle taken outcome may =>
    exact (Ledger.about_note_of_ne (.settled taken outcome) rfl (other may.begun beyond) c).trans
      (h number beyond)
  | deliver taken notice entry found turn | defer taken notice entry found turn
    | miss taken notice entry turn =>
    obtain ⟨done, rest, fanned, -⟩ := turn.listed
    exact (Ledger.about_note_of_ne (.reached taken entry.2.target) rfl
      (other (h.lt_of_fanOut? fanned) beyond) c).trans (h number beyond)
  | duplicate | clean | discard | leave =>
    exact (Ledger.about_reap _ _ _).trans (h number beyond)
  | adopt | cleaned | cleanBare | discardBare =>
    exact (Ledger.about_release? _ _ _).trans (h number beyond)
  | _ => exact h number beyond

theorem sound (h : c.Sound) (step : Step c d) : d.Sound :=
  ⟨h.filing.step step, h.holdings.step h.filing step, step.numbered h.numbered,
    step.ordered h.ordered⟩

end Step

namespace Path

variable {c d : Ledger κ}

theorem sound (path : Path c d) (h : c.Sound) : d.Sound := by
  induction path with
  | refl => exact h
  | tail _ step ih => exact step.sound ih

theorem spent (path : Path c d) (filing : c.Filing) {binding : BindingId}
    (h : c.IsSpent binding) : d.IsSpent binding := by
  have both : d.Filing ∧ d.IsSpent binding := by
    induction path with
    | refl => exact ⟨filing, h⟩
    | tail _ step ih => exact ⟨ih.1.step step, ih.2.step ih.1 step⟩
  exact both.2

end Path

/-! ## Conduct -/

/-- What a run may do although it is, in general, the affair of others. -/
structure Licence where
  /-- A record in no slot that it may change. -/
  record : Option RecordId := none
  /-- A record in no slot that it may change and put into one. -/
  shelf : Option RecordId := none
  /-- A dispatch that has begun and that it may carry on. -/
  number : Option Nat := none

/-- Records that were in no slot are where they were, and as they were. -/
structure Keeps (licence : Licence) (c d : Ledger κ) : Prop where
  /-- They are in no slot. -/
  loose : ∀ id, id.index < c.context.recordCount → c.IsLoose id → licence.shelf ≠ some id →
    d.IsLoose id
  /-- They are as they were. -/
  same : ∀ id, id.index < c.context.recordCount → c.IsLoose id → licence.shelf ≠ some id →
    licence.record ≠ some id → d.context.record? id = c.context.record? id

/-- Dispatches that had begun are as they were, and those that begin come to their ends unless the
run is stopped, as do the drains. -/
structure Tells (licence : Licence) (c : Ledger κ) (ok : Bool) (d : Ledger κ) : Prop where
  /-- A dispatch that may be carried on had begun. -/
  own : ∀ given, licence.number = some given → given < c.context.dispatches
  /-- The others are as they were. -/
  apart : ∀ other, other < c.context.dispatches → licence.number ≠ some other →
    d.history.about (.dispatch other) = c.history.about (.dispatch other)
  /-- Those that began came to their ends. -/
  settled : ok = true → ∀ other, c.context.dispatches ≤ other → other < d.context.dispatches →
    d.history.outcome? other ≠ none
  /-- No drain was stopped. -/
  unbroken : ok = true → d.history.about .breaks = c.history.about .breaks

/-- How a run got from one ledger to another. -/
structure Exec (licence : Licence) (c : Ledger κ) (ok : Bool) (d : Ledger κ) : Prop where
  /-- It took steps. -/
  path : Path c d
  /-- It kept its hands off the records of others. -/
  keeps : Keeps licence c d
  /-- It kept its hands off the dispatches of others. -/
  tells : Tells licence c ok d

section

variable {licence : Licence} {c d e : Ledger κ} {ok more : Bool}

theorem Keeps.trans (first : Keeps licence c d) (second : Keeps licence d e)
    (records : c.context.recordCount ≤ d.context.recordCount) : Keeps licence c e := by
  refine ⟨fun id made loose off => ?_, fun id made loose off others => ?_⟩
  · exact second.loose id (Nat.lt_of_lt_of_le made records) (first.loose id made loose off) off
  · exact (second.same id (Nat.lt_of_lt_of_le made records) (first.loose id made loose off) off
      others).trans (first.same id made loose off others)

/-- Who may do more keeps what who may do less keeps. -/
theorem Keeps.widen {wider : Licence} (h : Keeps licence c d)
    (record : ∀ id, licence.record = some id → wider.record = some id ∨ wider.shelf = some id)
    (shelf : ∀ id, licence.shelf = some id → wider.shelf = some id) : Keeps wider c d := by
  refine ⟨fun id made loose off => ?_, fun id made loose off others => ?_⟩
  · exact h.loose id made loose fun same => off (shelf id same)
  · refine h.same id made loose (fun same => off (shelf id same)) fun same => ?_
    rcases record id same with same | same
    · exact others same
    · exact off same

/-- Records that were in a slot, or are new, need not be kept. -/
theorem Keeps.hide_record (h : Keeps licence c d) (slotted : ∀ id, licence.record = some id →
    id.index < c.context.recordCount → ¬c.IsLoose id) :
    Keeps { licence with record := none } c d :=
  ⟨h.loose, fun id made loose off _ => h.same id made loose off fun same =>
    slotted id same made loose⟩

/-- Nor need they be kept out of slots. -/
theorem Keeps.hide_shelf (h : Keeps licence c d) (slotted : ∀ id, licence.shelf = some id →
    id.index < c.context.recordCount → ¬c.IsLoose id) :
    Keeps { licence with shelf := none } c d :=
  ⟨fun id made loose _ => h.loose id made loose fun same => slotted id same made loose,
    fun id made loose _ => h.same id made loose fun same => slotted id same made loose⟩

theorem Tells.trans (first : Tells licence c ok d) (second : Tells licence d more e)
    (dispatches : c.context.dispatches ≤ d.context.dispatches) :
    Tells licence c (ok && more) e := by
  refine ⟨first.own, fun other begun others => ?_, fun fine other above below => ?_, fun fine => ?_⟩
  · exact (second.apart other (Nat.lt_of_lt_of_le begun dispatches) others).trans
      (first.apart other begun others)
  · obtain ⟨fine_first, fine_second⟩ := Bool.and_eq_true_iff.mp fine
    by_cases old : other < d.context.dispatches
    · have others : licence.number ≠ some other := fun same =>
        Nat.not_lt_of_le above (first.own other same)
      rw [History.outcome?, second.apart other old others]
      exact first.settled fine_first other above old
    · exact second.settled fine_second other (Nat.le_of_not_lt old) below
  · obtain ⟨fine_first, fine_second⟩ := Bool.and_eq_true_iff.mp fine
    exact (second.unbroken fine_second).trans (first.unbroken fine_first)

namespace Exec

theorem refl (own : ∀ given, licence.number = some given → given < c.context.dispatches) :
    Exec licence c ok c :=
  ⟨.refl, ⟨fun _ _ loose _ => loose, fun _ _ _ _ _ => rfl⟩, own, fun _ _ _ => rfl,
    fun _ _ above below => absurd below (Nat.not_lt_of_le above), fun _ => rfl⟩

/-- One run after another; it was stopped if one of the two was. -/
theorem trans (first : Exec licence c ok d) (second : Exec licence d more e) :
    Exec licence c (ok && more) e :=
  ⟨first.path.trans second.path, first.keeps.trans second.keeps first.path.records_grow,
    first.tells.trans second.tells first.path.dispatches_grow⟩

/-- What the given dispatch had begun before has begun later, too. -/
theorem own_after (first : Exec licence c ok d) :
    ∀ given, licence.number = some given → given < d.context.dispatches := fun given same =>
  Nat.lt_of_lt_of_le (first.tells.own given same) first.path.dispatches_grow

/-- Who may change nothing of others may do the same while changing something. -/
theorem weaken (h : Exec {} c ok d)
    (own : ∀ given, licence.number = some given → given < c.context.dispatches) :
    Exec licence c ok d :=
  ⟨h.path, ⟨fun id made loose _ => h.keeps.loose id made loose nofun,
    fun id made loose _ _ => h.keeps.same id made loose nofun nofun⟩,
    own, fun other begun _ => h.tells.apart other begun nofun, h.tells.settled, h.tells.unbroken⟩

/-- Who may do more with records may do what who may do less did. -/
theorem widen {wider : Licence} (h : Exec licence c ok d)
    (record : ∀ id, licence.record = some id → wider.record = some id ∨ wider.shelf = some id)
    (shelf : ∀ id, licence.shelf = some id → wider.shelf = some id)
    (number : wider.number = licence.number) : Exec wider c ok d :=
  ⟨h.path, h.keeps.widen record shelf, by rw [number]; exact h.tells.own,
    by rw [number]; exact h.tells.apart, h.tells.settled, h.tells.unbroken⟩

/-- What is done to a record that was in a slot, or that is new, is the affair of nobody else. -/
theorem hide_record (h : Exec licence c ok d) (slotted : ∀ id, licence.record = some id →
    id.index < c.context.recordCount → ¬c.IsLoose id) :
    Exec { licence with record := none } c ok d :=
  ⟨h.path, h.keeps.hide_record slotted, ⟨h.tells.own, h.tells.apart, h.tells.settled, h.tells.unbroken⟩⟩

/-- So is putting it into a slot. -/
theorem hide_shelf (h : Exec licence c ok d) (slotted : ∀ id, licence.shelf = some id →
    id.index < c.context.recordCount → ¬c.IsLoose id) :
    Exec { licence with shelf := none } c ok d :=
  ⟨h.path, h.keeps.hide_shelf slotted, ⟨h.tells.own, h.tells.apart, h.tells.settled, h.tells.unbroken⟩⟩

/-- A step that changes no slot, no record of others and nothing that is known of dispatches. -/
theorem of_quiet (step : Step c d) (slots : d.context.slots = c.context.slots)
    (records : ∀ id, licence.record ≠ some id → d.context.record? id = c.context.record? id)
    (dispatches : d.context.dispatches = c.context.dispatches)
    (about : ∀ other, d.history.about other = c.history.about other)
    (own : ∀ given, licence.number = some given → given < c.context.dispatches) :
    Exec licence c ok d := by
  refine ⟨.single step, ⟨fun id _ loose _ slot => ?_, fun id _ _ _ others => records id others⟩,
    own, fun other _ _ => about _, fun _ other above below => ?_, fun _ => about _⟩
  · rw [slots]
    exact loose slot
  · exact absurd (dispatches ▸ below) (Nat.not_lt_of_le above)

/-- Such a step after others. -/
theorem quiet (first : Exec licence c ok d) (step : Step d e)
    (slots : e.context.slots = d.context.slots)
    (records : ∀ id, licence.record ≠ some id → e.context.record? id = d.context.record? id)
    (dispatches : e.context.dispatches = d.context.dispatches)
    (about : ∀ other, e.history.about other = d.history.about other) : Exec licence c ok e :=
  Bool.and_true ok ▸ first.trans (of_quiet step slots records dispatches about first.own_after)

end Exec

end

/-- A run came lawfully to its outcome: from a ledger, being the rest of a run that was fine so far or
not, and with the given call stack at the end. -/
structure Lawful (licence : Licence) (c : Ledger κ) (base : List (Activity κ)) (fine : Bool)
    (out : Except Stop α × State κ μ) : Prop where
  /-- How it got there. -/
  exec : Exec licence c (fine && out.1.isOk) out.2.ledger
  /-- What goes on at the end. -/
  stack : out.2.ledger.stack = base

/-- Foreign code is lawful, wherever it is called. -/
def Caller.IsLawful (call : Caller κ μ) : Prop :=
  ∀ request s, s.ledger.Sound → Lawful {} s.ledger s.ledger.stack true (call request s)

namespace Lawful

variable {licence : Licence} {c d : Ledger κ} {base : List (Activity κ)} {fine : Bool}

/-- Nothing more is done. -/
theorem done {value : α} {s : State κ μ} (exec : Exec licence c fine s.ledger)
    (stack : s.ledger.stack = base) : Lawful licence c base fine (.ok value, s) :=
  ⟨(Bool.and_true fine).symm ▸ exec, stack⟩

/-- Whoever may change nothing of others may do the same while changing something. -/
theorem weaken {out : Except Stop α × State κ μ} (h : Lawful {} c base fine out)
    (own : ∀ given, licence.number = some given → given < c.context.dispatches) :
    Lawful licence c base fine out :=
  ⟨h.exec.weaken own, h.stack⟩

/-- What was done before is put in front. -/
theorem after {out : Except Stop α × State κ μ} (first : Exec licence c fine d)
    (rest : Lawful {} d base true out) : Lawful licence c base fine out :=
  ⟨first.trans (rest.exec.weaken first.own_after), rest.stack⟩

/-- What was done before under the same licence is put in front. -/
theorem follow {out : Except Stop α × State κ μ} (first : Exec licence c fine d)
    (rest : Lawful licence d base true out) : Lawful licence c base fine out :=
  ⟨first.trans rest.exec, rest.stack⟩

/-- What was done in the middle of a run, the call stack being as it was. -/
theorem resume {s : State κ μ} {out : Except Stop α × State κ μ}
    (first : Exec licence c fine s.ledger) (stack : s.ledger.stack = base)
    (rest : Lawful licence s.ledger s.ledger.stack true out) : Lawful licence c base fine out :=
  stack ▸ follow first rest

/-- One run after the other. -/
theorem bind {run : Run (State κ μ) α} {next : α → Run (State κ μ) β} {s : State κ μ}
    (first : Lawful licence c base true (run s))
    (rest : ∀ value reached, run s = (.ok value, reached) →
      Exec licence c true reached.ledger → reached.ledger.stack = base →
      Lawful licence c base true (next value reached)) :
    Lawful licence c base true ((run >>= next) s) := by
  cases h : run s with
  | mk result reached =>
    have exec := first.exec
    have stack := first.stack
    rw [h] at exec stack
    cases result with
    | ok value =>
      rw [Run.bind_apply_of_ok next h]
      exact rest value reached h exec stack
    | error stop =>
      rw [Run.bind_apply_of_error next h]
      exact ⟨exec, stack⟩

/-- A value is made of the one that a run came to. -/
theorem map {run : Run (State κ μ) α} {f : α → β} {s : State κ μ}
    (first : Lawful licence c base fine (run s)) :
    Lawful licence c base fine ((run >>= fun value => pure (f value)) s) := by
  cases h : run s with
  | mk result reached =>
    have exec := first.exec
    have stack := first.stack
    rw [h] at exec stack
    cases result with
    | ok value =>
      rw [Run.bind_apply_of_ok _ h]
      exact ⟨exec, stack⟩
    | error stop =>
      rw [Run.bind_apply_of_error _ h]
      exact ⟨exec, stack⟩

/-- A last act is done however the run ended; here the run and its last act are judged together. -/
theorem ensuring_whole {run : Run (State κ μ) α} {last : Run (State κ μ) Unit} {s : State κ μ}
    (whole : Lawful licence c base (fine && (run s).1.isOk) (last (run s).2)) :
    Lawful licence c base fine (Run.ensuring run last s) := by
  refine ⟨?_, ?_⟩
  · rw [Run.ensuring_isOk, Run.ensuring_snd, ← Bool.and_assoc]
    exact whole.exec
  · rw [Run.ensuring_snd]
    exact whole.stack

/-- A last act that only changes the state is done however the run ended. -/
theorem ensuring_modify {run : Run (State κ μ) α} {change : State κ μ → State κ μ} {s : State κ μ}
    (exec : Exec licence c (fine && (run s).1.isOk) (change (run s).2).ledger)
    (stack : (change (run s).2).ledger.stack = base) :
    Lawful licence c base fine (Run.ensuring run (Run.modify change) s) :=
  ensuring_whole ⟨(Bool.and_true _).symm ▸ exec, stack⟩

/-- A last act is done however the run ended. -/
theorem ensuring {run : Run (State κ μ) α} {last : Run (State κ μ) Unit} {s : State κ μ}
    (first : Lawful licence c base fine (run s))
    (second : Lawful licence (run s).2.ledger (run s).2.ledger.stack true (last (run s).2)) :
    Lawful licence c base fine (Run.ensuring run last s) :=
  ensuring_whole ⟨(follow first.exec second).exec, second.stack.trans first.stack⟩

end Lawful

/-- A run that came lawfully to its outcome, and what is known of its value if it was not stopped. -/
structure Yields (licence : Licence) (c : Ledger κ) (base : List (Activity κ))
    (out : Except Stop α × State κ μ) (known : α → Ledger κ → Prop) : Prop where
  /-- The run is lawful. -/
  lawful : Lawful licence c base true out
  /-- What is known of its value. -/
  known : ∀ value reached, out = (.ok value, reached) → known value reached.ledger

namespace Yields

variable {licence : Licence} {c d : Ledger κ} {base : List (Activity κ)}

/-- Nothing more is done. -/
theorem done {value : α} {s : State κ μ} {known : α → Ledger κ → Prop}
    (exec : Exec licence c true s.ledger) (stack : s.ledger.stack = base)
    (holds : known value s.ledger) : Yields licence c base (.ok value, s) known := by
  refine ⟨Lawful.done exec stack, fun other reached run => ?_⟩
  cases run
  exact holds

/-- One run after the other. -/
theorem bind {run : Run (State κ μ) α} {next : α → Run (State κ μ) β} {s : State κ μ}
    {first : α → Ledger κ → Prop} {second : β → Ledger κ → Prop} (sound : c.Sound)
    (start : Yields licence c base (run s) first)
    (rest : ∀ value (reached : State κ μ), reached.ledger.Sound → first value reached.ledger →
      reached.ledger.stack = base →
      Yields licence reached.ledger reached.ledger.stack (next value reached) second) :
    Yields licence c base ((run >>= next) s) second := by
  cases h : run s with
  | mk result reached =>
    obtain ⟨⟨exec, stack⟩, known⟩ := start
    rw [h] at exec stack known
    cases result with
    | ok value =>
      rw [Run.bind_apply_of_ok next h]
      have inner := rest value reached (exec.path.sound sound) (known value reached rfl) stack
      exact ⟨Lawful.resume exec stack inner.lawful, inner.known⟩
    | error stop =>
      rw [Run.bind_apply_of_error next h]
      exact ⟨⟨exec, stack⟩, nofun⟩

/-- What was done before is put in front. -/
theorem follow {out : Except Stop α × State κ μ} {known : α → Ledger κ → Prop}
    (first : Exec licence c true d) (rest : Yields licence d base out known) :
    Yields licence c base out known :=
  ⟨Lawful.follow first rest.lawful, rest.known⟩

/-- What follows from what is known, and from how the run got there. -/
theorem imp {out : Except Stop α × State κ μ} {known other : α → Ledger κ → Prop}
    (h : Yields licence c base out known)
    (follows : ∀ value d, Path c d → known value d → other value d) :
    Yields licence c base out other := by
  refine ⟨h.lawful, fun value reached run => ?_⟩
  have path := h.lawful.exec.path
  rw [run] at path
  exact follows value _ path (h.known value reached run)

end Yields

/-! ## Calls of foreign code -/

/-- A call is put into the history around what it does. -/
theorem Caller.noting_apply (call : Caller κ μ) (request : Call κ) (s : State κ μ) :
    call.noting request s
      = ((call request (s.note (.began (.call request)))).1,
        (call request (s.note (.began (.call request)))).2.note (.ended (.call request))) := by
  simp only [Caller.noting, Run.during, Run.note_bind_apply, Run.ensuring]
  rfl

theorem Caller.noting_apply_of_called {call : Caller κ μ} {request : Call κ} {s returned : State κ μ}
    {result : Except Stop request.Reply}
    (called : call request (s.note (.began (.call request))) = (result, returned)) :
    call.noting request s = (result, returned.note (.ended (.call request))) := by
  rw [noting_apply, called]

end ExtensionProxy
