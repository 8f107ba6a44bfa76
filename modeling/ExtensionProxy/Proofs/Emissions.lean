import ExtensionProxy.Proofs.Course
import ExtensionProxy.Proofs.Foreign
import ExtensionProxy.Signal.System

/-!
# What emissions run

An emission runs the handlers that are connected when it starts, in the order in which they were
connected, each of them once, and passes over those that are running further up the stack.  What the
handlers do meanwhile, and they may connect, disconnect and emit as they like, does not change this.

A course lists what has happened, the first moment first.  `Follows` says what a moment does to the
handlers that are connected.  `Passage` says how emissions enclose what their handlers do; it carries
the ids of the handlers on the stack, and that no handler is ever on it twice follows from the shape
of a passage alone.
-/

set_option autoImplicit false

namespace ExtensionProxy

variable {κ μ α : Type}

/-- What has happened, in order. -/
abbrev SignalCourse (κ : Type) := List (SignalMoment κ)

namespace SignalCourse

/-! ## Reading a course -/

/-- The handlers that are connected at the end, in order of connection. -/
def connected (course : SignalCourse κ) : List (Slot κ) :=
  match course.getLast? with
  | some moment => moment.connected
  | none => []

/-- The handlers that were ever connected, in order. -/
def arrivals (course : SignalCourse κ) : List (Slot κ) :=
  course.filterMap fun moment =>
    match moment.what with
    | .connected slot => some slot
    | _ => none

variable (past : SignalCourse κ) (what : SignalHappening κ) (left : List (Slot κ))

@[simp] theorem connected_concat : connected (past ++ [⟨what, left⟩]) = left := by
  simp [connected]

@[simp] theorem arrivals_concat : arrivals (past ++ [⟨what, left⟩]) = match what with
    | .connected slot => arrivals past ++ [slot]
    | _ => arrivals past := by
  cases what <;> simp [arrivals]

/-! ## What a moment does -/

/-- What a moment does to the handlers that are connected. -/
def Follows (past : SignalCourse κ) (moment : SignalMoment κ) : Prop :=
  match moment.what with
  | .connected slot =>
    (∀ older ∈ arrivals past, older.id < slot.id) ∧ moment.connected = connected past ++ [slot]
  | .disconnected id => moment.connected = (connected past).filter fun slot => slot.id != id
  | .disconnectedOwner owner =>
    moment.connected = (connected past).filter fun slot => slot.owner != some owner
  | _ => moment.connected = connected past

/-- Every moment follows from what was before it. -/
abbrev Lawful (course : SignalCourse κ) : Prop := Course.Lawful Follows course

namespace Lawful

variable {course : SignalCourse κ}

/-- Handlers are numbered in the order in which they are connected. -/
theorem numbered (lawful : Lawful course) :
    (arrivals course).Pairwise fun first second => first.id < second.id := by
  induction lawful with
  | nil => exact .nil
  | @concat past moment lawful follows ih =>
    obtain ⟨what, left⟩ := moment
    cases what with
    | connected slot =>
      rw [arrivals_concat]
      refine List.pairwise_append.mpr ⟨ih, List.pairwise_singleton _ _, fun older came new same => ?_⟩
      rw [List.mem_singleton.mp same]
      exact follows.1 older came
    | _ => simpa using ih

/-- Those that are connected came in this order. -/
theorem connected_sublist (lawful : Lawful course) :
    (connected course).Sublist (arrivals course) := by
  induction lawful with
  | nil => exact .slnil
  | @concat past moment lawful follows ih =>
    obtain ⟨what, left⟩ := moment
    rw [connected_concat, arrivals_concat]
    cases what with
    | connected slot =>
      obtain ⟨-, rfl⟩ := follows
      exact ih.append_right [slot]
    | disconnected id =>
      cases follows
      exact List.filter_sublist.trans ih
    | disconnectedOwner owner =>
      cases follows
      exact List.filter_sublist.trans ih
    | _ =>
      cases follows
      exact ih

theorem ordered (lawful : Lawful course) :
    (connected course).Pairwise fun first second => first.id < second.id :=
  lawful.numbered.sublist lawful.connected_sublist

end Lawful

/-! ## The handlers on the stack -/

/-- The ids of the handlers on the stack after a course, innermost first. -/
def stack (running : List Nat) : SignalCourse κ → List Nat
  | [] => running
  | ⟨.runs slot, _⟩ :: rest => stack (slot.id :: running) rest
  | ⟨.answered _ _, _⟩ :: rest => stack running.tail rest
  | _ :: rest => stack running rest

/-- At no point is a handler on the stack twice. -/
def NeverTwice (running : List Nat) (course : SignalCourse κ) : Prop :=
  ∀ past, past <+: course → (stack running past).Nodup

theorem stack_append (running : List Nat) (first second : SignalCourse κ) :
    stack running (first ++ second) = stack (stack running first) second := by
  induction first generalizing running with
  | nil => rfl
  | cons moment rest ih =>
    obtain ⟨what, now⟩ := moment
    cases what <;> exact ih _

theorem NeverTwice.nil {running : List Nat} (distinct : running.Nodup) :
    NeverTwice running ([] : SignalCourse κ) := by
  intro past earlier
  rw [List.prefix_nil.mp earlier]
  exact distinct

theorem NeverTwice.append {running : List Nat} {first second : SignalCourse κ}
    (one : NeverTwice running first) (two : NeverTwice (stack running first) second) :
    NeverTwice running (first ++ second) := by
  intro past earlier
  rcases List.prefix_or_prefix_of_prefix earlier (List.prefix_append first second) with
    within | ⟨late, rfl⟩
  · exact one past within
  · rw [stack_append]
    exact two late ((List.prefix_append_right_inj first).mp earlier)

theorem NeverTwice.cons {running : List Nat} {moment : SignalMoment κ} {rest : SignalCourse κ}
    (distinct : running.Nodup) (more : NeverTwice (stack running [moment]) rest) :
    NeverTwice running (moment :: rest) := by
  rintro (_ | ⟨first, past⟩) earlier
  · exact distinct
  · obtain ⟨rfl, within⟩ := List.cons_prefix_cons.mp earlier
    rw [← List.singleton_append, stack_append]
    exact more past within

/-- What comes back to the stack that it found, with no handler on it twice at any point. -/
def Returns (running : List Nat) (course : SignalCourse κ) : Prop :=
  NeverTwice running course ∧ stack running course = running

theorem Returns.append {running : List Nat} {first second : SignalCourse κ}
    (one : Returns running first) (two : Returns running second) :
    Returns running (first ++ second) := by
  obtain ⟨apart, back⟩ := one
  refine ⟨apart.append (back.symm ▸ two.1), ?_⟩
  rw [stack_append, back, two.2]

end SignalCourse

/-! ## Emissions -/

/-- What an emission does with one handler: it runs it. -/
structure HandlerTurn (κ : Type) where
  /-- The handler. -/
  slot : Slot κ
  /-- The handlers that are connected when it starts. -/
  connected : List (Slot κ)
  /-- What happens while it runs. -/
  inner : SignalCourse κ
  /-- What it answered, or why it was stopped. -/
  result : Except Stop Bool
  /-- The handlers that are connected when it is over. -/
  left : List (Slot κ)

namespace HandlerTurn

/-- The moments of a turn. -/
def course (turn : HandlerTurn κ) : SignalCourse κ :=
  ⟨.runs turn.slot, turn.connected⟩ :: turn.inner ++ [⟨.answered turn.slot turn.result, turn.left⟩]

/-- The handler answered that it handled the emission. -/
def handled (turn : HandlerTurn κ) : Bool :=
  match turn.result with
  | .ok answer => answer
  | .error _ => false

end HandlerTurn

namespace SignalCourse

/-- What foreign code does between its start and its end, given the ids of the handlers that are
running then: one request after the other.  An emission runs what is connected and not running, and
while one of its handlers runs there is again foreign code. -/
inductive Passage : List Nat → SignalCourse κ → Prop
  | nil {running : List Nat} : Passage running []
  | connected {running : List Nat} (slot : Slot κ) (now : List (Slot κ)) {rest : SignalCourse κ}
      (more : Passage running rest) : Passage running (⟨.connected slot, now⟩ :: rest)
  | disconnected {running : List Nat} (id : Nat) (now : List (Slot κ)) {rest : SignalCourse κ}
      (more : Passage running rest) : Passage running (⟨.disconnected id, now⟩ :: rest)
  | disconnectedOwner {running : List Nat} (owner : ExtensionHandle) (now : List (Slot κ))
      {rest : SignalCourse κ} (more : Passage running rest) :
      Passage running (⟨.disconnectedOwner owner, now⟩ :: rest)
  /-- An emission runs all of its handlers, and tells how many and whether one of them handled it. -/
  | emission {running : List Nat} (turns : List (HandlerTurn κ)) (connected left : List (Slot κ))
      {rest : SignalCourse κ}
      (own : turns.map HandlerTurn.slot = connected.filter fun slot => slot.id ∉ running)
      (fine : ∀ turn ∈ turns, turn.result.isOk)
      (inner : ∀ turn ∈ turns, Passage (turn.slot.id :: running) turn.inner)
      (more : Passage running rest) :
      Passage running (⟨.emits, connected⟩ :: (turns.flatMap HandlerTurn.course ++
        ⟨.emitted (.ok ⟨turns.length, turns.any HandlerTurn.handled⟩), left⟩ :: rest))
  /-- An emission is stopped because its last handler was; it does not reach the others. -/
  | stoppedEmission {running : List Nat} (turns : List (HandlerTurn κ)) (last : HandlerTurn κ)
      (unreached : List (Slot κ)) (why : Stop) (connected left : List (Slot κ))
      {rest : SignalCourse κ}
      (own : (turns ++ [last]).map HandlerTurn.slot ++ unreached
        = connected.filter fun slot => slot.id ∉ running)
      (fine : ∀ turn ∈ turns, turn.result.isOk) (stopped : last.result = .error why)
      (inner : ∀ turn ∈ turns ++ [last], Passage (turn.slot.id :: running) turn.inner)
      (more : Passage running rest) :
      Passage running (⟨.emits, connected⟩ :: ((turns ++ [last]).flatMap HandlerTurn.course ++
        ⟨.emitted (.error why), left⟩ :: rest))

namespace Passage

variable {running : List Nat}

theorem append {first second : SignalCourse κ} (one : Passage running first)
    (two : Passage running second) : Passage running (first ++ second) := by
  induction one with
  | nil => exact two
  | connected slot now more ih => exact .connected slot now (ih two)
  | disconnected id now more ih => exact .disconnected id now (ih two)
  | disconnectedOwner owner now more ih => exact .disconnectedOwner owner now (ih two)
  | emission turns connected left own fine inner more _ ih =>
    simpa using Passage.emission turns connected left own fine inner (ih two)
  | stoppedEmission turns last unreached why connected left own fine stopped inner more _ ih =>
    simpa using Passage.stoppedEmission turns last unreached why connected left own fine stopped
      inner (ih two)

end Passage

/-- A handler that was not running and whose code returns, returns. -/
theorem Returns.turn {running : List Nat} {turn : HandlerTurn κ} (distinct : running.Nodup)
    (idle : turn.slot.id ∉ running)
    (inner : (turn.slot.id :: running).Nodup → Returns (turn.slot.id :: running) turn.inner) :
    Returns running turn.course := by
  have entered := List.nodup_cons.mpr ⟨idle, distinct⟩
  obtain ⟨apart, back⟩ := inner entered
  have last : stack (turn.slot.id :: running) (turn.inner ++ [⟨.answered turn.slot turn.result,
      turn.left⟩]) = running := by
    rw [stack_append, back]
    rfl
  refine ⟨.cons distinct (apart.append ?_), last⟩
  exact .cons (back.symm ▸ entered) (.nil (back.symm ▸ distinct))

theorem Returns.turns {running : List Nat} (distinct : running.Nodup) (turns : List (HandlerTurn κ))
    (idle : ∀ turn ∈ turns, turn.slot.id ∉ running)
    (inner : ∀ turn ∈ turns, (turn.slot.id :: running).Nodup →
      Returns (turn.slot.id :: running) turn.inner) :
    Returns running (turns.flatMap HandlerTurn.course) := by
  induction turns with
  | nil => exact ⟨.nil distinct, rfl⟩
  | cons turn turns ih =>
    rw [List.flatMap_cons]
    refine .append (.turn distinct (idle turn List.mem_cons_self) (inner turn List.mem_cons_self)) ?_
    exact ih (fun other there => idle other (List.mem_cons_of_mem _ there))
      fun other there => inner other (List.mem_cons_of_mem _ there)

/-- Foreign code leaves the stack as it was, and no handler is ever entered that is on it: an emission
runs only what is not running. -/
theorem Passage.returns {running : List Nat} {course : SignalCourse κ}
    (passage : Passage running course) (distinct : running.Nodup) : Returns running course := by
  -- The handlers of an emission were idle when it started, so they are when they are run.
  have idle : ∀ {running : List Nat} {turns : List (HandlerTurn κ)} {connected more : List (Slot κ)},
      turns.map HandlerTurn.slot ++ more = connected.filter (fun slot => slot.id ∉ running) →
      ∀ turn ∈ turns, turn.slot.id ∉ running := by
    intro running turns connected more own turn there
    have here : turn.slot ∈ connected.filter fun slot => slot.id ∉ running :=
      own ▸ List.mem_append_left _ (List.mem_map_of_mem there)
    exact of_decide_eq_true (List.mem_filter.mp here).2
  have around : ∀ {running : List Nat} {turns : List (HandlerTurn κ)} {now left : List (Slot κ)}
      {result : Except Stop Signal.Emission} {rest : SignalCourse κ}, running.Nodup →
      Returns running (turns.flatMap HandlerTurn.course) → Returns running rest →
      Returns running (⟨.emits, now⟩ :: (turns.flatMap HandlerTurn.course ++
        ⟨.emitted result, left⟩ :: rest)) := by
    intro running turns now left result rest distinct own more
    have tail : Returns running (⟨.emitted result, left⟩ :: rest) := ⟨.cons distinct more.1, more.2⟩
    have both := own.append tail
    exact ⟨.cons distinct both.1, both.2⟩
  induction passage with
  | nil => exact ⟨.nil distinct, rfl⟩
  | connected slot now more ih => exact ⟨.cons distinct (ih distinct).1, (ih distinct).2⟩
  | disconnected id now more ih => exact ⟨.cons distinct (ih distinct).1, (ih distinct).2⟩
  | disconnectedOwner owner now more ih => exact ⟨.cons distinct (ih distinct).1, (ih distinct).2⟩
  | emission turns connected left own fine inner more ihs ih =>
    refine around distinct (.turns distinct turns ?_ ihs) (ih distinct)
    exact idle ((List.append_nil _).trans own)
  | stoppedEmission turns last unreached why connected left own fine stopped inner more ihs ih =>
    exact around distinct (.turns distinct _ (idle own) ihs) (ih distinct)

end SignalCourse

/-! ## How foreign code changes the signal -/

namespace SignalWorld

open SignalCourse

theorem course_note (what : SignalHappening κ) (world : SignalWorld κ μ) :
    (world.note what).course = world.course ++ [⟨what, world.signal.slots⟩] := by
  simp [note, course]

/-- The record tells which handlers are connected. -/
structure Sound (world : SignalWorld κ μ) : Prop where
  lawful : Lawful world.course
  current : connected world.course = world.signal.slots
  /-- Every handler has an id that was given away. -/
  numbered : ∀ slot ∈ arrivals world.course, slot.id < world.signal.nextId

/-- A change of the signal that is put on record at once. -/
theorem Sound.note {world : SignalWorld κ μ} (sound : world.Sound) {what : SignalHappening κ}
    {signal : Signal κ} (follows : Follows world.course ⟨what, signal.slots⟩)
    (grows : world.signal.nextId ≤ signal.nextId)
    (new : ∀ slot, what = .connected slot → slot.id < signal.nextId) :
    (({ world with signal := signal } : SignalWorld κ μ).note what).Sound := by
  have course := course_note what ({ world with signal := signal } : SignalWorld κ μ)
  change _ = world.course ++ [⟨what, signal.slots⟩] at course
  refine ⟨course ▸ .concat sound.lawful follows, by rw [course]; exact connected_concat _ _ _,
    fun slot there => ?_⟩
  have old : slot ∈ arrivals world.course → slot.id < signal.nextId := fun there =>
    Nat.lt_of_lt_of_le (sound.numbered slot there) grows
  rw [course, arrivals_concat] at there
  cases what with
  | connected added =>
    rcases List.mem_append.mp there with before | now
    · exact old before
    · exact List.mem_singleton.mp now ▸ new added rfl
  | _ => exact old there

/-- Something that leaves the connected handlers alone is put on record. -/
theorem Sound.note_same {world : SignalWorld κ μ} (sound : world.Sound) {what : SignalHappening κ}
    (signal : Signal κ) (same : signal.slots = world.signal.slots)
    (next : signal.nextId = world.signal.nextId)
    (follows : Follows world.course ⟨what, connected world.course⟩)
    (new : ∀ slot, what ≠ .connected slot) :
    (({ world with signal := signal } : SignalWorld κ μ).note what).Sound := by
  refine sound.note ?_ (Nat.le_of_eq next.symm) fun slot here => absurd here (new slot)
  rw [same, ← sound.current]
  exact follows

/-- What foreign code does to a world: the record goes on to tell what is connected, the handlers that
were running are running again, and what happened was lawfully nested. -/
structure Conduct (world next : SignalWorld κ μ) : Prop where
  sound : next.Sound
  running : next.signal.running = world.signal.running
  passage : ∃ new, next.course = world.course ++ new ∧ Passage world.signal.running new

/-- Given that the record told what was connected. -/
def Keeps (world next : SignalWorld κ μ) : Prop := world.Sound → Conduct world next

theorem Keeps.refl (world : SignalWorld κ μ) : Keeps world world := fun sound =>
  ⟨sound, rfl, [], (List.append_nil _).symm, .nil⟩

theorem Keeps.trans {world middle next : SignalWorld κ μ} (first : Keeps world middle)
    (second : Keeps middle next) : Keeps world next := by
  intro sound
  obtain ⟨sound, running, one, course, passage⟩ := first sound
  obtain ⟨sound, running', two, course', passage'⟩ := second sound
  refine ⟨sound, running'.trans running, one ++ two, ?_, passage.append (running ▸ passage')⟩
  rw [course', course, List.append_assoc]

/-! ## The turns of an emission -/

/-- What an emission did in its turns: the record goes on, the handlers that were running are running
again, and while each turn lasted there was foreign code. -/
structure Turns (world : SignalWorld κ μ) (turns : List (HandlerTurn κ))
    (next : SignalWorld κ μ) : Prop where
  sound : next.Sound
  running : next.signal.running = world.signal.running
  course : next.course = world.course ++ turns.flatMap HandlerTurn.course
  inner : ∀ turn ∈ turns, Passage (turn.slot.id :: world.signal.running) turn.inner

theorem Turns.nothing {world : SignalWorld κ μ} (sound : world.Sound) : Turns world [] world :=
  ⟨sound, rfl, (List.append_nil _).symm, nofun⟩

theorem Turns.cons {world middle next : SignalWorld κ μ} {turn : HandlerTurn κ}
    {turns : List (HandlerTurn κ)} (first : Turns world [turn] middle)
    (more : Turns middle turns next) : Turns world (turn :: turns) next := by
  refine ⟨more.sound, more.running.trans first.running, ?_, ?_⟩
  · rw [more.course, first.course, List.append_assoc, ← List.flatMap_append]
    rfl
  · intro other there
    rcases List.mem_cons.mp there with rfl | there
    · exact first.inner other List.mem_cons_self
    · exact first.running ▸ more.inner other there

/-- A handler is run under its mark. -/
theorem runSlot_turn {call : (signalInterface κ μ α).Caller} {world : SignalWorld κ μ}
    (lawful : ∀ handler world, Keeps world (call handler world).2) (sound : world.Sound) (arg : α)
    (slot : Slot κ) :
    ∃ turn : HandlerTurn κ, turn.slot = slot ∧
      ∃ next, Signal.runSlot signalLens (runHandler call arg) slot world = (turn.result, next) ∧
        Turns world [turn] next := by
  let entered : SignalWorld κ μ :=
    ({ world with signal := world.signal.enter slot.id } : SignalWorld κ μ).note (.runs slot)
  have begun : entered.Sound := sound.note_same (world.signal.enter slot.id) rfl rfl rfl nofun
  have first : entered.course = world.course ++ [⟨.runs slot, world.signal.slots⟩] := course_note _ _
  obtain ⟨after, running, new, course, passage⟩ := lawful ⟨slot, arg⟩ entered begun
  let returned := (call ⟨slot, arg⟩ entered).2
  let result := (call ⟨slot, arg⟩ entered).1
  let finished : SignalWorld κ μ := { returned.note (.answered slot result) with
    signal := returned.signal.leave slot.id }
  refine ⟨⟨slot, world.signal.slots, new, result, returned.signal.slots⟩, rfl, finished, rfl, ?_⟩
  have told : finished.course
      = returned.course ++ [⟨.answered slot result, returned.signal.slots⟩] := course_note _ _
  have answered : (returned.note (.answered slot result)).Sound :=
    after.note_same returned.signal rfl rfl rfl nofun
  refine ⟨⟨answered.lawful, answered.current, answered.numbered⟩, ?_, ?_, ?_⟩
  · change returned.signal.running.erase slot.id = world.signal.running
    rw [running]
    exact List.erase_cons_head slot.id world.signal.running
  · rw [told, course, first]
    simp [HandlerTurn.course]
  · intro turn there
    rw [List.mem_singleton.mp there]
    exact passage

/-- The handlers of an emission have their turns, those that are running are passed over, until all
had theirs or one of them is stopped. -/
theorem emitSlots_turns {call : (signalInterface κ μ α).Caller}
    (lawful : ∀ handler world, Keeps world (call handler world).2) (arg : α)
    (slots : List (Slot κ)) :
    ∀ (done : Signal.Emission) (world : SignalWorld κ μ), world.Sound →
      (∃ turns next, Signal.emitSlots signalLens (runHandler call arg) slots done world
          = (.ok ⟨done.ran + turns.length, done.handled || turns.any HandlerTurn.handled⟩, next) ∧
        turns.map HandlerTurn.slot = slots.filter (fun slot => slot.id ∉ world.signal.running) ∧
        (∀ turn ∈ turns, turn.result.isOk) ∧ Turns world turns next) ∨
      ∃ turns last unreached why next,
        Signal.emitSlots signalLens (runHandler call arg) slots done world = (.error why, next) ∧
        (turns ++ [last]).map HandlerTurn.slot ++ unreached
          = slots.filter (fun slot => slot.id ∉ world.signal.running) ∧
        (∀ turn ∈ turns, turn.result.isOk) ∧ last.result = .error why ∧
        Turns world (turns ++ [last]) next := by
  induction slots with
  | nil =>
    intro done world sound
    refine .inl ⟨[], world, ?_, rfl, nofun, .nothing sound⟩
    simp [Signal.emitSlots]
  | cons slot rest ih =>
    intro done world sound
    by_cases running : slot.id ∈ world.signal.running
    · have passed : Signal.emitSlots signalLens (runHandler call arg) (slot :: rest) done world
          = Signal.emitSlots signalLens (runHandler call arg) rest done world := by
        simp [Signal.emitSlots, signalLens, Signal.isRunning, running]
      rw [passed, List.filter_cons_of_neg (by simpa using running)]
      exact ih done world sound
    · obtain ⟨turn, rfl, middle, run, first⟩ := runSlot_turn lawful sound arg slot
      have unfolded : Signal.emitSlots signalLens (runHandler call arg) (turn.slot :: rest) done world
          = (Signal.runSlot signalLens (runHandler call arg) turn.slot >>= fun answer =>
              Signal.emitSlots signalLens (runHandler call arg) rest (done.add answer)) world := by
        simp [Signal.emitSlots, signalLens, Signal.isRunning, running]
      rw [unfolded, List.filter_cons_of_pos (by simpa using running)]
      cases answered : turn.result with
      | error why =>
        rw [answered] at run
        refine .inr ⟨[], turn, _, why, middle, Run.bind_apply_of_error _ run, rfl, nofun, answered,
          first⟩
      | ok answer =>
        rw [answered] at run
        rw [Run.bind_apply_of_ok _ run]
        have handled : turn.handled = answer := by
          rw [HandlerTurn.handled, answered]
        have fine : ∀ {turns : List (HandlerTurn κ)}, (∀ turn ∈ turns, turn.result.isOk) →
            ∀ other ∈ turn :: turns, other.result.isOk := by
          intro turns fine other there
          rcases List.mem_cons.mp there with rfl | there
          · rw [answered]
            rfl
          · exact fine other there
        rw [← first.running]
        rcases ih (done.add answer) middle first.sound with
          ⟨turns, next, rounds, own, ok, more⟩ |
          ⟨turns, last, unreached, why, next, rounds, own, ok, stopped, more⟩
        · refine .inl ⟨turn :: turns, next, ?_, congrArg (turn.slot :: ·) own, fine ok,
            first.cons more⟩
          rw [rounds, Signal.Emission.add, ← handled, List.any_cons, List.length_cons,
            Bool.or_assoc, Nat.add_assoc, Nat.add_comm 1]
        · exact .inr ⟨turn :: turns, last, unreached, why, next, rounds,
            congrArg (turn.slot :: ·) own, fine ok, stopped, first.cons more⟩

/-- An emission is a passage of foreign code. -/
theorem emit_keeps {call : (signalInterface κ μ α).Caller}
    (lawful : ∀ handler world, Keeps world (call handler world).2) (arg : α)
    (world : SignalWorld κ μ) : Keeps world (signalService κ μ α call (.emit arg) world).2 := by
  intro sound
  let begun := world.note .emits
  have first : begun.course = world.course ++ [⟨.emits, world.signal.slots⟩] := course_note _ _
  have start : begun.Sound := sound.note_same world.signal rfl rfl rfl nofun
  have run : ∀ result next, Signal.emitSlots signalLens (runHandler call arg) world.signal.slots {}
      begun = (result, next) →
      (signalService κ μ α call (.emit arg) world).2 = next.note (.emitted result) := by
    intro result next rounds
    have whole : (signalService κ μ α call (.emit arg) world).2
        = (Signal.emitSlots signalLens (runHandler call arg) world.signal.slots {} begun).2.note
            (.emitted (Signal.emitSlots signalLens (runHandler call arg) world.signal.slots {}
              begun).1) := rfl
    rw [whole, rounds]
  rcases emitSlots_turns lawful arg world.signal.slots {} begun start with
    ⟨turns, next, rounds, own, fine, took⟩ |
    ⟨turns, last, unreached, why, next, rounds, own, fine, stopped, took⟩
  · rw [run _ _ rounds]
    refine ⟨took.sound.note_same next.signal rfl rfl rfl nofun, took.running, _, ?_,
      .emission turns world.signal.slots next.signal.slots own fine took.inner .nil⟩
    rw [course_note, took.course, first]
    simp
  · rw [run _ _ rounds]
    refine ⟨took.sound.note_same next.signal rfl rfl rfl nofun, took.running, _, ?_,
      .stoppedEmission turns last unreached why world.signal.slots next.signal.slots own fine stopped
        took.inner .nil⟩
    rw [course_note, took.course, first]
    simp

/-- Foreign code that calls foreign code lawfully requests lawfully. -/
theorem signalService_keeps {call : (signalInterface κ μ α).Caller}
    (lawful : ∀ handler world, Keeps world (call handler world).2)
    (request : SignalRequest κ μ α) (world : SignalWorld κ μ) :
    Keeps world (signalService κ μ α call request world).2 := by
  cases request with
  | emit arg => exact emit_keeps lawful arg world
  | remember change =>
    intro sound
    exact ⟨⟨sound.lawful, sound.current, sound.numbered⟩, rfl, [], (List.append_nil _).symm, .nil⟩
  | connect owner code =>
    intro sound
    let signal := world.signal.connect owner code
    have follows : Follows world.course
        ⟨.connected ⟨world.signal.nextId, owner, code⟩, signal.slots⟩ :=
      ⟨sound.numbered, congrArg (· ++ _) sound.current.symm⟩
    refine ⟨sound.note follows (Nat.le_succ _) fun slot same => ?_, rfl, _,
      course_note _ _, .connected _ _ .nil⟩
    cases same
    exact Nat.lt_succ_self _
  | disconnect id =>
    intro sound
    let signal := world.signal.disconnect id
    have follows : Follows world.course ⟨.disconnected id, signal.slots⟩ :=
      congrArg (List.filter fun slot : Slot κ => slot.id != id) sound.current.symm
    exact ⟨sound.note follows (Nat.le_refl _) nofun, rfl, _, course_note _ _,
      .disconnected _ _ .nil⟩
  | disconnectOwner owner =>
    intro sound
    let signal := world.signal.disconnectOwner owner
    have follows : Follows world.course ⟨.disconnectedOwner owner, signal.slots⟩ :=
      congrArg (List.filter fun slot : Slot κ => slot.owner != some owner) sound.current.symm
    exact ⟨sound.note follows (Nat.le_refl _) nofun, rfl, _, course_note _ _,
      .disconnectedOwner _ _ .nil⟩

/-! ## Every life of a signal -/

/-- What is true of the emissions of a signal, whatever its handlers do. -/
structure Orderly (world : SignalWorld κ μ) : Prop where
  /-- The record tells which handlers are connected. -/
  current : connected world.course = world.signal.slots
  /-- Handlers come and go only by being connected, which puts them behind the others, and by being
  disconnected, which leaves the others in their order. -/
  follows : ∀ past moment, past ++ [moment] <+: world.course → Follows past moment
  /-- At every point the connected handlers are in order of connection, and none is among them
  twice. -/
  ordered : ∀ past, past <+: world.course →
    (connected past).Pairwise fun first second => first.id < second.id
  /-- Every emission runs, once each and in order, exactly the handlers that are connected when it
  starts and are not running further up the stack; unless it is stopped it tells how many it ran and
  whether one of them handled it. -/
  emissions : Passage [] world.course
  /-- At no point is a handler on the stack twice. -/
  once : NeverTwice [] world.course

/-- Whatever programs a host runs on a new signal and whatever the handlers do, to any depth: emissions
run what was connected when they started, and no handler is ever entered twice. -/
theorem live_emissions_orderly (foreign : (signalInterface κ μ α).Foreign) (levels : Nat)
    (programs : List (Program (signalInterface κ μ α) Unit)) (memory : μ) :
    ((signalInterface κ μ α).live (signalService κ μ α) foreign levels programs
      { signal := {}, memory := memory }).Orderly := by
  have sound : ({ signal := {}, memory := memory } : SignalWorld κ μ).Sound := ⟨.nil, rfl, nofun⟩
  obtain ⟨⟨lawful, current, -⟩, -, new, course, passage⟩ :=
    (signalInterface κ μ α).live_keeps Keeps.refl Keeps.trans (fun _ => signalService_keeps) foreign
      levels programs _ sound
  obtain rfl : _ = new := course
  refine ⟨current, fun past moment here => lawful.follows here, fun past earlier => ?_, passage,
    (passage.returns .nil).1⟩
  exact SignalCourse.Lawful.ordered (lawful.of_prefix earlier)

end SignalWorld

end ExtensionProxy
