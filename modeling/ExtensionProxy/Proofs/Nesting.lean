import ExtensionProxy.Proofs.Emissions
import Mathlib.Data.List.Perm.Subperm

/-!
# How deeply emissions nest

A handler may emit on the signal that runs it, so emissions nest.  If no handler connects another one
they cannot nest for ever.  An emission passes over what is running, so each handler that is run is one
that no emission under it runs; what shrinks from level to level is the number of handlers that are
connected and idle.  A handler that was disconnected meanwhile and is still run by an older emission
makes no difference, for it was idle when that emission started.

So every emission comes to its end, the same one on every stack that has a level for each idle handler,
and at no point are more handlers on the stack than were connected when the outermost one started.

The program of a handler is finite, whatever it is answered; that it emits again is the only way in
which it could go on for ever.
-/

set_option autoImplicit false

namespace ExtensionProxy

/-! ## Runs that come to the same end -/

namespace Run

variable {σ α β : Type} {run other : Run σ α} {s : σ} {holds : σ → Prop}

/-- Two runs come to the same end from a state.  The stack was deep enough for that, and something holds
where they end. -/
structure Concur (run other : Run σ α) (s : σ) (holds : σ → Prop) : Prop where
  same : run s = other s
  ends : (run s).1 ≠ .error .tooDeep
  holds : holds (run s).2

theorem Concur.imp {weaker : σ → Prop} (concur : Concur run other s holds)
    (imp : ∀ reached, holds reached → weaker reached) : Concur run other s weaker :=
  ⟨concur.same, concur.ends, imp _ concur.holds⟩

/-- Only what the runs do from this state counts. -/
theorem Concur.congr {first second : Run σ α} (one : run s = first s) (two : other s = second s)
    (concur : Concur first second s holds) : Concur run other s holds :=
  ⟨one.trans (concur.same.trans two.symm), one ▸ concur.ends, one ▸ concur.holds⟩

/-- What goes on in the same way comes to the same end. -/
theorem Concur.bind {next otherNext : α → Run σ β} (first : Concur run other s holds)
    (rest : ∀ value reached, holds reached → Concur (next value) (otherNext value) reached holds) :
    Concur (run >>= next) (other >>= otherNext) s holds := by
  obtain ⟨same, ends, kept⟩ := first
  cases ran : run s with
  | mk result reached =>
    rw [ran] at ends kept
    have went : other s = (result, reached) := same.symm.trans ran
    cases result with
    | ok value =>
      obtain ⟨same, ends, kept⟩ := rest value reached kept
      have left := bind_apply_of_ok next ran
      have right := bind_apply_of_ok otherNext went
      exact ⟨left.trans (same.trans right.symm), left ▸ ends, left ▸ kept⟩
    | error stop =>
      have left := bind_apply_of_error next ran
      have right := bind_apply_of_error otherNext went
      exact ⟨left.trans right.symm, left ▸ fun deep => ends (by cases deep; rfl), left ▸ kept⟩

end Run

open Run in
/-- Programs come to the same end if each of their requests does. -/
theorem Program.run_concurs {I : Interface} {α : Type} {kind : I.Request → Prop}
    {perform other : (request : I.Request) → Run I.State (I.Answer request)} {holds : I.State → Prop}
    (concurs : ∀ request, kind request → ∀ s, holds s →
      Concur (perform request) (other request) s holds)
    {program : Program I α} (makes : program.Makes kind) {s : I.State} (start : holds s) :
    Concur (program.run perform) (program.run other) s holds := by
  induction program generalizing s with
  | done value => exact ⟨rfl, nofun, start⟩
  | panic message => exact ⟨rfl, nofun, start⟩
  | look next ih =>
    obtain ⟨same, ends, kept⟩ := ih s (makes s) start
    exact ⟨same, ends, kept⟩
  | ask request next ih =>
    exact (concurs request makes.1 s start).bind fun answer reached kept =>
      ih answer (makes.2 answer) kept

variable {κ μ α : Type}

/-! ## Handlers that connect nothing -/

/-- The request connects no handler. -/
def SignalRequest.ConnectsNothing : SignalRequest κ μ α → Prop
  | .connect _ _ => False
  | _ => True

/-- The handlers that are connected and not running, which an emission would run. -/
def Signal.idle (signal : Signal κ) : List (Slot κ) :=
  signal.slots.filter fun slot => slot.id ∉ signal.running

namespace SignalWorld

open SignalCourse Run

/-- None of the connected handlers connects another one, whatever it is run with. -/
def IsSteady (foreign : (signalInterface κ μ α).Foreign) (world : SignalWorld κ μ) : Prop :=
  ∀ slot ∈ world.signal.slots, ∀ arg, (foreign ⟨slot, arg⟩).Makes SignalRequest.ConnectsNothing

/-- The signal emits on a stack with a number of free levels. -/
def emission (foreign : (signalInterface κ μ α).Foreign) (levels : Nat) (arg : α) :
    Run (SignalWorld κ μ) Signal.Emission :=
  signalService κ μ α ((signalInterface κ μ α).call (signalService κ μ α) foreign levels) (.emit arg)

/-- Handlers only went away: all that are connected, now and at every moment on the way, were connected
before, and the handlers that were running are running again. -/
structure Dwindles (world next : SignalWorld κ μ) : Prop where
  connected : next.signal.slots.Sublist world.signal.slots
  running : next.signal.running = world.signal.running
  course : ∃ new, next.course = world.course ++ new ∧
    ∀ moment ∈ new, moment.connected ⊆ world.signal.slots

namespace Dwindles

theorem refl (world : SignalWorld κ μ) : Dwindles world world :=
  ⟨.refl _, rfl, [], (List.append_nil _).symm, nofun⟩

theorem trans {world middle next : SignalWorld κ μ} (first : Dwindles world middle)
    (second : Dwindles middle next) : Dwindles world next := by
  obtain ⟨fewer, running, one, course, within⟩ := first
  obtain ⟨fewer', running', two, course', within'⟩ := second
  refine ⟨fewer'.trans fewer, running'.trans running, one ++ two, ?_, fun moment there => ?_⟩
  · rw [course', course, List.append_assoc]
  · rcases List.mem_append.mp there with early | late
    · exact within moment early
    · exact fun slot here => fewer.subset (within' moment late here)

/-- Handlers are dropped, and what happened is put on record. -/
theorem note {world : SignalWorld κ μ} (signal : Signal κ) (what : SignalHappening κ)
    (fewer : signal.slots.Sublist world.signal.slots)
    (running : signal.running = world.signal.running) :
    Dwindles world (({ world with signal := signal } : SignalWorld κ μ).note what) := by
  refine ⟨fewer, running, [⟨what, signal.slots⟩], course_note _ _, fun moment there => ?_⟩
  rw [List.mem_singleton.mp there]
  exact fewer.subset

theorem idle_le {world next : SignalWorld κ μ} (dwindles : Dwindles world next) :
    next.signal.idle.length ≤ world.signal.idle.length := by
  rw [Signal.idle, dwindles.running]
  exact (dwindles.connected.filter _).length_le

end Dwindles

/-! ## What an emission needs of the stack -/

/-- While a handler runs there is one idle handler less. -/
theorem idle_lt {signal entered : Signal κ} {slot : Slot κ} (idle : slot ∈ signal.idle)
    (fewer : entered.slots.Sublist signal.slots)
    (running : entered.running = slot.id :: signal.running) :
    entered.idle.length < signal.idle.length := by
  have others : (entered.idle).Sublist (signal.idle.filter fun other => other.id ≠ slot.id) := by
    have whole : signal.idle.filter (fun other => other.id ≠ slot.id)
        = signal.slots.filter fun other => other.id ∉ slot.id :: signal.running := by
      rw [Signal.idle, List.filter_filter]
      congr 1
      funext other
      simp [not_or]
    rw [whole, Signal.idle, running]
    exact fewer.filter _
  refine Nat.lt_of_le_of_lt others.length_le ?_
  exact List.length_filter_lt_length_iff_exists.mpr ⟨slot, idle, by simp⟩

variable {call other : (signalInterface κ μ α).Caller} {arg : α}

/-- A handler is run to the same end by two callers that agree on it. -/
theorem runSlot_concurs {slot : Slot κ} {world : SignalWorld κ μ}
    (calls : ∀ s : SignalWorld κ μ, s.signal.slots = world.signal.slots →
      s.signal.running = slot.id :: world.signal.running →
      Concur (call ⟨slot, arg⟩) (other ⟨slot, arg⟩) s (Dwindles s)) :
    Concur (Signal.runSlot signalLens (runHandler call arg) slot)
      (Signal.runSlot signalLens (runHandler other arg) slot) world (Dwindles world) := by
  let entered : SignalWorld κ μ :=
    ({ world with signal := world.signal.enter slot.id } : SignalWorld κ μ).note (.runs slot)
  -- What is left to do when the handler is over, by what came of it.
  let leave : Except Stop Bool × SignalWorld κ μ → Except Stop Bool × SignalWorld κ μ := fun came =>
    (came.1, { came.2.note (.answered slot came.1) with signal := came.2.signal.leave slot.id })
  have run : ∀ caller : (signalInterface κ μ α).Caller,
      Signal.runSlot signalLens (runHandler caller arg) slot world
        = leave (caller ⟨slot, arg⟩ entered) := fun _ => rfl
  obtain ⟨same, ends, fewer, running, new, course, within⟩ := calls entered rfl rfl
  refine ⟨by rw [run, run, same], by rw [run]; exact ends, ?_⟩
  rw [run]
  generalize call ⟨slot, arg⟩ entered = came at fewer running course
  have first : entered.course = world.course ++ [⟨.runs slot, world.signal.slots⟩] := course_note _ _
  have last : (leave came).2.course = came.2.course ++ [⟨.answered slot came.1, came.2.signal.slots⟩] :=
    course_note _ _
  refine ⟨fewer, ?_, ⟨.runs slot, world.signal.slots⟩ :: new ++
    [⟨.answered slot came.1, came.2.signal.slots⟩], ?_, fun moment there => ?_⟩
  · change came.2.signal.running.erase slot.id = world.signal.running
    rw [running]
    exact List.erase_cons_head slot.id world.signal.running
  · rw [last, course, first]
    simp
  · rcases List.mem_append.mp there with there | there
    · rcases List.mem_cons.mp there with rfl | there
      · exact List.Subset.refl _
      · exact within moment there
    · rw [List.mem_singleton.mp there]
      exact fewer.subset

/-- So is every handler of a list that was connected when an emission started. -/
theorem emitSlots_concurs (start : SignalWorld κ μ)
    (calls : ∀ slot ∈ start.signal.idle, ∀ s : SignalWorld κ μ,
      s.signal.slots.Sublist start.signal.slots →
      s.signal.running = slot.id :: start.signal.running →
      Concur (call ⟨slot, arg⟩) (other ⟨slot, arg⟩) s (Dwindles s))
    {slots : List (Slot κ)} (listed : slots ⊆ start.signal.slots) (done : Signal.Emission)
    {world : SignalWorld κ μ} (since : Dwindles start world) :
    Concur (Signal.emitSlots signalLens (runHandler call arg) slots done)
      (Signal.emitSlots signalLens (runHandler other arg) slots done) world (Dwindles start) := by
  induction slots generalizing done world with
  | nil => exact ⟨rfl, nofun, since⟩
  | cons slot rest ih =>
    obtain ⟨here, listed⟩ := List.cons_subset.mp listed
    by_cases running : slot.id ∈ start.signal.running
    · have passed : ∀ caller : (signalInterface κ μ α).Caller,
          Signal.emitSlots signalLens (runHandler caller arg) (slot :: rest) done world
            = Signal.emitSlots signalLens (runHandler caller arg) rest done world := by
        simp [Signal.emitSlots, signalLens, Signal.isRunning, since.running, running]
      exact (ih listed done since).congr (passed call) (passed other)
    · have taken : ∀ caller : (signalInterface κ μ α).Caller,
          Signal.emitSlots signalLens (runHandler caller arg) (slot :: rest) done world
            = (Signal.runSlot signalLens (runHandler caller arg) slot >>= fun answer =>
                Signal.emitSlots signalLens (runHandler caller arg) rest (done.add answer)) world := by
        simp [Signal.emitSlots, signalLens, Signal.isRunning, since.running, running]
      have idle : slot ∈ start.signal.idle := List.mem_filter.mpr ⟨here, by simpa using running⟩
      have turn : Concur (Signal.runSlot signalLens (runHandler call arg) slot)
          (Signal.runSlot signalLens (runHandler other arg) slot) world (Dwindles world) := by
        refine runSlot_concurs fun s same entered => calls slot idle s ?_ ?_
        · exact same.symm ▸ since.connected
        · exact since.running ▸ entered
      refine .congr (taken call) (taken other) ?_
      exact (turn.imp fun _ more => since.trans more).bind fun answer _ kept =>
        ih listed (done.add answer) kept

/-- An emission comes to the same end on any two stacks with a level for each idle handler, and so does
whatever else a handler requests. -/
theorem request_concurs {foreign : (signalInterface κ μ α).Foreign} {steady : SignalWorld κ μ}
    (quiet : steady.IsSteady foreign) (needed : Nat) :
    ∀ world : SignalWorld κ μ, world.signal.slots ⊆ steady.signal.slots →
      world.signal.idle.length ≤ needed → ∀ levels others, needed ≤ levels → needed ≤ others →
      ∀ request : SignalRequest κ μ α, request.ConnectsNothing →
        Concur (signalService κ μ α ((signalInterface κ μ α).call (signalService κ μ α) foreign levels)
            request)
          (signalService κ μ α ((signalInterface κ μ α).call (signalService κ μ α) foreign others)
            request) world (Dwindles world) := by
  induction needed using Nat.strongRecOn with
  | _ needed ih =>
    intro world within enough levels others deep deepToo request nothing
    cases request with
    | connect owner code => exact nothing.elim
    | disconnect id =>
      exact ⟨rfl, nofun, .note (world.signal.disconnect id) _ List.filter_sublist rfl⟩
    | disconnectOwner owner =>
      exact ⟨rfl, nofun, .note (world.signal.disconnectOwner owner) _ List.filter_sublist rfl⟩
    | remember change =>
      exact ⟨rfl, nofun, .refl _, rfl, [], (List.append_nil _).symm, nofun⟩
    | emit arg =>
      let begun := world.note .emits
      have start : Dwindles world begun := .note world.signal .emits (.refl _) rfl
      -- What is left to do when the handlers had their turns, by what came of them.
      let settle : Except Stop Signal.Emission × SignalWorld κ μ →
          Except Stop Signal.Emission × SignalWorld κ μ := fun came =>
        (came.1, came.2.note (.emitted came.1))
      have run : ∀ caller : (signalInterface κ μ α).Caller,
          signalService κ μ α caller (.emit arg) world = settle
            (Signal.emitSlots signalLens (runHandler caller arg) world.signal.slots {} begun) :=
        fun _ => rfl
      have turns : Concur
          (Signal.emitSlots signalLens (runHandler ((signalInterface κ μ α).call
            (signalService κ μ α) foreign levels) arg) world.signal.slots {})
          (Signal.emitSlots signalLens (runHandler ((signalInterface κ μ α).call
            (signalService κ μ α) foreign others) arg) world.signal.slots {}) begun
          (Dwindles begun) := by
        refine emitSlots_concurs begun (fun slot idle s fewer entered => ?_) (List.Subset.refl _) {} (.refl _)
        -- The handler takes a level, and there is one idle handler less.
        have less : s.signal.idle.length < world.signal.idle.length := idle_lt idle fewer entered
        obtain ⟨fewerLevels, rfl⟩ : ∃ fewerLevels, levels = fewerLevels + 1 :=
          Nat.exists_eq_add_one.mpr (by omega)
        obtain ⟨fewerOthers, rfl⟩ : ∃ fewerOthers, others = fewerOthers + 1 :=
          Nat.exists_eq_add_one.mpr (by omega)
        have there : slot ∈ steady.signal.slots := within (List.mem_filter.mp idle).1
        refine Program.run_concurs (fun request nothing t since => ?_) (quiet slot there arg) (.refl s)
        refine (ih s.signal.idle.length (by omega) t ?_ since.idle_le fewerLevels fewerOthers
          (by omega) (by omega) request nothing).imp fun _ more => since.trans more
        exact fun other here => within (fewer.subset (since.connected.subset here))
      obtain ⟨same, ends, kept⟩ := turns
      refine ⟨by rw [run, run, same], by rw [run]; exact ends, ?_⟩
      rw [run]
      exact (start.trans kept).trans (.note _ _ (.refl _) rfl)

end SignalWorld

/-! ## How many handlers are on the stack -/

namespace SignalCourse

variable {running : List Nat} {course : SignalCourse κ}

/-- What is on the stack was there before, or was run meanwhile. -/
theorem mem_stack (course : SignalCourse κ) {running : List Nat} {id : Nat}
    (there : id ∈ stack running course) :
    id ∈ running ∨ ∃ slot now, ⟨.runs slot, now⟩ ∈ course ∧ slot.id = id := by
  induction course generalizing running with
  | nil => exact .inl there
  | cons moment rest ih =>
    have later : ∀ {running : List Nat}, id ∈ stack running rest →
        id ∈ running ∨ ∃ slot now, ⟨.runs slot, now⟩ ∈ moment :: rest ∧ slot.id = id := by
      intro running there
      refine (ih there).imp_right fun ⟨slot, now, run, same⟩ => ?_
      exact ⟨slot, now, List.mem_cons_of_mem _ run, same⟩
    obtain ⟨what, left⟩ := moment
    cases what with
    | runs slot =>
      rcases later there with there | run
      · rcases List.mem_cons.mp there with rfl | there
        · exact .inr ⟨slot, left, List.mem_cons_self, rfl⟩
        · exact .inl there
      · exact .inr run
    | answered slot result => exact (later there).imp_left List.mem_of_mem_tail
    | _ => exact later there

/-- A handler that is run in the turns of an emission has one of them, or is run while one lasts. -/
theorem run_cases {turns : List (HandlerTurn κ)} {slot : Slot κ} {now : List (Slot κ)}
    (run : ⟨.runs slot, now⟩ ∈ turns.flatMap HandlerTurn.course) :
    ∃ turn ∈ turns, turn.slot = slot ∨ ⟨.runs slot, now⟩ ∈ turn.inner := by
  obtain ⟨turn, there, run⟩ := List.mem_flatMap.mp run
  refine ⟨turn, there, ?_⟩
  rcases List.mem_append.mp run with run | last
  · rcases List.mem_cons.mp run with same | run
    · cases same
      exact .inl rfl
    · exact .inr run
  · cases List.mem_singleton.mp last

theorem inner_subset {turns : List (HandlerTurn κ)} {turn : HandlerTurn κ} (there : turn ∈ turns) :
    turn.inner ⊆ turns.flatMap HandlerTurn.course := fun _ here =>
  List.mem_flatMap.mpr
    ⟨turn, there, List.mem_append_left _ (List.mem_cons_of_mem _ here)⟩

/-- A handler that a course runs is one of the given, if all are that are connected meanwhile. -/
def RunsOnly (slots : List (Slot κ)) (course : SignalCourse κ) : Prop :=
  (∀ moment ∈ course, moment.connected ⊆ slots) →
    ∀ slot now, ⟨.runs slot, now⟩ ∈ course → slot ∈ slots

theorem RunsOnly.cons {slots : List (Slot κ)} {moment : SignalMoment κ} {rest : SignalCourse κ}
    (other : ∀ slot, moment.what ≠ .runs slot) (later : RunsOnly slots rest) :
    RunsOnly slots (moment :: rest) := by
  intro within slot now run
  rcases List.mem_cons.mp run with rfl | run
  · exact absurd rfl (other slot)
  · exact later (fun moment here => within moment (List.mem_cons_of_mem _ here)) slot now run

/-- An emission runs what was connected when it started. -/
theorem RunsOnly.emission {slots connected more : List (Slot κ)} {turns : List (HandlerTurn κ)}
    {rest : SignalCourse κ}
    (own : turns.map HandlerTurn.slot ++ more = connected.filter fun slot => slot.id ∉ running)
    (inner : ∀ turn ∈ turns, RunsOnly slots turn.inner) (later : RunsOnly slots rest) :
    RunsOnly slots (⟨.emits, connected⟩ :: (turns.flatMap HandlerTurn.course ++ rest)) := by
  intro within slot now run
  obtain ⟨here, beyond⟩ := List.forall_mem_cons.mp within
  obtain ⟨during, after⟩ := List.forall_mem_append.mp beyond
  rcases List.mem_append.mp (List.mem_of_ne_of_mem (by simp) run) with run | run
  · obtain ⟨turn, there, rfl | run⟩ := run_cases run
    · have mem : turn.slot ∈ connected.filter fun slot => slot.id ∉ running :=
        own ▸ List.mem_append_left _ (List.mem_map_of_mem there)
      exact here (List.mem_filter.mp mem).1
    · exact inner turn there (fun moment mem => during moment (inner_subset there mem)) slot now run
  · exact later after slot now run

theorem Passage.runsOnly (passage : Passage running course) (slots : List (Slot κ)) :
    RunsOnly slots course := by
  induction passage with
  | nil => exact fun _ _ _ run => absurd run List.not_mem_nil
  | connected added left more ih => exact ih.cons (by simp)
  | disconnected id left more ih => exact ih.cons (by simp)
  | disconnectedOwner owner left more ih => exact ih.cons (by simp)
  | emission turns connected left own fine inner more ihs ih =>
    exact .emission ((List.append_nil _).trans own) ihs (ih.cons (by simp))
  | stoppedEmission turns last unreached why connected left own fine stopped inner more ihs ih =>
    exact .emission own ihs (ih.cons (by simp))

/-- Where nothing runs at the start, no more handlers are on the stack at any point than were ever
connected. -/
theorem Passage.stack_length_le (passage : Passage [] course) {slots : List (Slot κ)}
    (within : ∀ moment ∈ course, moment.connected ⊆ slots) {past : SignalCourse κ}
    (earlier : past <+: course) : (stack [] past).length ≤ slots.length := by
  have distinct : (stack [] past).Nodup := (passage.returns .nil).1 past earlier
  have listed : stack [] past ⊆ slots.map Slot.id := by
    intro id there
    obtain ⟨slot, now, run, rfl⟩ := (mem_stack past there).resolve_left List.not_mem_nil
    exact List.mem_map_of_mem (passage.runsOnly slots within slot now (earlier.subset run))
  exact (List.length_map Slot.id).symm ▸ (List.subperm_of_subset distinct listed).length_le

end SignalCourse

/-! ## Emissions that come to their end -/

namespace SignalWorld

open SignalCourse

/-- What a host makes of a new signal by the programs that it runs, none of which is going on. -/
def IsReached (foreign : (signalInterface κ μ α).Foreign) (world : SignalWorld κ μ) : Prop :=
  ∃ levels programs memory, world = (signalInterface κ μ α).live (signalService κ μ α) foreign levels
    programs { signal := {}, memory := memory }

theorem IsReached.sound {foreign : (signalInterface κ μ α).Foreign} {world : SignalWorld κ μ}
    (reached : IsReached foreign world) : world.Sound ∧ world.signal.running = [] := by
  obtain ⟨levels, programs, memory, rfl⟩ := reached
  obtain ⟨sound, running, -⟩ := (signalInterface κ μ α).live_keeps Keeps.refl Keeps.trans
    (fun _ => signalService_keeps) foreign levels programs { signal := {}, memory := memory }
    ⟨.nil, rfl, nofun⟩
  exact ⟨sound, running⟩

/-- The emission is over: it came to an end, the same on every stack that is deep enough. -/
structure Ends (foreign : (signalInterface κ μ α).Foreign) (world : SignalWorld κ μ) (arg : α)
    (result : Except Stop Signal.Emission) (final : SignalWorld κ μ) : Prop where
  /-- A level for each handler that is connected and not running is enough. -/
  settled : ∀ levels, world.signal.idle.length ≤ levels →
    emission foreign levels arg world = (result, final)
  /-- It was not cut short because handlers were nested too deeply. -/
  whole : result ≠ .error .tooDeep

/-- If none of the connected handlers connects another one, every emission comes to its end, also one
that a handler asks for.  While the outermost one lasts, there are at no point more handlers on the stack
than were connected when it started. -/
theorem emission_ends {foreign : (signalInterface κ μ α).Foreign} {world : SignalWorld κ μ}
    (quiet : world.IsSteady foreign) (arg : α) :
    ∃ result final, Ends foreign world arg result final ∧
      (IsReached foreign world → world.signal.idle.length = world.signal.count ∧
        ∃ new, final.course = world.course ++ new ∧
          ∀ past, past <+: new → (stack [] past).length ≤ world.signal.count) := by
  have concur := fun levels deep => request_concurs quiet world.signal.idle.length world
    (List.Subset.refl _) (Nat.le_refl _) levels world.signal.idle.length deep (Nat.le_refl _)
    (.emit arg) trivial
  obtain ⟨-, whole, -, -, new, course, within⟩ := concur _ (Nat.le_refl _)
  refine ⟨(emission foreign world.signal.idle.length arg world).1,
    (emission foreign world.signal.idle.length arg world).2,
    ⟨fun levels deep => (concur levels deep).same, whole⟩, fun reached => ⟨?_, new, course, ?_⟩⟩
  · simp [Signal.idle, Signal.count, reached.sound.2]
  · intro past earlier
    obtain ⟨sound, outermost⟩ := reached.sound
    obtain ⟨-, -, other, same, passage⟩ := signalService_keeps
      ((signalInterface κ μ α).call_keeps Keeps.refl Keeps.trans (fun _ => signalService_keeps) foreign
        world.signal.idle.length) (.emit arg) world sound
    obtain rfl : other = new := List.append_cancel_left (same.symm.trans course)
    rw [outermost] at passage
    exact passage.stack_length_le within earlier

/-! ## Two handlers that emit again -/

/-- Every handler emits again on the signal that runs it. -/
def echoing : (signalInterface Unit Unit Unit).Foreign := fun _ =>
  .ask (.emit ()) fun emission => .done (emission.ran != 0)

/-- A signal to which a host connected two handlers. -/
def echoPair : SignalWorld Unit Unit :=
  (signalInterface Unit Unit Unit).live (signalService Unit Unit Unit) echoing 0
    [.ask (.connect none ()) fun _ => .ask (.connect (some ⟨1⟩) ()) fun _ => .done ()]
    { signal := {}, memory := () }

theorem echoPair_emission_ends : echoPair.IsSteady echoing ∧ IsReached echoing echoPair ∧
    echoPair.signal.count = 2 ∧
    ∃ result final new, Ends echoing echoPair () result final ∧ final.course = echoPair.course ++ new ∧
      ∀ past, past <+: new → (stack [] past).length ≤ 2 := by
  have quiet : echoPair.IsSteady echoing := fun _ _ _ => ⟨trivial, fun _ => trivial⟩
  have reached : IsReached echoing echoPair := ⟨_, _, _, rfl⟩
  obtain ⟨result, final, ends, bounded⟩ := emission_ends quiet ()
  obtain ⟨-, new, course, deep⟩ := bounded reached
  exact ⟨quiet, reached, rfl, result, final, new, ends, course, deep⟩

end SignalWorld

end ExtensionProxy
