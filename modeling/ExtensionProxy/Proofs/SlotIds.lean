import ExtensionProxy.Proofs.Foreign
import ExtensionProxy.Proofs.Records
import ExtensionProxy.Signal.System
import Mathlib.Data.List.Nodup
import Mathlib.Data.List.Perm.Subperm

/-!
# An id names a handler for ever

A signal numbers its handlers one after the other and never goes back, so the ids that it gave away are
the numbers from one on, and the slots, which stay in order of connection, are in order of their ids.
An id that was given away therefore names one handler: it is connected as long as nobody dropped it, and
once it was dropped nothing that is done with its id touches another handler.

This has to hold wherever foreign code is at work, also within emissions that are not over.  `Arises`
says where that is.  However deep the emissions are nested, the signal of a world that arises came about
by the operations of signals, and what these keep holds of it.
-/

set_option autoImplicit false

namespace ExtensionProxy

open Relation (ReflTransGen)

variable {κ μ α : Type}

/-! ## Begun and ended -/

namespace Bookkeeping

variable {δ ι : Type} {book : Bookkeeping δ ι} {record : List δ} {deed : δ} {item : ι}

/-- A deed ended the item after it was begun. -/
def IsEnded (book : Bookkeeping δ ι) (record : List δ) (item : ι) : Prop :=
  ∃ since deed before, record = since ++ deed :: before ∧ item ∈ book.begun before ∧
    book.Ends deed item

theorem begun_subset (deed : δ) (record : List δ) :
    book.begun record ⊆ book.begun (deed :: record) := by
  intro item there
  cases begins : book.begins deed with
  | none =>
    rw [begun_cons_of_none begins]
    exact there
  | some new =>
    rw [begun_cons_of_some begins]
    exact List.mem_append_left _ there

theorem isEnded_cons : book.IsEnded (deed :: record) item ↔
    item ∈ book.begun record ∧ book.Ends deed item ∨ book.IsEnded record item := by
  constructor
  · rintro ⟨_ | ⟨latest, since⟩, last, before, whole, there, ends⟩
    · cases whole
      exact .inl ⟨there, ends⟩
    · cases whole
      exact .inr ⟨since, last, before, rfl, there, ends⟩
  · rintro (⟨there, ends⟩ | ⟨since, last, before, rfl, there, ends⟩)
    · exact ⟨[], deed, record, rfl, there, ends⟩
    · exact ⟨deed :: since, last, before, rfl, there, ends⟩

theorem IsEnded.begun (ended : book.IsEnded record item) : item ∈ book.begun record := by
  obtain ⟨since, deed, before, rfl, there, -⟩ := ended
  induction since with
  | nil => exact begun_subset deed before there
  | cons latest since ih => exact begun_subset latest _ ih

/-- If no item is begun twice and no deed does both, what was begun remains unless it was ended. -/
theorem remains_iff (either : ∀ deed begun ended, book.begins deed = some begun → ¬book.Ends deed ended)
    (once : (book.begun record).Nodup) :
    book.Remains record item ↔ item ∈ book.begun record ∧ ¬book.IsEnded record item := by
  induction record with
  | nil =>
    constructor
    · rintro ⟨since, first, before, whole, -⟩
      simp at whole
    · rintro ⟨there, -⟩
      simp [Bookkeeping.begun] at there
  | cons deed record ih =>
    rw [remains_cons, isEnded_cons]
    cases begins : book.begins deed with
    | none =>
      rw [begun_cons_of_none begins] at once ⊢
      rw [ih once]
      simp only [reduceCtorEq, false_or, not_or, not_and]
      constructor
      · rintro ⟨spared, there, kept⟩
        exact ⟨there, fun _ => spared, kept⟩
      · rintro ⟨there, spared, kept⟩
        exact ⟨spared there, there, kept⟩
    | some new =>
      rw [begun_cons_of_some begins] at once ⊢
      obtain ⟨old, -, apart⟩ := List.nodup_append.mp once
      rw [ih old]
      have spares := either deed new item begins
      simp only [Option.some.injEq, List.mem_append, List.mem_singleton, spares, and_false, false_or,
        not_false_eq_true, true_and]
      constructor
      · rintro (rfl | ⟨there, kept⟩)
        · exact ⟨.inr rfl, fun ended => apart new ended.begun new List.mem_cons_self rfl⟩
        · exact ⟨.inl there, kept⟩
      · rintro ⟨there | rfl, kept⟩
        · exact .inr ⟨there, kept⟩
        · exact .inl rfl

end Bookkeeping

/-! ## The ids that were given away -/

namespace Signal

variable {signal before after : Signal κ}

/-- The handlers that were ever connected, in order. -/
abbrev everConnected (signal : Signal κ) : List (Slot κ) := HandlerDeed.book.begun signal.record

/-- Ids are counted from one. -/
def Numbered (signal : Signal κ) : Prop :=
  signal.everConnected.map Slot.id = List.range' 1 signal.everConnected.length ∧
    signal.nextId = signal.everConnected.length + 1

theorem everConnected_connect (signal : Signal κ) (owner : Option ExtensionHandle) (code : κ) :
    (signal.connect owner code).everConnected
      = signal.everConnected ++ [⟨signal.nextId, owner, code⟩] :=
  Bookkeeping.begun_cons_of_some rfl

theorem everConnected_disconnect (signal : Signal κ) (id : Nat) :
    (signal.disconnect id).everConnected = signal.everConnected :=
  Bookkeeping.begun_cons_of_none rfl

theorem everConnected_disconnectOwner (signal : Signal κ) (owner : ExtensionHandle) :
    (signal.disconnectOwner owner).everConnected = signal.everConnected := by
  unfold everConnected disconnectOwner
  split
  · rfl
  · exact Bookkeeping.begun_cons_of_none rfl

theorem Numbered.becomes (numbered : before.Numbered) (change : before.Becomes after) :
    after.Numbered := by
  unfold Numbered at numbered ⊢
  obtain ⟨ids, next⟩ := numbered
  cases change with
  | connect owner code =>
    rw [everConnected_connect, List.map_append, List.length_append, ids]
    constructor
    · rw [List.length_singleton, List.range'_concat, List.map_singleton, next, Nat.one_mul,
        Nat.add_comm 1]
    · show before.nextId + 1 = _
      rw [next, List.length_singleton]
  | disconnect id =>
    rw [everConnected_disconnect]
    exact ⟨ids, next⟩
  | disconnectOwner owner =>
    rw [everConnected_disconnectOwner]
    exact ⟨ids, next⟩
  | same | enter | leave => exact ⟨ids, next⟩

/-- What a signal can become by its operations, one after the other. -/
abbrev Evolves (before after : Signal κ) : Prop := ReflTransGen Signal.Becomes before after

theorem Evolves.recorded (evolves : Evolves before after) (recorded : before.IsRecorded) :
    after.IsRecorded := by
  induction evolves with
  | refl => exact recorded
  | tail _ change ih => exact ih.becomes change

theorem Evolves.numbered (evolves : Evolves before after) (numbered : before.Numbered) :
    after.Numbered := by
  induction evolves with
  | refl => exact numbered
  | tail _ change ih => exact ih.becomes change

/-! ## Connected or dropped -/

/-- Somebody disconnected the handler, or all handlers of its owner, after it was connected. -/
abbrev IsDropped (signal : Signal κ) (slot : Slot κ) : Prop :=
  HandlerDeed.book.IsEnded signal.record slot

namespace IsRecorded

theorem everConnected_nodup (recorded : signal.IsRecorded) : signal.everConnected.Nodup :=
  recorded.numbered.imp fun lt same => Nat.ne_of_lt lt (congrArg Slot.id same)

/-- Of all handlers that were ever connected no two have one id. -/
theorem eq_of_id (recorded : signal.IsRecorded) {slot other : Slot κ}
    (there : slot ∈ signal.everConnected) (too : other ∈ signal.everConnected)
    (same : slot.id = other.id) : slot = other := by
  have distinct : (signal.everConnected.map Slot.id).Nodup :=
    List.pairwise_map.mpr (recorded.numbered.imp Nat.ne_of_lt)
  exact List.inj_on_of_nodup_map distinct there too same

theorem eq_of_slot_id (recorded : signal.IsRecorded) {slot other : Slot κ}
    (ever : slot ∈ signal.everConnected) (there : other ∈ signal.slots) (same : other.id = slot.id) :
    other = slot :=
  recorded.eq_of_id (recorded.inOrder.subset there) ever same

theorem isConnected_iff (recorded : signal.IsRecorded) {slot : Slot κ}
    (ever : slot ∈ signal.everConnected) : signal.isConnected slot.id = true ↔ slot ∈ signal.slots := by
  rw [isConnected, List.any_eq_true]
  constructor
  · rintro ⟨other, there, same⟩
    have only := recorded.eq_of_slot_id ever there (eq_of_beq same)
    exact only ▸ there
  · intro there
    exact ⟨slot, there, beq_self_eq_true slot.id⟩

theorem mem_disconnect (recorded : signal.IsRecorded) {slot : Slot κ}
    (ever : slot ∈ signal.everConnected) (other : Slot κ) :
    other ∈ (signal.disconnect slot.id).slots ↔ other ∈ signal.slots ∧ other ≠ slot := by
  show other ∈ signal.slots.filter _ ↔ _
  rw [List.mem_filter]
  refine and_congr_right fun there => ?_
  rw [bne_iff_ne]
  constructor
  · intro apart same
    exact apart (congrArg Slot.id same)
  · exact mt (recorded.eq_of_slot_id ever there)

/-- A handler that was ever connected is connected or was dropped, and never both. -/
theorem mem_slots_iff (recorded : signal.IsRecorded) (slot : Slot κ) :
    slot ∈ signal.slots ↔ slot ∈ signal.everConnected ∧ ¬signal.IsDropped slot := by
  rw [recorded.complete]
  refine Bookkeeping.remains_iff ?_ recorded.everConnected_nodup
  intro deed begun ended begins
  cases deed with
  | connected slot => exact id
  | disconnected id => cases begins
  | dismissed owner => cases begins

/-- Every handler that was ever connected counts once, among the connected or among the dropped. -/
theorem exists_dropped (recorded : signal.IsRecorded) :
    ∃ dropped, (signal.slots ++ dropped).Perm signal.everConnected ∧
      ∀ slot ∈ dropped, signal.IsDropped slot := by
  obtain ⟨dropped, whole⟩ := recorded.inOrder.exists_perm_append
  refine ⟨dropped, whole.symm, fun slot there => ?_⟩
  have ever : slot ∈ signal.everConnected :=
    whole.mem_iff.mpr (List.mem_append_right _ there)
  have distinct : (signal.slots ++ dropped).Nodup := whole.nodup_iff.mp recorded.everConnected_nodup
  by_contra kept
  have connected := (recorded.mem_slots_iff slot).mpr ⟨ever, kept⟩
  exact List.disjoint_of_nodup_append distinct connected there

end IsRecorded

theorem isConnected_eq_false {id : Nat} (nobody : ∀ slot ∈ signal.slots, slot.id ≠ id) :
    signal.isConnected id = false := by
  rw [isConnected, List.any_eq_false]
  intro slot there same
  exact nobody slot there (eq_of_beq same)

theorem slots_disconnect_eq_self {id : Nat} (nobody : ∀ slot ∈ signal.slots, slot.id ≠ id) :
    (signal.disconnect id).slots = signal.slots := by
  apply List.filter_eq_self.mpr
  intro slot there
  exact bne_iff_ne.mpr (nobody slot there)

end Signal

/-! ## Wherever foreign code is at work -/

namespace SignalWorld

open Signal

/-- The signal of a world came about from that of another one. -/
def Follows (world next : SignalWorld κ μ) : Prop := Evolves world.signal next.signal

theorem Follows.trans {world middle next : SignalWorld κ μ} (first : Follows world middle)
    (second : Follows middle next) : Follows world next := ReflTransGen.trans first second

variable {call : (signalInterface κ μ α).Caller}

theorem runSlot_follows (calls : ∀ handler world, Follows world (call handler world).2) (arg : α)
    (slot : Slot κ) (world : SignalWorld κ μ) :
    Follows world (runSlot signalLens (runHandler call arg) slot world).2 := by
  let entered : SignalWorld κ μ :=
    ({ world with signal := world.signal.enter slot.id } : SignalWorld κ μ).note (.runs slot)
  have enters : Follows world entered := .single (.enter slot.id)
  have handles : Follows entered (call ⟨slot, arg⟩ entered).2 := calls _ _
  exact ReflTransGen.tail (enters.trans handles) (.leave slot.id)

theorem emitSlots_follows (calls : ∀ handler world, Follows world (call handler world).2) (arg : α)
    (slots : List (Slot κ)) : ∀ (done : Emission) (world : SignalWorld κ μ),
      Follows world (emitSlots signalLens (runHandler call arg) slots done world).2 := by
  induction slots with
  | nil =>
    intro done world
    exact .refl
  | cons slot rest ih =>
    intro done world
    simp only [emitSlots, Run.gets_bind_apply]
    split
    · exact ih done world
    · refine Run.bind_snd (Follows world) (runSlot_follows calls arg slot world) ?_
      intro answer reached _ now
      exact now.trans (ih (done.add answer) reached)

/-- Whatever is requested, the signal comes to it by its operations. -/
theorem signalService_follows (calls : ∀ handler world, Follows world (call handler world).2)
    (request : SignalRequest κ μ α) (world : SignalWorld κ μ) :
    Follows world (signalService κ μ α call request world).2 := by
  cases request with
  | connect owner code => exact .single (.connect owner code)
  | disconnect id => exact .single (.disconnect id)
  | disconnectOwner owner => exact .single (.disconnectOwner owner)
  | remember change => exact .refl
  | emit arg =>
    have emits : Follows world (emitSlots signalLens (runHandler call arg) world.signal.slots {}
        (world.note .emits)).2 := emitSlots_follows calls arg _ {} (world.note .emits)
    exact emits

variable {foreign : (signalInterface κ μ α).Foreign} {levels : Nat} {world : SignalWorld κ μ}

/-- The means of foreign code on a stack with a number of free levels. -/
abbrev means (foreign : (signalInterface κ μ α).Foreign) (levels : Nat) :
    (signalInterface κ μ α).Caller :=
  (signalInterface κ μ α).call (signalService κ μ α) foreign levels

theorem call_follows (foreign : (signalInterface κ μ α).Foreign) (levels : Nat)
    (handler : SignalCall κ α) (world : SignalWorld κ μ) :
    Follows world (means foreign levels handler world).2 :=
  Interface.call_keeps (R := Follows) (fun _ => .refl) Follows.trans
    (fun _ => signalService_follows) foreign levels handler world

/-- The worlds in which foreign code is at work, with a number of free levels on the stack. -/
inductive Arises (foreign : (signalInterface κ μ α).Foreign) : Nat → SignalWorld κ μ → Prop
  | new (levels : Nat) (memory : μ) : Arises foreign levels { signal := {}, memory := memory }
  /-- It goes on after a request, whatever came of that. -/
  | asked {levels : Nat} {world : SignalWorld κ μ} (before : Arises foreign levels world)
      (request : SignalRequest κ μ α) :
      Arises foreign levels (signalService κ μ α (means foreign levels) request world).2
  /-- An emission that is not over runs a handler, when those before it had their turns. -/
  | handler {levels : Nat} {world reached : SignalWorld κ μ} {early late : List (Slot κ)}
      {slot : Slot κ} {done : Emission} (before : Arises foreign (levels + 1) world) (arg : α)
      (listed : world.signal.slots = early ++ slot :: late)
      (turns : emitSlots signalLens (runHandler (means foreign (levels + 1)) arg) early {}
        (world.note .emits) = (.ok done, reached))
      (idle : reached.signal.isRunning slot.id = false) :
      Arises foreign levels
        (({ reached with signal := reached.signal.enter slot.id } : SignalWorld κ μ).note (.runs slot))

theorem Arises.evolves (arises : Arises foreign levels world) : Evolves {} world.signal := by
  induction arises with
  | new levels memory => exact .refl
  | @asked levels world before request ih =>
    exact ih.trans (signalService_follows (call_follows foreign levels) request world)
  | @handler levels world reached early late slot done before arg listed turns idle ih =>
    have started := emitSlots_follows (call_follows foreign (levels + 1)) arg early {} (world.note .emits)
    rw [turns] at started
    exact .tail (ih.trans started) (.enter slot.id)

/-- A program that starts in such a world ends in one. -/
theorem Arises.run {β : Type} (arises : Arises foreign levels world)
    (program : Program (signalInterface κ μ α) β) :
    Arises foreign levels ((signalInterface κ μ α).runTop (signalService κ μ α) foreign levels program
      world).2 := by
  let Kept : SignalWorld κ μ → SignalWorld κ μ → Prop := fun world next =>
    Arises foreign levels world → Arises foreign levels next
  have trans : ∀ {first second third}, Kept first second → Kept second third → Kept first third :=
    fun one two before => two (one before)
  refine Program.run_keeps (R := Kept) (fun _ before => before) trans ?_ program world arises
  exact fun request world before => before.asked request

/-! ## What ids are good for -/

/-- Every handler goes by its id, in this world and for ever. -/
structure Identified (world : SignalWorld κ μ) (call : (signalInterface κ μ α).Caller) : Prop where
  /-- The ids that were given away are the numbers from one on. -/
  numbered : world.signal.everConnected.map Slot.id =
    List.range' 1 world.signal.everConnected.length
  ordered : world.signal.slots.Pairwise fun first second => first.id < second.id
  connected : ∀ slot, slot ∈ world.signal.slots ↔
    slot ∈ world.signal.everConnected ∧ ¬world.signal.IsDropped slot
  /-- As many are connected as ever were, less those that were dropped. -/
  counted : ∃ dropped, (∀ slot ∈ dropped, world.signal.IsDropped slot) ∧
    (world.signal.slots ++ dropped).Perm world.signal.everConnected ∧
    world.signal.count = world.signal.everConnected.length - dropped.length
  connects : ∀ owner code, ∃ id next,
    signalService κ μ α call (.connect owner code) world = (.ok id, next) ∧
    (∀ older ∈ world.signal.everConnected, older.id < id) ∧
    next.signal.everConnected = world.signal.everConnected ++ [⟨id, owner, code⟩] ∧
    next.signal.slots = world.signal.slots ++ [⟨id, owner, code⟩]
  /-- The id of a handler stands for that handler only, also when it is gone. -/
  disconnects : ∀ slot ∈ world.signal.everConnected, ∃ found next,
    signalService κ μ α call (.disconnect slot.id) world = (.ok found, next) ∧
    (found = true ↔ slot ∈ world.signal.slots) ∧ next.signal.slots.Sublist world.signal.slots ∧
    (∀ other, other ∈ next.signal.slots ↔ other ∈ world.signal.slots ∧ other ≠ slot)
  /-- A number that was not given away stands for nobody. -/
  disconnectsNobody : ∀ id, id ∉ world.signal.everConnected.map Slot.id → ∃ next,
    signalService κ μ α call (.disconnect id) world = (.ok false, next) ∧
    next.signal.slots = world.signal.slots
  dismisses : ∀ owner, ∃ next,
    signalService κ μ α call (.disconnectOwner owner) world
      = (.ok (world.signal.slots.countP fun slot => slot.owner == some owner), next) ∧
    next.signal.slots = world.signal.slots.filter fun slot => slot.owner != some owner

/-- Wherever foreign code is at work, within emissions to any depth, an id names a handler for ever. -/
theorem Arises.identified (arises : Arises foreign levels world)
    (call : (signalInterface κ μ α).Caller) : Identified world call := by
  have recorded : world.signal.IsRecorded := arises.evolves.recorded .empty
  obtain ⟨ids, next⟩ := arises.evolves.numbered ⟨rfl, rfl⟩
  have ordered := recorded.numbered.sublist recorded.inOrder
  obtain ⟨dropped, whole, gone⟩ := recorded.exists_dropped
  have total := whole.length_eq
  rw [List.length_append] at total
  constructor
  case numbered => exact ids
  case ordered => exact ordered
  case connected => exact recorded.mem_slots_iff
  case counted => exact ⟨dropped, gone, whole, Nat.eq_sub_of_add_eq total⟩
  case connects =>
    intro owner code
    refine ⟨world.signal.nextId, _, rfl, recorded.below, ?_, rfl⟩
    exact everConnected_connect world.signal owner code
  case disconnects =>
    intro slot ever
    exact ⟨_, _, rfl, recorded.isConnected_iff ever, List.filter_sublist, recorded.mem_disconnect ever⟩
  case disconnectsNobody =>
    intro id unknown
    have nobody : ∀ slot ∈ world.signal.slots, slot.id ≠ id := by
      rintro slot there rfl
      exact unknown (List.mem_map_of_mem (recorded.inOrder.subset there))
    exact ⟨_, congrArg (fun found => (Except.ok found, _)) (isConnected_eq_false nobody),
      slots_disconnect_eq_self nobody⟩
  case dismisses => exact fun owner => ⟨_, rfl, rfl⟩

/-! ## A handler that is replaced while it runs -/

/-- Every handler answers at once. -/
def answering : (signalInterface Unit Unit Unit).Foreign := fun _ => .done true

/-- A signal to which a host connected two handlers. -/
def connectedPair : SignalWorld Unit Unit :=
  ((signalInterface Unit Unit Unit).runTop (signalService Unit Unit Unit) answering 1
    (.ask (.connect (some ⟨1⟩) ()) fun _ => .ask (.connect none ()) fun _ => .done ())
    { signal := {}, memory := () }).2

/-- The first of them is running, as part of an emission that has yet to reach the second. -/
def firstRunning : SignalWorld Unit Unit :=
  ({ connectedPair.note .emits with signal := connectedPair.signal.enter 1 } :
    SignalWorld Unit Unit).note (.runs ⟨1, some ⟨1⟩, ()⟩)

/-- It disconnected itself and connected another handler. -/
def firstReplaced : SignalWorld Unit Unit :=
  ((signalInterface Unit Unit Unit).runTop (signalService Unit Unit Unit) answering 0
    (.ask (.disconnect 1) fun _ => .ask (.connect (some ⟨1⟩) ()) fun _ => .done ()) firstRunning).2

theorem firstReplaced_identified : Arises answering 0 firstReplaced ∧
    firstReplaced.signal.slots.map Slot.id = [2, 3] ∧ firstReplaced.signal.running = [1] ∧
    Identified firstReplaced (means answering 0) := by
  have paired : Arises answering 1 connectedPair := (Arises.new 1 ()).run _
  have listed : connectedPair.signal.slots = [] ++ ⟨1, some ⟨1⟩, ()⟩ :: [⟨2, none, ()⟩] := rfl
  have running : Arises answering 0 firstRunning := .handler paired () listed rfl rfl
  have arises : Arises answering 0 firstReplaced := running.run _
  exact ⟨arises, rfl, rfl, arises.identified (means answering 0)⟩

end SignalWorld

end ExtensionProxy
