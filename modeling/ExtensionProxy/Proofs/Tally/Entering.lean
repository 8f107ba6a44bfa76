import ExtensionProxy.Proofs.Observing
import ExtensionProxy.Proofs.Probing
import ExtensionProxy.Proofs.Tally.Attending
import ExtensionProxy.Proofs.Turns
import ExtensionProxy.Proofs.Wrappers

/-!
# How a tally comes to be

A record whose module has the tally's factory is initialized.  If nothing of the new tally is around
before, it attends to nothing afterwards, and its instance is registered once.
-/

set_option autoImplicit false

namespace ExtensionProxy

variable {κ μ : Type}

namespace TallyPart

/-- The tally that is made next. -/
def next (part : TallyPart κ μ) (s : State κ μ) : TallyId := ⟨(part.list s).length⟩

section Create

variable (part : TallyPart κ μ) (site : Site κ) (call : Caller κ μ)

omit part in
theorem run_view_bind {α β : Type} (f : State κ μ → α) (next : α → Program (proxyInterface κ μ) β)
    (s : State κ μ) :
    (view f >>= next).run (serve site call) s = (next (f s)).run (serve site call) s := rfl

theorem run_tell (id : TallyId) (event : Tally → LogEvent) (s : State κ μ) :
    ∃ reached, (part.tell id event).run (serve site call) s = (.ok (), reached) ∧
      reached = { s with bench := reached.bench } := by
  cases kept : part.tally? s id with
  | none =>
    have ran : (part.tell id event).run (serve site call) s = (.ok (), s) := by
      simp only [tell, run_view_bind, kept]
      rfl
    exact ⟨s, ran, rfl⟩
  | some tally =>
    have ran : (part.tell id event).run (serve site call) s =
        (if tally.heard then ask (.tell (event tally)) else pure () :
          Program (proxyInterface κ μ) Unit).run (serve site call) s := by
      simp only [tell, run_view_bind, kept]
    rw [ran]
    cases tally.heard with
    | true => exact ⟨s.tell (event tally), rfl, rfl⟩
    | false => exact ⟨s, rfl, rfl⟩

theorem run_create (heard : Bool) (context : ExtensionContext) (s : State κ μ) :
    ∃ reached, (part.create heard context).run (serve site call) s =
        (.ok (some (part.embed (.instance (part.next s)))), reached) ∧
      reached = { s with
        memory := part.tallies.modify (· ++ [{ owner := context.handle, heard := heard }]) s.memory
        bench := reached.bench } := by
  let made := s.remember (part.tallies.modify fun tallies =>
    tallies ++ [{ owner := context.handle, heard := heard }])
  obtain ⟨reached, ran, same⟩ := run_tell part site call (part.next s)
    (fun _ => ⟨.info, "Typing tally created",
      [("handle", context.handle.display), ("config", context.configPath)]⟩) made
  refine ⟨reached, ?_, same⟩
  have looked : (part.create heard context).run (serve site call) s =
      ((part.tell (part.next s) (fun _ => ⟨.info, "Typing tally created",
        [("handle", context.handle.display), ("config", context.configPath)]⟩) >>= fun _ =>
        pure (some (part.embed (.instance (part.next s)))) :
          Program (proxyInterface κ μ) (Option κ))).run (serve site call) made := rfl
  rw [looked]
  refine (Program.run_bind (I := proxyInterface κ μ) _ _ made).trans ?_
  exact Run.bind_apply_of_ok _ ran

/-- Calls of the factory make a tally; apart from that only the bench and the history may change. -/
def Makes (part : TallyPart κ μ) (heard : Bool) (call : Caller κ μ) : Prop :=
  ∀ binding context s, ∃ reached,
    call (.create binding (part.embed (.factory heard)) context) s =
      (.ok (some (part.embed (.instance (part.next s)))), reached) ∧
    reached = { s with
      memory := part.tallies.modify (· ++ [{ owner := context.handle, heard := heard }]) s.memory
      bench := reached.bench, history := reached.history }

variable {part site call} in
theorem RunsAmong.makes {id : TallyId} {foreign : (proxyInterface κ μ).Foreign}
    (among : part.RunsAmong id foreign) (heard : Bool) (levels : Nat) :
    part.Makes heard (Caller.noting ((proxyInterface κ μ).call (serve site) foreign (levels + 1))) := by
  intro binding context s
  let request : Call κ := .create binding (part.embed (.factory heard)) context
  let begun := s.note (.began (.call request))
  obtain ⟨reached, ran, same⟩ := run_create part site
    ((proxyInterface κ μ).call (serve site) foreign levels) heard context begun
  have foreignRan : (foreign request).run
      (serve site ((proxyInterface κ μ).call (serve site) foreign levels)) begun =
        (.ok (some (part.embed (.instance (part.next s)))), reached) := by
    rw [among.create]
    exact ran
  have noted : Caller.noting ((proxyInterface κ μ).call (serve site) foreign (levels + 1)) request s =
      Run.ensuring ((foreign request).run
        (serve site ((proxyInterface κ μ).call (serve site) foreign levels)))
        (Run.note (.ended (.call request))) begun := rfl
  refine ⟨reached.note (.ended (.call request)), ?_, ?_⟩
  · rw [noted]
    simp only [Run.ensuring, foreignRan]
    rfl
  · rw [same]
    rfl

end Create

/-! ## Initializing -/

section Init

variable {part : TallyPart κ μ} {site : Site κ} {call : Caller κ μ} {s : State κ μ}

/-- The record has no instance, its handle is free, and its module has the tally's factory. -/
structure IsReady (part : TallyPart κ μ) (site : Site κ) (heard : Bool) (record : Record)
    (s : State κ μ) : Prop where
  bare : record.target = none
  free : s.registry.contains record.handle = false
  module : ∃ factory, site.binder.bind site.files record.modulePath
    site.settings.loader.factorySymbol = .ok factory ∧ factory.code = part.embed (.factory heard)

/-- A tally was made and registered; apart from that only the record, its slot, the bench and the history
may have changed. -/
def Enters (part : TallyPart κ μ) (heard : Bool) (record : Record) (s entered : State κ μ) : Prop :=
  ∃ binding, entered = { s with
    memory := part.tallies.modify (· ++ [{ owner := record.handle, heard := heard }]) s.memory
    registry := s.registry.insert record.handle ⟨record.descriptor.name, ⟨s.instances.length⟩⟩
    instances := s.instances ++ [⟨part.embed (.instance (part.next s)), binding, true, false⟩]
    records := entered.records, slots := entered.slots
    bench := entered.bench, history := entered.history }

theorem initRecord_enters {heard : Bool} {record : Record}
    (ready : part.IsReady site heard record s) (id : RecordId) (makes : part.Makes heard call) :
    ∃ reached, initRecord site call id record s = (.ok (.ok true), reached) ∧
      part.Enters heard record s reached ∧ reached.slots = s.slots := by
  obtain ⟨factory, bound, isTally⟩ := ready.module
  have bare : record.isInitialized = false := by
    rw [Record.isInitialized, ready.bare, Option.isSome_none, Bool.and_false]
  obtain ⟨log, constructed⟩ := initRecord_apply_of_bound bare ready.free bound call id
  obtain ⟨returned, called, isReturned⟩ := makes ⟨s.bench.next⟩ (ExtensionContext.make record.handle
    record.descriptor record.modulePath s.host.configDir) ((s.binding log).loading id)
  have free : returned.registry.contains record.handle = false := by
    rw [isReturned]
    exact ready.free
  obtain ⟨reached, adopted, -, isReached⟩ := adopt_apply_of_free call id ⟨s.bench.next⟩
    (part.embed (.instance (part.next ((s.binding log).loading id)))) free
  refine ⟨reached, ?_, ⟨⟨s.bench.next⟩, ?_⟩, ?_⟩
  · rw [constructed, construct_of_made (by rw [← isTally] at called; exact called)]
    exact adopted
  · rw [isReached, isReturned]
    rfl
  · rw [isReached, isReturned]
    rfl

theorem storeRecord_apply (call : Caller κ μ) {slot : String} (id : RecordId)
    (empty : s.slots.get? slot = none) :
    storeRecord call slot id s = (.ok (), { s with slots := s.slots.insert slot id }) := by
  simp only [storeRecord, Run.get_bind_apply, Run.modify_bind_apply, empty]
  rfl

theorem takeRecord_apply {slot : String} {record : Record}
    (slotted : s.slotRecord? slot = some record) :
    ∃ id, takeRecord slot s =
      (.ok (some (id, record)), { s with slots := s.slots.erase slot }) := by
  obtain ⟨id, there, found⟩ := Option.bind_eq_some_iff.mp slotted
  refine ⟨id, ?_⟩
  simp only [takeRecord, Run.get_bind_apply, there, Run.modify_bind_apply]
  show (Except.ok ((s.record? id).map fun record => (id, record)), _) = _
  rw [found]
  rfl

/-- Initializing a record that is ready makes a tally and registers it. -/
theorem init_enters {id : TallyId} {foreign : (proxyInterface κ μ).Foreign} (levels : Nat)
    (among : part.RunsAmong id foreign) {heard : Bool} {slot : String} {record : Record}
    (slotted : s.slotRecord? slot = some record) (ready : part.IsReady site heard record s) :
    ∃ entered, (proxyInterface κ μ).runTop (serve site) foreign (levels + 1) (ask (.init slot)) s =
        (.ok (some (.ok true)), entered) ∧ part.Enters heard record s entered := by
  let call := Caller.noting ((proxyInterface κ μ).call (serve site) foreign (levels + 1))
  obtain ⟨id, taken⟩ := takeRecord_apply slotted
  let mid : State κ μ := { s with slots := s.slots.erase slot }
  have makes : part.Makes heard call := among.makes heard levels
  have stillReady : part.IsReady site heard record mid := ⟨ready.bare, ready.free, ready.module⟩
  obtain ⟨reached, ran, ⟨binding, grows⟩, slots⟩ := initRecord_enters stillReady id makes
  have empty : reached.slots.get? slot = none := by
    rw [slots]
    exact (OrderedMap.get?_erase _ _ _).trans (if_pos rfl)
  refine ⟨{ reached with slots := reached.slots.insert slot id }, ?_, ⟨binding, ?_⟩⟩
  · have stored : Run.ensuring (initRecord site call id record) (storeRecord call slot id) mid =
        (.ok (.ok true), { reached with slots := reached.slots.insert slot id }) := by
      simp only [Run.ensuring, ran, storeRecord_apply call id empty]
    have worked : withRecord call slot (fun id record => initRecord site call id record) s =
        (.ok (some (.ok true)), { reached with slots := reached.slots.insert slot id }) := by
      simp only [withRecord]
      rw [Run.bind_apply_of_ok _ taken]
      exact Run.bind_apply_of_ok _ stored
    exact Run.bind_apply_of_ok _ worked
  · rw [grows]
    rfl

/-- No handler and no instance has code of the tally that is made next. -/
structure IsUnheard (part : TallyPart κ μ) (s : State κ μ) : Prop where
  handlers : ∀ topic, ∀ slot ∈ (s.observers.signal topic).slots, ¬part.Owns (part.next s) slot.code
  instances : ∀ found ∈ s.instances, ¬part.Owns (part.next s) found.code

theorem Enters.registers [DecidableEq κ] {heard : Bool} {record : Record} {entered : State κ μ}
    (enters : part.Enters heard record s entered) (inStep : s.registry.InStep)
    (made : ∀ entry ∈ s.registry.entries, entry.2.target.index < s.instances.length)
    (free : s.registry.contains record.handle = false) (unheard : part.IsUnheard s) :
    part.Registers (part.next s) (part.affairs (part.next s) entered) := by
  obtain ⟨binding, grows⟩ := enters
  have instances : (part.affairs (part.next s) entered).instances = s.instances ++
      [⟨part.embed (.instance (part.next s)), binding, true, false⟩] := by
    show entered.instances = _
    rw [grows]
  refine ⟨s.registry.entries, record.handle, ⟨record.descriptor.name, ⟨s.instances.length⟩⟩, [],
    binding, ?_, ?_, ?_⟩
  · show entered.registry.entries = _
    rw [grows]
    refine IdentityCache.entries_insert inStep ?_ _
    exact Option.not_isSome_iff_eq_none.mp (Bool.eq_false_iff.mp free)
  · rw [instances]
    simp
  · intro other there found isFound
    rw [List.append_nil] at there
    rw [instances, List.getElem?_append_left (made other there)] at isFound
    exact unheard.instances found (List.mem_of_getElem? isFound)

theorem Enters.handlers_eq_zero [DecidableEq κ] {heard : Bool} {record : Record}
    {entered : State κ μ} (enters : part.Enters heard record s entered) (unheard : part.IsUnheard s)
    (topic : Topic) (own : TallyCode) :
    (part.affairs (part.next s) entered).handlers topic own = 0 := by
  obtain ⟨binding, grows⟩ := enters
  have observers : entered.observers = s.observers := by rw [grows]
  simp only [affairs, observers]
  split
  · next isOwn =>
    refine List.countP_eq_zero.mpr fun slot there => ?_
    have other := unheard.handlers topic slot there
    exact fun runs => other ⟨own, isOwn, (of_decide_eq_true runs).symm⟩
  · rfl

/-- A tally that was just made and registered attends to nothing. -/
theorem Enters.attends [DecidableEq κ] {foreign : (proxyInterface κ μ).Foreign} {levels : Nat}
    {calm heard : Bool} {record : Record} {entered : State κ μ}
    (enters : part.Enters heard record s entered) (reached : Reached site foreign levels calm s)
    (free : s.registry.contains record.handle = false) (unheard : part.IsUnheard s) :
    part.Attends (part.next s) (fun _ => {}) (part.affairs (part.next s) entered) := by
  have path := reached.ledger.path
  have quiet : s.ledger.stack = [] := reached.ledger.quiet
  have silent := enters.handlers_eq_zero unheard
  have registers := enters.registers path.enrols.inStep
    (fun entry there => path.distinct.made entry (path.enrols.ordered.subset there)) free unheard
  obtain ⟨binding, grows⟩ := enters
  exact {
    registers := registers
    idle := by
      intro topic
      have marked := path.handlersMarked Ledger.empty_handlersMarked topic
      rw [Ledger.observing, quiet] at marked
      show (entered.observers.signal topic).running = []
      rw [grows]
      exact marked
    counts := by
      refine ⟨{ owner := record.handle, heard := heard }, ?_, fun _ => rfl⟩
      have tally : part.tally? entered (part.next s) =
          some { owner := record.handle, heard := heard } := by
        rw [grows]
        simp [tally?, list, next, Lens.modify, part.tallies.get_set]
      show (part.tally? entered (part.next s)).map _ = _
      rw [tally]
      rfl
    untyped := fun _ _ => rfl
    unopened := fun _ _ => rfl
    wrapped := by
      intro doc wrapper there
      have there : entered.documents.get? doc = some wrapper := there
      rw [grows] at there
      show entered.documentWrappers[wrapper.index]? = some doc
      rw [grows]
      exact path.wraps.made doc wrapper there
    watched := by
      intro doc wrapper _ topic own _
      rw [silent, ite_self]
    fresh := fun topic _ _ _ own => silent topic own
    plain := fun topic _ own => silent topic own }

end Init

end TallyPart

end ExtensionProxy
