import ExtensionProxy.Boundary.Foreign
import ExtensionProxy.Proofs.Tally.Entering
import ExtensionProxy.Proofs.Tally.Events
import Mathlib.Data.List.DropRight

/-!
# What a tally counts

Every notice that opens a document connects handlers of its own.  So a character typed into an open
document counts once for each notice that opened it before, and each of these gives a saved document
a report.  The count is that of the characters typed since the document was first opened, and there is
one report, where the document was opened once.
-/

set_option autoImplicit false

namespace ExtensionProxy

variable {κ μ : Type}

/-! ## Events while a document is open -/

namespace HostEvent

variable (doc : DocumentHandle)

/-- The events since a document was first opened after it was last closed; none if it is not open. -/
def whileOpen (events : List HostEvent) : List HostEvent :=
  (events.rtakeWhile fun event => !event.closes doc).dropWhile fun event => !event.opens doc

/-- The characters typed after each event that opens the document, added up. -/
def typedAfterOpenings : List HostEvent → Nat
  | [] => 0
  | event :: rest =>
    (if event.opens doc then rest.countP (types doc) else 0) + typedAfterOpenings rest

variable {doc}

theorem types_of_opens {event : HostEvent} (opens : event.opens doc = true) :
    event.types doc = false := by
  cases event with
  | document moment other => rfl
  | _ => cases opens

/-- What closes a document neither opens it nor types into it. -/
theorem only_closes {event : HostEvent} (closes : event.closes doc = true) :
    event.opens doc = false ∧ event.types doc = false := by
  cases event with
  | document moment other =>
    cases moment with
    | closed => exact ⟨rfl, rfl⟩
    | _ => cases closes
  | _ => cases closes

theorem whileOpen_concat (events : List HostEvent) (event : HostEvent) :
    whileOpen doc (events ++ [event]) =
      if event.closes doc then [] else
      if whileOpen doc events = [] ∧ event.opens doc = false then []
      else whileOpen doc events ++ [event] := by
  unfold whileOpen
  rw [List.rtakeWhile_concat]
  cases event.closes doc with
  | true => rfl
  | false =>
    simp only [Bool.not_false, if_true, Bool.false_eq_true, if_false]
    rw [List.dropWhile_append]
    cases (List.rtakeWhile (fun event => !event.closes doc) events).dropWhile
      fun event => !event.opens doc with
    | nil => cases opens : event.opens doc <;> simp [opens]
    | cons first rest => simp

theorem typedAfterOpenings_concat (events : List HostEvent) (event : HostEvent) :
    typedAfterOpenings doc (events ++ [event]) = typedAfterOpenings doc events +
      if event.types doc then events.countP (opens doc) else 0 := by
  induction events with
  | nil => simp [typedAfterOpenings]
  | cons first rest ih =>
    simp only [List.cons_append, typedAfterOpenings, ih, List.countP_append, List.countP_cons]
    cases first.opens doc <;> cases event.types doc <;> (simp; try omega)

theorem typedAfterOpenings_eq_zero_iff (events : List HostEvent) :
    typedAfterOpenings doc events = 0 ↔
      events.Pairwise fun earlier later => earlier.opens doc = true → later.types doc = false := by
  induction events with
  | nil => simp [typedAfterOpenings]
  | cons first rest ih =>
    rw [typedAfterOpenings, Nat.add_eq_zero_iff, ih, List.pairwise_cons]
    refine and_congr_left fun _ => ?_
    cases first.opens doc <;> simp

/-- The first event while a document is open opens it. -/
theorem opens_of_whileOpen {events rest : List HostEvent} {first : HostEvent}
    (isOpen : whileOpen doc events = first :: rest) : first.opens doc = true := by
  have holds := List.head?_dropWhile_not (fun event => !event.opens doc)
    (events.rtakeWhile fun event => !event.closes doc)
  have head : (events.rtakeWhile fun event => !event.closes doc).dropWhile
    (fun event => !event.opens doc) = first :: rest := isOpen
  rw [head] at holds
  simpa using holds

end HostEvent

theorem Standing.foldl_after (doc : DocumentHandle) (events : List HostEvent) :
    events.foldl (fun standing event => standing.after doc event) ({} : Standing) =
      ⟨(HostEvent.whileOpen doc events).countP (HostEvent.opens doc),
        HostEvent.typedAfterOpenings doc (HostEvent.whileOpen doc events)⟩ := by
  -- On the last event, since an event ends or continues what the earlier ones left.
  induction events using List.reverseRecOn with
  | nil => rfl
  | append_singleton events event ih =>
    rw [List.foldl_append, List.foldl_cons, List.foldl_nil, ih, HostEvent.whileOpen_concat]
    cases closes : event.closes doc with
    | true =>
      obtain ⟨unopened, untyped⟩ := HostEvent.only_closes closes
      simp [Standing.after, closes, unopened, untyped, HostEvent.typedAfterOpenings]
    | false =>
      cases opens : event.opens doc with
      | true =>
        have untyped := HostEvent.types_of_opens opens
        simp [Standing.after, opens, HostEvent.typedAfterOpenings_concat, untyped]
      | false =>
        generalize HostEvent.whileOpen doc events = since
        by_cases shut : since = []
        · simp [shut, Standing.after, opens, closes, HostEvent.typedAfterOpenings]
        · cases types : event.types doc <;>
            simp [shut, Standing.after, opens, closes, types, HostEvent.typedAfterOpenings_concat]

/-! ## Sequences of events -/

namespace TallyPart

section Events

variable [DecidableEq κ] {part : TallyPart κ μ} {id : TallyId} {site : Site κ}
  {foreign : (proxyInterface κ μ).Foreign} {levels : Nat}

/-- The program of a host that dispatches an event. -/
def dispatching (event : HostEvent) : Program (proxyInterface κ μ) Unit := do
  let _ ← ask (.dispatch event)
  pure ()

/-- The state after events that are dispatched one after the other. -/
def afterEvents (site : Site κ) (foreign : (proxyInterface κ μ).Foreign) (levels : Nat)
    (events : List HostEvent) (s : State κ μ) : State κ μ :=
  (proxyInterface κ μ).live (serve site) foreign levels (events.map dispatching) s

omit [DecidableEq κ] in
theorem afterEvents_cons (event : HostEvent) (rest : List HostEvent) (s : State κ μ) :
    afterEvents site foreign levels (event :: rest) s = afterEvents site foreign levels rest
      (dispatch (Caller.noting ((proxyInterface κ μ).call (serve site) foreign levels)) event s).2 := by
  refine congrArg (afterEvents site foreign levels rest) ?_
  let call := Caller.noting ((proxyInterface κ μ).call (serve site) foreign levels)
  show ((dispatch call event >>= fun _ => pure () : Run (State κ μ) Unit) s).2 = _
  exact Run.bind_snd (fun t => t = (dispatch call event s).2) rfl fun _ _ _ same => same

omit [DecidableEq κ] in
theorem afterEvents_append (first second : List HostEvent) (s : State κ μ) :
    afterEvents site foreign levels (first ++ second) s =
      afterEvents site foreign levels second (afterEvents site foreign levels first s) := by
  induction first generalizing s with
  | nil => rfl
  | cons event rest ih => rw [List.cons_append, afterEvents_cons, afterEvents_cons, ih]

theorem Attends.afterEvents (site : Site κ) (levels : Nat)
    (among : part.RunsAmong id foreign) (events : List HostEvent)
    {standing : DocumentHandle → Standing} {s : State κ μ}
    (attends : part.Attends id standing (part.affairs id s)) :
    part.Attends id
      (fun doc => events.foldl (fun standing event => standing.after doc event) (standing doc))
      (part.affairs id (TallyPart.afterEvents site foreign (levels + 1) events s)) := by
  induction events generalizing standing s with
  | nil => exact attends
  | cons event rest ih =>
    rw [afterEvents_cons]
    exact ih (attends.dispatch (among.minds levels) event).attends

/-- What a tally makes of a document that is open, by the events since it was opened first: its count now,
and what saving the document adds to the reports. -/
structure Tells (part : TallyPart κ μ) (id : TallyId) (doc : DocumentHandle) (since : List HostEvent)
    (now saved : State κ μ) : Prop where
  counts : ∃ tally, part.tally? now id = some tally ∧
    tally.count doc = since.countP (HostEvent.types doc) + HostEvent.typedAfterOpenings doc since ∧
    (tally.count doc = since.countP (HostEvent.types doc) ↔ since.Pairwise fun earlier later =>
      earlier.opens doc = true → later.types doc = false)
  reports : part.reports id saved doc =
    part.reports id now doc + 1 + since.countP (HostEvent.opens doc)
  once : part.reports id saved doc = part.reports id now doc + 1 ↔
    ∀ event ∈ since, event.opens doc = false

/-- A tally that attends to nothing yet tells of every document that is open after some events. -/
theorem Attends.tells (among : part.RunsAmong id foreign) {s : State κ μ}
    (attends : part.Attends id (fun _ => {}) (part.affairs id s)) {events since : List HostEvent}
    {doc : DocumentHandle} {first : HostEvent}
    (isOpen : HostEvent.whileOpen doc events = first :: since) :
    part.Tells id doc since (TallyPart.afterEvents site foreign (levels + 1) events s)
      (TallyPart.afterEvents site foreign (levels + 1) (events ++ [.document .saved doc]) s) := by
  let now := TallyPart.afterEvents site foreign (levels + 1) events s
  have opens := HostEvent.opens_of_whileOpen isOpen
  have stands : events.foldl (fun standing event => standing.after doc event) ({} : Standing) =
      ⟨since.countP (HostEvent.opens doc) + 1,
        since.countP (HostEvent.types doc) + HostEvent.typedAfterOpenings doc since⟩ := by
    rw [Standing.foldl_after, isOpen, List.countP_cons_of_pos opens, HostEvent.typedAfterOpenings,
      if_pos opens]
  have after := attends.afterEvents site levels among events
  have saves : TallyPart.afterEvents site foreign (levels + 1) (events ++ [.document .saved doc]) s =
      (ExtensionProxy.dispatch (Caller.noting ((proxyInterface κ μ).call (serve site) foreign
        (levels + 1))) (.document .saved doc) now).2 := by
    rw [afterEvents_append, afterEvents_cons]
    rfl
  have reports : part.reports id (TallyPart.afterEvents site foreign (levels + 1)
      (events ++ [.document .saved doc]) s) doc =
        part.reports id now doc + 1 + since.countP (HostEvent.opens doc) := by
    have minds : part.Minds id (Caller.noting ((proxyInterface κ μ).call (serve site) foreign
      (levels + 1))) := among.minds levels
    have added := (after.dispatch minds (.document .saved doc)).reports doc
    rw [if_pos (HostEvent.saves_iff.mpr rfl), stands] at added
    rw [saves, Nat.add_assoc, Nat.add_comm 1]
    exact added
  refine ⟨?_, reports, ?_⟩
  · obtain ⟨relabeled, kept, counts⟩ := after.counts
    obtain ⟨tally, isTally, rfl⟩ := Option.map_eq_some_iff.mp kept
    have count : tally.count doc =
        since.countP (HostEvent.types doc) + HostEvent.typedAfterOpenings doc since :=
      (counts doc).trans (congrArg Standing.typed stands)
    refine ⟨tally, isTally, count, ?_⟩
    rw [count, Nat.add_eq_left, HostEvent.typedAfterOpenings_eq_zero_iff]
  · rw [reports, Nat.add_eq_left, List.countP_eq_zero]
    simp only [Bool.not_eq_true]

/-- From when it is initialized a tally counts the characters typed into an open document since it was
opened first exactly if none was typed after it was opened again, and a saved document gets exactly one
report exactly if it was opened once. -/
theorem init_counts {s : State κ μ} {calm heard : Bool} {slot : String} {record : Record}
    (room : levels ≠ 0) (among : part.RunsAmong (part.next s) foreign)
    (reached : Reached site foreign levels calm s) (unheard : part.IsUnheard s)
    (slotted : s.slotRecord? slot = some record) (ready : part.IsReady site heard record s) :
    ∃ entered, (proxyInterface κ μ).runTop (serve site) foreign levels (ask (.init slot)) s =
        (.ok (some (.ok true)), entered) ∧
      ∀ events doc first since, HostEvent.whileOpen doc events = first :: since →
        part.Tells (part.next s) doc since
          (TallyPart.afterEvents site foreign levels events entered)
          (TallyPart.afterEvents site foreign levels (events ++ [.document .saved doc]) entered) := by
  obtain ⟨levels, rfl⟩ := Nat.exists_eq_succ_of_ne_zero room
  obtain ⟨entered, ran, enters⟩ := init_enters levels among slotted ready
  have attends := enters.attends reached ready.free unheard
  exact ⟨entered, ran, fun events doc first since isOpen => attends.tells among isOpen⟩

end Events

end TallyPart

/-! ## In the process of a host -/

namespace Boundary

theorem tallyPart_injective : Function.Injective tallyPart.embed := fun _ _ same => Code.tally.inj same

/-- All libraries of a host process are tallies, and leave each other alone. -/
theorem foreign_runsAmong (table : HostTable) (id : TallyId) :
    tallyPart.RunsAmong id (foreign table) where
  injective := tallyPart_injective
  create _ _ _ := rfl
  notify _ _ _ := rfl
  observe topic slot emitted own isOwn runs := by
    simp only [foreign, runs]
    rfl
  notifyOther target code number notice other := by
    cases code with
    | declining => trivial
    | tally code =>
      cases code with
      | «instance» given =>
        refine TallyPart.notify_harmless tallyPart_injective (fun same => other ?_) notice
        exact ⟨.instance given, congrArg some same, rfl⟩
      | _ => trivial
  observeOther topic slot emitted other := by
    simp only [foreign]
    split
    · next code runs =>
      refine TallyPart.observe_harmless tallyPart_injective fun isOwn => other ?_
      exact ⟨code, isOwn, runs.symm⟩
    · trivial

namespace Sample

/-- The folder of a host with the library of the typing tally. -/
def tallySite : Site Code := ExtensionProxy.Sample.site (.tally (.factory true))

/-- A host that has loaded the library into a slot. -/
def tallyLoaded : World :=
  (interface.runTop (serve tallySite) (foreign {}) 8 (ask (.load "a" ⟨1⟩ "e/a.plugin"))
    (State.create tallySite { configDir := "cfg" } {})).2

theorem reached_run {α : Type} (program : Program interface α) :
    Reached tallySite (foreign {}) 8 false (interface.runTop (serve tallySite) (foreign {}) 8 program
      (State.create tallySite { configDir := "cfg" } {})).2 :=
  .run (.create _ _) program nofun

/-- A document that is created, and two characters that are typed into it. -/
def typedTwice : List HostEvent :=
  [.document .created ⟨7⟩, .editor ⟨7⟩ { code := 2001 }, .editor ⟨7⟩ { code := 2001 }]

theorem tallyLoaded_counts : ∃ entered,
    interface.runTop (serve tallySite) (foreign {}) 8 (TallyPart.ask (.init "a")) tallyLoaded =
        (.ok (some (.ok true)), entered) ∧
      (∃ tally, tallyPart.tally? (TallyPart.afterEvents tallySite (foreign {}) 8 typedTwice entered)
        ⟨0⟩ = some tally ∧ tally.count ⟨7⟩ = 2) ∧
      tallyPart.reports ⟨0⟩ (TallyPart.afterEvents tallySite (foreign {}) 8
          (typedTwice ++ [.document .saved ⟨7⟩]) entered) ⟨7⟩ =
        tallyPart.reports ⟨0⟩ (TallyPart.afterEvents tallySite (foreign {}) 8 typedTwice entered)
          ⟨7⟩ + 1 := by
  have reached : Reached tallySite (foreign {}) 8 false tallyLoaded := by
    unfold tallyLoaded
    exact reached_run (ask (.load "a" ⟨1⟩ "e/a.plugin"))
  have next : tallyPart.next tallyLoaded = ⟨0⟩ := by decide +kernel
  have unheard : tallyPart.IsUnheard tallyLoaded := by
    have observers : tallyLoaded.observers = .empty := by decide +kernel
    have instances : tallyLoaded.instances = [] := by decide +kernel
    refine ⟨fun topic slot there => ?_, fun found there => ?_⟩
    · rw [observers] at there
      cases there
    · rw [instances] at there
      cases there
  have slotted : (tallyLoaded.slotRecord? "a").map (fun record => (record.target, record.modulePath,
      tallyLoaded.registry.contains record.handle)) = some (none, "e/a.so", false) := by
    decide +kernel
  obtain ⟨record, isRecord, isReady⟩ := Option.map_eq_some_iff.mp slotted
  obtain ⟨bare, path, free⟩ : record.target = none ∧ record.modulePath = "e/a.so" ∧
      tallyLoaded.registry.contains record.handle = false := by simpa using isReady
  have ready : tallyPart.IsReady tallySite true record tallyLoaded := by
    refine ⟨bare, free, ⟨.library, .tally (.factory true)⟩, ?_, rfl⟩
    rw [path]
    decide +kernel
  obtain ⟨entered, ran, tells⟩ := TallyPart.init_counts (by decide) (foreign_runsAmong {} _) reached
    unheard isRecord ready
  have now := tells typedTwice ⟨7⟩ _ _ rfl
  rw [next] at now
  refine ⟨entered, ran, ?_, now.once.mpr (by decide)⟩
  obtain ⟨tally, isTally, -, right⟩ := now.counts
  exact ⟨tally, isTally, right.mpr (by decide)⟩

/-- Where a document is created and then opened, one character counts twice, and there are two reports. -/
theorem reopened_miscounts :
    let entered := (interface.runTop (serve tallySite) (foreign {}) 8 (TallyPart.ask (.init "a"))
      tallyLoaded).2
    let events : List HostEvent :=
      [.document .created ⟨7⟩, .document .opened ⟨7⟩, .editor ⟨7⟩ { code := 2001 }]
    let now := TallyPart.afterEvents tallySite (foreign {}) 8 events entered
    let saved := TallyPart.afterEvents tallySite (foreign {}) 8
      (events ++ [.document .saved ⟨7⟩]) entered
    (HostEvent.whileOpen ⟨7⟩ events).countP (HostEvent.types ⟨7⟩) = 1 ∧
      (tallyPart.tally? now ⟨0⟩).map (fun tally => tally.count ⟨7⟩) = some 2 ∧
      tallyPart.reports ⟨0⟩ now ⟨7⟩ = 0 ∧ tallyPart.reports ⟨0⟩ saved ⟨7⟩ = 2 := by
  decide +kernel

end Sample

end Boundary

end ExtensionProxy
