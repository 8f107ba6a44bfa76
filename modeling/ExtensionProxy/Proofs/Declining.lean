import ExtensionProxy.Proofs.Probing
import ExtensionProxy.Proofs.Stages

/-!
# Whether a failed initialization leaves the record as it was

An initialization that comes to nothing is meant to leave everything as it was.  If the module cannot be
bound nothing has been touched yet, and it does.  If the factory declines, the binding is given back and
the record is marked as probed, whatever it was marked as before; its module and its instance stay as
they are.  So a record that was cleaned up, or one that is still marked as loaded since its factory was
stopped, does not come out as it went in.

What the registry holds and how many bindings there are is up to the factory: initializing puts nothing
there of its own accord before an instance is made.
-/

set_option autoImplicit false

namespace ExtensionProxy

section

variable {κ μ : Type} {site : Site κ} {call : Caller κ μ} {id : RecordId} {record : Record}
  {s reached returned : State κ μ}

/-- Of what an initialization touches, everything is as it was before: the record with its stage, its
module and its instance, the registry in its order, and how many bindings are held. -/
structure AsItWas (id : RecordId) (s reached : State κ μ) : Prop where
  record : reached.record? id = s.record? id
  registry : reached.registry = s.registry
  bindings : reached.liveBindings = s.liveBindings

/-! ## What a factory leaves that declines -/

/-- A record whose factory declined comes out as it went in, but marked as probed. -/
theorem Initializes.eq_of_declined {after : Record}
    (comes : Initializes record (.ok (.ok false)) after) (probed : after.stage = .probed) :
    after = { record with stage := .probed } := by
  cases comes with
  | unbound => rw [← probed]
  | declined => rfl

/-- Only the factory can have changed the registry and what is bound. -/
theorem construct_declines (lawful : call.IsLawful) {c : Ledger κ} (sound : c.Sound)
    {binding : Binding κ} (fresh : binding.id = ⟨c.next⟩) (bound : s.ledger = c.bind)
    (found : c.context.record? id = some record) (alone : record.target = none)
    (loose : c.IsLoose id)
    (called : call.noting (record.creating binding.id binding.factory.code s) (s.loading id) =
      (.ok none, returned)) :
    ∃ reached, construct call.noting id record binding s = (.ok (.ok false), reached) ∧
      reached.record? id = some { record with stage := .probed } ∧
      reached.registry = returned.registry ∧
      reached.bench.held = returned.bench.held.erase binding.id := by
  obtain ⟨reached, ran, ledger⟩ := construct_of_declined called
  obtain ⟨result, other, after, ran', now, comes⟩ :=
    construct_cases lawful sound fresh bound found alone loose
  obtain ⟨rfl, rfl⟩ := Prod.mk.inj (ran.symm.trans ran')
  refine ⟨reached, ran, ?_, congrArg (fun c : Ledger κ => c.context.registry) ledger,
    congrArg (fun c : Ledger κ => c.held) ledger⟩
  let mark := fun record : Record => { record with stage := .probed }
  have marked : (returned.record? id).map mark = some after :=
    calc (returned.record? id).map mark
        = (returned.modifyRecord id mark).record? id :=
          ((Context.record?_modifyRecord returned.toContext id id mark).trans (if_pos rfl)).symm
      _ = reached.record? id := (congrArg (fun c : Ledger κ => c.context.record? id) ledger).symm
      _ = some after := now
  obtain ⟨old, -, rfl⟩ := Option.map_eq_some_iff.mp marked
  rw [now, comes.eq_of_declined rfl]

/-! ## How an initialization comes to nothing -/

/-- How an initialization comes to nothing that reports no fault. -/
inductive ComesToNothing (site : Site κ) (call : Caller κ μ) (id : RecordId) (record : Record)
    (s reached : State κ μ) : Prop
  /-- The module cannot be bound, and everything is as it was. -/
  | unbound (binds : site.binds record.modulePath = false) (same : AsItWas id s reached)
  /-- The factory was called and declined.  The record is probed now; so everything is as it was if and
  only if it was probed before and the factory, when it returned, had left the registry and the number of
  bindings alone. -/
  | declined (factory : Factory κ) (log : Array LogEvent) (returned : State κ μ)
      (bound : site.binder.bind site.files record.modulePath site.settings.loader.factorySymbol =
        .ok factory)
      (called : call (record.creating ⟨s.bench.next⟩ factory.code s) ((s.binding log).loading id) =
        (.ok none, returned))
      (now : reached.record? id = some { record with stage := .probed })
      (same_iff : AsItWas id s reached ↔ record.stage = .probed ∧
        returned.registry = s.registry ∧
        (returned.bench.held.erase ⟨s.bench.next⟩).length = s.liveBindings)

/-- Every initialization that comes to nothing without a fault does so in one of these ways, whatever
the record went through before. -/
theorem Treated.comesToNothing {foreign : (proxyInterface κ μ).Foreign} {course : List Treatment}
    (treated : Treated site foreign id course record s) (loose : s.ledger.IsLoose id) {levels : Nat}
    (ran : initRecord site (Caller.noting ((proxyInterface κ μ).call (serve site) foreign levels)) id
      record s = (.ok (.ok false), reached)) :
    ComesToNothing site (Caller.noting ((proxyInterface κ μ).call (serve site) foreign levels)) id
      record s reached := by
  cases initRecord_initializing site _ id record s with
  | already _ log run => cases ran.symm.trans run
  | taken _ taken run => cases ran.symm.trans run
  | unbound _ free cause log fails run =>
    have unbound : site.binds record.modulePath = false := by
      rw [Site.binds, fails]
      rfl
    cases ran.symm.trans run
    exact .unbound unbound ⟨rfl, rfl, rfl⟩
  | bound bare free factory log binds run =>
    have sound := Path.sound treated.path Ledger.empty_sound
    have alone := sound.holdings.alone_of_uninitialized treated.found (by simp [bare])
    rw [run] at ran
    obtain ⟨returned, called⟩ := (construct_iff _ id record _ _).2.mp (congrArg Prod.fst ran)
    obtain ⟨other, ran', now, registry, held⟩ := construct_declines (call_lawful site foreign levels)
      sound rfl rfl treated.found alone loose called
    obtain rfl := (Prod.mk.inj (ran.symm.trans ran')).2
    have counted : reached.liveBindings = (returned.bench.held.erase ⟨s.bench.next⟩).length :=
      congrArg List.length held
    refine .declined factory log returned binds called now ⟨?_, ?_⟩
    · rintro ⟨same, kept, count⟩
      have probed := Option.some.inj (now.symm.trans (same.trans treated.found))
      exact ⟨(congrArg Record.stage probed).symm, registry.symm.trans kept, counted.symm.trans count⟩
    · rintro ⟨probed, kept, count⟩
      have same : { record with stage := .probed } = record := by rw [← probed]
      exact ⟨now.trans (same ▸ treated.found.symm), registry.trans kept, counted.trans count⟩

end

/-! ## Factories that decline at once, and later -/

namespace Sample

/-- Foreign code whose factories do as they please, told by which binding their code came from. -/
def moody (mood : BindingId → Program (proxyInterface Unit Unit) (Option Unit)) :
    (proxyInterface Unit Unit).Foreign := fun call =>
  match call with
  | .create binding _ _ => mood binding
  | other => foreign (fun _ => .done ()) other

/-- Foreign code whose factories do as they please, called on a small stack. -/
def calling (mood : BindingId → Program (proxyInterface Unit Unit) (Option Unit)) : Caller Unit Unit :=
  Caller.noting ((proxyInterface Unit Unit).call (serve (site ())) (moody mood) 8)

/-- The first record is initialized by such a factory. -/
def tryOut (mood : BindingId → Program (proxyInterface Unit Unit) (Option Unit)) :
    Run (State Unit Unit) (Except Cause Bool) :=
  treat (initRecord (site ()) (calling mood) ⟨0⟩)

/-- It is cleaned up. -/
def tidyUp (mood : BindingId → Program (proxyInterface Unit Unit) (Option Unit)) :
    Run (State Unit Unit) (Except Cause Unit) :=
  treat (cleanupRecord (calling mood) ⟨0⟩)

section

variable {mood : BindingId → Program (proxyInterface Unit Unit) (Option Unit)} {course : List Treatment}
  {record after : Record} {s : State Unit Unit}

theorem tryOut_ran (found : s.record? ⟨0⟩ = some record)
    (failed : (tryOut mood s).1 = .ok (.ok false)) :
    initRecord (site ()) (calling mood) ⟨0⟩ record s = (.ok (.ok false), (tryOut mood s).2) :=
  (treat_apply found).symm.trans (Prod.ext failed rfl)

theorem tryOut_treated (treated : Treated (site ()) (moody mood) ⟨0⟩ course record s)
    (empty : s.slots = .empty) (now : (tryOut mood s).2.record? ⟨0⟩ = some after) :
    Treated (site ()) (moody mood) ⟨0⟩ (⟨.init (tryOut mood s).1, record, after⟩ :: course) after
      (tryOut mood s).2 :=
  .init treated (loose_of_empty empty _) (treat_apply treated.found).symm now

theorem tidyUp_treated (treated : Treated (site ()) (moody mood) ⟨0⟩ course record s)
    (empty : s.slots = .empty) (now : (tidyUp mood s).2.record? ⟨0⟩ = some after) :
    Treated (site ()) (moody mood) ⟨0⟩ (⟨.cleanup (tidyUp mood s).1, record, after⟩ :: course) after
      (tidyUp mood s).2 :=
  .cleanup treated (loose_of_empty empty _) (treat_apply treated.found).symm now

end

/-- A factory that declines at once. -/
def unwilling : BindingId → Program (proxyInterface Unit Unit) (Option Unit) := fun _ => .done none

/-- A record that was never initialized stays probed. -/
theorem unwilling_asItWas : ∃ record, Treated (site ()) (moody unwilling) ⟨0⟩ [] record bare ∧
    bare.ledger.IsLoose ⟨0⟩ ∧ (tryOut unwilling bare).1 = .ok (.ok false) ∧
    ComesToNothing (site ()) (calling unwilling) ⟨0⟩ record bare (tryOut unwilling bare).2 ∧
    AsItWas ⟨0⟩ bare (tryOut unwilling bare).2 := by
  obtain ⟨record, treated⟩ := bare_treated (moody unwilling)
  have loose := loose_of_empty (s := bare) (by decide +kernel) ⟨0⟩
  have failed : (tryOut unwilling bare).1 = .ok (.ok false) := eq_of_value? (by decide +kernel)
  have held : (tryOut unwilling bare).2.bench.held = bare.bench.held := by decide +kernel
  have same : AsItWas ⟨0⟩ bare (tryOut unwilling bare).2 :=
    ⟨by decide +kernel, by decide +kernel, congrArg List.length held⟩
  -- The law is applied for any state, so that nobody is tempted to evaluate the runs.
  have law : ∀ s record, Treated (site ()) (moody unwilling) ⟨0⟩ [] record s → s.ledger.IsLoose ⟨0⟩ →
      (tryOut unwilling s).1 = .ok (.ok false) →
      ComesToNothing (site ()) (calling unwilling) ⟨0⟩ record s (tryOut unwilling s).2 :=
    fun s record treated loose failed =>
      treated.comesToNothing loose (tryOut_ran treated.found failed)
  exact ⟨record, treated, loose, failed, law bare record treated loose failed, same⟩

/-- In a state that a record has reached at a stage, it is tried out in vain, and comes out probed. -/
def ComesOutProbed (mood : BindingId → Program (proxyInterface Unit Unit) (Option Unit))
    (stage : Stage) (s : State Unit Unit) : Prop :=
  ∃ course record, Treated (site ()) (moody mood) ⟨0⟩ course record s ∧ record.stage = stage ∧
    (tryOut mood s).1 = .ok (.ok false) ∧
    ((tryOut mood s).2.record? ⟨0⟩).map (fun record => record.stage) = some .probed ∧
    ¬AsItWas ⟨0⟩ s (tryOut mood s).2

/-- A factory that makes one instance and declines from then on. -/
def fickle : BindingId → Program (proxyInterface Unit Unit) (Option Unit) := fun binding =>
  .done (if binding.index = 0 then some () else none)

/-- A factory that panics at first and declines from then on. -/
def shy : BindingId → Program (proxyInterface Unit Unit) (Option Unit) := fun binding =>
  if binding.index = 0 then .panic none else .done none

theorem comesOutProbed_of_stage {mood : BindingId → Program (proxyInterface Unit Unit) (Option Unit)}
    {course : List Treatment} {record : Record} {s : State Unit Unit} {stage : Stage}
    (treated : Treated (site ()) (moody mood) ⟨0⟩ course record s) (isAt : record.stage = stage)
    (other : stage ≠ .probed) (failed : value? (tryOut mood s).1 = some false)
    (now : ((tryOut mood s).2.record? ⟨0⟩).map (fun record => record.stage) = some .probed) :
    ComesOutProbed mood stage s := by
  refine ⟨course, record, treated, isAt, eq_of_value? failed, now, fun same => other ?_⟩
  rw [same.record, treated.found] at now
  exact isAt.symm.trans (Option.some.inj now)

/-- A record that was cleaned up before its factory declines is not cleaned up after that, and one that
was loaded is not loaded. -/
theorem fickle_not_asItWas :
    ComesOutProbed fickle .cleanedUp (tidyUp fickle (tryOut fickle bare).2).2 ∧
      ComesOutProbed shy .loaded (tryOut shy bare).2 := by
  constructor
  · obtain ⟨record, treated⟩ := bare_treated (moody fickle)
    obtain ⟨now, found⟩ := Option.isSome_iff_exists.mp
      (show ((tryOut fickle bare).2.record? ⟨0⟩).isSome = true by decide +kernel)
    have made := tryOut_treated treated (by decide +kernel) found
    have facts : ((tidyUp fickle (tryOut fickle bare).2).2.record? ⟨0⟩).map
        (fun record => record.stage) = some .cleanedUp := by decide +kernel
    obtain ⟨after, there, cleaned⟩ := Option.map_eq_some_iff.mp facts
    have worn := tidyUp_treated made (by decide +kernel) there
    exact comesOutProbed_of_stage worn cleaned (by decide) (by decide +kernel) (by decide +kernel)
  · obtain ⟨record, treated⟩ := bare_treated (moody shy)
    have facts : ((tryOut shy bare).2.record? ⟨0⟩).map (fun record => record.stage) = some .loaded := by
      decide +kernel
    obtain ⟨after, there, loaded⟩ := Option.map_eq_some_iff.mp facts
    have shaken := tryOut_treated treated (by decide +kernel) there
    exact comesOutProbed_of_stage shaken loaded (by decide) (by decide +kernel) (by decide +kernel)

end Sample

end ExtensionProxy
