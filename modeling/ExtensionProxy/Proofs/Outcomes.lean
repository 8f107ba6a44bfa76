import ExtensionProxy.Proofs.Conduct.Lifecycle
import ExtensionProxy.Proofs.Marks

/-!
# What comes of initializing and of cleaning up

Initializing a record changes it only while its factory may be called.  The record is marked as loaded
for that time, and stays marked so if the call is stopped or the instance cannot be registered.

Cleaning up a record without an instance only gives its binding back.  A record that owns an instance is
detached first: it lets go of the instance, its handle leaves the registry, and its observers and tasks
are released.  Only then does it turn out whether the instance is running.  If it is, cleaning up is
refused and nothing of this is taken back; if not, the instance is destroyed, which is foreign code, and
the binding goes last.
-/

set_option autoImplicit false

namespace ExtensionProxy

open Ledger

variable {κ μ : Type} {s : State κ μ} {id : RecordId} {record : Record} {target : InstanceId}

/-! ## Initializing -/

/-- What comes of initializing a record: the result, and the record. -/
inductive Initializes (record : Record) : Except Stop (Except Cause Bool) → Record → Prop
  /-- It was initialized before. -/
  | already (initialized : record.isInitialized = true) : Initializes record (.ok (.ok true)) record
  /-- Its handle was registered before. -/
  | taken : Initializes record (.ok (.error (.handleTaken record.handle))) record
  /-- Its module cannot be bound. -/
  | unbound : Initializes record (.ok (.ok false)) record
  /-- The factory declined. -/
  | declined (bare : record.target = none) :
      Initializes record (.ok (.ok false)) { record with stage := .probed }
  /-- An instance was made and registered. -/
  | made (target : InstanceId) (binding : BindingId) (bare : record.target = none) :
      Initializes record (.ok (.ok true))
        { record with target := some target, module := some binding, stage := .initialized }
  /-- An instance was made, but its handle was registered meanwhile. -/
  | duplicate (bare : record.target = none) :
      Initializes record (.ok (.error (.alreadyRegistered record.handle.display)))
        { record with stage := .loaded }
  /-- The factory, or the code that destroys the instance again, was stopped. -/
  | stopped (why : Stop) (bare : record.target = none) :
      Initializes record (.error why) { record with stage := .loaded }

/-- The instance that a factory has just made is registered, or destroyed again. -/
theorem adopt_cases {call : Caller κ μ} (lawful : call.IsLawful) (sound : s.ledger.Sound)
    {binding : BindingId} {code : κ} (made : κ) {context : ExtensionContext}
    {base : List (Activity κ)}
    (top : s.ledger.stack = .call (.create binding code context) :: base)
    (found : s.record? id = some { record with stage := .loaded }) (alone : record.target = none)
    (loose : s.ledger.IsLoose id) :
    ∃ result reached after, adopt call.noting id record binding made
        (s.note (.ended (.call (.create binding code context)))) = (result, reached) ∧
      reached.record? id = some after ∧ Initializes record result after := by
  let returned := s.note (.ended (.call (.create binding code context)))
  let appended : State κ μ :=
    { returned with instances := s.instances ++ [⟨made, binding, true, false⟩] }
  let target : InstanceId := ⟨s.instances.length⟩
  cases taken : returned.registry.contains record.handle with
  | true =>
    have step : Step s.ledger (appended.ledger.letGo target) :=
      .duplicate s.ledger binding code made context base top
    have inner := Lawful.releaseInstance (s := appended) lawful target (step.sound sound)
    have kept : (releaseInstance call.noting target appended).2.record? id
        = some { record with stage := .loaded } :=
      (inner.exec.keeps.same id (sound.filing.lt_of_found found) loose nofun nofun).trans found
    cases ran : releaseInstance call.noting target appended with
    | mk result left =>
      rw [ran] at kept
      cases result with
      | ok value => exact ⟨_, _, _, adopt_apply_of_destroyed taken ran, kept, .duplicate alone⟩
      | error why => exact ⟨_, _, _, adopt_apply_of_stopped taken ran, kept, .stopped why alone⟩
  | false =>
    obtain ⟨reached, run, ledger, -⟩ := adopt_apply_of_free call.noting id binding made taken
    have now := (congrArg (fun c : Ledger κ => c.context.record? id) ledger).trans
      (record?_changeRecord found _)
    exact ⟨_, _, _, run, now, .made target binding alone⟩

/-- A factory is called for a binding that was just taken, and what comes of it is settled. -/
theorem construct_cases {call : Caller κ μ} (lawful : call.IsLawful) {c : Ledger κ}
    (sound : c.Sound) {binding : Binding κ} (fresh : binding.id = ⟨c.next⟩)
    (bound : s.ledger = c.bind) (found : c.context.record? id = some record)
    (alone : record.target = none) (loose : c.IsLoose id) :
    ∃ result reached after, construct call.noting id record binding s = (result, reached) ∧
      reached.record? id = some after ∧ Initializes record result after := by
  let request := record.creating binding.id binding.factory.code s
  let begun := s.creating id record binding
  have step : Step c begun.ledger := .creating bound fresh id record
  have marked := State.record?_creating bound found binding
  have free : begun.ledger.IsLoose id := State.ledger_creating bound id record binding ▸ loose
  have made := (step.sound sound).filing.lt_of_found marked
  have inner := lawful request begun (step.sound sound)
  cases called : call request begun with
  | mk result returned =>
    rw [called] at inner
    have now := (inner.exec.keeps.same id made free nofun nofun).trans marked
    have noted : call.noting request (s.loading id) =
        (result, returned.note (.ended (.call request))) := Caller.noting_apply_of_called called
    cases result with
    | error why => exact ⟨_, _, _, construct_of_stopped noted, now, .stopped why alone⟩
    | ok instance? =>
      cases instance? with
      | none =>
        obtain ⟨reached, run, ledger⟩ := construct_of_declined noted
        exact ⟨_, _, _, run, (congrArg (fun c : Ledger κ => c.context.record? id) ledger).trans
          (State.record?_modifyRecord now _), .declined alone⟩
      | some code =>
        rw [construct_of_made noted]
        exact adopt_cases lawful (inner.exec.path.sound (step.sound sound)) code
          (inner.stack.trans (State.stack_creating bound id record binding)) now alone
          (inner.exec.keeps.loose id made free nofun)

/-- Initializing a record goes in one of these ways.  Whoever initializes a record has taken it out of
its slot. -/
theorem initRecord_cases (site : Site κ) {call : Caller κ μ} (lawful : call.IsLawful)
    (sound : s.ledger.Sound) (found : s.record? id = some record) (loose : s.ledger.IsLoose id) :
    ∃ result reached after, initRecord site call.noting id record s = (result, reached) ∧
      reached.record? id = some after ∧ Initializes record result after := by
  cases initRecord_initializing site call.noting id record s with
  | already initialized log ran => exact ⟨_, _, _, ran, found, .already initialized⟩
  | taken bare taken ran => exact ⟨_, _, _, ran, found, .taken⟩
  | unbound bare free cause log fails ran => exact ⟨_, _, _, ran, found, .unbound⟩
  | bound bare free factory log binds ran =>
    have alone := sound.holdings.alone_of_uninitialized found (by simp [bare])
    rw [ran]
    exact construct_cases lawful sound rfl rfl found alone loose

/-! ## Detaching -/

/-- Detaching a record and letting its instance go is one step. -/
theorem Step.detach (found : s.record? id = some record) (owns : record.target = some target) :
    Step s.ledger ((s.detach id record).ledger.letGo target) :=
  .clean s.ledger id record target found owns

/-! ## Letting a running instance go -/

/-- Nothing is destroyed while it is running. -/
theorem Ledger.letGo_of_running {c : Ledger κ} (running : c.context.isRunning target = true) :
    c.letGo target = c.changeInstance target fun found => { found with owned := false } := by
  obtain ⟨found, there, running⟩ := Context.isRunning_iff.mp running
  have owned := instance?_changeInstance there fun found => { found with owned := false }
  exact reap_of_alive _ owned (Instance.isAlive_of_running running)

/-- What comes of cleaning a record up. -/
inductive CleansUp (s : State κ μ) (id : RecordId) (record : Record) :
    Except Stop (Except Cause Unit) → State κ μ → Prop
  /-- The record owned no instance. -/
  | bare (reached : State κ μ) (alone : record.target = none)
      (ledger : reached.ledger = (((s.ledger.note (.cleaning record)).release?
        record.module).changeRecord id fun record => { record with module := none }).note
          (.cleaned record)) :
      CleansUp s id record (.ok (.ok ())) reached
  /-- The instance was running. -/
  | refused (target : InstanceId) (owns : record.target = some target)
      (running : s.isRunning target = true) :
      CleansUp s id record (.ok (.error (.stillInUse record.handle)))
        ((s.detach id record).modifyInstance target fun found => { found with owned := false })
  /-- The code that destroys the instance was stopped. -/
  | stopped (why : Stop) (reached : State κ μ) (target : InstanceId)
      (owns : record.target = some target)
      (path : Path ((s.detach id record).ledger.letGo target) reached.ledger)
      (now : reached.record? id = some { record with target := none }) :
      CleansUp s id record (.error why) reached
  /-- The instance was destroyed, and the binding given back. -/
  | done (left : State κ μ) (reached : State κ μ) (target : InstanceId)
      (owns : record.target = some target)
      (path : Path ((s.detach id record).ledger.letGo target) left.ledger)
      (now : left.record? id = some { record with target := none })
      (ledger : reached.ledger = ((left.ledger.release? record.module).changeRecord id fun record =>
        { record with module := none, stage := .cleanedUp }).note (.cleaned record)) :
      CleansUp s id record (.ok (.ok ())) reached

/-- Cleaning up goes in one of these ways.  Whoever cleans a record up has taken it out of its slot. -/
theorem cleanupRecord_cases {call : Caller κ μ} (lawful : call.IsLawful) (sound : s.ledger.Sound)
    (found : s.record? id = some record) (loose : s.ledger.IsLoose id) :
    CleansUp s id record (cleanupRecord call.noting id record s).1
      (cleanupRecord call.noting id record s).2 := by
  cases owns : record.target with
  | none =>
    obtain ⟨reached, run, ledger⟩ := cleanupRecord_apply_of_bare call.noting s id owns
    rw [run]
    exact .bare reached owns ledger
  | some target =>
    cases running : s.isRunning target with
    | true =>
      rw [cleanupRecord_apply_of_running call.noting id owns running]
      exact .refused target owns running
    | false =>
      have inner := Lawful.releaseInstance (s := s.detach id record) lawful target
        ((Step.detach found owns).sound sound)
      cases ran : releaseInstance call.noting target (s.detach id record) with
      | mk result left =>
        rw [ran] at inner
        have path := inner.exec.path
        have now : left.record? id = some { record with target := none } :=
          (inner.exec.keeps.same id (sound.filing.lt_of_found found) loose nofun nofun).trans
            (State.record?_detach found)
        cases result with
        | error why =>
          rw [cleanupRecord_apply_of_stopped owns running ran]
          exact .stopped why left target owns path now
        | ok value =>
          obtain ⟨reached, run, ledger⟩ := cleanupRecord_apply_of_released owns running ran
          rw [run]
          exact .done left reached target owns path now ledger

end ExtensionProxy
