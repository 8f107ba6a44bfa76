import ExtensionProxy.Proofs.Conduct
import ExtensionProxy.Proxy.Delivery

/-!
# Reaching an instance is lawful

An instance is entered, left and destroyed in steps; the calls in between are foreign.  How a
callback begins is left open here, since the moment at which an instance is found ready belongs to
the step that turns to it.
-/

set_option autoImplicit false

namespace ExtensionProxy

open Ledger

variable {κ μ α : Type} {call : Caller κ μ} {s : State κ μ}

namespace Lawful

/-- A call whose end undoes nothing. -/
theorem plain_call (lawful : call.IsLawful) (request : Call κ)
    (plain : (∃ target code, request = .dropped target code) ∨ (∃ code, request = .task code) ∨
      ∃ uri, request = .openUri uri)
    (sound : (s.ledger.note (.began (.call request))).Sound) :
    Lawful {} (s.ledger.note (.began (.call request))) s.ledger.stack true
      (call.noting request s) := by
  rw [Caller.noting_apply]
  have inner := lawful request (s.note (.began (.call request))) sound
  have top : (call request (s.note (.began (.call request)))).2.ledger.stack
      = .call request :: s.ledger.stack := inner.stack
  exact ⟨inner.exec.quiet (.finish _ request _ top plain) rfl (fun _ _ => rfl) rfl fun _ => rfl,
    congrArg List.tail top⟩

/-- An instance that nothing keeps alive is destroyed. -/
theorem destroyInstance (lawful : call.IsLawful) (target : InstanceId)
    (dead : ∀ found, s.instance? target = some found → found.isAlive = false)
    (sound : (s.ledger.reap target).Sound) :
    Lawful {} (s.ledger.reap target) s.ledger.stack true
      (ExtensionProxy.destroyInstance call.noting target s) := by
  simp only [ExtensionProxy.destroyInstance, Run.get_bind_apply]
  cases there : s.instance? target with
  | none =>
    rw [reap_of_none s.ledger there]
    exact done (.refl nofun) rfl
  | some found =>
    rw [reap_of_dead s.ledger there (dead found there)] at sound ⊢
    exact plain_call lawful _ (.inl ⟨target, found.code, rfl⟩) sound

/-- A record lets its instance go. -/
theorem releaseInstance (lawful : call.IsLawful) (target : InstanceId)
    (sound : (s.ledger.letGo target).Sound) :
    Lawful {} (s.ledger.letGo target) s.ledger.stack true
      (ExtensionProxy.releaseInstance call.noting target s) := by
  simp only [ExtensionProxy.releaseInstance, Run.modify_bind_apply, Run.get_bind_apply]
  let reached := s.modifyInstance target fun found => { found with owned := false }
  change (reached.ledger.reap target).Sound at sound
  change Lawful {} (reached.ledger.reap target) reached.ledger.stack true _
  have unowned : ∀ found, reached.instance? target = some found → found.owned = false := by
    intro found there
    obtain ⟨before, -, rfl⟩ := Context.exists_of_instance?_modifyInstance there
    rfl
  cases there : reached.instance? target with
  | none =>
    rw [reap_of_none reached.ledger there]
    exact done (.refl nofun) rfl
  | some found =>
    by_cases running : found.running = true
    · simp only [running, if_true]
      rw [reap_of_alive reached.ledger there (Instance.isAlive_of_running running)]
      exact done (.refl nofun) rfl
    · simp only [running]
      refine destroyInstance lawful target (fun other here => ?_) sound
      cases there.symm.trans here
      simp [Instance.isAlive, running, unowned found there]

/-- A callback has ended and its instance is left. -/
theorem leaveInstance (lawful : call.IsLawful) (target : InstanceId)
    (sound : ((s.ledger.mark target false).reap target).Sound) :
    Lawful {} ((s.ledger.mark target false).reap target) s.ledger.stack true
      (ExtensionProxy.leaveInstance call.noting target s) := by
  simp only [ExtensionProxy.leaveInstance, Run.modify_bind_apply, Run.get_bind_apply]
  let reached := s.modifyInstance target fun found => { found with running := false }
  change (reached.ledger.reap target).Sound at sound
  change Lawful {} (reached.ledger.reap target) reached.ledger.stack true _
  have idle : ∀ found, reached.instance? target = some found → found.running = false := by
    intro found there
    obtain ⟨before, -, rfl⟩ := Context.exists_of_instance?_modifyInstance there
    rfl
  cases there : reached.instance? target with
  | none =>
    rw [reap_of_none reached.ledger there]
    exact done (.refl nofun) rfl
  | some found =>
    by_cases owned : found.owned = true
    · simp only [owned, if_true]
      rw [reap_of_alive reached.ledger there (Instance.isAlive_of_owned owned)]
      exact done (.refl nofun) rfl
    · simp only [owned]
      refine destroyInstance lawful target (fun other here => ?_) sound
      cases there.symm.trans here
      simp [Instance.isAlive, owned, idle found there]

/-- A callback runs under the mark of its instance. -/
theorem enterInstance (lawful : call.IsLawful) (target : InstanceId) (request : Call κ)
    (callback : request.target? = some target)
    (sound : ((s.ledger.mark target true).note (.began (.call request))).Sound) :
    Lawful {} ((s.ledger.mark target true).note (.began (.call request))) s.ledger.stack true
      (ExtensionProxy.enterInstance call.noting target (call.noting request) s) := by
  let entered := (s.modifyInstance target fun found => { found with running := true }).note
    (.began (.call request))
  let returned := (call request entered).2.note (.ended (.call request))
  have inner : Lawful {} entered.ledger entered.ledger.stack true (call request entered) :=
    lawful request entered sound
  have top : (call request entered).2.ledger.stack = .call request :: s.ledger.stack := inner.stack
  have exec := inner.exec.quiet (.leave _ target request _ top callback) rfl (fun _ _ => rfl) rfl
    fun other => about_reap target _ other
  have left := leaveInstance (s := returned) lawful target (exec.path.sound sound)
  change Lawful {} entered.ledger _ true (Run.ensuring (call.noting request)
    (ExtensionProxy.leaveInstance call.noting target)
    (s.modifyInstance target fun found => { found with running := true }))
  refine ensuring_whole ?_
  rw [Caller.noting_apply]
  exact ⟨(after exec left).exec, left.stack.trans (congrArg List.tail top)⟩

end Lawful

/-- An instance is ready, or it is running, or it is gone. -/
theorem deliver_cases (call : Caller κ μ) (target : InstanceId)
    (callback : κ → Run (State κ μ) α) (s : State κ μ) :
    (∃ found, s.ledger.IsReady target found ∧
      deliver call target callback s
        = (enterInstance call target (callback found.code) >>= fun value =>
            pure (.delivered value)) s) ∨
    (s.isRunning target = true ∧ deliver call target callback s = (.ok .busy, s)) ∨
    (s.isAlive target = false ∧ deliver call target callback s = (.ok .gone, s)) := by
  simp only [deliver, Run.get_bind_apply]
  cases there : s.instance? target with
  | none => exact .inr (.inr ⟨by simp [Context.isAlive, there], rfl⟩)
  | some found =>
    by_cases running : found.running = true
    · exact .inr (.inl ⟨(Context.isRunning_of_found there).trans running, by simp [running]⟩)
    · by_cases owned : found.owned = true
      · exact .inl ⟨found, ⟨there, owned, by simpa using running⟩, by simp [running, owned]⟩
      · exact .inr (.inr ⟨by simp [Context.isAlive, there, Instance.isAlive, running, owned],
          by simp [running, owned]⟩)

end ExtensionProxy
