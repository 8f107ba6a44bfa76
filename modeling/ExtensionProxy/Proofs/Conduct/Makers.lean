import ExtensionProxy.Proofs.Conduct.Service
import ExtensionProxy.Proxy.Maker

/-!
# Makers are lawful

A maker runs when there is no wrapper of a document, with nothing held: the cache is looked up again
afterwards, and only then is something registered.  So it is enough that the maker is lawful; what it
builds is registered in one step, or is built in vain.
-/

set_option autoImplicit false

namespace ExtensionProxy

variable {κ μ α : Type} {s : State κ μ}

namespace Lawful

/-- What a maker has built is registered unless the document was registered meanwhile. -/
theorem settleWrapper (handle : DocumentHandle) :
    Lawful {} s.ledger s.ledger.stack true
      ((buildDocument (pure ()) handle >>= fun wrapper => do
        let cache ← Run.gets State.documentsLens.get
        let (registered, next) := IdentityCache.register cache handle wrapper
        Run.modify (State.documentsLens.set next)
        pure registered) s) := by
  let wrapper : DocumentId := ⟨s.documentWrappers.length⟩
  cases there : s.documents.get? handle with
  | none =>
    have registered : (IdentityCache.register s.documents handle wrapper).2
        = s.documents.insert handle wrapper := by
      simp [IdentityCache.register, there]
    refine of_step (d := s.ledger.enroll handle) ?_ (.enroll s.ledger handle there) rfl rfl rfl
      (fun _ => rfl) rfl
    exact congrArg (fun documents => { s.ledger.enroll handle with
      context.documents := documents }) registered
  | some existing =>
    have registered : (IdentityCache.register s.documents handle wrapper).2 = s.documents := by
      simp [IdentityCache.register, there]
    refine of_step (d := { s.ledger with wrapped := s.ledger.wrapped ++ [handle] }) ?_
      (.waste s.ledger handle) rfl rfl rfl (fun _ => rfl) rfl
    exact congrArg (fun documents => { s.ledger with
      wrapped := s.ledger.wrapped ++ [handle], context.documents := documents }) registered

/-- A wrapper from a maker. -/
theorem addWith {make : Run (State κ μ) Unit}
    (lawful : Lawful {} s.ledger s.ledger.stack true (make s)) (handle : DocumentHandle) :
    Lawful {} s.ledger s.ledger.stack true
      (IdentityCache.addWith State.documentsLens handle (buildDocument make handle) s) := by
  simp only [IdentityCache.addWith, Run.gets_bind_apply]
  cases there : (State.documentsLens.get s).get? handle with
  | some existing => exact of_same rfl
  | none =>
    -- The maker runs first; what is done with its wrapper looks at the cache as it is by then.
    change Lawful {} _ _ true (((make >>= fun _ => buildDocument (pure ()) handle) >>= _) s)
    rw [Run.bind_bind_apply]
    exact bind lawful fun _ reached _ exec stack => resume exec stack (settleWrapper handle)

end Lawful

/-! ## Foreign code -/

variable (site : Site κ) (foreign : (makerInterface κ μ).Foreign) (levels : Nat)

/-- Every request is carried out lawfully, given that the calls of foreign code are lawful. -/
theorem serveMakers_lawful {call : (makerInterface κ μ).Caller}
    (lawful : ∀ request (s : State κ μ), s.ledger.Sound →
      Lawful {} s.ledger s.ledger.stack true (call request s))
    (request : MakerRequest κ μ) (sound : s.ledger.Sound) :
    Lawful {} s.ledger s.ledger.stack true (serveMakers site call request s) := by
  cases request with
  | plain request =>
    have plain : (Caller.ofMakers call).IsLawful := fun request s => lawful (.plain request) s
    exact Lawful.answer plain sound site request
  | addWith handle maker => exact Lawful.addWith (lawful (.make handle maker) s sound) handle

/-- Every call of foreign code is lawful, however many levels of the stack are left. -/
theorem makerCall_lawful (call : MakerCall κ) :
    ∀ s : State κ μ, s.ledger.Sound → Lawful {} s.ledger s.ledger.stack true
      ((makerInterface κ μ).call (serveMakers site) foreign levels call s) := by
  induction levels generalizing call with
  | zero => exact fun _ _ => ⟨.refl (by simp), rfl⟩
  | succ levels ih =>
    exact Program.run_lawful (fun request _ sound => serveMakers_lawful site ih request sound)
      (foreign call)

/-- Every program at the top of the stack is lawful. -/
theorem makerRunTop_lawful (program : Program (makerInterface κ μ) α) (sound : s.ledger.Sound) :
    Lawful {} s.ledger s.ledger.stack true
      ((makerInterface κ μ).runTop (serveMakers site) foreign levels program s) :=
  Program.run_lawful (fun request _ sound =>
    serveMakers_lawful site (makerCall_lawful site foreign levels) request sound) program s sound

end ExtensionProxy
