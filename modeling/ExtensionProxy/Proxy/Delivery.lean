import ExtensionProxy.Proxy.Interface

/-!
# Reaching an instance

A callback of an instance runs under a mark, so that it is never entered twice.  The instance stays
alive until the mark is taken back: if its record let it go in the meantime, it is destroyed on the
way out, whether the callback returned or panicked.
-/

set_option autoImplicit false

namespace ExtensionProxy

variable {κ μ α : Type}

/-- Calls the code of an instance that is being destroyed. -/
def destroyInstance (call : Caller κ μ) (target : InstanceId) : Run (State κ μ) Unit := do
  let s ← Run.get
  match s.instance? target with
  | some found => call (.dropped target found.code)
  | none => pure ()

/-- The record lets its instance go; it is destroyed at once unless it is running. -/
def releaseInstance (call : Caller κ μ) (target : InstanceId) : Run (State κ μ) Unit := do
  Run.modify fun s => s.modifyInstance target fun found => { found with owned := false }
  let s ← Run.get
  match s.instance? target with
  | some found => if found.running then pure () else destroyInstance call target
  | none => pure ()

/-- Takes the mark of a running instance back; it is destroyed if its record let it go. -/
def leaveInstance (call : Caller κ μ) (target : InstanceId) : Run (State κ μ) Unit := do
  Run.modify fun s => s.modifyInstance target fun found => { found with running := false }
  let s ← Run.get
  match s.instance? target with
  | some found => if found.owned then pure () else destroyInstance call target
  | none => pure ()

/-- Runs a callback of an instance under its mark. -/
def enterInstance (call : Caller κ μ) (target : InstanceId) (callback : Run (State κ μ) α) :
    Run (State κ μ) α := do
  Run.modify fun s => s.modifyInstance target fun found => { found with running := true }
  Run.ensuring callback (leaveInstance call target)

/-- Runs a callback of an instance if it is alive and idle. -/
def deliver (call : Caller κ μ) (target : InstanceId) (callback : κ → Run (State κ μ) α) :
    Run (State κ μ) (Delivery α) := do
  let s ← Run.get
  match s.instance? target with
  | none => pure .gone
  | some found =>
    if found.running then pure .busy
    else if found.owned then
      let value ← enterInstance call target (callback found.code)
      pure (.delivered value)
    else pure .gone

end ExtensionProxy
