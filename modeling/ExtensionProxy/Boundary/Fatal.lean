import ExtensionProxy.Fault
import ExtensionProxy.Log
import ExtensionProxy.Run

/-!
# Fatal failures

The host can neither take a fault nor survive a panic, so whatever goes wrong under an entry point
ends the process.  `contain` tells how a run failed, and `guard` what is logged before the process
ends.  A process that has run out of memory ends at once, and nothing can be told.
-/

set_option autoImplicit false

namespace ExtensionProxy.Boundary

/-- A failure that must not reach the host. -/
inductive Fatal where
  /-- A fault was passed up to the entry point. -/
  | fault (fault : Fault)
  /-- Code underneath panicked with a message. -/
  | panic (message : String)
  /-- Code underneath failed without saying why. -/
  | unknown
  deriving DecidableEq, Repr

namespace Fatal

/-- A failure as it is shown. -/
def display : Fatal → String
  | .fault reported => reported.display
  | .panic message => "panic: " ++ message
  | .unknown => "unknown failure"

/-- The failure of a run that was stopped. -/
def ofStop : Stop → Fatal
  | .panic (some message) => .panic message
  | .panic none => .unknown
  | .tooDeep => .unknown
  | .outOfMemory => .unknown

/-- What is logged before the process ends at an entry point. -/
def event (entry : String) : Fatal → LogEvent
  | .unknown =>
    ⟨.error, "Unknown failure at host entry point, aborting", [("entry", entry)]⟩
  | fatal =>
    ⟨.error, "Fatal failure at host entry point, aborting",
      [("entry", entry), ("error", fatal.display)]⟩

end Fatal

variable {σ α : Type}

/-- Runs to the end and tells the value, or how the run failed; only the lack of memory is not
contained. -/
def contain (run : Run σ (Except Fault α)) : Run σ (Except Fatal α) := fun s =>
  match run s with
  | (.ok (.ok value), reached) => (.ok (.ok value), reached)
  | (.ok (.error fault), reached) => (.ok (.error (.fault fault)), reached)
  | (.error .outOfMemory, reached) => (.error .outOfMemory, reached)
  | (.error stop, reached) => (.ok (.error (.ofStop stop)), reached)

/-- Runs under an entry point: the value, or what is logged before the process ends. -/
def guard (entry : String) (run : Run σ (Except Fault α)) : Run σ (Except LogEvent α) := do
  match ← contain run with
  | .ok value => pure (.ok value)
  | .error fatal => pure (.error (fatal.event entry))

end ExtensionProxy.Boundary
