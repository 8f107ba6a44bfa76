/-!
# The log

What the proxy does is told in events of four levels, each with a message and named values.  An
event is shown on one line: level, message, then the values in the order in which they were named.
-/

set_option autoImplicit false

namespace ExtensionProxy

/-- How much an event matters; the first level matters most. -/
inductive Level where
  /-- The process is about to end. -/
  | error
  /-- Something was refused or dropped. -/
  | warn
  /-- A step of interest was taken. -/
  | info
  /-- A detail. -/
  | debug
  deriving DecidableEq, Repr

namespace Level

/-- The rank of a level, the one that matters most first. -/
def rank : Level → Nat
  | .error => 0
  | .warn => 1
  | .info => 2
  | .debug => 3

/-- A level as it is shown. -/
def display : Level → String
  | .error => "ERROR"
  | .warn => "WARN"
  | .info => "INFO"
  | .debug => "DEBUG"

/-- Whether an event of this level is shown when the given level is asked for. -/
def within (level asked : Level) : Bool := level.rank ≤ asked.rank

end Level

/-- One event. -/
structure LogEvent where
  /-- How much it matters. -/
  level : Level
  /-- What happened. -/
  message : String
  /-- The values that say to whom and with what. -/
  fields : List (String × String) := []
  deriving DecidableEq, Repr

/-- An event as it is shown. -/
def LogEvent.render (event : LogEvent) : String :=
  event.fields.foldl (fun line field => line ++ " " ++ field.1 ++ "=" ++ field.2)
    (event.level.display ++ " " ++ event.message)

end ExtensionProxy
