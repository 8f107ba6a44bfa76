import ExtensionProxy.Configuration.Settings

/-!
# The writer of the log

A process has at most one writer for its log.  The first attempt to install one succeeds whatever
its settings are, since a level that cannot be read is passed over; every later one is refused.
-/

set_option autoImplicit false

namespace ExtensionProxy

/-- The writer of a process, with the settings that it was installed with. -/
structure LogWriter where
  /-- The settings, once there is a writer. -/
  installed : Option LoggingSettings := none
  deriving DecidableEq, Repr

namespace LogWriter

/-- Installs a writer unless there is one; whether it was installed. -/
def install (writer : LogWriter) (settings : LoggingSettings) : Bool × LogWriter :=
  match writer.installed with
  | none => (true, ⟨some settings⟩)
  | some _ => (false, writer)

/-- Tries to install writers one after the other. -/
def attempts (writer : LogWriter) : List LoggingSettings → List Bool
  | [] => []
  | settings :: rest =>
    let (done, after) := writer.install settings
    done :: after.attempts rest

end LogWriter

end ExtensionProxy
