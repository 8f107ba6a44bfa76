import ExtensionProxy.Descriptor
import ExtensionProxy.Module.Bench

/-!
# Candidates

The host offers every file of its extension folders.  By its extension a file is a descriptor, a
module, or neither.  A descriptor is matched if it is valid and the module beside it binds; a
module is related if it binds and the descriptor beside it is valid.  Probing binds and gives the
binding back at once, runs no factory, and leaves nothing behind.
-/

set_option autoImplicit false

namespace ExtensionProxy

/-- What a file is by its extension. -/
inductive CandidateKind where
  | descriptor
  | module
  /-- Neither. -/
  | other
  deriving DecidableEq, Repr

/-- A kind as it is shown. -/
def CandidateKind.display : CandidateKind → String
  | .descriptor => "descriptor"
  | .module => "module"
  | .other => "other"

/-- What the host is told about a candidate. -/
inductive ProbeOutcome where
  /-- A descriptor that can be loaded. -/
  | matched
  /-- The module of such a descriptor. -/
  | related
  /-- Not ours. -/
  | ignored
  deriving DecidableEq, Repr

/-- An outcome as it is shown. -/
def ProbeOutcome.display : ProbeOutcome → String
  | .matched => "matched"
  | .related => "related"
  | .ignored => "ignored"

/-- An outcome as it is inspected. -/
def ProbeOutcome.inspect : ProbeOutcome → String
  | .matched => "Matched"
  | .related => "Related"
  | .ignored => "Ignored"

namespace LoaderSettings

/-- What a file is by its extension; the extension of descriptors is tried first. -/
def classify (settings : LoaderSettings) (path : String) : CandidateKind :=
  match Path.extension? path with
  | none => .other
  | some extension =>
    if extension = settings.descriptorExtension then .descriptor
    else if extension = settings.moduleExtension then .module
    else .other

/-- The extension of the other half of a pair. -/
def counterpartExtension (settings : LoaderSettings) : CandidateKind → Option String
  | .descriptor => some settings.moduleExtension
  | .module => some settings.descriptorExtension
  | .other => none

/-- The other half of the pair that a path belongs to; a panic if its extension cannot be one. -/
def counterpart {σ : Type} (settings : LoaderSettings) (path : String) : Run σ (Option String) :=
  match settings.counterpartExtension (settings.classify path) with
  | none => pure none
  | some extension =>
    match Path.withExtension? path extension with
    | some other => pure (some other)
    | none => Run.panic (some (Path.extensionPanic extension))

end LoaderSettings

namespace Site

variable {κ : Type}

/-- Reads the descriptor at a path. -/
def descriptor (site : Site κ) (path : String) : Except Cause Descriptor :=
  Descriptor.ofFile site.settings.loader site.environment site.files path

/-- Whether the path is a valid descriptor, by itself. -/
def acceptsDescriptor (site : Site κ) (path : String) : Run Bench Bool := do
  match site.descriptor path with
  | .ok _ => pure true
  | .error cause =>
    Bench.tell ⟨.debug, "Descriptor rejected", [("path", path), ("error", cause.fault.display)]⟩
    pure false

/-- Whether the path is a module that binds, by itself. -/
def acceptsModule (site : Site κ) (path : String) : Run Bench Bool := do
  match ← Bench.bindBy site.binder site.files path site.settings.loader.factorySymbol with
  | .ok binding =>
    Bench.release binding.id
    pure true
  | .error cause =>
    Bench.tell ⟨.debug, "Module rejected", [("path", path), ("error", cause.fault.display)]⟩
    pure false

/-- Whether the path is a valid descriptor and its module binds. -/
def probeDescriptor (site : Site κ) (path : String) : Run Bench Bool := do
  if ← site.acceptsDescriptor path then
    match ← site.settings.loader.counterpart path with
    | some other => site.acceptsModule other
    | none => pure false
  else pure false

/-- Whether the path is a module that binds and its descriptor is valid. -/
def probeModule (site : Site κ) (path : String) : Run Bench Bool := do
  if ← site.acceptsModule path then
    match ← site.settings.loader.counterpart path with
    | some other => site.acceptsDescriptor other
    | none => pure false
  else pure false

/-- What a path is to the host. -/
def judge (site : Site κ) (path : String) : Run Bench ProbeOutcome :=
  match site.settings.loader.classify path with
  | .descriptor => do
    if ← site.probeDescriptor path then pure .matched else pure .ignored
  | .module => do
    if ← site.probeModule path then pure .related else pure .ignored
  | .other => pure .ignored

/-- Probes a path, and says so. -/
def probe (site : Site κ) (path : String) : Run Bench ProbeOutcome := do
  let outcome ← site.judge path
  Bench.tell ⟨.debug, "Probed candidate", [("path", path), ("outcome", outcome.inspect)]⟩
  pure outcome

end Site

end ExtensionProxy
