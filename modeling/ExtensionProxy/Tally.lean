import ExtensionProxy.Proxy.Interface

/-!
# The typing tally

A sample sub-extension.  From the first time a document is opened until it is closed it counts the
characters typed into it, and when the document is saved it schedules a report of the count.  A
report names the open workspace by a label, which is the one in the workspace's configuration or
else its handle.

Every notice of an opened document connects three observers to it, all owned by the instance.
-/

set_option autoImplicit false

namespace ExtensionProxy

/-- Names the tally of one instance for ever. -/
structure TallyId where
  /-- The place in the order of making. -/
  index : Nat
  deriving DecidableEq, Repr

/-- What one instance keeps. -/
structure Tally where
  /-- The handle of the instance. -/
  owner : ExtensionHandle
  /-- Whether what it logs is heard. -/
  heard : Bool
  /-- The characters typed so far, by document. -/
  counts : OrderedMap DocumentHandle Nat := .empty
  /-- The label of the open workspace. -/
  label : Option String := none
  deriving DecidableEq, Repr

namespace Tally

/-- The characters typed into a document. -/
def count (tally : Tally) (doc : DocumentHandle) : Nat := (tally.counts.get? doc).getD 0

/-- Begins to count for a document, unless it is counted already. -/
def track (tally : Tally) (doc : DocumentHandle) : Tally :=
  { tally with counts := tally.counts.alter doc fun typed => typed.getD 0 }

/-- Counts one character. -/
def type (tally : Tally) (doc : DocumentHandle) : Tally :=
  { tally with counts := tally.counts.alter doc fun typed => typed.getD 0 + 1 }

/-- Forgets a document. -/
def forget (tally : Tally) (doc : DocumentHandle) : Tally :=
  { tally with counts := tally.counts.erase doc }

/-- Sets the label of the workspace. -/
def relabel (tally : Tally) (label : Option String) : Tally := { tally with label := label }

/-- The group of a workspace's configuration that holds the label. -/
def workspaceGroup : String := "demo"

/-- The label of a workspace. -/
def labelOf (workspace : Workspace) : String :=
  (workspace.config.string? workspaceGroup "label").getD workspace.handle.display

/-- The report of a saved document. -/
def report (tally : Tally) (doc : DocumentHandle) : LogEvent :=
  ⟨.info, "Saved",
    [("document", doc.display), ("typed", toString (tally.count doc)),
     ("workspace", tally.label.getD "-")]⟩

end Tally

/-- The code of tallies. -/
inductive TallyCode where
  /-- Makes an instance; what it logs is heard or not. -/
  | factory (heard : Bool)
  | instance (id : TallyId)
  /-- Observes that a character was typed. -/
  | typed (id : TallyId) (doc : DocumentHandle)
  /-- Observes that a document was saved. -/
  | saved (id : TallyId) (doc : DocumentHandle)
  /-- Observes that a document is closing. -/
  | closed (id : TallyId) (doc : DocumentHandle)
  | report (id : TallyId) (doc : DocumentHandle)
  deriving DecidableEq, Repr

/-- How tallies are part of all foreign code: their code among the codes, and what they keep in the
memory. -/
structure TallyPart (κ μ : Type) where
  embed : TallyCode → κ
  /-- What the tallies keep, by id. -/
  tallies : Lens μ (List Tally)

namespace TallyPart

variable {κ μ : Type} (part : TallyPart κ μ)

/-- A request. -/
def ask (request : Request κ μ) : Program (proxyInterface κ μ) (Request.Answer request) :=
  .request (I := proxyInterface κ μ) request

/-- A view of the state. -/
def view {α : Type} (f : State κ μ → α) : Program (proxyInterface κ μ) α :=
  .view (I := proxyInterface κ μ) f

/-- Every tally. -/
def list (s : State κ μ) : List Tally := part.tallies.get s.memory

/-- A tally. -/
def tally? (s : State κ μ) (id : TallyId) : Option Tally := (part.list s)[id.index]?

/-- Changes a tally. -/
def change (id : TallyId) (f : Tally → Tally) : Program (proxyInterface κ μ) Unit :=
  ask (.remember (part.tallies.modify fun tallies => tallies.modify id.index f))

/-- Logs an event, if what the tally logs is heard. -/
def tell (id : TallyId) (event : Tally → LogEvent) : Program (proxyInterface κ μ) Unit := do
  let tally ← view fun s => part.tally? s id
  match tally with
  | some tally => if tally.heard then ask (.tell (event tally)) else pure ()
  | none => pure ()

/-- Makes an instance. -/
def create (heard : Bool) (context : ExtensionContext) :
    Program (proxyInterface κ μ) (Option κ) := do
  let count ← view fun s => (part.list s).length
  ask (.remember (part.tallies.modify fun tallies =>
    tallies ++ [{ owner := context.handle, heard := heard }]))
  let id : TallyId := ⟨count⟩
  part.tell id fun _ => ⟨.info, "Typing tally created",
    [("handle", context.handle.display), ("config", context.configPath)]⟩
  pure (some (part.embed (.instance id)))

/-- Begins to observe a document. -/
def opened (id : TallyId) (wrapper : DocumentId) : Program (proxyInterface κ μ) Unit := do
  let doc ← view fun s => s.documentHandle? wrapper
  let tally ← view fun s => part.tally? s id
  match doc, tally with
  | some doc, some tally => do
    part.change id fun tally => tally.track doc
    let owner := some tally.owner
    let _ ← ask (.connect (.editor wrapper .charAdded) owner (part.embed (.typed id doc)))
    let _ ← ask (.connect (.document wrapper .saved) owner (part.embed (.saved id doc)))
    let _ ← ask (.connect (.document wrapper .closed) owner (part.embed (.closed id doc)))
    part.tell id fun _ => ⟨.debug, "Tracking document", [("document", doc.display)]⟩
  | _, _ => pure ()

/-- Takes a notice. -/
def notify (id : TallyId) : Notice → Program (proxyInterface κ μ) Unit
  | .documentOpened wrapper => part.opened id wrapper
  | .workspaceOpened wrapper => do
    let workspace ← view fun s => s.workspaceWrapper? wrapper
    match workspace with
    | some workspace => part.change id fun tally => tally.relabel (some (Tally.labelOf workspace))
    | none => pure ()
  | .workspaceClosed => part.change id fun tally => tally.relabel none

/-- Observes a signal; no observer of a tally ever claims to have handled anything. -/
def observe : TallyCode → Program (proxyInterface κ μ) Bool
  | .typed id doc => do
    part.change id fun tally => tally.type doc
    pure false
  | .saved id doc => do
    let tally ← view fun s => part.tally? s id
    match tally with
    | some tally => ask (.schedule (some tally.owner) (part.embed (.report id doc)))
    | none => pure ()
    pure false
  | .closed id doc => do
    part.change id fun tally => tally.forget doc
    pure false
  | _ => pure false

/-- Does a deferred task. -/
def task : TallyCode → Program (proxyInterface κ μ) Unit
  | .report id doc => part.tell id fun tally => tally.report doc
  | _ => pure ()

end TallyPart

end ExtensionProxy
