import ExtensionProxy.Boundary.Entry
import ExtensionProxy.Proxy.View

/-!
# Runs of a host

A host calls entry points one after the other.  Between two calls it may show another document, and
it may ask the proxy for the one that is current.  The run ends early with the call that ends the
process.
-/

set_option autoImplicit false

namespace ExtensionProxy.Boundary

/-- What a host does in one step. -/
inductive HostAct where
  /-- It calls an entry point, passing the proxy or the null pointer. -/
  | enter (proxyPassed : Bool) (entry : Entry)
  /-- It shows another document. -/
  | shows (doc : DocumentHandle)
  /-- It asks for the current document. -/
  | current
  deriving DecidableEq, Repr

/-- What a host learns in one step. -/
inductive HostReply where
  /-- What an entry point returned. -/
  | returned (value : Returned)
  /-- The links that have been opened so far, which is what comes of a call for help. -/
  | links (uris : List String)
  | current (doc : Option DocumentHandle)
  deriving DecidableEq, Repr

/-- The end of one step. -/
inductive HostStep where
  /-- The process goes on: what was learned, what was logged, and a view of the proxy, if there is
  one. -/
  | went (reply : HostReply) (log : List LogEvent) (state : Option StateView)
  /-- The process ends: what was logged before, if anything was. -/
  | ended (last : Option LogEvent)
  deriving DecidableEq, Repr

namespace HostRun

/-- The process with an empty log. -/
def fresh (run : HostRun) : HostRun :=
  { run with
    world := { run.world with bench := { run.world.bench with log := #[] } } }

/-- What is told of a step after which the process goes on. -/
def tellStep (run : HostRun) (reply : HostReply) : HostStep :=
  .went reply run.world.bench.log.toList (run.proxy.map fun _ => .of run.world)

/-- What a host learns from a call. -/
def replyOf (run : HostRun) (entry : Entry) (value : Returned) : HostReply :=
  match entry with
  | .help _ => .links run.world.memory.opened
  | _ => .returned value

/-- Shows another document; a host without the callback has none to show. -/
def showing (run : HostRun) (doc : DocumentHandle) : HostRun :=
  let shown := if run.table.current.isSome ∧ !doc.isNull then some doc else none
  { run with world.host.current := shown }

/-- Does one step. -/
def step (run : HostRun) (act : HostAct) : HostStep × HostRun :=
  match act with
  | .enter proxyPassed entry =>
    match run.call proxyPassed entry with
    | (.ok value, after) => (after.tellStep (after.replyOf entry value), after)
    | (.error event, after) => (.ended event, after)
  | .shows doc =>
    let after := run.showing doc
    (after.tellStep (.returned .nothing), after)
  | .current =>
    let world := run.world
    let doc := if run.proxy.isSome then world.currentDocument.bind world.documentHandle? else none
    (run.tellStep (.current doc), run)

/-- Does steps one after the other, until one ends the process. -/
def steps (run : HostRun) : List HostAct → List HostStep
  | [] => []
  | act :: rest =>
    match run.fresh.step act with
    | (.ended event, _) => [.ended event]
    | (told, after) => told :: after.steps rest

end HostRun

end ExtensionProxy.Boundary
