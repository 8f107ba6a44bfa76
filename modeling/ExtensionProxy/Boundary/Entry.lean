import ExtensionProxy.Boundary.Fatal
import ExtensionProxy.Boundary.Foreign
import ExtensionProxy.Boundary.RawEvent
import ExtensionProxy.Configuration.Load

/-!
# Entry points

What a host calls: it makes a proxy, hands it candidates and events, and frees it.  The host passes
the proxy and what it loaded by pointer; a null pointer where an object has to be is a fault, and
the proxy is looked at first.  Every entry point is guarded, so a call either returns or ends the
process.
-/

set_option autoImplicit false

namespace ExtensionProxy.Boundary

/-- A call of an entry point, with what is passed to it.  What was loaded is passed by the name of
the slot in which the host keeps the pointer, `none` for the null pointer. -/
inductive Entry where
  /-- Make a proxy. -/
  | create (hostGiven : Bool) (config : Option Bytes)
  /-- Free the proxy. -/
  | free
  /-- Probe a candidate. -/
  | probe (path : Option Bytes)
  /-- Load a descriptor and keep the pointer in a slot. -/
  | load (slot : String) (handle : ExtensionHandle) (path : Option Bytes)
  /-- Tell what to show. -/
  | info (slot : Option String)
  /-- Make the instance. -/
  | init (slot : Option String)
  /-- Destroy the instance. -/
  | cleanup (slot : Option String)
  /-- Unload; the pointer is gone afterwards. -/
  | unload (slot : Option String)
  /-- Show help. -/
  | help (slot : Option String)
  /-- Build a configuration panel. -/
  | configure (slot : Option String) (dialog : DialogHandle)
  | dispatch (event : Option RawEvent)
  /-- Run the deferred tasks. -/
  | runPending
  deriving DecidableEq, Repr

/-- The name of an entry point. -/
def Entry.name : Entry → String
  | .create _ _ => "modproxy_proxy_new"
  | .free => "modproxy_proxy_free"
  | .probe _ => "modproxy_proxy_probe"
  | .load _ _ _ => "modproxy_proxy_load"
  | .info _ => "modproxy_load_info"
  | .init _ => "modproxy_proxy_init"
  | .cleanup _ => "modproxy_proxy_cleanup"
  | .unload _ => "modproxy_proxy_unload"
  | .help _ => "modproxy_proxy_help"
  | .configure _ _ => "modproxy_proxy_configure"
  | .dispatch _ => "modproxy_proxy_dispatch"
  | .runPending => "modproxy_proxy_run_pending"

/-- What to show of what was loaded, as it is handed to the host. -/
structure RawInfo where
  name : Bytes
  description : Bytes
  version : Bytes
  author : Bytes
  /-- What may be asked for. -/
  offer : Offer
  deriving DecidableEq, Repr

/-- What is handed to the host; a text that cannot be written is handed over empty. -/
def RawInfo.of (presentation : Presentation) (offer : Offer) : RawInfo :=
  ⟨Bytes.writeOr presentation.name, Bytes.writeOr presentation.description,
    Bytes.writeOr presentation.version, Bytes.writeOr presentation.author, offer⟩

/-- The number under which the host is told an outcome. -/
def outcomeNumber : ProbeOutcome → Nat
  | .ignored => 0
  | .matched => 1
  | .related => 2

/-- What an entry point returns. -/
inductive Returned where
  | nothing
  | truth (value : Bool)
  | number (value : Nat)
  /-- What to show. -/
  | info (value : RawInfo)
  deriving DecidableEq, Repr

/-- A process of a host. -/
structure HostRun where
  /-- The host's callbacks. -/
  table : HostTable
  /-- The environment of the process. -/
  environment : Environment := []
  files : FileTree Code := .empty
  /-- The proxy, while there is one. -/
  proxy : Option (Site Code) := none
  /-- The state. -/
  world : World

/-- The process of a host before it calls anything, on a machine that gives so many bytes of memory to
one request. -/
def HostRun.start (memory : Nat) (table : HostTable) (environment : Environment)
    (files : FileTree Code) : HostRun :=
  { table, environment, files, world := { host := table.view memory, memory := {} } }

/-- The state without what only a proxy keeps. -/
def World.renewed (world : World) : World :=
  { world with
    documents := .empty
    categories := {}
    registry := .empty
    workspace := none
    tasks := {} }

namespace HostRun

/-! ## Entry points -/

/-- The means to call foreign code. -/
def means (run : HostRun) (site : Site Code) : Caller Code Memory :=
  interface.call (serve site) (foreign run.table) stackLevels

/-- The proxy of a call that has to pass it. -/
def proxyGiven (run : HostRun) (given : Bool) : Except Cause (Site Code) :=
  match given, run.proxy with
  | true, some site => .ok site
  | _, _ => .error (.nullArgument "proxy pointer")

/-- The record that a slot's pointer leads to. -/
def recordGiven (slot : Option String) (world : World) : Except Cause (RecordId × Record) :=
  match slot.bind world.slots.get? with
  | none => .error (.nullArgument "load pointer")
  | some id =>
    match world.record? id with
    | some record => .ok (id, record)
    | none => .error (.nullArgument "load pointer")

/-- Makes a proxy. -/
def createProxy (run : HostRun) (hostGiven : Bool) (config : Option Bytes) :
    Run World (Except Cause (Site Code)) := do
  if !hostGiven then pure (.error (.nullArgument "host vtable"))
  else
    let path := Bytes.read? config
    match path with
    | some path => Run.tell (Settings.loading run.files path)
    | none => pure ()
    match Settings.load run.files run.environment path with
    | .error cause => pure (.error cause)
    | .ok settings =>
      let site : Site Code := ⟨settings, run.environment, run.files, .libraries⟩
      Run.modify World.renewed
      begin site
      pure (.ok site)

/-- Loads a descriptor and keeps the pointer, unless it is null. -/
def loadInto (site : Site Code) (slot : String) (handle : ExtensionHandle)
    (path : Option Bytes) : Run World (Except Cause Returned) := do
  match Bytes.read? path with
  | none => pure (.ok (.truth false))
  | some path =>
    match ← loadRecord site handle path with
    | none => pure (.ok (.truth false))
    | some id =>
      Run.modify fun s => { s with slots := s.slots.insert slot id }
      pure (.ok (.truth true))

/-- Dispatches an event. -/
def dispatchRaw (call : Caller Code Memory) (event : Option RawEvent) :
    Run World (Except Cause Returned) := do
  match event with
  | none => pure (.error (.nullArgument "event"))
  | some raw =>
    let (event, log) := raw.read
    log.forM Run.tell
    match event with
    | none => pure (.ok (.truth false))
    | some event =>
      let outcome ← ExtensionProxy.dispatch call event
      pure (.ok (.truth outcome.handled))

/-- Works on the record that a slot's pointer leads to. -/
def onRecord (slot : Option String)
    (work : RecordId → Record → Run World (Except Cause Returned)) :
    Run World (Except Cause Returned) := do
  let s ← Run.get
  match recordGiven slot s with
  | .error cause => pure (.error cause)
  | .ok (id, record) => work id record

/-- What an entry point does with the proxy. -/
def perform (call : Caller Code Memory) (site : Site Code) (entry : Entry) :
    Run World (Except Cause Returned) :=
  match entry with
  | .create _ _ => pure (.ok .nothing)
  | .free => pure (.ok .nothing)
  | .info _ => pure (.ok .nothing)
  | .probe path =>
    match Bytes.read? path with
    | none => pure (.ok (.number (outcomeNumber .ignored)))
    | some path => do
      let outcome ← Run.zoom State.benchLens (site.probe path)
      pure (.ok (.number (outcomeNumber outcome)))
  | .load slot handle path => loadInto site slot handle path
  | .init slot => onRecord slot fun id record => do
    let result ← initRecord site call id record
    pure (result.map .truth)
  | .cleanup slot => onRecord slot fun id record => do
    let result ← cleanupRecord call id record
    pure (result.map fun _ => .nothing)
  | .unload slot => onRecord slot fun id record => do
    Run.modify fun s => { s with slots := s.slots.erase (slot.getD "") }
    let result ← unloadRecord call id record
    pure (result.map fun _ => .nothing)
  | .help slot => onRecord slot fun _ record => do
    let _ ← helpRecord call record
    pure (.ok .nothing)
  | .configure slot dialog => onRecord slot fun _ record => do
    let panel ← configureRecord call record dialog
    pure (.ok (.number ((panel.map fun panel => panel.raw.toNat).getD 0)))
  | .dispatch event => dispatchRaw call event
  | .runPending => do
    let ran ← ExtensionProxy.runPending call
    pure (.ok (.number ran))

/-- What an entry point does, the proxy passed or not; the proxy that there is afterwards comes with
it. -/
def enter (run : HostRun) (proxyPassed : Bool) (entry : Entry) :
    Run World (Except Cause (Returned × Option (Site Code))) :=
  match entry with
  | .create hostGiven config => do
    let made ← run.createProxy hostGiven config
    pure (made.map fun site => (.truth true, some site))
  | .free => pure (.ok (.nothing, if proxyPassed then none else run.proxy))
  | .info slot => do
    let shown ← onRecord slot fun _ record =>
      pure (.ok (.info (RawInfo.of record.descriptor.presentation record.descriptor.offer)))
    pure (shown.map fun value => (value, run.proxy))
  | entry =>
    match run.proxyGiven proxyPassed with
    | .error cause => pure (.error cause)
    | .ok site => do
      let result ← perform (run.means site) site entry
      pure (result.map fun value => (value, run.proxy))

/-- Calls an entry point: what it returns, or what is logged before the process ends, if anything
is. -/
def call (run : HostRun) (proxyPassed : Bool) (entry : Entry) :
    Except (Option LogEvent) Returned × HostRun :=
  let faulting : Run World (Except Fault (Returned × Option (Site Code))) := do
    let result ← run.enter proxyPassed entry
    pure (result.mapError Cause.fault)
  match guard entry.name faulting run.world with
  | (.ok (.ok (value, proxy)), world) =>
    (.ok value, { run with proxy := proxy, world := world })
  | (.ok (.error event), world) => (.error (some event), { run with world := world })
  | (.error _, world) => (.error none, { run with world := world })

end HostRun

end ExtensionProxy.Boundary
