import ExtensionProxy.Boundary.HostTable
import ExtensionProxy.Proxy.Service
import ExtensionProxy.Tally

/-!
# Foreign code in a host process

In the process of a host the modules are libraries: one with the typing tally, or one whose factory
declines.  Links go to the host's table of callbacks.  What a library logs is its own affair and is
not heard here.
-/

set_option autoImplicit false

namespace ExtensionProxy.Boundary

/-- The code of libraries. -/
inductive Code where
  /-- A factory that declines. -/
  | declining
  /-- The typing tally. -/
  | tally (code : TallyCode)
  deriving DecidableEq, Repr

/-- What the host and the libraries remember. -/
structure Memory where
  /-- The links that reached the host. -/
  opened : List String := []
  /-- What the tallies keep. -/
  tallies : List Tally := []
  deriving DecidableEq, Repr

/-- The state of a host process. -/
abbrev World := State Code Memory

/-- The interface of libraries. -/
abbrev interface : Interface := proxyInterface Code Memory

/-- The tallies of a host process. -/
def tallyPart : TallyPart Code Memory where
  embed := .tally
  tallies := {
    get := fun memory => memory.tallies
    set := fun tallies memory => { memory with tallies := tallies }
    get_set := fun _ _ => rfl
    set_set := fun _ _ _ => rfl }

/-- A request. -/
def ask (request : Request Code Memory) : Program interface (Request.Answer request) :=
  .request (I := interface) request

/-- What the host does when it is asked to open a link. -/
def openProgram (table : HostTable) (uri : String) : Program interface Unit :=
  match table.openLink uri with
  | .ok text => ask (.remember fun memory => { memory with opened := memory.opened ++ [text] })
  | .error event => ask (.tell event)

/-- The foreign code of a host process. -/
def foreign (table : HostTable) : interface.Foreign := fun call =>
  match call with
  | .create _ (.tally (.factory heard)) context => tallyPart.create heard context
  | .create _ _ _ => pure none
  | .notify _ (.tally (.instance id)) _ notice => tallyPart.notify id notice
  | .notify _ _ _ _ => pure ()
  | .configure _ _ _ => pure none
  | .help _ _ => pure false
  | .dropped _ _ => pure ()
  | .observe _ slot _ =>
    match slot.code with
    | .tally code => tallyPart.observe code
    | .declining => pure false
  | .task (.tally code) => tallyPart.task code
  | .task .declining => pure ()
  | .openUri uri => openProgram table uri

end ExtensionProxy.Boundary
