import ExtensionProxy.Boundary.Bytes
import ExtensionProxy.Proxy.State

/-!
# The host's table of callbacks

The host hands over a table of callbacks, any of which may be missing; what is missing has nothing
to report.  The categories are asked for one by one, until as many were given as the host reported,
or the host has no more.  Before the first one is asked for, room is made for as many as were reported;
how much memory one request is given is for the machine to say.
-/

set_option autoImplicit false

namespace ExtensionProxy.Boundary

/-- A row of the host's categories as it is sent. -/
structure RawCategory where
  handle : CategoryHandle
  /-- The short name. -/
  name : Option Bytes
  /-- The title to show. -/
  title : Option Bytes
  /-- The patterns of file names, divided by semicolons. -/
  patterns : Option Bytes
  deriving DecidableEq, Repr

/-- A category as it is read. -/
def RawCategory.read (raw : RawCategory) : CategoryRow where
  handle := raw.handle
  name := Bytes.readOr raw.name
  title := Bytes.readOr raw.title
  patterns := splitItems ';' (Bytes.readOr raw.patterns)

/-- What the host's callbacks answer; `none` for a callback that is missing. -/
structure HostTable where
  /-- The folder for configuration. -/
  configDir : Option Bytes := none
  /-- The document that the host shows; zero for none. -/
  current : Option DocumentHandle := none
  /-- How many categories there are. -/
  categoryCount : Option Nat := none
  /-- The categories, by place. -/
  categoryAt : Option (List RawCategory) := none
  /-- Whether links can be opened. -/
  opensLinks : Bool := false
  deriving DecidableEq, Repr

namespace HostTable

/-- The bytes that the row of a category takes. -/
def rowSize : Nat := 80

/-- The rows that a list can hold at most. -/
def mostRows : Nat := 9223372036854775807 / rowSize

/-- The categories, on a machine that gives so many bytes of memory to one request. -/
def categories (memory : Nat) (table : HostTable) : CategoryTable :=
  match table.categoryCount, table.categoryAt with
  | some count, some rows =>
    if mostRows < count then .tooLong
    else if memory < count * rowSize then .tooLarge
    else .rows ((rows.take count).map RawCategory.read)
  | _, _ => .rows []

/-- The document that the host shows. -/
def shown (table : HostTable) : Option DocumentHandle :=
  table.current.filter fun handle => !handle.isNull

/-- What the host answers, on a machine that gives so many bytes of memory to one request. -/
def view (memory : Nat) (table : HostTable) : HostView where
  configDir := Bytes.readOr table.configDir
  current := table.shown
  categories := table.categories memory

/-- What becomes of a link: the text that reaches the host, or what is logged instead. -/
def openLink (table : HostTable) (uri : String) : Except LogEvent String :=
  if !table.opensLinks then .error ⟨.warn, "Host cannot open URIs", [("uri", uri)]⟩
  else match Bytes.write? uri with
    | none => .error ⟨.warn, "Help URI contains a null byte", []⟩
    | some bytes => .ok (Bytes.readOr (some bytes))

/-- What becomes of several links: the texts that reach the host, and what is logged. -/
def openLinks (table : HostTable) : List String → List String × List LogEvent
  | [] => ([], [])
  | uri :: rest =>
    let (opened, log) := table.openLinks rest
    match table.openLink uri with
    | .ok text => (text :: opened, log)
    | .error event => (opened, event :: log)

end HostTable

end ExtensionProxy.Boundary
