import ExtensionProxy.Configuration.Settings
import ExtensionProxy.Descriptor
import ExtensionProxy.Event.Host
import ExtensionProxy.Json.Basic
import ExtensionProxy.Log
import ExtensionProxy.Run

/-!
# How values are told

The values that the whole program deals with, as JSON: key files, faults, settings, what a
descriptor presents, editor notifications and host events.
-/

set_option autoImplicit false

namespace ExtensionProxy

/-- A key file is told group by group, each with its entries, in order. -/
instance : ToJson KeyFile where
  toJson file := .list (file.groups.entries.map fun (name, group) =>
    .list [name, .list (group.entries.map fun (key, value) => .list [key, value])])

/-- A fault of syntax is told with its line. -/
instance : ToJson KeyFile.SyntaxFault where
  toJson fault := .object [("error", "Syntax"), ("line", fault.line),
    ("message", fault.fault.message), ("display", fault.display)]

/-- A cause is told as it is reported. -/
instance : ToJson Cause where
  toJson cause := .object [("error", cause.kind.name), ("message", cause.message)]

/-- A stop is told with the message of the panic and with how it would be logged if it reached the
boundary. -/
instance : ToJson Stop where
  toJson
    | .panic (some message) => .object [("error", "panic"), ("message", message),
        ("fatal", "panic: " ++ message)]
    | .panic none => .object [("error", "panic"), ("fatal", "unknown failure")]
    | .tooDeep => .object [("error", "stack")]
    | .outOfMemory => .object [("error", "memory")]

/-- The members that tell of the loader. -/
def LoaderSettings.members (settings : LoaderSettings) : List (String × Json) :=
  [("descriptor_group", settings.descriptorGroup),
    ("descriptor_extension", settings.descriptorExtension),
    ("module_extension", settings.moduleExtension),
    ("factory_symbol", settings.factorySymbol), ("locale", settings.locale)]

instance : ToJson Settings where
  toJson settings := .object [("loader", .object settings.loader.members),
    ("logging", .object [("level", settings.logging.level), ("format", settings.logging.format)])]

/-- The members that tell of a presentation. -/
def Presentation.members (presentation : Presentation) : List (String × Json) :=
  [("name", presentation.name), ("description", presentation.description),
    ("version", presentation.version), ("author", presentation.author)]

instance : ToJson Presentation := ⟨fun presentation => .object presentation.members⟩

/-- The members that tell what a sub-extension offers. -/
def Offer.members (offer : Offer) : List (String × Json) :=
  [("help", offer.help), ("configure", offer.configure)]

instance : ToJson Offer := ⟨fun offer => .object offer.members⟩

/-- The members that tell of a descriptor. -/
def Descriptor.members (descriptor : Descriptor) : List (String × Json) :=
  ("path", descriptor.path) :: ("stem", descriptor.stem) ::
    descriptor.presentation.members.append
      [("help_uri", descriptor.helpUri), ("configurable", descriptor.configurable)]

instance : ToJson EditorNote where
  toJson note := .object [("code", note.code), ("position", note.position), ("ch", note.ch),
    ("modifiers", note.modifiers), ("modification_type", note.modificationType),
    ("line", note.line), ("lines_added", note.linesAdded), ("margin", note.margin),
    ("text", note.text)]

/-- The name of a way to resolve. -/
def Resolution.name : Resolution → String
  | .create => "Create"
  | .lookup => "Lookup"
  | .none => "None"

/-- The members that only some events have. -/
def HostEvent.ownMembers : HostEvent → List (String × Json)
  | .categorySet _ previous => [("previous", previous)]
  | .editor _ note => [("n", note), ("kind", note.kind.map EditorKind.name)]
  | .workspaceOpened workspace config => [("ws", workspace), ("config", config)]
  | .dialog _ handle => [("dialog", handle)]
  | _ => []

/-- The members that tell of an event. -/
def HostEvent.members (event : HostEvent) : List (String × Json) :=
  ("type", event.name) :: ("display", event.name) :: ("resolution", event.resolution.name) ::
    ("broadcast", event.isBroadcast) :: ("doc", event.document?) :: event.ownMembers

/-- The events of a log at a level or above it, one line each. -/
def logLines (level : Level) (log : List LogEvent) : Json :=
  (log.filter fun event => event.level.within level).map LogEvent.render

/-- The member that shows a log, if one was asked for. -/
def logMember (level : Option Level) (log : List LogEvent) : List (String × Json) :=
  match level with
  | some level => [("log", logLines level log)]
  | none => []

end ExtensionProxy
