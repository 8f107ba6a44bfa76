import ExtensionProxy.Handle
import ExtensionProxy.KeyFile.Parser

/-!
# Faults

What can go wrong is a `Cause`; how it is reported is a `Fault`: a kind, a message and, for some
causes, the text of what lies beneath.  The wording of every cause stands in `Cause.message`.
-/

set_option autoImplicit false

namespace ExtensionProxy

/-- The kinds under which faults are reported. -/
inductive FaultKind where
  /-- A descriptor could not be read or is malformed. -/
  | descriptor
  /-- A module could not be bound. -/
  | module
  /-- A factory ran but made no instance. -/
  | factory
  /-- A rule of the proxy's own state was violated. -/
  | invariant
  /-- The configuration is at fault. -/
  | configuration
  /-- Reading or writing a file failed. -/
  | io
  /-- Data could not be encoded or decoded. -/
  | serialization
  /-- Any other failure. -/
  | internal
  deriving DecidableEq, Repr

namespace FaultKind

/-- All kinds. -/
def all : List FaultKind :=
  [.descriptor, .module, .factory, .invariant, .configuration, .io, .serialization, .internal]

/-- The name of a kind. -/
def name : FaultKind → String
  | .descriptor => "Descriptor"
  | .module => "Module"
  | .factory => "Factory"
  | .invariant => "Invariant"
  | .configuration => "Configuration"
  | .io => "Io"
  | .serialization => "Serialization"
  | .internal => "Internal"

/-- A kind as it is shown before a message. -/
def display : FaultKind → String
  | .descriptor => "DESCRIPTOR"
  | .module => "MODULE"
  | .factory => "FACTORY"
  | .invariant => "INVARIANT"
  | .configuration => "CONFIGURATION"
  | .io => "IO"
  | .serialization => "SERIALIZATION"
  | .internal => "INTERNAL"

/-- The kind of a name. -/
def ofName? (name : String) : Option FaultKind := all.find? fun kind => kind.name == name

end FaultKind

/-- A failure as it is reported. -/
structure Fault where
  kind : FaultKind
  message : String
  /-- The text of the failure beneath, if there is one. -/
  source : Option String := none
  deriving DecidableEq, Repr

namespace Fault

/-- A fault as it is shown. -/
def display (fault : Fault) : String := fault.kind.display ++ ": " ++ fault.message

/-- A copy of a fault tells the same but no longer what lies beneath. -/
def copy (fault : Fault) : Fault := { fault with source := none }

/-- The fault that reports a failed input or output. -/
def ofInputOutput (text : String) : Fault := ⟨.io, "I/O error: " ++ text, some text⟩

/-- The fault that reports a failure of the configuration reader. -/
def ofConfiguration (text : String) : Fault :=
  ⟨.configuration, "Configuration error: " ++ text, some text⟩

end Fault

/-- Why a key file could not be had: its text has a syntax fault, or there is no readable text. -/
inductive KeyFileFault where
  /-- The file cannot be read as text. -/
  | unreadable
  /-- The text has a fault. -/
  | syntaxFault (fault : KeyFile.SyntaxFault)
  deriving DecidableEq, Repr

/-- Everything that the proxy itself reports. -/
inductive Cause where
  /-- A descriptor file that gives no key file. -/
  | unreadableDescriptor (path : String) (why : KeyFileFault)
  /-- A key file without the group that makes it a descriptor. -/
  | noDescriptorGroup (path group : String)
  /-- A descriptor without a name. -/
  | noDescriptorName (path : String)
  /-- A descriptor whose path has no name to take the stem from. -/
  | noDescriptorStem (path : String)
  | noModuleFile (path : String)
  /-- A module that does not export the factory. -/
  | noFactorySymbol (path symbol : String)
  /-- A file that cannot be loaded as a library. -/
  | notLoadable (path : String)
  /-- A handle under which another sub-extension is initialized. -/
  | handleTaken (handle : ExtensionHandle)
  /-- A handle registered twice; the handle is given as it is shown. -/
  | alreadyRegistered (shown : String)
  /-- A cleanup from inside the sub-extension's own code. -/
  | stillInUse (handle : ExtensionHandle)
  /-- A configuration that cannot be put together. -/
  | configurationNotBuilt
  /-- A configuration whose values have the wrong shape. -/
  | configurationNotRead
  /-- A directory that cannot be listed. -/
  | unreadableDirectory (path : String)
  /-- A null pointer where the caller has to pass an object. -/
  | nullArgument (what : String)
  /-- A failure of foreign code, reported as it is. -/
  | reported (fault : Fault)
  deriving DecidableEq, Repr

namespace Cause

/-- The kind under which a cause is reported. -/
def kind : Cause → FaultKind
  | .unreadableDescriptor _ _ => .descriptor
  | .noDescriptorGroup _ _ => .descriptor
  | .noDescriptorName _ => .descriptor
  | .noDescriptorStem _ => .descriptor
  | .noModuleFile _ => .module
  | .noFactorySymbol _ _ => .module
  | .notLoadable _ => .module
  | .handleTaken _ => .invariant
  | .alreadyRegistered _ => .invariant
  | .stillInUse _ => .invariant
  | .configurationNotBuilt => .configuration
  | .configurationNotRead => .configuration
  | .unreadableDirectory _ => .configuration
  | .nullArgument _ => .internal
  | .reported fault => fault.kind

/-- The wording of a cause. -/
def message : Cause → String
  | .unreadableDescriptor path _ => "Failed to read descriptor '" ++ path ++ "'"
  | .noDescriptorGroup path group => "Descriptor '" ++ path ++ "' has no [" ++ group ++ "] group"
  | .noDescriptorName path => "Descriptor '" ++ path ++ "' has no name"
  | .noDescriptorStem path => "Descriptor '" ++ path ++ "' has no usable stem"
  | .noModuleFile path => "Module '" ++ path ++ "' does not exist"
  | .noFactorySymbol path factory => "Module '" ++ path ++ "' missing '" ++ factory ++ "' symbol"
  | .notLoadable path => "Failed to load module '" ++ path ++ "'"
  | .handleTaken handle =>
    "Handle " ++ handle.display ++ " is already registered by another sub-extension"
  | .alreadyRegistered shown => "Handle " ++ shown ++ " is already registered"
  | .stillInUse handle =>
    "Sub-extension " ++ handle.display ++ " torn down while still in use"
  | .configurationNotBuilt => "Failed to build config"
  | .configurationNotRead => "Failed to deserialize config"
  | .unreadableDirectory path => "Cannot read directory " ++ path
  | .nullArgument what => "null " ++ what
  | .reported fault => fault.message

/-- What lies beneath a cause, as text. -/
def source : Cause → Option String
  | .unreadableDescriptor _ .unreadable => some "io"
  | .unreadableDescriptor _ (.syntaxFault fault) => some fault.display
  | .reported fault => fault.source
  | _ => none

/-- The report of a cause. -/
def fault (cause : Cause) : Fault := ⟨cause.kind, cause.message, cause.source⟩

end Cause

end ExtensionProxy
