import ExtensionProxy.Configuration.Settings
import ExtensionProxy.Fault
import ExtensionProxy.FileTree
import ExtensionProxy.KeyFile.Value

/-!
# Descriptors

A descriptor is a key file that presents a sub-extension: its name, never empty, and what else the
host shows of it.  The name of the file without its extension is the stem, which the descriptor
shares with the module that holds the code.
-/

set_option autoImplicit false

namespace ExtensionProxy

/-- What a descriptor says. -/
structure Descriptor where
  /-- The path of the file. -/
  path : String
  /-- The file name without its extension. -/
  stem : String
  /-- The name to show, localized. -/
  name : String
  /-- The description, localized. -/
  description : String
  version : String
  author : String
  /-- Where help is found; empty if nowhere. -/
  helpUri : String
  /-- Whether there is a configuration panel. -/
  configurable : Bool
  deriving DecidableEq, Repr

namespace Descriptor

/-- Reads a descriptor from a key file: the file must have the descriptor group, the name in it
must not be blank, and the path must have a name. -/
def ofKeyFile (settings : LoaderSettings) (environment : Environment) (path : String)
    (file : KeyFile) : Except Cause Descriptor :=
  let group := settings.descriptorGroup
  if !file.hasGroup group then .error (.noDescriptorGroup path group)
  else
    let locale := settings.effectiveLocale environment
    let localized := fun key => trimText ((file.localized? group key locale).getD "")
    let plain := fun key => trimText ((file.string? group key).getD "")
    let name := localized "name"
    if name.isEmpty then .error (.noDescriptorName path)
    else match Path.stem? path with
      | none => .error (.noDescriptorStem path)
      | some stem =>
        .ok {
          path := path
          stem := stem
          name := name
          description := localized "description"
          version := plain "version"
          author := plain "author"
          helpUri := plain "help_uri"
          configurable := (file.boolean? group "configurable").getD false }

/-- Whether help is to be found somewhere. -/
def providesHelp (descriptor : Descriptor) : Bool := !descriptor.helpUri.isEmpty

/-- The path of the module; `none` if the extension of modules cannot be one. -/
def modulePath? (descriptor : Descriptor) (settings : LoaderSettings) : Option String :=
  Path.withExtension? descriptor.path settings.moduleExtension

end Descriptor

namespace KeyFile

/-- Reads the key file at a path. -/
def ofFile {ι : Type} (files : FileTree ι) (path : String) : Except KeyFileFault KeyFile :=
  match files.text? path with
  | none => .error .unreadable
  | some text =>
    match KeyFile.parse text with
    | .ok file => .ok file
    | .error fault => .error (.syntaxFault fault)

end KeyFile

/-- Reads the descriptor at a path. -/
def Descriptor.ofFile {ι : Type} (settings : LoaderSettings) (environment : Environment)
    (files : FileTree ι) (path : String) : Except Cause Descriptor :=
  match KeyFile.ofFile files path with
  | .error why => .error (.unreadableDescriptor path why)
  | .ok file => Descriptor.ofKeyFile settings environment path file

/-- What the host shows of a sub-extension. -/
structure Presentation where
  name : String
  description : String
  version : String
  author : String
  deriving DecidableEq, Repr

/-- What the host shows of the sub-extension that a descriptor presents. -/
def Descriptor.presentation (descriptor : Descriptor) : Presentation :=
  ⟨descriptor.name, descriptor.description, descriptor.version, descriptor.author⟩

/-- What the host may ask of a sub-extension. -/
structure Offer where
  /-- Whether help may be asked for. -/
  help : Bool
  /-- Whether a configuration panel may be asked for. -/
  configure : Bool
  deriving DecidableEq, Repr

/-- What the host may ask of the sub-extension that a descriptor presents. -/
def Descriptor.offer (descriptor : Descriptor) : Offer :=
  ⟨descriptor.providesHelp, descriptor.configurable⟩

/-- Where a sub-extension keeps its own configuration, below the folder of the host. -/
def configStorePath (configDir stem : String) : String :=
  Path.join (Path.join (Path.join configDir "plugins") stem) "config"

end ExtensionProxy
