import ExtensionProxy.Configuration.Format
import ExtensionProxy.Configuration.Variables
import ExtensionProxy.Fault
import ExtensionProxy.FileTree
import ExtensionProxy.Log

/-!
# Loading the settings

The settings come from the environment, laid over a file, laid over the defaults.  The file may be
absent; one that is there has to be in the format that its extension tells.  A path may leave the
extension out.  A section may be a table, of which unknown entries are ignored, or a list with the
settings in their order.

How one source is laid over another, and how a file of each format reads, is what the configuration
library and its readers do, assumed as they are documented.
-/

set_option autoImplicit false

namespace ExtensionProxy

/-! ## Sections -/

namespace ConfigValue

/-- Whether a value can be a section. -/
def isSection : ConfigValue → Bool
  | .list _ => true
  | .table _ => true
  | _ => false

/-- A setting of a section: by its name in a table, by its place in a list. -/
def setting? (place : Nat) (name : String) : ConfigValue → Option ConfigValue
  | .list items => items[place]?
  | .table entries => get? entries name
  | _ => none

/-- The text of a setting; the default if it is not set, and `none` if it is no text. -/
def settingOr? (source : ConfigValue) (place : Nat) (name default : String) : Option String :=
  match source.setting? place name with
  | none => some default
  | some value => value.text?

end ConfigValue

/-- The settings of a section on candidates. -/
def LoaderSettings.ofValue? (value : ConfigValue) : Option LoaderSettings := do
  let fallback : LoaderSettings := {}
  if !value.isSection then none
  let group ← value.settingOr? 0 "descriptor_group" fallback.descriptorGroup
  let descriptor ← value.settingOr? 1 "descriptor_extension" fallback.descriptorExtension
  let module ← value.settingOr? 2 "module_extension" fallback.moduleExtension
  let symbol ← value.settingOr? 3 "factory_symbol" fallback.factorySymbol
  let locale ← match value.setting? 4 "locale" with
    | none => some none
    | some .missing => some none
    | some value => value.text?.map some
  pure ⟨group, descriptor, module, symbol, locale⟩

/-- The settings of a section on the log. -/
def LoggingSettings.ofValue? (value : ConfigValue) : Option LoggingSettings := do
  let fallback : LoggingSettings := {}
  if !value.isSection then none
  let level ← value.settingOr? 0 "level" fallback.level
  let format ← value.settingOr? 1 "format" fallback.format
  pure ⟨level, format⟩

/-- The settings of a whole configuration; a section that is not there has its defaults. -/
def Settings.ofEntries? (entries : List (String × ConfigValue)) : Option Settings := do
  let loader ← match ConfigValue.get? entries "loader" with
    | none => some {}
    | some value => LoaderSettings.ofValue? value
  let logging ← match ConfigValue.get? entries "logging" with
    | none => some {}
    | some value => LoggingSettings.ofValue? value
  pure ⟨loader, logging⟩

/-! ## Sources -/

/-- The path with an extension to put others in place of: the path's own name is left whole. -/
def withPlaceholder (path : String) : String :=
  match Path.extension? path with
  | some _ => path ++ ".placeholder"
  | none => Path.setExtension path "placeholder"

/-- The file that a path stands for, with its format: the file at the path, if its extension tells a
format, or, if there is no file, one with such an extension added. -/
def settingsFile? {ι : Type} (files : FileTree ι) (path : String) : Option (String × FileFormat) :=
  if files.isFile path then
    ((Path.extension? path).bind FileFormat.ofExtension?).map fun format => (path, format)
  else FileFormat.extensions.findSome? fun (extension, format) =>
    let other := Path.setExtension (withPlaceholder path) extension
    if files.isFile other then some (other, format) else none

/-- The text without the mark of byte order that may open it. -/
def dropByteOrderMark (text : String) : String :=
  match text.toList with
  | '\ufeff' :: rest => String.ofList rest
  | _ => text

/-- What the file of a path says; nothing if there is none. -/
def fileEntries {ι : Type} (files : FileTree ι) (path : String) :
    Except Cause (List (String × ConfigValue)) :=
  match settingsFile? files path with
  | none => .ok []
  | some (found, format) =>
    match (files.lenientText? found).bind fun text => format.read? (dropByteOrderMark text) with
    | some entries => .ok entries
    | none => .error .configurationNotBuilt

namespace Settings

/-- Loads the settings. -/
def load {ι : Type} (files : FileTree ι) (environment : Environment) (path : Option String) :
    Except Cause Settings :=
  match (path.map (fileEntries files)).getD (.ok []) with
  | .error cause => .error cause
  | .ok fromFile =>
    let all := ((ConfigValue.table []).layer fromFile).layer environment.named
    match Settings.ofEntries? all.entries with
    | some settings => .ok settings
    | none => .error .configurationNotRead

/-- What is logged before the settings are loaded from a file. -/
def loading {ι : Type} (files : FileTree ι) (path : String) : LogEvent :=
  ⟨.debug, "Loading configuration file",
    [("path", path), ("exists", Inspect.truth (files.isFile path))]⟩

end Settings

end ExtensionProxy
