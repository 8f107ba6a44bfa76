import ExtensionProxy.Ini.Document
import ExtensionProxy.Json5.File
import ExtensionProxy.Ron.File
import ExtensionProxy.Toml.Document
import ExtensionProxy.Yaml.File

/-!
# Formats of configuration files

Which format a configuration file is in is told by its extension.
-/

set_option autoImplicit false

namespace ExtensionProxy

/-- A format of configuration files. -/
inductive FileFormat where
  /-- Tables under headers. -/
  | toml
  /-- One object. -/
  | json
  /-- Lists and tables told by indentation. -/
  | yaml
  /-- Sections of texts. -/
  | ini
  /-- Maps and records in brackets. -/
  | ron
  /-- One object, written in a relaxed way. -/
  | json5
  deriving DecidableEq, Repr

namespace FileFormat

/-- The extensions of files, each with the format that it tells.  Where a path leaves the extension
out, the first one counts that a file has. -/
def extensions : List (String × FileFormat) :=
  [("toml", .toml), ("json", .json), ("yaml", .yaml), ("yml", .yaml), ("ini", .ini), ("ron", .ron),
    ("json5", .json5)]

/-- The format that an extension tells. -/
def ofExtension? (extension : String) : Option FileFormat := extensions.lookup extension

/-- Reads a file of the format; `none` if anything in it is at fault. -/
def read? (text : String) : FileFormat → Option (List (String × ConfigValue))
  | .toml => Toml.read? text
  | .json => JsonFile.read? text
  | .yaml => Yaml.read? text
  | .ini => Ini.read? text
  | .ron => Ron.read? text
  | .json5 => Json5.read? text

end FileFormat

end ExtensionProxy
