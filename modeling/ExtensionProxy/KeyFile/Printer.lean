import ExtensionProxy.KeyFile.Basic

/-!
# Writing key files

The canonical text of a key file: for each group its header, then one line for each entry, the
value with its backslashes, line feeds, tabs, carriage returns and spaces escaped.  A value written
this way holds no blank that reading would trim.
-/

set_option autoImplicit false

namespace ExtensionProxy.KeyFile

/-- The escape of one character of a value. -/
def escapeChar (c : Char) : List Char :=
  if c = '\\' then ['\\', '\\']
  else if c = '\n' then ['\\', 'n']
  else if c = '\t' then ['\\', 't']
  else if c = '\r' then ['\\', 'r']
  else if c = ' ' then ['\\', 's']
  else [c]

/-- The escaped form of a value. -/
def escape (value : List Char) : List Char := value.flatMap escapeChar

/-- The line of one entry, without its line feed. -/
def renderEntry (entry : String × String) : List Char :=
  entry.1.toList ++ '=' :: escape entry.2.toList

/-- The header line of a group, without its line feed. -/
def renderHeader (name : String) : List Char := '[' :: name.toList ++ [']']

/-- The lines of one group. -/
def renderGroup (group : String × OrderedMap String String) : List (List Char) :=
  renderHeader group.1 :: group.2.entries.map renderEntry

/-- The canonical text of a key file, each line ended by a line feed. -/
def render (file : KeyFile) : String :=
  String.ofList ((file.groups.entries.flatMap renderGroup).flatMap (· ++ ['\n']))

end ExtensionProxy.KeyFile
