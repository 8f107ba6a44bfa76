import ExtensionProxy.Text.Lines
import ExtensionProxy.Text.Quoted

/-!
# Paths

Paths are text with parts divided by slashes.  The name of a path is its last part; trailing
slashes and trailing parts `.` do not count, and a path that ends in `..`, or has no part at all,
has no name.  The extension is what follows the last dot of the name, unless that dot opens the
name.

A path is a text, so file names whose bytes are no text are beyond what is said here.
-/

set_option autoImplicit false

namespace ExtensionProxy.Path

/-- Drops trailing slashes and trailing parts `.` from a reversed path. -/
def dropTail : List Char → List Char
  | '/' :: rest => dropTail rest
  | '.' :: '/' :: rest => dropTail rest
  | path => path

/-- The text before the name of a path, and the name. -/
def splitName? (path : String) : Option (List Char × List Char) :=
  let reversed := dropTail path.toList.reverse
  let name := (reversed.takeWhile (· ≠ '/')).reverse
  if name.isEmpty || name == ['.'] || name == ['.', '.'] then none
  else some ((reversed.dropWhile (· ≠ '/')).reverse, name)

/-- A name cut at its last dot; a dot that opens the name does not cut. -/
def cutExtension (name : List Char) : List Char × Option (List Char) :=
  match splitFirst '.' name.reverse with
  | some (after, before) =>
    if before.isEmpty then (name, none) else (before.reverse, some after.reverse)
  | none => (name, none)

/-- The last part of a path. -/
def name? (path : String) : Option String :=
  (splitName? path).map fun (_, name) => String.ofList name

/-- The name without its extension. -/
def stem? (path : String) : Option String :=
  (splitName? path).map fun (_, name) => String.ofList (cutExtension name).1

/-- What follows the last dot of the name; the empty text if the name ends in a dot. -/
def extension? (path : String) : Option String :=
  (splitName? path).bind fun (_, name) => (cutExtension name).2.map String.ofList

/-- Whether a text may serve as an extension: it must not divide parts. -/
def isExtension (extension : String) : Bool := !extension.toList.contains '/'

/-- Puts an extension after the stem of a path, or none if the extension is empty.  What follows the
stem is dropped; a path without a name stays as it is. -/
def setExtension (path extension : String) : String :=
  match splitName? path with
  | none => path
  | some (before, name) =>
    let stem := before ++ (cutExtension name).1
    if extension.isEmpty then String.ofList stem
    else String.ofList (stem ++ '.' :: extension.toList)

/-- Drops as many characters at the end as the extension has. -/
def dropExtension (path : String) : String :=
  match extension? path with
  | none => path
  | some extension => String.ofList (path.toList.take (path.length - extension.length))

/-- The path with another extension, or with none if the extension is empty.  The old extension goes
first and leaves its dot; where only `..` is left, there is no stem to put an extension after. -/
def withExtension (path extension : String) : String :=
  setExtension (dropExtension path) extension

/-- The path with another extension; `none` if the text given cannot be one. -/
def withExtension? (path extension : String) : Option String :=
  if isExtension extension then some (withExtension path extension) else none

/-- The panic of a request for an extension that divides parts. -/
def extensionPanic (extension : String) : String :=
  "extension cannot contain path separators: " ++ Inspect.path extension

/-- Whether the path starts at the root. -/
def isAbsolute (path : String) : Bool := path.toList.head? == some '/'

/-- The path that leads from a base: an absolute path stands for itself, and a slash is put between
the two unless the base is empty or ends in one. -/
def join (base path : String) : String :=
  if isAbsolute path then path
  else if base.isEmpty || base.toList.getLast? == some '/' then base ++ path
  else base ++ "/" ++ path

/-- The parts between slashes, empty ones included. -/
def parts (path : String) : List String :=
  (splitEvery '/' path.toList).map String.ofList

end ExtensionProxy.Path
