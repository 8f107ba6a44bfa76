import ExtensionProxy.Configuration.Settings
import ExtensionProxy.Fault
import ExtensionProxy.FileTree

/-!
# Binding modules

A module is a file that gives a factory.  There are two ways to bind one.  A table holds factories
that are part of the host, by the stem of the module; the file has to exist but is not read.  The
other way is to load the file as a library and to look the symbol up among its exports; there a
text without a slash is no path, and what it leads to is for the system's loader to say.
-/

set_option autoImplicit false

namespace ExtensionProxy

/-- Where a factory comes from. -/
inductive FactorySource where
  | library
  /-- The table, as code that a library would export. -/
  | tableExport
  /-- The table, as code of the host. -/
  | tableNative
  deriving DecidableEq, Repr

/-- The source of a factory as it is shown. -/
def FactorySource.label : FactorySource → String
  | .library => "dynamic"
  | .tableExport => "static-export"
  | .tableNative => "static-native"

/-- What makes the instances of a sub-extension. -/
structure Factory (κ : Type) where
  /-- Where it comes from. -/
  source : FactorySource
  code : κ
  deriving DecidableEq, Repr

/-- A way to bind modules. -/
inductive Binder (κ : Type) where
  | table (factories : OrderedMap String (Factory κ))
  /-- By loading libraries. -/
  | libraries

namespace Binder

variable {κ : Type}

/-- Binds by the table. -/
def bindEntry (factories : OrderedMap String (Factory κ)) (files : FileTree κ)
    (path factory : String) : Except Cause (Factory κ) :=
  if !files.isFile path then .error (.noModuleFile path)
  else if factory ≠ factorySymbolName then .error (.noFactorySymbol path factory)
  else match factories.get? ((Path.stem? path).getD "") with
    | some found => .ok found
    | none => .error (.noFactorySymbol path factory)

/-- A text as the system's loader takes it: a zero at the end is that end, and a zero before makes
the text unusable. -/
def loaderText? (text : String) : Option String :=
  let chars := text.toList
  let name := if chars.getLast? == some '\x00' then chars.dropLast else chars
  if name.contains '\x00' then none else some (String.ofList name)

/-- What loading a path as a library finds exported. -/
def loadLibrary? (files : FileTree κ) (path : String) : Option (List (String × κ)) :=
  (loaderText? path).bind fun path =>
    if path.toList.contains '/' then files.exports? path else files.system path

/-- The export with a name. -/
def findExport? (exports : List (String × κ)) (factory : String) : Option κ :=
  (loaderText? factory).bind fun name => exports.lookup name

/-- Binds by loading a library. -/
def bindLibrary (files : FileTree κ) (path factory : String) : Except Cause (Factory κ) :=
  match loadLibrary? files path with
  | none => .error (.notLoadable path)
  | some exports =>
    match findExport? exports factory with
    | some code => .ok ⟨.library, code⟩
    | none => .error (.noFactorySymbol path factory)

/-- Binds the module at a path and looks its factory up. -/
def bind (binder : Binder κ) (files : FileTree κ) (path factory : String) :
    Except Cause (Factory κ) :=
  match binder with
  | .table factories => bindEntry factories files path factory
  | .libraries => bindLibrary files path factory

end Binder

end ExtensionProxy
