import ExtensionProxy.Locale

/-!
# Settings

What can be configured: how candidates are recognised and bound, and how the log is written.  Every
setting has a default.
-/

set_option autoImplicit false

namespace ExtensionProxy

/-- The environment of the process: variables with their values. -/
abbrev Environment := List (String × String)

/-- The value of a variable. -/
def Environment.get? (environment : Environment) (name : String) : Option String :=
  (environment.find? fun entry => entry.1 == name).map Prod.snd

/-- The symbol that every module exports. -/
def factorySymbolName : String := "modproxy_create_extension"

/-- How candidates are recognised and bound. -/
structure LoaderSettings where
  /-- The group that every descriptor must have. -/
  descriptorGroup : String := "modproxy"
  descriptorExtension : String := "plugin"
  moduleExtension : String := "so"
  /-- The symbol that every module must export. -/
  factorySymbol : String := factorySymbolName
  /-- The locale of localized values; the environment decides if none is set. -/
  locale : Option String := none
  deriving DecidableEq, Repr

/-- How the log is written. -/
structure LoggingSettings where
  /-- The level of the events to write. -/
  level : String := "info"
  /-- The format in which they are written. -/
  format : String := "pretty"
  deriving DecidableEq, Repr

/-- All settings. -/
structure Settings where
  /-- How candidates are recognised and bound. -/
  loader : LoaderSettings := {}
  /-- How the log is written. -/
  logging : LoggingSettings := {}
  deriving DecidableEq, Repr

/-- The variables that name a locale; the first that is set and not empty counts. -/
def localeVariables : List String := ["LC_ALL", "LC_MESSAGES", "LANG"]

/-- The locale that the environment names. -/
def Environment.locale (environment : Environment) : Option String :=
  localeVariables.findSome? fun name =>
    (environment.get? name).filter fun value => !value.isEmpty

/-- The locale of localized values. -/
def LoaderSettings.effectiveLocale (settings : LoaderSettings) (environment : Environment) :
    Option String :=
  (settings.locale.or environment.locale).bind normalizeLocale

end ExtensionProxy
