import ExtensionProxy.Configuration.Settings
import ExtensionProxy.Configuration.Value
import ExtensionProxy.Decimal.Numeral

/-!
# Settings in the environment

A variable names a setting if its name begins as agreed; after that two low lines divide the names
on the way to the setting, and case does not count.  What looks like a truth value or a number is
taken as one.

This, too, is what the configuration library is assumed to do.  The library takes the variables in an
order of its own, and an environment lists them in that order.  It matters only where a variable names a
whole section, or a place inside what another variable names.
-/

set_option autoImplicit false

namespace ExtensionProxy

/-- How the names of variables that name settings begin, in lower case. -/
def variableOpening : List Char := "modproxy__".toList

/-- The text with dots in place of double low lines. -/
def dotLevels : List Char → List Char
  | '_' :: '_' :: rest => '.' :: dotLevels rest
  | c :: rest => c :: dotLevels rest
  | [] => []

/-- The name of the setting that a variable names. -/
def settingName? (name : String) : Option String :=
  let path := name.toLower.toList
  if variableOpening.isPrefixOf path then
    some (String.ofList (dotLevels (path.drop variableOpening.length)))
  else none

/-- The value of a variable: a truth value, an integer, a number, or else a text. -/
def ConfigValue.ofVariable (text : String) : ConfigValue :=
  if text.toLower = "true" then .truth true
  else if text.toLower = "false" then .truth false
  else match readInt64? text with
    | some value => .integer value
    | none =>
      match readNumeral? text with
      | some value => .fractional value
      | none => .text text

/-- The settings that the environment names. -/
def Environment.named (environment : Environment) : List (String × ConfigValue) :=
  environment.filterMap fun (name, text) =>
    (settingName? name).map fun path => (path, .ofVariable text)

end ExtensionProxy
