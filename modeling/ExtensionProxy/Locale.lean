import ExtensionProxy.Text.Lines

/-!
# Locales

A locale is written `language_COUNTRY.codeset@modifier`, every part but the language optional.
Look-up of localized values ignores the codeset, and the locales `C` and `POSIX` stand for no
locale at all.  The most specific form of a locale comes first among its variants.
-/

set_option autoImplicit false

namespace ExtensionProxy

/-- A locale cut at its modifier. -/
def cutModifier (locale : List Char) : List Char × Option (List Char) :=
  match splitFirst '@' locale with
  | some (base, modifier) => (base, some modifier)
  | none => (locale, none)

/-- The locale without its codeset; `none` for an empty one and for `C` and `POSIX`. -/
def normalizeLocale (raw : String) : Option String :=
  let (withCodeset, modifier) := cutModifier raw.toList
  let base := beforeFirst '.' withCodeset
  if base.isEmpty || base == "C".toList || base == "POSIX".toList then none
  else some (String.ofList (match modifier with
    | some modifier => base ++ '@' :: modifier
    | none => base))

/-- The forms under which a value may be localized for a locale, most specific first: language and
country with the modifier, then without, the language with the modifier, then alone.  A form that
needs a missing part is left out. -/
def localeVariants (locale : String) : List String :=
  let (base, modifier) := cutModifier locale.toList
  let language := beforeFirst '_' base
  let hasCountry := language != base
  let withModifier := match modifier with
    | some modifier => [base ++ '@' :: modifier]
    | none => []
  let country := if hasCountry then [base] else []
  let languageWithModifier := match modifier with
    | some modifier => if hasCountry then [language ++ '@' :: modifier] else []
    | none => []
  (withModifier ++ country ++ languageWithModifier ++ [language]).map String.ofList

end ExtensionProxy
