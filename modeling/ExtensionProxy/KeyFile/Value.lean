import ExtensionProxy.KeyFile.Basic
import ExtensionProxy.Locale
import ExtensionProxy.Text.Lines
import ExtensionProxy.Text.Integer

/-!
# Typed and localized values

How the text of an entry is read as a truth value, an integer or a list, and which of the localized
forms `key[locale]` of a key is taken.  A value that does not read as the type asked for counts as
absent.
-/

set_option autoImplicit false

namespace ExtensionProxy.KeyFile

/-- The name under which a key is localized for one locale. -/
def localizedKey (key variant : String) : String := key ++ "[" ++ variant ++ "]"

/-- The value of a key for a locale: the most specific localized form that exists, and else the
plain key. -/
def localized? (file : KeyFile) (group key : String) (locale : Option String) : Option String :=
  match locale with
  | none => file.string? group key
  | some locale =>
    ((localeVariants locale).findSome? fun variant =>
      file.string? group (localizedKey key variant)).or (file.string? group key)

/-- A truth value: `true` or `1`, `false` or `0`. -/
def boolean? (file : KeyFile) (group key : String) : Option Bool :=
  match file.string? group key with
  | some "true" => some true
  | some "1" => some true
  | some "false" => some false
  | some "0" => some false
  | _ => none

/-- A signed integer of 64 bits. -/
def integer? (file : KeyFile) (group key : String) : Option Int :=
  (file.string? group key).bind readInt64?

/-- A list of items divided by semicolons; empty items do not count. -/
def list? (file : KeyFile) (group key : String) : Option (List String) :=
  (file.string? group key).map (splitItems ';')

end ExtensionProxy.KeyFile
