import ExtensionProxy.Handle

/-!
# JSON values

What the program tells other programs.  The members of an object are kept in the order in which
they were given, and nothing forbids two of one name.

`ToJson` says how a type is told.  Its instances are coercions too, so that a list of members can be
written with the values as they are.
-/

set_option autoImplicit false

namespace ExtensionProxy

/-- A JSON value. -/
inductive Json where
  /-- Nothing. -/
  | null
  | truth (value : Bool)
  /-- A number; only whole ones are needed. -/
  | number (value : Int)
  | text (value : String)
  | list (items : List Json)
  /-- An object: its members in order. -/
  | object (members : List (String × Json))
  deriving Inhabited, Repr

/-- Types whose values can be told. -/
class ToJson (α : Type) where
  /-- A value as it is told. -/
  toJson : α → Json

export ToJson (toJson)

instance {α : Type} [ToJson α] : CoeOut α Json := ⟨toJson⟩

instance : ToJson Bool := ⟨.truth⟩

instance : ToJson Nat := ⟨fun n => .number n⟩

instance : ToJson Int := ⟨.number⟩

instance : ToJson String := ⟨.text⟩

/-- A handle is told as it is shown. -/
instance {kind : HandleKind} : ToJson (Handle kind) := ⟨fun handle => .text handle.display⟩

instance {α : Type} [ToJson α] : ToJson (Option α) where
  toJson
    | some value => toJson value
    | none => .null

instance {α : Type} [ToJson α] : ToJson (List α) := ⟨fun values => .list (values.map toJson)⟩

/-- A pair is told as a list of two. -/
instance {α β : Type} [ToJson α] [ToJson β] : ToJson (α × β) :=
  ⟨fun pair => .list [pair.1, pair.2]⟩

/-- What came of a computation is told without saying which of the two it is: a failure is told so
that it cannot be taken for a value. -/
instance {ε α : Type} [ToJson ε] [ToJson α] : ToJson (Except ε α) where
  toJson
    | .ok value => toJson value
    | .error failure => toJson failure

end ExtensionProxy
