import ExtensionProxy.IdentityCache

/-!
# Categories

The categories mirror the host's table.  They are rebuilt as a whole when the host reloads it:
every wrapper given out before becomes stale and is evicted, and each row gets a new wrapper; of
rows with one handle the first counts.
-/

set_option autoImplicit false

namespace ExtensionProxy

/-- A row of the host's table. -/
structure CategoryRow where
  handle : CategoryHandle
  /-- The short name. -/
  name : String
  /-- The title to show. -/
  title : String
  /-- The patterns of file names. -/
  patterns : List String
  deriving DecidableEq, Repr

/-- The host's table of categories, as it can be read or not. -/
inductive CategoryTable where
  /-- The rows of the table. -/
  | rows (rows : List CategoryRow)
  /-- The host reports more rows than there is memory for. -/
  | tooLarge
  /-- The host reports more rows than a list can hold. -/
  | tooLong
  deriving DecidableEq, Repr

namespace CategoryTable

/-- How many rows can be read. -/
def size : CategoryTable → Nat
  | .rows given => given.length
  | .tooLarge => 0
  | .tooLong => 0

/-- Reads the table.  Room is made for all rows first: a panic if no list is so long, and no memory
is left if there is not enough of it. -/
def read {σ : Type} : CategoryTable → Run σ (List CategoryRow)
  | .rows given => pure given
  | .tooLarge => Run.stop .outOfMemory
  | .tooLong => Run.panic (some "capacity overflow")

end CategoryTable

/-- Names a category wrapper for ever. -/
structure CategoryId where
  /-- The place in the order of building. -/
  index : Nat
  deriving DecidableEq, Repr

/-- A category wrapper. -/
structure Category where
  /-- The row it was built from. -/
  row : CategoryRow
  /-- Whether the host has reloaded its categories since. -/
  stale : Bool := false
  deriving DecidableEq, Repr

/-- All category wrappers ever built, and those that are registered. -/
structure Categories where
  /-- Every wrapper, by id. -/
  wrappers : List Category := []
  /-- The registered wrappers, in host order. -/
  cache : IdentityCache .category CategoryId := .empty
  deriving DecidableEq, Repr

namespace Categories

instance : Inhabited Categories := ⟨{}⟩

/-- A wrapper, registered or not. -/
def wrapper? (categories : Categories) (id : CategoryId) : Option Category :=
  categories.wrappers[id.index]?

/-- The registered wrapper of a handle. -/
def lookup (categories : Categories) (handle : CategoryHandle) : Option CategoryId :=
  categories.cache.get? handle

/-- The registered wrappers, in host order. -/
def list (categories : Categories) : List CategoryId := categories.cache.values

/-- How many are registered. -/
def size (categories : Categories) : Nat := categories.cache.size

/-- The first registered wrapper with a name. -/
def findByName (categories : Categories) (name : String) : Option CategoryId :=
  categories.list.find? fun id =>
    match categories.wrapper? id with
    | some category => category.row.name == name
    | none => false

/-- Marks a wrapper as stale. -/
def markStale (categories : Categories) (id : CategoryId) : Categories :=
  let mark := fun category : Category => { category with stale := true }
  { categories with wrappers := categories.wrappers.modify id.index mark }

/-- Marks every registered wrapper as stale and evicts it. -/
def clear (categories : Categories) : Categories :=
  { categories.list.foldl markStale categories with cache := .empty }

/-- Builds and registers the wrapper of a row, unless its handle is registered. -/
def add (categories : Categories) (row : CategoryRow) : Categories :=
  if categories.cache.contains row.handle then categories
  else
    { wrappers := categories.wrappers ++ [{ row := row }]
      cache := categories.cache.insert row.handle ⟨categories.wrappers.length⟩ }

/-- Rebuilds the categories from the host's table. -/
def reload (categories : Categories) (rows : List CategoryRow) : Categories :=
  rows.foldl add categories.clear

end Categories

end ExtensionProxy
