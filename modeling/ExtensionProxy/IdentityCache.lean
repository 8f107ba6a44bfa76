import ExtensionProxy.Handle
import ExtensionProxy.OrderedMap
import ExtensionProxy.Run

/-!
# Identity caches

A cache gives out at most one wrapper for a handle as long as the handle stays registered, so what
is connected through one reference is seen through every other.  Wrappers are listed in the order
in which their handles were registered.

The wrappers and the order of registration are kept apart, and every operation has to keep the two
in step.  Building a wrapper may run code that uses the cache itself; whoever registered first wins,
and the wrapper built in vain is thrown away.
-/

set_option autoImplicit false

namespace ExtensionProxy

/-- Wrappers by handle, and the order of registration. -/
structure IdentityCache (kind : HandleKind) (ω : Type) where
  /-- The registered wrappers, by handle; their order in the map means nothing. -/
  wrappers : OrderedMap (Handle kind) ω
  /-- The registered handles, oldest first. -/
  order : List (Handle kind)
  deriving DecidableEq, Repr

namespace IdentityCache

variable {kind : HandleKind} {ω σ : Type}

/-- The cache without wrappers. -/
def empty : IdentityCache kind ω := ⟨.empty, []⟩

instance : Inhabited (IdentityCache kind ω) := ⟨empty⟩

/-! ## Views -/

/-- The wrapper of a handle. -/
def get? (cache : IdentityCache kind ω) (handle : Handle kind) : Option ω :=
  cache.wrappers.get? handle

/-- Whether the handle is registered. -/
def contains (cache : IdentityCache kind ω) (handle : Handle kind) : Bool :=
  cache.wrappers.contains handle

/-- How many wrappers are registered. -/
def size (cache : IdentityCache kind ω) : Nat := cache.wrappers.size

/-- Whether no wrapper is registered. -/
def isEmpty (cache : IdentityCache kind ω) : Bool := cache.size == 0

/-- The registered handles, oldest first. -/
def keys (cache : IdentityCache kind ω) : List (Handle kind) := cache.order

/-- The registered handles with their wrappers, oldest first. -/
def entries (cache : IdentityCache kind ω) : List (Handle kind × ω) :=
  cache.order.filterMap fun handle => (cache.get? handle).map fun wrapper => (handle, wrapper)

/-- The registered wrappers, oldest first. -/
def values (cache : IdentityCache kind ω) : List ω := cache.order.filterMap cache.get?

/-! ## Changes -/

/-- Registers the wrapper of a handle that is not registered. -/
def insert (cache : IdentityCache kind ω) (handle : Handle kind) (wrapper : ω) :
    IdentityCache kind ω :=
  ⟨cache.wrappers.insert handle wrapper, cache.order ++ [handle]⟩

/-- Takes the wrapper of a handle out. -/
def erase (cache : IdentityCache kind ω) (handle : Handle kind) : IdentityCache kind ω :=
  if cache.contains handle then
    ⟨cache.wrappers.erase handle, cache.order.filter fun other => other ≠ handle⟩
  else cache

/-- Registers a wrapper unless the handle is registered; gives the wrapper registered then. -/
def register (cache : IdentityCache kind ω) (handle : Handle kind) (wrapper : ω) :
    ω × IdentityCache kind ω :=
  match cache.get? handle with
  | some existing => (existing, cache)
  | none => (wrapper, cache.insert handle wrapper)

/-- Registers a new wrapper; `none` if the handle is registered already. -/
def insertNew (cache : IdentityCache kind ω) (handle : Handle kind) (wrapper : ω) :
    Option (IdentityCache kind ω) :=
  if cache.contains handle then none else some (cache.insert handle wrapper)

/-- The wrapper of a handle; one is built if there is none. -/
def addWith (lens : Lens σ (IdentityCache kind ω)) (handle : Handle kind) (make : Run σ ω) :
    Run σ ω := do
  let before ← Run.gets lens.get
  match before.get? handle with
  | some existing => pure existing
  | none =>
    let wrapper ← make
    let cache ← Run.gets lens.get
    let (registered, next) := register cache handle wrapper
    Run.modify (lens.set next)
    pure registered

end IdentityCache

end ExtensionProxy
