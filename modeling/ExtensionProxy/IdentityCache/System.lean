import ExtensionProxy.IdentityCache
import ExtensionProxy.Program

/-!
# A cache and the code that builds its wrappers

One cache of documents together with the makers of its wrappers.  A maker is foreign code: it may
use the cache itself, to any depth, before its wrapper is built.  Wrappers are told apart by the
serial numbers under which they were built.

What happens is put on record, with the cache at each moment.  Nothing that the cache does depends on
the record.
-/

set_option autoImplicit false

namespace ExtensionProxy

/-- What happens to a cache. -/
inductive CacheHappening where
  /-- The maker of a wrapper begins. -/
  | makes (handle : DocumentHandle)
  /-- A maker is over: it returned or was stopped. -/
  | made (handle : DocumentHandle) (result : Except Stop Unit)
  /-- The wrapper of a handle was given out, built if there was none, or its maker was stopped. -/
  | added (handle : DocumentHandle) (result : Except Stop Nat)
  /-- A new wrapper was registered, unless the handle was registered already. -/
  | inserted (handle : DocumentHandle) (serial : Option Nat)
  /-- The wrapper of a handle, if there was one, was taken out. -/
  | took (handle : DocumentHandle) (serial : Option Nat)
  /-- Everything was taken out. -/
  | cleared (evicted : List (DocumentHandle × Nat))

/-- A moment of the record. -/
structure CacheMoment where
  what : CacheHappening
  /-- The cache since. -/
  cache : IdentityCache .document Nat

/-- A cache, how many wrappers were built, the memory of the makers, and the record. -/
structure CacheWorld (μ : Type) where
  /-- The registered wrappers, by serial number. -/
  cache : IdentityCache .document Nat
  /-- How many wrappers were built, thrown away or not. -/
  built : Nat
  /-- What foreign code remembers. -/
  memory : μ
  /-- What has happened, the latest first. -/
  history : List CacheMoment := []

namespace CacheWorld

variable {μ : Type}

/-- The cache as a part of the world. -/
def cacheLens : Lens (CacheWorld μ) (IdentityCache .document Nat) where
  get world := world.cache
  set cache world := { world with cache := cache }
  get_set _ _ := rfl
  set_set _ _ _ := rfl

/-- Builds a wrapper. -/
def build : Run (CacheWorld μ) Nat := do
  let world ← Run.get
  Run.modify fun world => { world with built := world.built + 1 }
  pure (world.built + 1)

/-- Changes the memory. -/
def remember (change : μ → μ) (world : CacheWorld μ) : CacheWorld μ :=
  { world with memory := change world.memory }

/-- Puts something on record. -/
def note (what : CacheHappening) (world : CacheWorld μ) : CacheWorld μ :=
  { world with history := ⟨what, world.cache⟩ :: world.history }

/-- What has happened, in order. -/
def course (world : CacheWorld μ) : List CacheMoment := world.history.reverse

end CacheWorld

/-- What a maker may request. -/
inductive CacheRequest (κ μ : Type) where
  /-- The wrapper of a handle, built if there is none. -/
  | add (handle : DocumentHandle)
  /-- The wrapper of a handle, built after the maker has run if there is none. -/
  | addWith (handle : DocumentHandle) (maker : κ)
  /-- Register a new wrapper. -/
  | insert (handle : DocumentHandle)
  /-- Take the wrapper of a handle out. -/
  | take (handle : DocumentHandle)
  /-- Take everything out. -/
  | clear
  /-- Change the memory. -/
  | remember (change : μ → μ)

/-- What a request is answered with: the wrapper now registered, the one registered anew unless the
handle was taken, the one taken out, everything taken out. -/
@[reducible] def CacheRequest.Answer {κ μ : Type} : CacheRequest κ μ → Type
  | .add _ => Nat
  | .addWith _ _ => Nat
  | .insert _ => Option Nat
  | .take _ => Option Nat
  | .clear => List (DocumentHandle × Nat)
  | .remember _ => Unit

/-- The makers of one cache as foreign code. -/
abbrev cacheInterface (κ μ : Type) : Interface where
  State := CacheWorld μ
  Request := CacheRequest κ μ
  Answer := CacheRequest.Answer
  Call := κ
  Reply _ := Unit

/-- Runs a maker and builds its wrapper. -/
def buildWith {κ μ : Type} (call : (cacheInterface κ μ).Caller) (handle : DocumentHandle)
    (maker : κ) : Run (CacheWorld μ) Nat := do
  Run.modify (CacheWorld.note (.makes handle))
  Run.concluding (call maker) fun result => CacheWorld.note (.made handle result)
  CacheWorld.build

/-- Carries out the requests of makers. -/
def cacheService (κ μ : Type) : (cacheInterface κ μ).Service := fun call request =>
  match request with
  | .add handle =>
    Run.concluding (IdentityCache.addWith CacheWorld.cacheLens handle CacheWorld.build)
      fun result => CacheWorld.note (.added handle result)
  | .addWith handle maker =>
    Run.concluding (IdentityCache.addWith CacheWorld.cacheLens handle (buildWith call handle maker))
      fun result => CacheWorld.note (.added handle result)
  | .insert handle => do
    let serial ← CacheWorld.build
    let world ← Run.get
    match IdentityCache.insertNew world.cache handle serial with
    | none =>
      Run.modify (CacheWorld.note (.inserted handle none))
      pure none
    | some cache =>
      Run.modify (CacheWorld.cacheLens.set cache)
      Run.modify (CacheWorld.note (.inserted handle (some serial)))
      pure (some serial)
  | .take handle => do
    let world ← Run.get
    let serial := world.cache.get? handle
    Run.modify (CacheWorld.cacheLens.modify fun cache => cache.erase handle)
    Run.modify (CacheWorld.note (.took handle serial))
    pure serial
  | .clear => do
    let world ← Run.get
    let evicted := world.cache.entries
    Run.modify (CacheWorld.cacheLens.set .empty)
    Run.modify (CacheWorld.note (.cleared evicted))
    pure evicted
  | .remember change => Run.modify (CacheWorld.remember change)

end ExtensionProxy
