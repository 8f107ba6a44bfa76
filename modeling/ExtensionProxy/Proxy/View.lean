import ExtensionProxy.Proxy.State

/-!
# A view of a proxy

What can be seen of a proxy from outside: which documents and sub-extensions are registered, whether
a workspace is open, and how much is waiting or held.
-/

set_option autoImplicit false

namespace ExtensionProxy

/-- What can be seen of a proxy. -/
structure StateView where
  /-- The registered documents. -/
  documents : List DocumentHandle
  /-- The registered sub-extensions: handle, name, and whether the instance is alive. -/
  extensions : List (ExtensionHandle × String × Bool)
  /-- The open workspace. -/
  workspace : Option WorkspaceHandle
  /-- How many tasks wait. -/
  pending : Nat
  /-- How many categories are registered. -/
  categories : Nat
  /-- How many bindings are held. -/
  live : Nat
  deriving DecidableEq, Repr

/-- A view of the state. -/
def StateView.of {κ μ : Type} (s : State κ μ) : StateView where
  documents := s.documents.keys
  extensions := s.registry.entries.map fun entry =>
    (entry.1, entry.2.name, s.isAlive entry.2.target)
  workspace := (s.workspace.bind s.workspaceWrapper?).map fun workspace => workspace.handle
  pending := s.tasks.pending
  categories := s.categories.size
  live := s.liveBindings

end ExtensionProxy
