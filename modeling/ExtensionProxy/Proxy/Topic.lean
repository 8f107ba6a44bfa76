import ExtensionProxy.Category
import ExtensionProxy.Event.Host
import ExtensionProxy.Signal

/-!
# Wrappers and their signals

A wrapper stands for a document or a workspace of the host and keeps its identity for ever, also
after it was evicted.  Its signals are named by topics: six for a document and one more for every
kind of editor notification, four for a workspace.  `Observers` holds the signals of all wrappers;
a signal to which nothing was ever connected need not be there.
-/

set_option autoImplicit false

namespace ExtensionProxy

/-- Names a document wrapper for ever. -/
structure DocumentId where
  /-- The place in the order of building. -/
  index : Nat
  deriving DecidableEq, Repr

/-- Names a workspace wrapper for ever. -/
structure WorkspaceId where
  /-- The place in the order of building. -/
  index : Nat
  deriving DecidableEq, Repr

/-- A workspace wrapper: the handle, and the configuration as it was when the workspace opened. -/
structure Workspace where
  handle : WorkspaceHandle
  config : KeyFile
  deriving DecidableEq, Repr

/-- The signals of a document, apart from those of its editor. -/
inductive DocumentSignal where
  /-- The document became the active one. -/
  | activated
  /-- It is about to be written. -/
  | beforeSave
  /-- It was written. -/
  | saved
  /-- It was read again. -/
  | reloaded
  /-- It is closing; it is still registered. -/
  | closed
  /-- Its category was set. -/
  | categoryChanged
  deriving DecidableEq, Repr

/-- All signals of a document, in the order in which they are shown. -/
def DocumentSignal.all : List DocumentSignal :=
  [.activated, .beforeSave, .saved, .reloaded, .closed, .categoryChanged]

/-- The signals of a workspace. -/
inductive WorkspaceSignal where
  /-- The workspace is closing. -/
  | closed
  /-- Its properties dialog was opened. -/
  | dialogOpened
  | dialogConfirmed
  | dialogClosed
  deriving DecidableEq, Repr

/-- All signals of a workspace, in the order in which they are shown. -/
def WorkspaceSignal.all : List WorkspaceSignal :=
  [.closed, .dialogOpened, .dialogConfirmed, .dialogClosed]

/-- The name of a signal. -/
inductive Topic where
  | document (doc : DocumentId) (signal : DocumentSignal)
  /-- A signal of a document's editor. -/
  | editor (doc : DocumentId) (kind : EditorKind)
  | workspace (id : WorkspaceId) (signal : WorkspaceSignal)
  deriving DecidableEq, Repr

namespace Topic

/-- The document that a topic belongs to. -/
def document? : Topic → Option DocumentId
  | .document doc _ => some doc
  | .editor doc _ => some doc
  | .workspace _ _ => none

/-- The workspace that a topic belongs to. -/
def workspace? : Topic → Option WorkspaceId
  | .workspace id _ => some id
  | _ => none

end Topic

/-- What a signal tells its handlers, beside the wrapper that they were connected to. -/
inductive Emitted where
  /-- Nothing more. -/
  | plain
  /-- The category that the document had before. -/
  | category (previous : Option CategoryId)
  /-- A notification of the editor. -/
  | note (note : EditorNote)
  | dialog (dialog : DialogHandle)
  deriving DecidableEq, Repr

/-- The signals of all wrappers. -/
structure Observers (κ : Type) where
  /-- The signals that something was connected to. -/
  signals : OrderedMap Topic (Signal κ)
  deriving DecidableEq

namespace Observers

variable {κ : Type}

/-- No handlers anywhere. -/
def empty : Observers κ := ⟨.empty⟩

/-- The signal of a topic. -/
def signal (observers : Observers κ) (topic : Topic) : Signal κ :=
  (observers.signals.get? topic).getD {}

/-- Writes the signal of a topic. -/
def setSignal (observers : Observers κ) (topic : Topic) (signal : Signal κ) : Observers κ :=
  ⟨observers.signals.insert topic signal⟩

theorem signal_setSignal (observers : Observers κ) (topic other : Topic) (signal : Signal κ) :
    (observers.setSignal topic signal).signal other
      = if other = topic then signal else observers.signal other := by
  simp only [Observers.signal, setSignal, OrderedMap.get?_insert]
  by_cases h : other = topic <;> simp [h]

theorem setSignal_setSignal (observers : Observers κ) (topic : Topic) (first second : Signal κ) :
    (observers.setSignal topic first).setSignal topic second
      = observers.setSignal topic second := by
  simp [setSignal, OrderedMap.insert_insert]

/-- The signal of a topic as a part of all. -/
def lens (topic : Topic) : Lens (Observers κ) (Signal κ) where
  get observers := observers.signal topic
  set signal observers := observers.setSignal topic signal
  get_set signal observers := by simp [signal_setSignal]
  set_set first second observers := setSignal_setSignal observers topic first second

/-- How many handlers are connected to a topic. -/
def count (observers : Observers κ) (topic : Topic) : Nat := (observers.signal topic).count

/-- How many handlers are connected to the editor of a document. -/
def editorCount (observers : Observers κ) (doc : DocumentId) : Nat :=
  (EditorKind.all.map fun kind => observers.count (.editor doc kind)).foldr (· + ·) 0

/-- How many handlers of an owner are connected to the topics that are meant. -/
def ownedBy (observers : Observers κ) (meant : Topic → Bool) (owner : ExtensionHandle) : Nat :=
  (observers.signals.entries.map fun entry =>
    if meant entry.1 then entry.2.ownedBy owner else 0).foldr (· + ·) 0

/-- Drops the handlers of an owner from the topics that are meant. -/
def dropOwner (observers : Observers κ) (meant : Topic → Bool) (owner : ExtensionHandle) :
    Observers κ :=
  ⟨⟨observers.signals.entries.map fun entry =>
    (entry.1, if meant entry.1 then entry.2.disconnectOwner owner else entry.2)⟩⟩

/-- The signals that are meant lose the handlers of the owner; every other signal is as before. -/
theorem signal_dropOwner (observers : Observers κ) (meant : Topic → Bool) (owner : ExtensionHandle)
    (topic : Topic) :
    (observers.dropOwner meant owner).signal topic
      = if meant topic then (observers.signal topic).disconnectOwner owner
        else observers.signal topic := by
  simp only [Observers.signal, dropOwner, OrderedMap.get?]
  induction observers.signals.entries with
  | nil => cases h : meant topic <;> simp [OrderedMap.find, Signal.disconnectOwner]
  | cons entry rest ih =>
    obtain ⟨k, signal⟩ := entry
    by_cases hk : k = topic
    · subst hk
      cases h : meant k <;> simp [OrderedMap.find, h]
    · simpa [OrderedMap.find, hk] using ih

end Observers

end ExtensionProxy
