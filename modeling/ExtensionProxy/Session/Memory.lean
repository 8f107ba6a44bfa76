import ExtensionProxy.Session.Act
import ExtensionProxy.Session.Journal
import ExtensionProxy.Tally

/-!
# What scripts remember

The code of scripted sub-extensions, handlers and tasks, and the memory that they share: the
journal, the numbers of the wrappers shown, and what was kept under a name.
-/

set_option autoImplicit false

namespace ExtensionProxy.Session

/-- The place at which a script stands. -/
structure Scope where
  /-- The sub-extension whose script it is. -/
  self : Option ExtensionHandle := none
  /-- The document that it is being told about. -/
  doc : Option DocumentId := none
  /-- The workspace that it is being told about. -/
  workspace : Option WorkspaceId := none
  deriving DecidableEq, Repr

/-- The code of a session. -/
inductive Code where
  /-- A factory that follows a script. -/
  | factory (stem : String) (script : ExtensionScript)
  /-- An instance that follows a script. -/
  | instance (speaker : Speaker) (script : ExtensionScript)
  /-- A handler: it does its body, and returns `ret`, or `true` if the character of the notification
  is the one given by `retIfCh`. -/
  | handler (name : String) (body : List Act) (ret : Bool) (retIfCh : Option Nat) (scope : Scope)
  /-- A task that does its body. -/
  | task (name : String) (body : List Act) (scope : Scope)
  /-- A factory that declines. -/
  | declining
  /-- A factory whose instances do nothing. -/
  | idleFactory
  /-- An instance that does nothing. -/
  | idle
  /-- The typing tally. -/
  | tally (code : TallyCode)

/-- What the scripts of a session share. -/
structure Memory where
  /-- The journal since the step began. -/
  journal : Array Entry := #[]
  /-- The documents shown with a number, in order. -/
  documents : List DocumentId := []
  /-- The workspaces shown with a number, in order. -/
  workspaces : List WorkspaceId := []
  /-- The categories shown with a number, in order. -/
  categories : List CategoryId := []
  /-- The handler connected last under each name. -/
  connections : OrderedMap String (Topic × Nat) := .empty
  /-- The stems whose sub-extensions keep a resolver. -/
  resolvers : List String := []
  /-- The bindings kept under a name. -/
  bindings : OrderedMap String BindingId := .empty
  /-- What the tallies keep. -/
  tallies : List Tally := []

instance : Inhabited Memory := ⟨{}⟩

/-- What the host of a session does by itself. -/
inductive HostKind where
  /-- It answers everything, and journals the links that it is asked to open. -/
  | full
  /-- It only has a folder for configuration, and journals links. -/
  | bare
  /-- It only has a folder for configuration, and logs links. -/
  | headless
  deriving DecidableEq, Repr

/-- The interface of scripts. -/
abbrev interface : Interface := proxyInterface Code Memory

/-- The state of a session. -/
abbrev World := State Code Memory

/-- The tallies of a session. -/
def tallyPart : TallyPart Code Memory where
  embed := .tally
  tallies := {
    get := fun memory => memory.tallies
    set := fun tallies memory => { memory with tallies := tallies }
    get_set := fun _ _ => rfl
    set_set := fun _ _ _ => rfl }

/-! ## Programs -/

/-- A request. -/
def ask (request : Request Code Memory) : Program interface (Request.Answer request) :=
  .request (I := interface) request

/-- A view of the state. -/
def view {α : Type} (f : World → α) : Program interface α := .view (I := interface) f

/-- Changes the memory. -/
def remember (change : Memory → Memory) : Program interface Unit := ask (.remember change)

/-- Adds an entry to the journal. -/
def journal (entry : Entry) : Program interface Unit :=
  remember fun memory => { memory with journal := memory.journal.push entry }

/-! ## Numbers -/

/-- The list with an element that it is sure to contain. -/
def including {α : Type} [DecidableEq α] (element : α) (list : List α) : List α :=
  if element ∈ list then list else list ++ [element]

/-- The number of an element of a list, counted from one. -/
def numberIn {α : Type} [DecidableEq α] (element : α) (list : List α) : Nat :=
  list.idxOf element + 1

/-- The element with a number. -/
def numbered {α : Type} (number : Nat) (list : List α) : Option α :=
  match number with
  | 0 => none
  | index + 1 => list[index]?

/-- Gives a document a number. -/
def numberDocument (doc : DocumentId) : Program interface Nat := do
  remember fun memory => { memory with documents := including doc memory.documents }
  view fun s => numberIn doc s.memory.documents

/-- Gives a workspace a number. -/
def numberWorkspace (id : WorkspaceId) : Program interface Nat := do
  remember fun memory => { memory with workspaces := including id memory.workspaces }
  view fun s => numberIn id s.memory.workspaces

/-- Gives a category a number. -/
def numberCategory (id : CategoryId) : Program interface Nat := do
  remember fun memory => { memory with categories := including id memory.categories }
  view fun s => numberIn id s.memory.categories

/-! ## Views -/

/-- How many handlers the signals of a document have. -/
def documentHandlers (s : World) (doc : DocumentId) : List Nat :=
  (DocumentSignal.all.map fun signal => s.observers.count (.document doc signal))
    ++ [s.observers.editorCount doc]

/-- How many handlers the signals of a workspace have. -/
def workspaceHandlers (s : World) (id : WorkspaceId) : List Nat :=
  WorkspaceSignal.all.map fun signal => s.observers.count (.workspace id signal)

/-- Shows a document. -/
def showDocument (doc : Option DocumentId) : Program interface (Option DocumentView) := do
  match doc with
  | none => pure none
  | some doc => do
    let handle ← view fun s => s.documentHandle? doc
    match handle with
    | none => pure none
    | some handle => do
      let number ← numberDocument doc
      let handlers ← view fun s => documentHandlers s doc
      pure (some ⟨number, handle, handlers⟩)

/-- Shows a workspace. -/
def showWorkspace (id : Option WorkspaceId) : Program interface (Option WorkspaceView) := do
  match id with
  | none => pure none
  | some id => do
    let workspace ← view fun s => s.workspaceWrapper? id
    match workspace with
    | none => pure none
    | some workspace => do
      let number ← numberWorkspace id
      let handlers ← view fun s => workspaceHandlers s id
      pure (some ⟨number, workspace, handlers⟩)

/-- Shows a category. -/
def showCategory (id : Option CategoryId) : Program interface (Option CategoryView) := do
  match id with
  | none => pure none
  | some id => do
    let category ← view fun s => s.categories.wrapper? id
    match category with
    | none => pure none
    | some category => do
      let number ← numberCategory id
      pure (some ⟨number, category⟩)

/-- Shows categories. -/
def showCategories : List CategoryId → Program interface (List CategoryView)
  | [] => pure []
  | id :: rest => do
    let first ← showCategory (some id)
    let others ← showCategories rest
    pure (first.toList ++ others)

end ExtensionProxy.Session
