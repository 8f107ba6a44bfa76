import ExtensionProxy.Session.Deed

/-!
# Scripts as foreign code

What each call of foreign code comes to in a session.  A scripted callback first journals what it
was called for and then does its body.
-/

set_option autoImplicit false

namespace ExtensionProxy.Session

/-- The scope of an instance's own callbacks. -/
def Speaker.scope (speaker : Speaker) : Scope := { self := some speaker.handle }

/-- The program of a scripted factory, which speaks under the stem that it is registered for. -/
def createProgram (scene : Scene) (stem : String) (script : ExtensionScript)
    (context : ExtensionContext) : Program interface (Option Code) := do
  let speaker : Speaker := ⟨stem, context.handle⟩
  let current ← view fun s => s.currentDocument.bind s.documentHandle?
  remember fun memory => { memory with resolvers := including stem memory.resolvers }
  journal (.created speaker context current)
  bodyProgram scene speaker.scope script.create
  pure (if script.declines then none else some (.instance speaker script))

/-- The program of a notice to a scripted instance. -/
def notifyProgram (scene : Scene) (speaker : Speaker) (script : ExtensionScript) :
    Notice → Program interface Unit
  | .documentOpened doc => do
    let shown ← showDocument (some doc)
    match shown with
    | some shown => journal (.documentOpened speaker shown.handle shown.number)
    | none => pure ()
    bodyProgram scene { speaker.scope with doc := some doc } script.documentOpened
  | .workspaceOpened workspace => do
    let shown ← showWorkspace (some workspace)
    match shown with
    | some shown => journal (.workspaceOpened speaker shown.number shown.workspace)
    | none => pure ()
    bodyProgram scene { speaker.scope with workspace := some workspace } script.workspaceOpened
  | .workspaceClosed => do
    journal (.workspaceClosed speaker)
    bodyProgram scene speaker.scope script.workspaceClosed

/-- What a handler journals about an emission. -/
def observeEntry (name : String) (topic : Topic) (emitted : Emitted) : Program interface Unit := do
  match topic, emitted with
  | .document doc _, .category previous => do
    let handle ← view fun s => s.documentHandle? doc
    let shown ← showCategory previous
    journal (.categoryChanged name (handle.getD default) shown)
  | .document doc _, _ => do
    let handle ← view fun s => (s.documentHandle? doc).getD default
    let registered ← view fun s => s.documents.contains handle
    journal (.documentSignal name handle registered)
  | .workspace _ _, .dialog dialog => journal (.dialog name dialog)
  | .workspace id _, _ => do
    let workspace ← view fun s => s.workspaceWrapper? id
    let opened ← view fun s => s.workspace.isSome
    match workspace with
    | some workspace => journal (.workspaceSignal name workspace.handle opened)
    | none => pure ()
  | .editor _ _, .note note => journal (.noted name note)
  | .editor _ _, _ => pure ()

/-- What a handler returns. -/
def observeReturn (ret : Bool) (retIfCh : Option Nat) : Emitted → Bool
  | .note note => ret || retIfCh == some note.ch
  | _ => ret

/-- What the host of a session does when it is asked to open a link. -/
def openProgram (scene : Scene) (uri : String) : Program interface Unit :=
  match scene.host with
  | .headless => ask (.tell (headlessHelp uri))
  | _ => journal (.uri uri)

/-- The foreign code of a session. -/
def foreign (scene : Scene) : interface.Foreign := fun call =>
  match call with
  | .create _ (.factory stem script) context => createProgram scene stem script context
  | .create _ .idleFactory _ => pure (some .idle)
  | .create _ (.tally (.factory heard)) context => tallyPart.create heard context
  | .create _ _ _ => pure none
  | .notify _ (.instance speaker script) _ notice => notifyProgram scene speaker script notice
  | .notify _ (.tally (.instance id)) _ notice => tallyPart.notify id notice
  | .notify _ _ _ _ => pure ()
  | .configure _ (.instance speaker script) dialog => do
    journal (.configured speaker dialog)
    bodyProgram scene speaker.scope script.configure
    pure script.panel
  | .configure _ _ _ => pure none
  | .help _ (.instance speaker script) => do
    journal (.helped speaker)
    bodyProgram scene speaker.scope script.help
    pure script.handlesHelp
  | .help _ _ => pure false
  | .dropped _ (.instance speaker _) => do
    let live ← view fun s => s.liveBindings
    journal (.dropped speaker live)
  | .dropped _ _ => pure ()
  | .observe topic slot emitted =>
    match slot.code with
    | .handler name body ret retIfCh scope => do
      observeEntry name topic emitted
      bodyProgram scene scope body
      pure (observeReturn ret retIfCh emitted)
    | .tally code => tallyPart.observe code
    | _ => pure false
  | .task (.task name body scope) => do
    journal (.task name)
    bodyProgram scene scope body
  | .task (.tally code) => tallyPart.task code
  | .task _ => pure ()
  | .openUri uri => openProgram scene uri

end ExtensionProxy.Session
