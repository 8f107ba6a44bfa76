import ExtensionProxy.Proxy.Inspect
import ExtensionProxy.Session.Memory

/-!
# What acts do

The program of every deed, at the place where its script stands.  A body does its acts in turn and
journals the answer to each; an act passed over leaves no trace.
-/

set_option autoImplicit false

namespace ExtensionProxy.Session

/-- What stays as it is while a session runs. -/
structure Scene where
  /-- What stays as it is while its proxy runs. -/
  site : Site Code
  /-- What its host does by itself. -/
  host : HostKind

/-! ## What acts name -/

/-- The wrapper that an act names. -/
def Scope.document (scope : Scope) (ref : DocumentRef) : Program interface (Option DocumentId) :=
  match ref with
  | .handle handle => view fun s => s.documents.get? handle
  | .current => pure scope.doc
  | .shown number => view fun s => numbered number s.memory.documents

/-- The handle of the document that an act names; it need not be registered. -/
def Scope.documentHandle (scope : Scope) (ref : DocumentRef) :
    Program interface (Option DocumentHandle) :=
  match ref with
  | .handle handle => pure (some handle)
  | _ => do
    let doc ← scope.document ref
    view fun s => doc.bind s.documentHandle?

/-- The workspace that an act names. -/
def Scope.workspaceId (scope : Scope) (ref : WorkspaceRef) :
    Program interface (Option WorkspaceId) :=
  match ref with
  | .opened => view fun s => s.workspace
  | .current => pure scope.workspace
  | .shown number => view fun s => numbered number s.memory.workspaces

/-- The sub-extension that an act names. -/
def Scope.owner (scope : Scope) : OwnerRef → Option ExtensionHandle
  | .handle handle => some handle
  | .self => scope.self

/-- The topic that an act names, and the scope of a handler connected to it. -/
def Scope.topic (scope : Scope) (ref : SignalRef) : Program interface (Option (Topic × Scope)) := do
  match ref with
  | .document doc signal => do
    let doc ← scope.document doc
    pure (doc.map fun doc => (.document doc signal, { scope with doc := some doc }))
  | .editor doc kind => do
    let doc ← scope.document doc
    pure (doc.map fun doc => (.editor doc kind, { scope with doc := some doc }))
  | .workspace ref signal => do
    let id ← scope.workspaceId ref
    pure (id.map fun id => (.workspace id signal, { scope with workspace := some id }))

/-- What an emission asked for by an act tells. -/
def emittedBy : Topic → Emitted
  | .document _ .categoryChanged => .category none
  | .workspace _ .closed => .plain
  | .workspace _ _ => .dialog ⟨0⟩
  | _ => .plain

/-- The event about another document. -/
def retarget (event : HostEvent) (doc : DocumentHandle) : HostEvent :=
  match event with
  | .document moment _ => .document moment doc
  | .categorySet _ previous => .categorySet doc previous
  | .editor _ note => .editor doc note
  | other => other

/-! ## Answers -/

/-- The answer to a request about a slot. -/
def orNoRecord {α : Type} (reply : α → Reply) : Option α → Reply
  | some value => reply value
  | none => .noRecord

/-- The answer to a request that may be refused. -/
def orRefused {α : Type} (reply : α → Reply) : Except Cause α → Reply
  | .ok value => reply value
  | .error cause => .refused cause

/-- The answer with a value that may be absent. -/
def orNothing {α : Type} (reply : α → Reply) : Option α → Reply
  | some value => reply value
  | none => .nothing

/-! ## Inspection -/

/-- The text of what is inspected. -/
def inspected (scene : Scene) (scope : Scope) (what : InspectRef) : Program interface Reply :=
  match what with
  | .tasks => view fun s => .text s.tasks.inspect
  | .documents => view fun s => .text (IdentityCache.inspect s.documents)
  | .extensions => view fun s => .text (IdentityCache.inspect s.registry)
  | .entries => view fun s => .text s.inspectRegistry
  | .binder => view fun s => .text (Inspect.option (scene.site.binder.inspect s.liveBindings))
  | .document doc => do
    let doc ← scope.document doc
    view fun s => .text (Inspect.option (doc.bind s.inspectDocument))
  | .workspace => view fun s => .text s.inspectOpenWorkspace
  | .context => view fun s => .text s.inspectContext
  | .proxy => view fun s => .text (s.inspect scene.site.settings)
  | .resolver stem => view fun s =>
    .text (Inspect.option (if s.memory.resolvers.contains stem
      then some (inspectResolver s.documents.size) else none))
  | .record slot => view fun s =>
    orNoRecord (fun record => .text record.inspect) (s.slotRecord? slot)

/-! ## Deeds -/

/-- Shows the document that a request gave. -/
def documentReply (doc : Option DocumentId) : Program interface Reply := do
  let shown ← showDocument doc
  pure (orNothing .document shown)

/-- Changes what the host answers, if it is a host that answers. -/
def Scene.changeHost (scene : Scene) (change : HostView → HostView) : Program interface Reply := do
  if scene.host = .full then ask (.setHost change)
  pure .nothing

/-- The program of an event. -/
def dispatchProgram (scope : Scope) (doc : Option DocumentRef) (event : HostEvent) :
    Program interface Reply := do
  match doc with
  | none => do
    let outcome ← ask (.dispatch event)
    pure (.outcome outcome)
  | some doc => do
    let handle ← scope.documentHandle doc
    match handle with
    | none => pure .noWrapper
    | some handle => do
      let outcome ← ask (.dispatch (retarget event handle))
      pure (.outcome outcome)

/-- The program of a deed. -/
def deedProgram (scene : Scene) (scope : Scope) (deed : Deed) : Program interface Reply :=
  match deed with
  | .note text => do
    journal (.note text)
    pure .nothing
  | .dispatch _ (.error fault) => pure (.malformed fault)
  | .dispatch doc (.ok event) => dispatchProgram scope doc event
  | .load slot handle path => do
    let told ← ask (.load slot handle path)
    let record ← view fun s => s.slotRecord? slot
    match told, record with
    | some (presentation, offer), some record => pure (.loaded presentation offer record)
    | _, _ => pure .nothing
  | .init slot => do
    let answer ← ask (.init slot)
    pure (orNoRecord (orRefused .truth) answer)
  | .cleanup slot => do
    let answer ← ask (.cleanup slot)
    pure (orNoRecord (orRefused fun _ => .nothing) answer)
  | .unload slot => do
    let answer ← ask (.unload slot)
    pure (orNoRecord (orRefused fun _ => .unloaded) answer)
  | .dropRecord slot => do
    let dropped ← ask (.dropRecord slot)
    pure (.truth dropped)
  | .record slot => view fun s => orNoRecord .record (s.slotRecord? slot)
  | .help slot => do
    let answer ← ask (.help slot)
    pure (orNoRecord .truth answer)
  | .configure slot dialog => do
    let answer ← ask (.configure slot dialog)
    pure (orNoRecord (orNothing .panel) answer)
  | .showHelp slot => do
    let answer ← ask (.showHelp slot)
    pure (orNoRecord (orNothing .truth) answer)
  | .deliver handle => do
    match scope.owner handle with
    | none => pure .notRegistered
    | some handle => do
      let delivery ← ask (.deliver handle)
      match delivery with
      | some delivery => pure (.delivery delivery)
      | none => pure .notRegistered
  | .probe path => do
    let outcome ← ask (.probe path)
    pure (.probe outcome)
  | .runPending => do
    let ran ← ask .runPending
    pure (.count ran)
  | .schedule name owner body => do
    ask (.schedule (owner.bind scope.owner) (.task name body scope))
    pure .nothing
  | .cancel owner => do
    match scope.owner owner with
    | none => pure (.count 0)
    | some owner => do
      let cancelled ← ask (.cancel owner)
      pure (.count cancelled)
  | .release owner => do
    match scope.owner owner with
    | none => pure .nothing
    | some owner => do
      ask (.release owner)
      pure .nothing
  | .setActive none => scene.changeHost fun host => { host with current := none }
  | .setActive (some doc) => do
    let handle ← scope.documentHandle doc
    scene.changeHost fun host => { host with current := handle }
  | .currentDocument => do
    let doc ← view fun s => s.currentDocument
    documentReply doc
  | .hostView => view fun s =>
    .host ⟨s.host.current, s.host.categories.size, s.host.workspace.isSome⟩
  | .resolve stem => do
    let kept ← view fun s => s.memory.resolvers.contains stem
    let doc ← view fun s => s.currentDocument
    if kept then documentReply doc else pure .noResolver
  | .document doc => do
    let doc ← scope.document doc
    documentReply doc
  | .addDocument doc => do
    let handle ← scope.documentHandle doc
    match handle with
    | none => pure .noWrapper
    | some handle => do
      let doc ← ask (.addDocument handle)
      documentReply (some doc)
  | .removeDocument doc => do
    let handle ← scope.documentHandle doc
    match handle with
    | none => pure .noWrapper
    | some handle => do
      let removed ← ask (.removeDocument handle)
      pure (.truth removed)
  | .workspace ref => do
    let id ← scope.workspaceId ref
    let shown ← showWorkspace id
    pure (orNothing .workspace shown)
  | .dropWorkspace => do
    let before ← ask .dropWorkspace
    let workspace ← view fun s => before.bind s.workspaceWrapper?
    pure (orNothing (fun workspace => .workspaceHandle workspace.handle) workspace)
  | .disconnectDocument doc owner => do
    let doc ← scope.document doc
    match doc, scope.owner owner with
    | some doc, some owner => do
      let count ← ask (.disconnectDocument doc owner)
      pure (.count count)
    | _, _ => pure .nothing
  | .disconnectWorkspace ref owner => do
    let id ← scope.workspaceId ref
    match id, scope.owner owner with
    | some id, some owner => do
      let count ← ask (.disconnectWorkspace id owner)
      pure (.count count)
    | _, _ => pure .nothing
  | .emit signal => do
    let topic ← scope.topic signal
    match topic with
    | none => pure .noWrapper
    | some (topic, _) => do
      let emission ← ask (.emit topic (emittedBy topic))
      pure (.count emission.ran)
  | .emitNote doc note => do
    let doc ← scope.document doc
    match doc, note.kind with
    | none, _ => pure .noWrapper
    | some _, none => pure .nothing
    | some doc, some kind => do
      let emission ← ask (.emit (.editor doc kind) (.note note))
      pure (.truth emission.handled)
  | .connect signal name owner body ret retIfCh => do
    let topic ← scope.topic signal
    match topic with
    | none => pure .noWrapper
    | some (topic, inner) => do
      let id ← ask (.connect topic (owner.bind scope.owner)
        (.handler name body ret retIfCh inner))
      remember fun memory =>
        { memory with connections := memory.connections.insert name (topic, id) }
      pure .nothing
  | .disconnect name => do
    let found ← view fun s => s.memory.connections.get? name
    match found with
    | none => pure .nothing
    | some (topic, id) => do
      let connected ← ask (.disconnect topic id)
      pure (.truth connected)
  | .setCategories rows => scene.changeHost fun host => { host with categories := .rows rows }
  | .reloadCategories => do
    ask .reloadCategories
    pure .nothing
  | .categories => do
    let ids ← view fun s => s.categories.list
    let shown ← showCategories ids
    pure (.categories shown)
  | .category handle => do
    let id ← view fun s => s.categories.lookup handle
    let shown ← showCategory id
    pure (orNothing .category shown)
  | .categoryNamed name => do
    let id ← view fun s => s.categories.findByName name
    let shown ← showCategory id
    pure (orNothing .category shown)
  | .heldCategories => view fun s =>
    .held (s.memory.categories.filterMap s.categories.wrapper?)
  | .bind path factory name => do
    let answer ← ask (.bind path factory)
    match answer with
    | .error cause => pure (.refused cause)
    | .ok (id, _) => do
      let before ← view fun s => s.memory.bindings.get? name
      remember fun memory => { memory with bindings := memory.bindings.insert name id }
      match before with
      | some before => ask (.unbind before)
      | none => pure ()
      pure .nothing
  | .unbind name => do
    let before ← view fun s => s.memory.bindings.get? name
    match before with
    | none => pure (.truth false)
    | some before => do
      remember fun memory => { memory with bindings := memory.bindings.erase name }
      ask (.unbind before)
      pure (.truth true)
  | .loadModule path factory => do
    let source ← ask (.loadModule path factory)
    pure (.module path source)
  | .settings => pure (.settings scene.site.settings)
  | .inspect what => inspected scene scope what
  | .panic message => .panic message
  | .fail message => pure (.refused (.reported ⟨.internal, message, none⟩))

/-- The program of an act: its answer, or `none` if it is passed over. -/
def Act.program (scene : Scene) (scope : Scope) (act : Act) : Program interface (Option Reply) := do
  match act.only with
  | none => do
    let reply ← deedProgram scene scope act.deed
    pure (some reply)
  | some only => do
    let doc ← view fun s => scope.doc.bind s.documentHandle?
    if doc = some only then do
      let reply ← deedProgram scene scope act.deed
      pure (some reply)
    else pure none

/-- The program of a body. -/
def bodyProgram (scene : Scene) (scope : Scope) : List Act → Program interface Unit
  | [] => pure ()
  | act :: rest => do
    let reply ← act.program scene scope
    match reply with
    | some reply => journal (.did act.deed.name reply)
    | none => pure ()
    bodyProgram scene scope rest

end ExtensionProxy.Session
