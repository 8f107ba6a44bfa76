import ExtensionProxy.Json.Values
import ExtensionProxy.Proxy.Inspect
import ExtensionProxy.Script.Transcript
import ExtensionProxy.Session.TallyTrial

/-!
# Transcripts of sessions

What is told of a session: the answer to every act, the journal, the log and a view of the state.
-/

set_option autoImplicit false

namespace ExtensionProxy

/-- The name of a stage. -/
def Stage.name : Stage → String
  | .probed => "probed"
  | .loaded => "loaded"
  | .initialized => "initialized"
  | .cleanedUp => "cleaned_up"

instance : ToJson Record where
  toJson record := .object [("handle", record.handle), ("state", record.stage.name),
    ("initialized", record.isInitialized), ("module", record.modulePath),
    ("name", record.descriptor.name)]

instance : ToJson DispatchOutcome where
  toJson outcome := .object [("resolved", outcome.resolved), ("observers", outcome.observers),
    ("delivered", outcome.delivered), ("deferred", outcome.deferred),
    ("handled", outcome.handled)]

instance : ToJson (Delivery Bool) where
  toJson
    | .delivered value => .object [("delivered", value)]
    | .gone => "gone"
    | .busy => "busy"

/-- A view of the state; how many bindings are held is told only if that is known. -/
def StateView.json (liveKnown : Bool) (view : StateView) : Json :=
  .object [("docs", view.documents),
    ("exts", .list (view.extensions.map fun (handle, name, alive) => .list [handle, name, alive])),
    ("ws", view.workspace), ("pending", view.pending), ("cats", view.categories),
    ("live", if liveKnown then view.live else .null)]

namespace Session

/-! ## Wrappers -/

instance : ToJson DocumentView where
  toJson doc := .object [("id", doc.number), ("handle", doc.handle), ("editor_doc", doc.handle),
    ("handlers", doc.handlers)]

instance : ToJson WorkspaceView where
  toJson view := .object [("id", view.number), ("handle", view.workspace.handle),
    ("config", view.workspace.config), ("handlers", view.handlers)]

instance : ToJson CategoryView where
  toJson view := .object [("id", view.number), ("handle", view.category.row.handle),
    ("name", view.category.row.name), ("title", view.category.row.title),
    ("patterns", view.category.row.patterns), ("stale", view.category.stale)]

/-! ## Answers and journal -/

instance : ToJson Reply where
  toJson
    | .nothing => .null
    | .truth value => value
    | .count value => value
    | .text value => value
    | .noRecord => "no-record"
    | .noWrapper => "no-wrapper"
    | .noResolver => "no-resolver"
    | .notRegistered => "not-registered"
    | .refused cause => cause
    | .malformed fault => fault
    | .outcome value => value
    | .loaded presentation offer made =>
      .object [("info", presentation), ("callbacks", offer), ("record", made)]
    | .record value => value
    | .unloaded => "unloaded"
    | .panel value => value
    | .delivery value => value
    | .probe value => value.display
    | .document value => value
    | .host value => .list [value.current, value.categories, value.workspace]
    | .workspace value => value
    | .workspaceHandle value => value
    | .category value => value
    | .categories values => values
    | .held values => .list (values.map Category.mark)
    | .settings value => value
    | .module path source => .object [("loaded", source.isSome), ("path", path),
        ("debug", inspectModule path source)]

/-- What is told of a sub-extension that was called. -/
def Speaker.calls (speaker : Speaker) (event : String) (members : List (String × Json)) : Json :=
  .object (("x", speaker.display) :: ("ev", event) :: members)

instance : ToJson Entry where
  toJson
    | .note text => text
    | .created speaker context current =>
      speaker.calls "create" [("name", context.descriptor.name), ("stem", context.descriptor.stem),
        ("module", context.modulePath), ("config", context.configPath), ("current", current)]
    | .documentOpened speaker doc number =>
      speaker.calls "document_opened" [("doc", doc), ("id", number)]
    | .workspaceOpened speaker number workspace =>
      speaker.calls "workspace_opened" [("ws", workspace.handle), ("id", number),
        ("config", workspace.config)]
    | .workspaceClosed speaker => speaker.calls "workspace_closed" []
    | .configured speaker handle => speaker.calls "configure" [("dialog", handle)]
    | .helped speaker => speaker.calls "help" []
    | .dropped speaker live => speaker.calls "drop" [("live", live)]
    | .documentSignal name doc registered =>
      .object [("h", name), ("doc", doc), ("registered", registered)]
    | .categoryChanged name doc previous =>
      .object [("h", name), ("doc", doc), ("previous", previous)]
    | .noted name value => .object [("h", name), ("n", value)]
    | .workspaceSignal name workspace opened =>
      .object [("h", name), ("ws", workspace), ("open", opened)]
    | .dialog name handle => .object [("h", name), ("dialog", handle)]
    | .task name => .object [("t", name)]
    | .uri link => .object [("uri", link)]
    | .did name reply => .object [("do", name), ("r", reply)]

/-- What is told of a step. -/
def StepAnswer.json (level : Option Level) (liveKnown : Bool) (answer : StepAnswer) : Json :=
  .object (("r", answer.result) :: ("j", answer.journal) :: ("s", answer.state.json liveKnown) ::
    logMember level answer.log)

/-- What is told of a proxy right after it was made. -/
def StepAnswer.firstJson (level : Option Level) (liveKnown : Bool) (answer : StepAnswer) : Json :=
  .object (("s", answer.state.json liveKnown) :: logMember level answer.log)

/-- What is told of a whole session. -/
def transcript (level : Option Level) (liveKnown : Bool) : List StepAnswer → List Json
  | [] => []
  | first :: rest => first.firstJson level liveKnown :: rest.map (StepAnswer.json level liveKnown)

/-! ## Trials -/

/-- The answers of an instance to the requests for help and for a panel are told as a pair; a
binding is told as it is inspected. -/
instance : ToJson ModuleTrial where
  toJson trial := .object [
    ("bind", trial.bound.map fun source =>
      Binding.inspect { id := ⟨0⟩, factory := { source := source, code := () } : Binding Unit }),
    ("path", trial.path), ("loaded", trial.source.isSome), ("instance", trial.answers),
    ("live", trial.live), ("debug", inspectModule trial.path trial.source)]

instance : ToJson TallyReply where
  toJson
    | .nothing => .null
    | .truth value => value
    | .count value => value
    | .released observers tasks => .list [observers, tasks]

instance : ToJson TallyAnswer where
  toJson answer := .object [("r", answer.result), ("count", answer.count),
    ("pending", answer.pending), ("editor", answer.editor), ("log", logLines .info answer.log)]

end Session

end ExtensionProxy
