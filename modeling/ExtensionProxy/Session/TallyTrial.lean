import ExtensionProxy.Session.ModuleTrial

/-!
# Tally trials

A trial makes one typing tally and tells it what happens to documents, without a proxy around it.
After every step it shows the count for the document of the step.
-/

set_option autoImplicit false

namespace ExtensionProxy.Session

/-- What happens in a step of a tally trial. -/
inductive TallyAct where
  /-- The document is opened. -/
  | opened
  /-- The editor sends a notification with the given code. -/
  | type (code : Nat)
  /-- The document was saved. -/
  | save
  /-- The document is closing. -/
  | close
  /-- The document is evicted. -/
  | evict
  | workspaceClosed
  /-- The deferred tasks are done. -/
  | drain
  /-- The observers of an owner on the document, and its tasks, are dropped. -/
  | release (owner : ExtensionHandle)
  deriving DecidableEq, Repr

/-- The answer to an act of a tally trial. -/
inductive TallyReply where
  /-- Nothing to tell. -/
  | nothing
  | truth (value : Bool)
  /-- A number. -/
  | count (value : Nat)
  /-- How many observers and how many tasks were dropped. -/
  | released (observers tasks : Nat)
  deriving DecidableEq, Repr

/-- What is shown after a step of a tally trial. -/
structure TallyAnswer where
  /-- The answer to the act, or why it was stopped. -/
  result : Except Stop TallyReply
  /-- The count for the document of the step. -/
  count : Nat
  /-- How many tasks wait. -/
  pending : Nat
  /-- The editor of the document as it is inspected. -/
  editor : String
  /-- What was logged. -/
  log : List LogEvent

/-- Carries out a request at the top of the stack. -/
def askTop (scene : Scene) (request : Request Code Memory) :
    Run World (Request.Answer request) :=
  runTop scene (ask request)

/-- Carries out an act on a document. -/
def tallyAct (scene : Scene) (code : Code) (doc : DocumentHandle) (wrapper : DocumentId)
    (act : TallyAct) : Run World TallyReply := do
  match act with
  | .opened =>
    callTop scene (.notify ⟨0⟩ code 0 (.documentOpened wrapper))
    pure .nothing
  | .type number =>
    let note : EditorNote := { code := number }
    match note.kind with
    | none => pure .nothing
    | some kind =>
      let emission ← askTop scene (.emit (.editor wrapper kind) (.note note))
      pure (.truth emission.handled)
  | .save =>
    let emission ← askTop scene (.emit (.document wrapper .saved) .plain)
    pure (.count emission.ran)
  | .close =>
    let emission ← askTop scene (.emit (.document wrapper .closed) .plain)
    pure (.count emission.ran)
  | .evict =>
    let removed ← askTop scene (.removeDocument doc)
    pure (.truth removed)
  | .workspaceClosed =>
    callTop scene (.notify ⟨0⟩ code 0 .workspaceClosed)
    pure .nothing
  | .drain =>
    let ran ← askTop scene .runPending
    pure (.count ran)
  | .release owner =>
    let observers ← askTop scene (.disconnectDocument wrapper owner)
    let tasks ← askTop scene (.cancel owner)
    pure (.released observers tasks)

/-- The count of the only tally. -/
def tallyCount (s : World) (doc : DocumentHandle) : Nat :=
  match s.memory.tallies with
  | tally :: _ => tally.count doc
  | [] => 0

/-- Carries out one step: the document is wrapped first. -/
def tallyStep (scene : Scene) (code : Code) (doc : DocumentHandle) (act : TallyAct)
    (world : World) : TallyAnswer × World :=
  match addDocument (κ := Code) (μ := Memory) doc (World.fresh world) with
  | (.error stop, reached) => (⟨.error stop, 0, 0, "", []⟩, reached)
  | (.ok wrapper, wrapped) =>
    match tallyAct scene code doc wrapper act wrapped with
    | (result, reached) =>
      (⟨result, tallyCount reached doc, reached.tasks.pending, reached.inspectEditor wrapper doc,
        reached.bench.log.toList⟩, reached)

/-- Carries out the steps of a trial. -/
def tallySteps (scene : Scene) (code : Code) :
    List (DocumentHandle × TallyAct) → World → List TallyAnswer
  | [], _ => []
  | (doc, act) :: rest, world =>
    let (answer, reached) := tallyStep scene code doc act world
    answer :: tallySteps scene code rest reached

/-- Carries out a trial: what making the tally logged, and the answers to the steps. -/
def tallyAnswers (scene : Scene) (context : ExtensionContext)
    (acts : List (DocumentHandle × TallyAct)) : List LogEvent × List TallyAnswer :=
  let world : World := { host := { configDir := "cfg" }, memory := {} }
  match callTop scene (.create ⟨0⟩ (.tally (.factory true)) context) world with
  | (.ok (some code), made) => (made.bench.log.toList, tallySteps scene code acts made)
  | (_, made) => (made.bench.log.toList, [])

end ExtensionProxy.Session
