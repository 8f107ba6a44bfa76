import ExtensionProxy.Json.Values
import ExtensionProxy.Script.Cache
import ExtensionProxy.Script.Categories
import ExtensionProxy.Script.Signal
import ExtensionProxy.Script.Tasks

/-!
# Transcripts of scripts

What is told of the steps of a script: the answer to each act, what was reported meanwhile, and what
can be seen afterwards.
-/

set_option autoImplicit false

namespace ExtensionProxy

/-! ## One signal -/

instance : ToJson SignalScript.Reply where
  toJson
    | .nothing => .null
    | .truth value => value
    | .count value => value
    | .noSlot => "no-slot"
    | .emission value => .list [value.ran, value.handled]
    | .text value => value

instance : ToJson SignalScript.Report where
  toJson
    | .ran name arg time => .list [name, arg, time]
    | .did name reply => .object [("do", name), ("r", reply)]

instance : ToJson SignalScript.StepAnswer where
  toJson answer :=
    .object [("r", answer.result), ("ran", answer.reports), ("count", answer.count)]

/-! ## Deferred tasks -/

instance : ToJson TaskScript.Reply where
  toJson
    | .nothing => .null
    | .count value => value
    | .text value => value

instance : ToJson TaskScript.Report where
  toJson
    | .ran name => name
    | .did name reply => .object [("do", name), ("r", reply)]

instance : ToJson TaskScript.StepAnswer where
  toJson answer :=
    .object [("r", answer.result), ("ran", answer.reports), ("pending", answer.pending)]

/-! ## An identity cache -/

mutual

/-- An answer about a cache as it is told. -/
def CacheScript.Reply.json : CacheScript.Reply → Json
  | .wrapper shown => shown
  | .made shown inner =>
    .object [("made", shown), ("inner", .list (CacheScript.Reply.jsonList inner))]
  | .truth value => value
  | .wrappers shown => shown
  | .refused cause => cause
  | .text value => value

/-- Answers about a cache as they are told. -/
def CacheScript.Reply.jsonList : List CacheScript.Reply → List Json
  | [] => []
  | reply :: rest => reply.json :: CacheScript.Reply.jsonList rest

end

instance : ToJson CacheScript.Reply := ⟨CacheScript.Reply.json⟩

instance : ToJson CacheScript.StepAnswer where
  toJson answer := .object [("r", answer.result), ("list", answer.wrappers),
    ("handles", answer.wrappers.map Prod.fst), ("len", answer.wrappers.length),
    ("empty", answer.wrappers.isEmpty)]

/-! ## The categories -/

instance : ToJson CategoryScript.Reply where
  toJson
    | .nothing => .null
    | .truth value => value
    | .row (some row) => .list [row.name, row.title, row.patterns]
    | .row none => .null
    | .handle handle => handle
    | .same held => held

/-- A category by its handle, and whether it is stale. -/
def Category.mark (category : Category) : Json := .list [category.row.handle, category.stale]

instance : ToJson CategoryScript.StepAnswer where
  toJson answer := .object [("r", answer.reply),
    ("list", .list (answer.list.map fun category =>
      .list [category.row.handle, category.row.name, category.stale])),
    ("held", .list (answer.held.map Category.mark)), ("len", answer.list.length),
    ("empty", answer.list.isEmpty)]

end ExtensionProxy
