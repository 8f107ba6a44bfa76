import ExtensionProxy.Category

/-!
# Scripts for the categories

Reloads and look-ups in turn, with wrappers held on to across reloads.
-/

set_option autoImplicit false

namespace ExtensionProxy.CategoryScript

/-- What a script may do. -/
inductive Act where
  /-- Rebuilds the categories. -/
  | reload (rows : List CategoryRow)
  /-- Looks a wrapper up and holds on to it. -/
  | hold (handle : CategoryHandle)
  /-- Looks a wrapper up. -/
  | lookup (handle : CategoryHandle)
  /-- Looks a wrapper up by its name. -/
  | find (name : String)
  /-- Compares every held wrapper with the one registered for its handle. -/
  | same

/-- The answer to an act. -/
inductive Reply where
  /-- Nothing to tell. -/
  | nothing
  | truth (value : Bool)
  | row (row : Option CategoryRow)
  | handle (handle : Option CategoryHandle)
  /-- For each held wrapper whether it is the registered one, if any is registered. -/
  | same (answers : List (Option Bool))

/-- The categories, and the wrappers held. -/
structure World where
  categories : Categories := {}
  /-- The wrappers held, oldest first. -/
  held : List CategoryId := []

/-- Carries out one act. -/
def Act.run (act : Act) (world : World) : Reply × World :=
  let categories := world.categories
  match act with
  | .reload rows => (.nothing, { world with categories := categories.reload rows })
  | .hold handle =>
    match categories.lookup handle with
    | some id => (.truth true, { world with held := world.held ++ [id] })
    | none => (.truth false, world)
  | .lookup handle =>
    (.row (((categories.lookup handle).bind categories.wrapper?).map Category.row), world)
  | .find name =>
    (.handle (((categories.findByName name).bind categories.wrapper?).map fun c => c.row.handle),
      world)
  | .same =>
    (.same (world.held.map fun id =>
      ((categories.wrapper? id).bind fun c => categories.lookup c.row.handle).map (· == id)), world)

/-- The answer to one step of a script. -/
structure StepAnswer where
  /-- The answer to the act. -/
  reply : Reply
  /-- The registered categories. -/
  list : List Category
  /-- The held ones. -/
  held : List Category

/-- Carries out a script. -/
def steps : List Act → World → List StepAnswer
  | [], _ => []
  | act :: rest, world =>
    let (reply, reached) := act.run world
    ⟨reply, reached.categories.list.filterMap reached.categories.wrapper?,
      reached.held.filterMap reached.categories.wrapper?⟩ :: steps rest reached

/-- Carries out a script on no categories. -/
def answers (acts : List Act) : List StepAnswer := steps acts {}

end ExtensionProxy.CategoryScript
