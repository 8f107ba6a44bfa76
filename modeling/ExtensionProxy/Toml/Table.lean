import ExtensionProxy.Configuration.Value

/-!
# Tables under construction

Tables come into being in three ways: a header opens one; a header for a place deeper down makes
the ones on the way; and a key with dots makes the ones between its names.  Once opened, a table is
never opened again and takes no more entries from keys with dots of other tables; one made on the
way to a header can still be opened, once, or be led through by a key, and then it is as if the key
had made it; one made by a key is never opened.
A list of tables grows by a header of its own, and its last row stands for it on the way to deeper
places.  Whatever breaks these rules is refused.
-/

set_option autoImplicit false

namespace ExtensionProxy.Toml

/-- How a table came into being. -/
inductive Origin where
  /-- A header opened it, or it is the outermost one. -/
  | opened
  /-- It was made on the way to a header. -/
  | passed
  /-- A key with dots made it or led through it. -/
  | dotted
  deriving DecidableEq, Repr

/-- What stands under a name. -/
inductive Node where
  /-- A finished value. -/
  | value (value : ConfigValue)
  | table (origin : Origin) (entries : List (String × Node))
  /-- A list of tables. -/
  | rows (rows : List (List (String × Node)))

/-- The entries of a table. -/
abbrev Nodes := List (String × Node)

namespace Nodes

/-- The node under a name. -/
def get? (nodes : Nodes) (name : String) : Option Node :=
  (nodes.find? fun entry => entry.1 == name).map Prod.snd

/-- Puts a node under a name, in place of what may stand there. -/
def put (name : String) (node : Node) : Nodes → Nodes
  | [] => [(name, node)]
  | entry :: rest => if entry.1 = name then (name, node) :: rest else entry :: put name node rest

/-- Changes the table at the end of a path.  The tables that are missing on the way are made; a key
with dots must not lead through a table that was opened, and leaves its mark on all others. -/
def alterAt (dotted : Bool) (change : Nodes → Option Nodes) (nodes : Nodes) :
    List String → Option Nodes
  | [] => change nodes
  | name :: path =>
    match nodes.get? name with
    | none =>
      let made := if dotted then Origin.dotted else Origin.passed
      (alterAt dotted change [] path).map fun inner => nodes.put name (.table made inner)
    | some (.table origin entries) =>
      if dotted ∧ origin = .opened then none
      else
        let left := if dotted then Origin.dotted else origin
        (alterAt dotted change entries path).map fun inner => nodes.put name (.table left inner)
    | some (.rows rows) =>
      match rows.getLast? with
      | none => none
      | some last =>
        if dotted then none
        else (alterAt dotted change last path).map fun inner =>
          nodes.put name (.rows (rows.dropLast ++ [inner]))
    | some (.value _) => none

/-- Opens the table of a name. -/
def openTable (name : String) (nodes : Nodes) : Option Nodes :=
  match nodes.get? name with
  | none => some (nodes.put name (.table .opened []))
  | some (.table .passed entries) => some (nodes.put name (.table .opened entries))
  | _ => none

/-- Adds a row to the list of tables of a name. -/
def openRow (name : String) (nodes : Nodes) : Option Nodes :=
  match nodes.get? name with
  | none => some (nodes.put name (.rows [[]]))
  | some (.rows rows) => some (nodes.put name (.rows (rows ++ [[]])))
  | _ => none

/-- Sets a name that is not set. -/
def setNew (name : String) (value : ConfigValue) (nodes : Nodes) : Option Nodes :=
  match nodes.get? name with
  | none => some (nodes.put name (.value value))
  | some _ => none

/-- Sets a key, which is a path of names, in a table. -/
def setKey (key : List String) (value : ConfigValue) (nodes : Nodes) : Option Nodes :=
  match key.reverse with
  | [] => none
  | name :: before => alterAt true (setNew name value) nodes before.reverse

end Nodes

mutual

/-- The value of a finished node. -/
def Node.finished : Node → ConfigValue
  | .value value => value
  | .table _ entries => .table (finishedEntries entries)
  | .rows rows => .list (finishedRows rows)

/-- The entries of a finished table. -/
def finishedEntries : List (String × Node) → List (String × ConfigValue)
  | [] => []
  | (name, node) :: rest => (name, node.finished) :: finishedEntries rest

/-- The rows of a finished list of tables. -/
def finishedRows : List (List (String × Node)) → List ConfigValue
  | [] => []
  | row :: rest => .table (finishedEntries row) :: finishedRows rest

end

end ExtensionProxy.Toml
