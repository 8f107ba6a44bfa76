import Mathlib.Data.List.Nodup
import ExtensionProxy.FileTree
import ExtensionProxy.Proofs.Path

/-!
# The order of a file tree

A file tree keeps its nodes in some order, as a folder lists its entries in some order.  Nothing that is
asked of a path depends on it: neither where the path leads, nor what stands there.  Only the listing of
a folder shows the order, and in a tree with other nodes first the same names are listed, in another
order.  Every order of the names is the listing of some tree with the same nodes.

What is said of names holds of proper trees, in which a node has one place and the names on the way to it
are names.  All trees that are built by putting nodes where paths lead are proper.
-/

set_option autoImplicit false

namespace ExtensionProxy

namespace OrderedMap

variable {α β : Type} [DecidableEq α]

theorem find_eq_some_iff {entries : List (α × β)} (once : (entries.map Prod.fst).Nodup) {key : α}
    {value : β} : find key entries = some value ↔ (key, value) ∈ entries := by
  refine ⟨mem_of_find, fun mem => ?_⟩
  induction entries with
  | nil => cases mem
  | cons entry rest ih =>
    obtain ⟨first, held⟩ := entry
    rw [List.map_cons, List.nodup_cons] at once
    rw [find]
    rcases List.mem_cons.mp mem with same | mem
    · cases same
      rw [if_pos rfl]
    · have other : first ≠ key := by
        rintro rfl
        exact once.1 (List.mem_map.mpr ⟨(first, value), mem, rfl⟩)
      rw [if_neg other, ih once.2 mem]

/-- What a key gives does not depend on the order of the entries. -/
theorem get?_of_perm {m other : OrderedMap α β} (once : m.keys.Nodup)
    (perm : other.entries.Perm m.entries) (key : α) : other.get? key = m.get? key := by
  have once' : other.keys.Nodup := (perm.map Prod.fst).nodup_iff.mpr once
  ext value
  rw [get?, get?, find_eq_some_iff once', find_eq_some_iff once, perm.mem_iff]

end OrderedMap

namespace FileTree

variable {ι : Type} {tree other : FileTree ι} {path folder : String} {names : List String}

/-! ## Proper trees -/

/-- A tree in which every node has one place, and places are made of names. -/
structure IsProper (tree : FileTree ι) : Prop where
  once : tree.nodes.keys.Nodup
  named : ∀ place ∈ tree.nodes.keys, ∀ name ∈ place, Path.IsName name.toList
  origin : ∀ name ∈ tree.origin, Path.IsName name.toList

theorem isProper_empty : (empty : FileTree ι).IsProper where
  once := List.nodup_nil
  named := by rintro _ ⟨⟩
  origin := by rintro _ ⟨⟩

theorem IsProper.insert (proper : tree.IsProper) {place : List String}
    (named : ∀ name ∈ place, Path.IsName name.toList) (node : FileNode ι) :
    IsProper { tree with nodes := tree.nodes.insert place node } where
  once := OrderedMap.nodup_keys_alter place _ proper.once
  named := by
    intro other mem
    rcases (OrderedMap.mem_keys_alter tree.nodes place other _).mp mem with rfl | mem
    · exact named
    · exact proper.named other mem
  origin := proper.origin

theorem IsProper.addFolders {more : List String} (proper : tree.IsProper) {place : List String}
    (named : ∀ name ∈ place, Path.IsName name.toList)
    (namedMore : ∀ name ∈ more, Path.IsName name.toList) : (tree.addFolders place more).IsProper := by
  induction more generalizing tree place with
  | nil => exact proper
  | cons name more ih =>
    rw [List.forall_mem_cons] at namedMore
    have named' : ∀ other ∈ place ++ [name], Path.IsName other.toList := by
      simpa [or_imp, forall_and] using ⟨named, namedMore.1⟩
    rw [FileTree.addFolders]
    refine ih ?_ named' namedMore.2
    split
    · exact proper
    · exact proper.insert named' .folder

theorem named_step {place : List String} {part : String}
    (named : ∀ name ∈ place, Path.IsName name.toList) (noSlash : '/' ∉ part.toList) :
    ∀ name ∈ step place part, Path.IsName name.toList := by
  rw [step]
  split
  · exact named
  · split
    · exact fun name mem => named name (List.dropLast_subset _ mem)
    · rename_i stays back
      rw [not_or] at stays
      have isName : Path.IsName part.toList := ⟨by simpa using stays.1, noSlash,
        fun dot => stays.2 (String.toList_inj.mp dot), fun dots => back (String.toList_inj.mp dots)⟩
      simpa [or_imp, forall_and] using ⟨named, isName⟩

/-- Places that paths name are made of names. -/
theorem IsProper.named_placeOf (proper : tree.IsProper) (path : String) :
    ∀ name ∈ tree.placeOf path, Path.IsName name.toList := by
  have noSlash : ∀ part ∈ Path.parts path, '/' ∉ part.toList := by
    intro part mem
    obtain ⟨chars, cut, rfl⟩ := List.mem_map.mp mem
    rw [String.toList_ofList]
    exact notMem_of_mem_splitEvery cut
  have start : ∀ name ∈ tree.start path, Path.IsName name.toList := by
    rw [FileTree.start]
    split
    · rintro _ ⟨⟩
    · exact proper.origin
  rw [placeOf]
  generalize tree.start path = place at start
  generalize Path.parts path = parts at noSlash
  induction parts generalizing place with
  | nil => exact start
  | cons part parts ih =>
    rw [List.forall_mem_cons] at noSlash
    exact ih _ (named_step start noSlash.1) noSlash.2

/-- A tree stays proper when nodes are put where paths lead. -/
theorem IsProper.add (proper : tree.IsProper) (path : String) (node : FileNode ι) :
    (tree.add path node).IsProper := by
  have named := proper.named_placeOf path
  rw [FileTree.add]
  split
  · exact proper
  · refine IsProper.insert (proper.addFolders (by rintro _ ⟨⟩) ?_) named node
    exact fun name mem => named name (List.dropLast_subset _ mem)

/-! ## Trees with the same nodes -/

/-- The trees have the same nodes, in whatever order. -/
structure Reorders (other tree : FileTree ι) : Prop where
  nodes : other.nodes.entries.Perm tree.nodes.entries
  origin : other.origin = tree.origin
  system : other.system = tree.system

namespace Reorders

variable (reorders : Reorders other tree) (once : tree.nodes.keys.Nodup)
include reorders once

theorem get? (place : List String) : other.nodes.get? place = tree.nodes.get? place :=
  OrderedMap.get?_of_perm once reorders.nodes place

theorem isFolder (place : List String) : other.isFolder place = tree.isFolder place := by
  simp only [FileTree.isFolder, reorders.get? once]

theorem follow (parts place : List String) : other.follow parts place = tree.follow parts place := by
  induction parts generalizing place with
  | nil => rfl
  | cons part rest ih =>
    have contains (place : List String) : other.nodes.contains place = tree.nodes.contains place :=
      congrArg Option.isSome (reorders.get? once place)
    rw [FileTree.follow, FileTree.follow, reorders.isFolder once, contains, ih, ih, ih]

/-- A path leads to the same place. -/
theorem resolve? (path : String) : other.resolve? path = tree.resolve? path := by
  simp only [FileTree.resolve?, start, reorders.origin, reorders.follow once]

theorem node? (path : String) : other.node? path = tree.node? path := by
  simp only [FileTree.node?, reorders.resolve? once, reorders.get? once]

theorem text? (path : String) : other.text? path = tree.text? path := by
  simp only [FileTree.text?, reorders.node? once]

theorem isFile (path : String) : other.isFile path = tree.isFile path := by
  simp only [FileTree.isFile, reorders.node? once]

theorem exports? (path : String) : other.exports? path = tree.exports? path := by
  simp only [FileTree.exports?, reorders.node? once]

end Reorders

/-! ## Listings -/

/-- The name under which a place is listed in the folder at another place. -/
def nameIn (folder place : List String) : Option String :=
  if place.dropLast = folder ∧ place ≠ [] then place.getLast? else none

theorem nameIn_eq_some_iff {folder place : List String} {name : String} :
    nameIn folder place = some name ↔ place = folder ++ [name] := by
  rw [nameIn]
  rcases place.eq_nil_or_concat' with rfl | ⟨front, last, rfl⟩
  · simp
  · simp

theorem names?_eq_some_iff : tree.names? folder = some names ↔
    ∃ place, tree.resolve? folder = some place ∧ tree.isFolder place = true ∧
      tree.nodes.keys.filterMap (nameIn place) = names := by
  rw [names?]
  cases tree.resolve? folder with
  | none => simp
  | some place =>
    by_cases isFolder : tree.isFolder place = true
    · simp only [isFolder, if_true, Option.some.injEq, exists_eq_left', true_and]
      rfl
    · simp [isFolder]

theorem names?_eq_none_iff : tree.names? folder = none ↔
    ∀ place, tree.resolve? folder = some place → tree.isFolder place = false := by
  rw [names?]
  cases tree.resolve? folder <;> simp

/-- The names that are listed are names, and none is listed twice. -/
theorem IsProper.of_names? (proper : tree.IsProper) (listed : tree.names? folder = some names) :
    names.Nodup ∧ ∀ name ∈ names, Path.IsName name.toList := by
  obtain ⟨place, -, -, rfl⟩ := names?_eq_some_iff.mp listed
  constructor
  · refine List.Nodup.filterMap (fun one another name mem mem' => ?_) proper.once
    rw [nameIn_eq_some_iff.mp mem, nameIn_eq_some_iff.mp mem']
  · intro name mem
    obtain ⟨whole, there, isIn⟩ := List.mem_filterMap.mp mem
    rw [nameIn_eq_some_iff.mp isIn] at there
    exact proper.named _ there name (by simp)

/-- The same names are listed, in whatever order. -/
theorem Reorders.names? (reorders : Reorders other tree) (once : tree.nodes.keys.Nodup)
    (listed : tree.names? folder = some names) :
    ∃ names', other.names? folder = some names' ∧ names'.Perm names := by
  obtain ⟨place, leads, isFolder, rfl⟩ := names?_eq_some_iff.mp listed
  refine ⟨_, names?_eq_some_iff.mpr ⟨place, ?_, ?_, rfl⟩, ?_⟩
  · rw [reorders.resolve? once, leads]
  · rw [reorders.isFolder once, isFolder]
  · exact (reorders.nodes.map Prod.fst).filterMap (nameIn place)

theorem Reorders.names?_eq_none (reorders : Reorders other tree) (once : tree.nodes.keys.Nodup)
    (unlisted : tree.names? folder = none) : other.names? folder = none := by
  simp only [names?_eq_none_iff, reorders.resolve? once, reorders.isFolder once]
  exact names?_eq_none_iff.mp unlisted

/-- What is picked out in another order is picked out of the list in another order. -/
theorem exists_perm_filterMap {α β : Type} {pick : α → Option β} {list : List α} {picked : List β}
    (perm : picked.Perm (list.filterMap pick)) :
    ∃ list' : List α, list'.Perm list ∧ list'.filterMap pick = picked := by
  induction list generalizing picked with
  | nil => exact ⟨[], .refl [], by simpa using perm.eq_nil.symm⟩
  | cons first rest ih =>
    cases found : pick first with
    | none =>
      rw [List.filterMap_cons_none found] at perm
      obtain ⟨rest', perm', same⟩ := ih perm
      exact ⟨first :: rest', perm'.cons first, by rw [List.filterMap_cons_none found, same]⟩
    | some value =>
      rw [List.filterMap_cons_some found] at perm
      obtain ⟨front, back, rfl⟩ := List.append_of_mem (perm.symm.subset List.mem_cons_self)
      obtain ⟨rest', perm', same⟩ := ih (List.perm_middle.symm.trans perm).cons_inv
      obtain ⟨front', back', rfl, rfl, rfl⟩ := List.filterMap_eq_append_iff.mp same
      refine ⟨front' ++ first :: back', List.perm_middle.trans (perm'.cons first), ?_⟩
      rw [List.filterMap_append, List.filterMap_cons_some found]

/-- Every order of the names is the listing of a tree with the same nodes. -/
theorem exists_reorders (once : tree.nodes.keys.Nodup) (listed : tree.names? folder = some names)
    {names' : List String} (perm : names'.Perm names) :
    ∃ other, Reorders other tree ∧ other.names? folder = some names' := by
  obtain ⟨place, leads, isFolder, rfl⟩ := names?_eq_some_iff.mp listed
  rw [OrderedMap.keys, List.filterMap_map] at perm
  obtain ⟨entries, perm', same⟩ := exists_perm_filterMap perm
  have reorders : Reorders { tree with nodes := ⟨entries⟩ } tree := ⟨perm', rfl, rfl⟩
  refine ⟨_, reorders, names?_eq_some_iff.mpr ⟨place, ?_, ?_, ?_⟩⟩
  · rw [reorders.resolve? once, leads]
  · rw [reorders.isFolder once, isFolder]
  · rw [OrderedMap.keys, List.filterMap_map, same]

end FileTree

end ExtensionProxy
