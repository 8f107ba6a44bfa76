import Mathlib.Data.List.Perm.Basic
import ExtensionProxy.CommandLine.Report
import ExtensionProxy.Proofs.ConfigStore
import ExtensionProxy.Proofs.FileTree
import ExtensionProxy.Proofs.Probing

/-!
# Scanning a folder

A scan probes what a folder lists and sorts what it finds by stem.  The order of the listing is lost for
two reasons.  What is found of an entry depends on its path alone, not on what was bound or logged for
others before.  And no two rows have the same stem: entries of one folder have different names, all of
them end in a dot and the extension of descriptors, and the stem is what is before, whether it was put
into the row by the descriptor or, where there is no valid one, by the scan itself.  So the sort leaves
nothing for the order of the listing to decide.

There are settings with which a scan comes to no rows: if the extension of modules has a slash in it, no
valid descriptor can be probed, and the scan is stopped at the first one.  That, too, is the same in
every order.
-/

set_option autoImplicit false

namespace ExtensionProxy

/-! ## Going through a list -/

namespace Run

variable {σ α β : Type}

theorem id_map_apply (run : Run σ α) (s : σ) : (id <$> run) s = run s := by
  cases ran : run s with
  | mk result reached =>
    cases result with
    | ok value => exact bind_apply_of_ok _ ran
    | error stop => exact bind_apply_of_error _ ran

instance : LawfulMonad (Run σ) :=
  .mk' _ (fun run => funext (id_map_apply run)) (fun _ _ => rfl)
    (fun run next last => funext (bind_bind_apply run next last))

/-- The run is stopped from every state. -/
def Fails (run : Run σ α) (why : Stop) : Prop := ∀ s, (run s).1 = .error why

theorem Fails.bind {run : Run σ α} {why : Stop} (fails : run.Fails why) (next : α → Run σ β) :
    (run >>= next).Fails why := by
  intro s
  rw [bind_apply_of_error next (Prod.ext (fails s) rfl : run s = (.error why, (run s).2))]

theorem Gives.bind_fails {run : Run σ α} {next : α → Run σ β} {first : α} {why : Stop}
    (gives : run.Gives first) (fails : (next first).Fails why) : (run >>= next).Fails why := by
  intro s
  rw [bind_apply_of_ok next (Prod.ext (gives s) rfl : run s = (.ok first, (run s).2))]
  exact fails _

variable {run : α → Run σ β} {list : List α}

/-- If there is a value for each element, all of them are gone through. -/
theorem gives_mapM {values : List β}
    (each : List.Forall₂ (fun x value => (run x).Gives value) list values) :
    (list.mapM run).Gives values := by
  induction each with
  | nil => exact gives_pure []
  | cons first rest ih =>
    rw [List.mapM_cons]
    exact first.bind (ih.bind (gives_pure _))

/-- If there is no value for some element, this is found out. -/
theorem fails_mapM {why : Stop}
    (each : ∀ x ∈ list, (∃ value, (run x).Gives value) ∨ (run x).Fails why)
    (fails : ∃ x ∈ list, (run x).Fails why) : (list.mapM run).Fails why := by
  induction list with
  | nil =>
    obtain ⟨x, mem, -⟩ := fails
    cases mem
  | cons first rest ih =>
    rw [List.forall_mem_cons] at each
    rw [List.mapM_cons]
    rcases each.1 with ⟨value, gives⟩ | failed
    · intro s
      have others : ∃ x ∈ rest, (run x).Fails why := by
        obtain ⟨x, mem, fails⟩ := fails
        rcases List.mem_cons.mp mem with rfl | mem
        · cases (gives s).symm.trans (fails s)
        · exact ⟨x, mem, fails⟩
      exact gives.bind_fails ((ih each.2 others).bind _) s
    · exact failed.bind _

end Run

/-! ## Paths of entries -/

namespace Path

variable {name : String}

/-- A name that is joined to a path is the name of what comes about. -/
theorem splitName?_join (isName : IsName name.toList) (base : String) :
    ∃ front, splitName? (join base name) = some (front, name.toList) := by
  have relative := isAbsolute_of_notMem isName.noSlash
  obtain ⟨front, isFront, whole⟩ : ∃ front, IsFront front ∧
      join base name = String.ofList (front ++ name.toList) := by
    rw [join, relative, if_neg Bool.false_ne_true]
    split
    · rename_i ends
      refine ⟨base.toList, fun c last => ?_, by simp⟩
      rcases (Bool.or_eq_true _ _).mp ends with empty | slash
      · simp [String.isEmpty_iff.mp empty] at last
      · exact Option.some.inj ((Option.mem_def.mp last).symm.trans (beq_iff_eq.mp slash))
    · exact ⟨base.toList ++ ['/'], by simp [IsFront], by simp [String.append_assoc]⟩
  refine ⟨front, ?_⟩
  rw [whole, splitName?_append isFront isName.noSlash isName.nonempty isName.notDot,
    if_neg isName.notDots]

/-- With an extension, a name that is joined to a path is its stem, a dot, and the extension. -/
theorem stem?_join (isName : IsName name.toList) {base extension : String}
    (extended : extension? (join base name) = some extension) :
    ∃ stem, stem? (join base name) = some stem ∧ name = stem ++ "." ++ extension := by
  obtain ⟨front, split⟩ := splitName?_join isName base
  simp only [extension?, stem?, split, Option.bind_some, Option.map_some] at extended ⊢
  obtain ⟨chars, cut, rfl⟩ := Option.map_eq_some_iff.mp extended
  obtain ⟨whole, -, -⟩ := cutExtension_eq_some (Prod.ext rfl cut : cutExtension _ = (_, some chars))
  refine ⟨_, rfl, String.toList_inj.mp (whole.trans ?_)⟩
  simp

end Path

variable {κ : Type} {site : Site κ} {path folder stem : String} {names : List String}

/-- A descriptor that is read has the stem of its file, and a name. -/
theorem Site.descriptor_stem_name {descriptor : Descriptor}
    (read : site.descriptor path = .ok descriptor) :
    Path.stem? path = some descriptor.stem ∧ descriptor.name ≠ "" := by
  rw [Site.descriptor, Descriptor.ofFile] at read
  split at read
  · cases read
  · exact Descriptor.stem_name_of_ofKeyFile read

/-! ## What is found of an entry -/

namespace Site

/-- What is no valid descriptor is ignored, whatever the extension of modules. -/
theorem probe_invalid_gives (kind : site.settings.loader.classify path = .descriptor)
    (invalid : site.isDescriptor path = false) : (site.probe path).Gives .ignored := by
  apply probe_gives
  rw [judge, kind]
  have refused : (site.probeDescriptor path).Gives false := by
    refine (site.acceptsDescriptor_gives path).bind ?_
    rw [invalid]
    exact Run.gives_pure false
  exact refused.bind (Run.gives_pure _)

/-- Otherwise probing comes to an outcome if the extension of modules can be one, and what is matched is
valid. -/
theorem exists_probe_gives (kind : site.settings.loader.classify path = .descriptor)
    (usable : Path.isExtension site.settings.loader.moduleExtension = true ∨
      site.isDescriptor path = false) :
    ∃ outcome, (site.probe path).Gives outcome ∧
      (outcome = .matched → site.isDescriptor path = true) := by
  rcases usable with extension | invalid
  · refine ⟨_, probe_descriptor_gives kind (counterpart_of_descriptor extension kind), ?_⟩
    split
    · rename_i both
      exact fun _ => (Bool.and_eq_true_iff.mp both).1
    · simp
  · exact ⟨_, probe_invalid_gives kind invalid, by simp⟩

/-- A valid descriptor cannot be probed if the extension of modules is none. -/
theorem probe_fails (kind : site.settings.loader.classify path = .descriptor)
    (valid : site.isDescriptor path = true)
    (noExtension : Path.isExtension site.settings.loader.moduleExtension = false) :
    (site.probe path).Fails
      (.panic (some (Path.extensionPanic site.settings.loader.moduleExtension))) := by
  have counterpart : (site.settings.loader.counterpart path : Run Bench _) =
      Run.panic (some (Path.extensionPanic site.settings.loader.moduleExtension)) := by
    simp only [LoaderSettings.counterpart, kind, LoaderSettings.counterpartExtension,
      Path.withExtension?, noExtension, Bool.false_eq_true, if_false]
  have accepted := site.acceptsDescriptor_gives path
  rw [valid] at accepted
  have failed : (site.probeDescriptor path).Fails
      (.panic (some (Path.extensionPanic site.settings.loader.moduleExtension))) := by
    refine accepted.bind_fails ?_
    rw [if_pos rfl, counterpart]
    exact Run.Fails.bind (fun _ => rfl) _
  refine Run.Fails.bind ?_ _
  rw [judge, kind]
  exact failed.bind _

end Site

namespace CommandLine

/-- What a row tells of an entry of descriptor kind. -/
structure ScanRow.Tells (site : Site κ) (path : String) (row : ScanRow) : Prop where
  stem : Path.stem? path = some row.stem
  outcome : (site.probe path).Gives row.outcome
  valid : ∀ descriptor, site.descriptor path = .ok descriptor →
    row.name = descriptor.name ∧ row.version = descriptor.version
  invalid : ∀ cause, site.descriptor path = .error cause → row.name = "" ∧ row.version = ""
  matched : row.outcome = .matched → row.name ≠ ""

/-- The row of an entry does not depend on what was bound or logged before. -/
theorem exists_row (kind : site.settings.loader.classify path = .descriptor)
    (named : Path.stem? path = some stem)
    (usable : Path.isExtension site.settings.loader.moduleExtension = true ∨
      site.isDescriptor path = false) :
    ∃ row, (scanRow site path).Gives row ∧ row.Tells site path := by
  obtain ⟨outcome, gives, matched⟩ := Site.exists_probe_gives kind usable
  refine ⟨_, gives.bind (Run.gives_pure _), ?_⟩
  cases read : site.descriptor path with
  | ok descriptor =>
    obtain ⟨named', nonempty⟩ := Site.descriptor_stem_name read
    exact {
      stem := named'
      outcome := gives
      valid := by
        intro other same
        cases read.symm.trans same
        exact ⟨rfl, rfl⟩
      invalid := fun cause same => by cases read.symm.trans same
      matched := fun _ => nonempty }
  | error cause =>
    have invalid : site.isDescriptor path = false := by
      rw [Site.isDescriptor, read]
      rfl
    exact {
      stem := by rw [named, Option.getD_some]
      outcome := gives
      valid := fun descriptor same => by cases read.symm.trans same
      invalid := fun _ _ => ⟨rfl, rfl⟩
      matched := fun isMatched => by cases invalid.symm.trans (matched isMatched) }

theorem scanRow_fails (kind : site.settings.loader.classify path = .descriptor)
    (valid : site.isDescriptor path = true)
    (noExtension : Path.isExtension site.settings.loader.moduleExtension = false) :
    (scanRow site path).Fails
      (.panic (some (Path.extensionPanic site.settings.loader.moduleExtension))) :=
  (Site.probe_fails kind valid noExtension).bind _

/-! ## Sorting -/

/-- Sorts rows by stem. -/
def sortRows (rows : List ScanRow) : List ScanRow := rows.mergeSort fun a b => !(b.stem < a.stem)

theorem sortRows_perm (rows : List ScanRow) : (sortRows rows).Perm rows := List.mergeSort_perm rows _

theorem sortRows_increasing {rows : List ScanRow} (distinct : (rows.map ScanRow.stem).Nodup) :
    (sortRows rows).Pairwise fun a b => a.stem < b.stem := by
  have inOrder (a b : ScanRow) : (!decide (b.stem < a.stem)) = true ↔ a.stem ≤ b.stem := by
    rw [Bool.not_eq_true', decide_eq_false_iff_not, String.not_lt]
  have sorted : (sortRows rows).Pairwise fun a b => a.stem ≤ b.stem := by
    refine (List.pairwise_mergeSort ?_ ?_ rows).imp (inOrder _ _).mp
    · simp only [inOrder]
      exact fun a b c => String.le_trans
    · simp only [Bool.or_eq_true, inOrder]
      exact fun a b => String.le_total a.stem b.stem
  have distinct' : (sortRows rows).Pairwise fun a b => a.stem ≠ b.stem :=
    List.pairwise_map.mp (((sortRows_perm rows).map ScanRow.stem).nodup_iff.mpr distinct)
  refine (sorted.and distinct').imp fun {a b} ⟨upTo, different⟩ => ?_
  exact String.not_le.mp fun back => different (String.le_antisymm upTo back)

/-- With distinct stems, the order before the sort does not matter. -/
theorem sortRows_of_perm {rows rows' : List ScanRow} (distinct : (rows.map ScanRow.stem).Nodup)
    (perm : rows'.Perm rows) : sortRows rows' = sortRows rows := by
  have distinct' : (rows'.map ScanRow.stem).Nodup := (perm.map _).nodup_iff.mpr distinct
  have same : (sortRows rows').Perm (sortRows rows) :=
    (sortRows_perm rows').trans (perm.trans (sortRows_perm rows).symm)
  exact List.Perm.eq_of_pairwise (fun a b _ _ below above => absurd above (String.lt_asymm below))
    (sortRows_increasing distinct') (sortRows_increasing distinct) same

/-! ## The rows of a folder -/

/-- The entries of descriptor kind in a folder that lists the names. -/
def descriptorPaths (site : Site κ) (folder : String) (names : List String) : List String :=
  (names.map (Path.join folder)).filter fun path => site.settings.loader.classify path == .descriptor

/-- The rows of a scan: one for each entry of descriptor kind, in the order of their stems. -/
structure AreRows (site : Site κ) (folder : String) (names : List String) (rows : List ScanRow) :
    Prop where
  each : ∃ paths : List String, paths.Perm (descriptorPaths site folder names) ∧
    List.Forall₂ (ScanRow.Tells site) paths rows
  increasing : rows.Pairwise fun a b => a.stem < b.stem

/-- Every entry of descriptor kind can be probed: the extension of modules can be one, or no entry is a
valid descriptor. -/
def AreUsable (site : Site κ) (folder : String) (names : List String) : Prop :=
  Path.isExtension site.settings.loader.moduleExtension = true ∨
    ∀ path ∈ descriptorPaths site folder names, site.isDescriptor path = false

theorem mem_descriptorPaths : path ∈ descriptorPaths site folder names ↔
    (∃ name ∈ names, Path.join folder name = path) ∧
      site.settings.loader.classify path = .descriptor := by
  rw [descriptorPaths, List.mem_filter, List.mem_map, beq_iff_eq]

theorem extension?_of_descriptor (kind : site.settings.loader.classify path = .descriptor) :
    Path.extension? path = some site.settings.loader.descriptorExtension := by
  have isCandidate : site.settings.loader.classify path ≠ .other := by simp [kind]
  rcases LoaderSettings.extension?_of_classify isCandidate with ⟨-, extended⟩ | ⟨isModule, -⟩
  · exact extended
  · cases kind.symm.trans isModule

theorem exists_stem (named : ∀ name ∈ names, Path.IsName name.toList)
    (mem : path ∈ descriptorPaths site folder names) : ∃ stem, Path.stem? path = some stem := by
  obtain ⟨⟨name, listed, rfl⟩, kind⟩ := mem_descriptorPaths.mp mem
  obtain ⟨stem, found, -⟩ := Path.stem?_join (named name listed) (extension?_of_descriptor kind)
  exact ⟨stem, found⟩

/-- Two entries of one folder have different stems: their names end in the same extension. -/
theorem descriptorPaths_stems_nodup (once : names.Nodup)
    (named : ∀ name ∈ names, Path.IsName name.toList) :
    ((descriptorPaths site folder names).map Path.stem?).Nodup := by
  rw [descriptorPaths, List.filter_map, List.map_map]
  refine List.Nodup.map_on (fun name mem name' mem' same => ?_) (once.filter _)
  rw [List.mem_filter, Function.comp_apply, beq_iff_eq] at mem mem'
  obtain ⟨stem, found, whole⟩ := Path.stem?_join (named name mem.1) (extension?_of_descriptor mem.2)
  obtain ⟨stem', found', whole'⟩ :=
    Path.stem?_join (named name' mem'.1) (extension?_of_descriptor mem'.2)
  have sameStem : some stem = some stem' := found.symm.trans (same.trans found')
  rw [whole, whole', Option.some.inj sameStem]

theorem rows_stems_nodup {paths : List String} {rows : List ScanRow}
    (tells : List.Forall₂ (ScanRow.Tells site) paths rows) (once : (paths.map Path.stem?).Nodup) :
    (rows.map ScanRow.stem).Nodup := by
  have stems : paths.map Path.stem? = (rows.map ScanRow.stem).map some := by
    clear once
    induction tells with
    | nil => rfl
    | cons first rest ih => simp only [List.map_cons, first.stem, ih]
  exact (stems ▸ once).of_map some

theorem exists_forall₂ {α β : Type} {holds : α → β → Prop} {list : List α}
    (each : ∀ x ∈ list, ∃ y, holds x y) : ∃ values, List.Forall₂ holds list values := by
  induction list with
  | nil => exact ⟨[], .nil⟩
  | cons first rest ih =>
    rw [List.forall_mem_cons] at each
    obtain ⟨value, first⟩ := each.1
    obtain ⟨values, rest⟩ := ih each.2
    exact ⟨value :: values, .cons first rest⟩

theorem exists_rows (named : ∀ name ∈ names, Path.IsName name.toList)
    (usable : AreUsable site folder names) : ∃ rows : List ScanRow,
      List.Forall₂ (fun path row => (scanRow site path).Gives row ∧ row.Tells site path)
        (descriptorPaths site folder names) rows := by
  refine exists_forall₂ fun path mem => ?_
  obtain ⟨stem, found⟩ := exists_stem named mem
  exact exists_row (mem_descriptorPaths.mp mem).2 found (usable.imp id fun none => none path mem)

theorem scanFolder_of_names? (listed : site.files.names? folder = some names) :
    scanFolder site folder = ((descriptorPaths site folder names).mapM (scanRow site) >>=
      fun rows => pure (.ok (sortRows rows))) := by
  have paths : descriptorsIn site folder = .ok (descriptorPaths site folder names) := by
    rw [descriptorsIn, listed]
    rfl
  rw [scanFolder, paths]
  rfl

theorem scanFolder_missing (unlisted : site.files.names? folder = none) :
    scanFolder site folder = pure (.error (.unreadableDirectory folder)) := by
  rw [scanFolder, descriptorsIn, unlisted]

theorem scanFolder_gives (listed : site.files.names? folder = some names) {rows : List ScanRow}
    (gives : List.Forall₂ (fun path row => (scanRow site path).Gives row)
      (descriptorPaths site folder names) rows) :
    (scanFolder site folder).Gives (.ok (sortRows rows)) := by
  rw [scanFolder_of_names? listed]
  exact (Run.gives_mapM gives).bind (Run.gives_pure _)

theorem scanFolder_fails (listed : site.files.names? folder = some names)
    (named : ∀ name ∈ names, Path.IsName name.toList)
    (unusable : ¬ AreUsable site folder names) :
    (scanFolder site folder).Fails
      (.panic (some (Path.extensionPanic site.settings.loader.moduleExtension))) := by
  obtain ⟨noExtension, path, mem, valid⟩ :
      Path.isExtension site.settings.loader.moduleExtension = false ∧
      ∃ path ∈ descriptorPaths site folder names, site.isDescriptor path = true := by
    simpa [AreUsable] using unusable
  rw [scanFolder_of_names? listed]
  refine Run.Fails.bind (Run.fails_mapM (fun other mem => ?_) ⟨path, mem, ?_⟩) _
  · obtain ⟨stem, found⟩ := exists_stem named mem
    have kind := (mem_descriptorPaths.mp mem).2
    cases judged : site.isDescriptor other with
    | true => exact .inr (scanRow_fails kind judged noExtension)
    | false =>
      obtain ⟨row, gives, -⟩ := exists_row kind found (.inr judged)
      exact .inl ⟨row, gives⟩
  · exact scanRow_fails (mem_descriptorPaths.mp mem).2 valid noExtension

/-! ## The order of the listing -/

section

variable {other : FileTree κ} (reorders : FileTree.Reorders other site.files)
  (once : site.files.nodes.keys.Nodup)
include reorders once

theorem descriptor_of_reorders (path : String) :
    ({ site with files := other } : Site κ).descriptor path = site.descriptor path := by
  simp only [Site.descriptor, Descriptor.ofFile, KeyFile.ofFile, reorders.text? once]

theorem bind_of_reorders (path factory : String) :
    site.binder.bind other path factory = site.binder.bind site.files path factory := by
  cases site.binder with
  | table factories => simp only [Binder.bind, Binder.bindEntry, reorders.isFile once]
  | libraries =>
    simp only [Binder.bind, Binder.bindLibrary, Binder.loadLibrary?, reorders.exports? once,
      reorders.system]

theorem areUsable_of_reorders {names' : List String} (perm : names'.Perm names)
    (usable : AreUsable { site with files := other } folder names') :
    AreUsable site folder names := by
  refine usable.imp id fun none path mem => ?_
  have mem' : path ∈ descriptorPaths { site with files := other } folder names' :=
    (((perm.map (Path.join folder)).filter _).mem_iff).mpr mem
  have invalid := none path mem'
  rwa [Site.isDescriptor, descriptor_of_reorders reorders once] at invalid

theorem scanRow_of_reorders (path : String) :
    scanRow { site with files := other } path = scanRow site path := by
  simp only [scanRow, Site.probe, Site.judge, Site.probeDescriptor, Site.probeModule,
    Site.acceptsDescriptor, Site.acceptsModule, Bench.bindBy, descriptor_of_reorders reorders once,
    bind_of_reorders reorders once]

end

/-- A scan of a folder, in whatever order the folder is listed. -/
structure ScannedInAnyOrder (site : Site κ) (folder : String) : Prop where
  /-- Every order of the entries is one in which the folder is listed. -/
  orders : ∀ names names', site.files.names? folder = some names → names'.Perm names →
    ∃ other : FileTree κ, other.Reorders site.files ∧ other.names? folder = some names'
  /-- The answer is the same in every order, whatever was bound or logged before. -/
  alike : ∀ other : FileTree κ, other.Reorders site.files → ∀ bench later,
    (scanFolder { site with files := other } folder later).1 = (scanFolder site folder bench).1
  /-- Without a folder there is no listing, and that is said. -/
  missing : site.files.names? folder = none →
    (scanFolder site folder).Gives (.error (.unreadableDirectory folder))
  /-- If all entries of descriptor kind can be probed, there are rows. -/
  scanned : ∀ names, site.files.names? folder = some names → AreUsable site folder names →
    ∃ rows, (scanFolder site folder).Gives (.ok rows) ∧ AreRows site folder names rows
  /-- Otherwise the scan is stopped. -/
  stopped : ∀ names, site.files.names? folder = some names → ¬ AreUsable site folder names →
    (scanFolder site folder).Fails
      (.panic (some (Path.extensionPanic site.settings.loader.moduleExtension)))

/-- The order in which a folder lists its entries has no part in what a scan answers. -/
theorem scannedInAnyOrder (proper : site.files.IsProper) (folder : String) :
    ScannedInAnyOrder site folder where
  orders _ _ listed perm := FileTree.exists_reorders proper.once listed perm
  alike := by
    intro other reorders bench later
    cases listed : site.files.names? folder with
    | none =>
      rw [scanFolder_missing listed, scanFolder_missing (reorders.names?_eq_none proper.once listed)]
      rfl
    | some names =>
      obtain ⟨names', listed', perm⟩ := reorders.names? proper.once listed
      obtain ⟨once, named⟩ := proper.of_names? listed
      by_cases usable : AreUsable site folder names
      · obtain ⟨rows, each⟩ := exists_rows named usable
        have distinct := rows_stems_nodup (each.imp fun _ _ both => both.2)
          (descriptorPaths_stems_nodup once named)
        obtain ⟨rows', each', permRows⟩ := List.perm_comp_forall₂
          ((perm.map (Path.join folder)).filter _) each
        have gives : List.Forall₂
            (fun path row => (scanRow { site with files := other } path).Gives row) _ rows' :=
          each'.imp fun path row both => scanRow_of_reorders reorders proper.once path ▸ both.1
        rw [scanFolder_gives listed (each.imp fun _ _ both => both.1) bench,
          scanFolder_gives listed' gives later, sortRows_of_perm distinct permRows]
      · have named' : ∀ name ∈ names', Path.IsName name.toList :=
          fun name mem => named name (perm.subset mem)
        have unusable' : ¬ AreUsable { site with files := other } folder names' :=
          fun usable' => usable (areUsable_of_reorders reorders proper.once perm usable')
        rw [scanFolder_fails listed named usable bench,
          scanFolder_fails listed' named' unusable' later]
  missing := fun unlisted => scanFolder_missing unlisted ▸ Run.gives_pure _
  scanned := by
    intro names listed usable
    obtain ⟨once, named⟩ := proper.of_names? listed
    obtain ⟨rows, each⟩ := exists_rows named usable
    have tells := each.imp fun _ _ both => both.2
    have distinct := rows_stems_nodup tells (descriptorPaths_stems_nodup once named)
    have gives := scanFolder_gives listed (each.imp fun _ _ both => both.1)
    refine ⟨_, gives, ?_, sortRows_increasing distinct⟩
    obtain ⟨paths, tells, perm⟩ := List.perm_comp_forall₂ (sortRows_perm rows) tells.flip
    exact ⟨paths, perm, tells.flip⟩
  stopped := by
    intro names listed unusable
    exact scanFolder_fails listed (proper.of_names? listed).2 unusable

/-- A folder with a valid descriptor, one that is not valid, and a file of another kind. -/
def mixedSite : Site Unit where
  files := ((FileTree.empty.add "d/b.plugin" (.text "[modproxy]\nname=B\n")).add "d/a.plugin"
    (.text "")).add "d/README" (.text "")

theorem mixedSite_scannedInAnyOrder :
    mixedSite.files.IsProper ∧ mixedSite.files.names? "d" = some ["b.plugin", "a.plugin", "README"] ∧
      ScannedInAnyOrder mixedSite "d" := by
  have proper : mixedSite.files.IsProper :=
    ((FileTree.isProper_empty.add "d/b.plugin" _).add "d/a.plugin" _).add "d/README" _
  exact ⟨proper, rfl, scannedInAnyOrder proper "d"⟩

/-- With a slash in the extension of modules, a folder with a valid descriptor. -/
def slashSite : Site Unit where
  settings := { loader := { moduleExtension := "a/b" } }
  files := FileTree.empty.add "d/x.plugin" (.text "[modproxy]\nname=X\n")

/-- Its entry is of descriptor kind, and there are no rows. -/
theorem slashSite_not_scanned :
    slashSite.files.names? "d" = some ["x.plugin"] ∧
      slashSite.settings.loader.classify (Path.join "d" "x.plugin") = .descriptor ∧
      (scanFolder slashSite "d" {}).1 =
        .error (.panic (some "extension cannot contain path separators: \"a/b\"")) ∧
      ¬ ∃ rows, (scanFolder slashSite "d" {}).1 = .ok (.ok rows) := by
  have stopped : (scanFolder slashSite "d" {}).1 =
      .error (.panic (some "extension cannot contain path separators: \"a/b\"")) := rfl
  refine ⟨rfl, rfl, stopped, ?_⟩
  rintro ⟨rows, scanned⟩
  cases stopped.symm.trans scanned

end CommandLine

end ExtensionProxy
