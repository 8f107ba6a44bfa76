import ExtensionProxy.Proofs.Scanning

/-!
# Two spellings of one path

A name without a slash leads to the same file with `./` in front of it and without.  Everything that is
asked of paths and of files respects this: the extension and so the kind, the stem, the counterpart,
which is spelled as the path is, and what the files hold.  So descriptors are read alike, and modules
that are bound by the table bind alike.

Loading a library does not respect it: there a text without a slash is no path, and the system's loader
answers instead of the files.  So with libraries the two spellings are judged alike if and only if the
loader and the file agree on the module that decides the verdict, be it the one that the name leads to or
the one that the descriptor of this name leads to.
-/

set_option autoImplicit false

namespace ExtensionProxy

/-! ## Paths -/

namespace Path

/-- A name in the working folder, spelled out. -/
def here (name : String) : String := "./" ++ name

variable {name other extension : String}

theorem toList_here (name : String) : (here name).toList = ['.', '/'] ++ name.toList := by
  simp [here]

theorem mem_here (name : String) : '/' ∈ (here name).toList := by simp [toList_here]

/-- Apart from the dots, a text without a slash is a name with nothing in front of it. -/
theorem splitName?_bare (bare : '/' ∉ name.toList) :
    splitName? name = none ∧ splitName? (here name) = none ∨
      splitName? name = some ([], name.toList) ∧
        splitName? (here name) = some (['.', '/'], name.toList) := by
  by_cases empty : name.toList = []
  · left
    rw [← String.ofList_toList (s := here name), toList_here, ← String.ofList_toList (s := name), empty]
    exact ⟨rfl, rfl⟩
  · by_cases dot : name.toList = ['.']
    · left
      rw [← String.ofList_toList (s := here name), toList_here, ← String.ofList_toList (s := name), dot]
      exact ⟨rfl, rfl⟩
    · have plain := splitName?_append (show IsFront [] by simp [IsFront]) bare empty dot
      have spelled := splitName?_append (show IsFront ['.', '/'] by simp [IsFront]) bare empty dot
      rw [List.nil_append, String.ofList_toList] at plain
      rw [← toList_here, String.ofList_toList] at spelled
      rw [plain, spelled]
      split
      · exact .inl ⟨rfl, rfl⟩
      · exact .inr ⟨rfl, rfl⟩

theorem extension?_here (bare : '/' ∉ name.toList) : extension? (here name) = extension? name := by
  rcases splitName?_bare bare with ⟨plain, spelled⟩ | ⟨plain, spelled⟩ <;>
    simp [extension?, plain, spelled]

theorem stem?_here (bare : '/' ∉ name.toList) : stem? (here name) = stem? name := by
  rcases splitName?_bare bare with ⟨plain, spelled⟩ | ⟨plain, spelled⟩ <;>
    simp [stem?, plain, spelled]

/-- What is cut off from a text without a slash is no longer than the text. -/
theorem length_le_of_extension? (bare : '/' ∉ name.toList)
    (extended : extension? name = some extension) :
    extension.length ≤ name.length := by
  rcases splitName?_bare bare with ⟨plain, -⟩ | ⟨plain, -⟩
  · simp [extension?, plain] at extended
  · simp only [extension?, plain, Option.bind_some, Option.map_eq_some_iff] at extended
    obtain ⟨chars, cut, rfl⟩ := extended
    obtain ⟨whole, -, -⟩ := cutExtension_eq_some (Prod.ext rfl cut : cutExtension _ = (_, some chars))
    have longer : name.length = (cutExtension name.toList).1.length + (chars.length + 1) := by
      rw [← String.length_toList, whole, List.length_append, List.length_cons, ← whole]
    rw [String.length_ofList, longer]
    omega

theorem dropExtension_here (bare : '/' ∉ name.toList) :
    dropExtension (here name) = here (dropExtension name) := by
  simp only [dropExtension, extension?_here bare]
  cases extended : extension? name with
  | none => rfl
  | some extension =>
    have short := length_le_of_extension? bare extended
    have longer : (here name).length - extension.length = 2 + (name.length - extension.length) := by
      rw [here, String.length_append, show "./".length = 2 from rfl]
      omega
    apply String.toList_inj.mp
    simp only [longer, toList_here, String.toList_ofList]
    rw [← List.take_length_add_append]
    rfl

theorem bare_dropExtension (bare : '/' ∉ name.toList) : '/' ∉ (dropExtension name).toList := by
  rw [dropExtension]
  split
  · exact bare
  · rw [String.toList_ofList]
    exact fun mem => bare (List.mem_of_mem_take mem)

theorem setExtension_here (bare : '/' ∉ name.toList) (extension : String) :
    setExtension (here name) extension = here (setExtension name extension) := by
  rcases splitName?_bare bare with ⟨plain, spelled⟩ | ⟨plain, spelled⟩
  · simp [setExtension, plain, spelled]
  · apply String.toList_inj.mp
    simp only [setExtension, plain, spelled, toList_here]
    split <;> simp

theorem bare_setExtension (bare : '/' ∉ name.toList) (plain : '/' ∉ extension.toList) :
    '/' ∉ (setExtension name extension).toList := by
  rcases splitName?_bare bare with ⟨split, -⟩ | ⟨split, -⟩
  · simpa [setExtension, split] using bare
  · have stem : '/' ∉ (cutExtension name.toList).1 := by
      rw [cutExtension]
      split
      · rename_i after before found
        obtain ⟨reversed, -⟩ := eq_append_of_splitFirst found
        split
        · exact bare
        · have whole : '/' ∉ name.toList.reverse := by rwa [List.mem_reverse]
          rw [reversed, List.mem_append, not_or, List.mem_cons, not_or] at whole
          simpa using whole.2.2
      · exact bare
    simp only [setExtension, split, List.nil_append]
    split
    · simpa using stem
    · simp [stem, plain]

/-- Another extension leaves the spelling as it is. -/
theorem withExtension?_here (bare : '/' ∉ name.toList) (extension : String) :
    withExtension? (here name) extension = (withExtension? name extension).map here := by
  unfold withExtension?
  split
  · rw [withExtension, dropExtension_here bare, setExtension_here (bare_dropExtension bare)]
    rfl
  · rfl

theorem bare_withExtension? (bare : '/' ∉ name.toList)
    (extended : withExtension? name extension = some other) :
    '/' ∉ other.toList := by
  rw [withExtension?, Option.ite_none_right_eq_some, Option.some.injEq] at extended
  obtain ⟨plain, made⟩ := extended
  rw [← made]
  exact bare_setExtension (bare_dropExtension bare) (by simpa [isExtension] using plain)

theorem parts_here (bare : '/' ∉ name.toList) :
    parts name = [name] ∧ parts (here name) = [".", name] := by
  have dot : '/' ∉ ['.'] := by simp
  constructor
  · simp [parts, splitEvery_of_notMem bare]
  · rw [parts, toList_here, show ['.', '/'] ++ name.toList = ['.'] ++ '/' :: name.toList from rfl,
      splitEvery_append_cons, splitEvery_of_notMem dot, splitEvery_of_notMem bare]
    simp

end Path

/-! ## Files -/

namespace FileTree

variable {ι : Type} {tree : FileTree ι} {name : String}

theorem resolve?_here (tree : FileTree ι) (bare : '/' ∉ name.toList) :
    tree.resolve? (Path.here name) =
      if tree.isFolder tree.origin then tree.follow [name] tree.origin else none := by
  have relative : Path.isAbsolute (Path.here name) = false := by
    simp [Path.isAbsolute, Path.toList_here]
  have nonempty : (Path.here name).isEmpty = false := by
    rw [← Bool.not_eq_true, String.isEmpty_iff]
    exact fun empty => by simpa [empty] using Path.mem_here name
  rw [resolve?, nonempty, if_neg Bool.false_ne_true, (Path.parts_here bare).2, start, relative,
    if_neg Bool.false_ne_true, FileTree.follow]
  cases tree.isFolder tree.origin <;> simp

/-- Both spellings lead to the same node; only the empty text leads nowhere, where the working folder
spelled out leads to a folder. -/
theorem node?_here (tree : FileTree ι) (bare : '/' ∉ name.toList) :
    tree.node? (Path.here name) = tree.node? name ∨
      tree.node? name = none ∧ tree.node? (Path.here name) = some .folder := by
  by_cases empty : name = ""
  · subst empty
    have nowhere : tree.node? "" = none := rfl
    cases isFolder : tree.isFolder tree.origin with
    | false =>
      left
      rw [nowhere, node?, resolve?_here tree bare, isFolder]
      rfl
    | true =>
      right
      refine ⟨nowhere, ?_⟩
      have arrives : tree.resolve? (Path.here "") = some tree.origin := by
        rw [resolve?_here tree bare, isFolder, if_pos rfl, FileTree.follow, isFolder]
        simp [FileTree.follow]
      rw [node?, arrives]
      rw [FileTree.isFolder] at isFolder
      cases place : tree.origin with
      | nil => rfl
      | cons first rest =>
        rw [place] at isFolder
        simp only [List.isEmpty_cons, Bool.false_or] at isFolder
        split at isFolder
        · assumption
        · cases isFolder
  · left
    have plain : tree.resolve? name = tree.follow [name] tree.origin := by
      rw [resolve?, start, Path.isAbsolute_of_notMem bare, (Path.parts_here bare).1]
      simp [String.isEmpty_iff, empty]
    have same : tree.resolve? (Path.here name) = tree.resolve? name := by
      rw [resolve?_here tree bare, plain]
      cases isFolder : tree.isFolder tree.origin with
      | true => rfl
      | false =>
        rw [FileTree.follow, isFolder]
        rfl
    rw [node?, node?, same]

theorem isFile_here (tree : FileTree ι) (bare : '/' ∉ name.toList) :
    tree.isFile (Path.here name) = tree.isFile name := by
  rcases tree.node?_here bare with same | ⟨plain, spelled⟩
  · rw [isFile, isFile, same]
  · rw [isFile, isFile, plain, spelled]

theorem text?_here (tree : FileTree ι) (bare : '/' ∉ name.toList) :
    tree.text? (Path.here name) = tree.text? name := by
  rcases tree.node?_here bare with same | ⟨plain, spelled⟩
  · rw [text?, text?, same]
  · rw [text?, text?, plain, spelled]

theorem exports?_here (tree : FileTree ι) (bare : '/' ∉ name.toList) :
    tree.exports? (Path.here name) = tree.exports? name := by
  rcases tree.node?_here bare with same | ⟨plain, spelled⟩
  · rw [exports?, exports?, same]
  · rw [exports?, exports?, plain, spelled]

end FileTree

/-! ## Descriptors and modules -/

variable {κ : Type} {site : Site κ} {path name other : String}

theorem LoaderSettings.classify_here (settings : LoaderSettings) (bare : '/' ∉ name.toList) :
    settings.classify (Path.here name) = settings.classify name := by
  rw [classify, classify, Path.extension?_here bare]

/-- Whether a descriptor is read is not for its path to say, as long as the path has a stem. -/
theorem Descriptor.isOk_ofKeyFile (settings : LoaderSettings) (environment : Environment)
    (file : KeyFile) (same : Path.stem? path = Path.stem? other) :
    (ofKeyFile settings environment path file).isOk =
      (ofKeyFile settings environment other file).isOk := by
  simp only [ofKeyFile, same]
  split
  · rfl
  · split
    · rfl
    · cases Path.stem? other <;> rfl

namespace Site

theorem isDescriptor_here (site : Site κ) (bare : '/' ∉ name.toList) :
    site.isDescriptor (Path.here name) = site.isDescriptor name := by
  have same : KeyFile.ofFile site.files (Path.here name) = KeyFile.ofFile site.files name := by
    rw [KeyFile.ofFile, KeyFile.ofFile, site.files.text?_here bare]
  simp only [isDescriptor, descriptor, Descriptor.ofFile, same]
  cases KeyFile.ofFile site.files name with
  | error why => rfl
  | ok file => exact Descriptor.isOk_ofKeyFile _ _ file (Path.stem?_here bare)

end Site

namespace Binder

variable {files : FileTree κ} {factory : String}

theorem bindEntry_isOk (factories : OrderedMap String (Factory κ)) (files : FileTree κ)
    (path factory : String) :
    (bindEntry factories files path factory).isOk =
      (files.isFile path && factory == factorySymbolName &&
        (factories.get? ((Path.stem? path).getD "")).isSome) := by
  rw [bindEntry]
  cases files.isFile path with
  | false => rfl
  | true =>
    by_cases symbol : factory = factorySymbolName
    · simp only [symbol]
      cases factories.get? ((Path.stem? path).getD "") <;> rfl
    · simp [symbol, Except.isOk, Except.toBool]

theorem loaderText?_subset {text loaded : String} (taken : loaderText? text = some loaded) :
    loaded.toList ⊆ text.toList := by
  simp only [loaderText?, Option.ite_none_left_eq_some] at taken
  obtain ⟨-, taken⟩ := taken
  cases taken
  rw [String.toList_ofList]
  split
  · exact List.dropLast_subset _
  · exact fun c mem => mem

theorem loaderText?_of_notMem {text : String} (noZero : '\x00' ∉ text.toList) :
    loaderText? text = some text := by
  have last : (text.toList.getLast? == some '\x00') = false := by
    rw [beq_eq_false_iff_ne]
    exact fun isLast => noZero (List.mem_of_getLast? isLast)
  simp [loaderText?, last, noZero]

theorem loaderText?_here (text : String) :
    loaderText? (Path.here text) = (loaderText? text).map Path.here := by
  rw [loaderText?, loaderText?, Path.toList_here]
  by_cases empty : text.toList = []
  · obtain rfl : text = "" := String.toList_inj.mp empty
    rfl
  · obtain ⟨front, last, split⟩ := (List.eq_nil_or_concat' text.toList).resolve_left empty
    rw [split, ← List.append_assoc, List.getLast?_concat, List.getLast?_concat, List.dropLast_concat,
      List.dropLast_concat]
    by_cases zero : last = '\x00'
    · by_cases inside : '\x00' ∈ front
      · simp [zero, inside]
      · simp [zero, inside, ← String.toList_inj, Path.toList_here]
    · by_cases inside : '\x00' ∈ front
      · simp [zero, inside]
      · simp [zero, Ne.symm zero, inside, ← String.toList_inj, Path.toList_here]

theorem bindLibrary_isOk_iff : (bindLibrary files path factory).isOk = true ↔
    ∃ exports, loadLibrary? files path = some exports ∧ (findExport? exports factory).isSome = true := by
  rw [bindLibrary]
  cases loadLibrary? files path with
  | none => simp [Except.isOk, Except.toBool]
  | some exports =>
    cases found : findExport? exports factory <;> simp [found, Except.isOk, Except.toBool]

/-- As a library, a text without a slash is looked up by the system's loader. -/
theorem loadLibrary?_bare (files : FileTree κ) (bare : '/' ∉ path.toList) :
    loadLibrary? files path = (loaderText? path).bind files.system := by
  rw [loadLibrary?]
  cases text : loaderText? path with
  | none => rfl
  | some loaded =>
    have bare' : '/' ∉ loaded.toList := fun mem => bare (loaderText?_subset text mem)
    simp [bare']

/-- Spelled out, it is a file. -/
theorem loadLibrary?_here (files : FileTree κ) (bare : '/' ∉ path.toList) :
    loadLibrary? files (Path.here path) = (loaderText? path).bind files.exports? := by
  rw [loadLibrary?, loaderText?_here]
  cases text : loaderText? path with
  | none => rfl
  | some loaded =>
    have bare' : '/' ∉ loaded.toList := fun mem => bare (loaderText?_subset text mem)
    simp [Path.mem_here, files.exports?_here bare']

end Binder

namespace Site

/-- The factory is among what was found exported. -/
def GivesFactory (site : Site κ) (found : Option (List (String × κ))) : Prop :=
  ∃ exports, found = some exports ∧
    (Binder.findExport? exports site.settings.loader.factorySymbol).isSome = true

/-- The module at a path gives the factory, whether or not binding finds it. -/
def Exports (site : Site κ) (path : String) : Prop :=
  match site.binder with
  | .table factories => site.settings.loader.factorySymbol = factorySymbolName ∧
      (factories.get? ((Path.stem? path).getD "")).isSome = true
  | .libraries => '\x00' ∉ path.toList ∧ site.GivesFactory (site.files.exports? path)

/-- What the other half of a path adds to the verdict. -/
def verdictOfHalf (path extension : String) (holds : String → Bool) (outcome : ProbeOutcome) :
    Except Stop ProbeOutcome :=
  match Path.withExtension? path extension with
  | none => .error (.panic (some (Path.extensionPanic extension)))
  | some other => .ok (if holds other then outcome else .ignored)

/-- What probing comes to. -/
def verdict (site : Site κ) (path : String) : Except Stop ProbeOutcome :=
  let settings := site.settings.loader
  match settings.classify path with
  | .descriptor =>
    if site.isDescriptor path then verdictOfHalf path settings.moduleExtension site.binds .matched
    else .ok .ignored
  | .module =>
    if site.binds path then verdictOfHalf path settings.descriptorExtension site.isDescriptor .related
    else .ok .ignored
  | .other => .ok .ignored

theorem counterpart_of_withExtension? {settings : LoaderSettings} {extension : String} {σ : Type}
    (kind : settings.counterpartExtension (settings.classify path) = some extension)
    (half : Path.withExtension? path extension = some other) :
    settings.counterpart path = (pure (some other) : Run σ _) := by
  simp only [LoaderSettings.counterpart, kind, half]

/-- A module that binds cannot be probed if the extension of descriptors is none. -/
theorem probe_module_fails (kind : site.settings.loader.classify path = .module)
    (bound : site.binds path = true)
    (half : Path.withExtension? path site.settings.loader.descriptorExtension = none) :
    (site.probe path).Fails
      (.panic (some (Path.extensionPanic site.settings.loader.descriptorExtension))) := by
  have counterpart : (site.settings.loader.counterpart path : Run Bench _) =
      Run.panic (some (Path.extensionPanic site.settings.loader.descriptorExtension)) := by
    simp only [LoaderSettings.counterpart, kind, LoaderSettings.counterpartExtension, half]
  have accepted := site.acceptsModule_gives path
  rw [bound] at accepted
  refine Run.Fails.bind ?_ _
  rw [judge, kind]
  refine Run.Fails.bind (accepted.bind_fails ?_) _
  rw [if_pos rfl, counterpart]
  exact Run.Fails.bind (fun _ => rfl) _

theorem probe_unbound_gives (kind : site.settings.loader.classify path = .module)
    (unbound : site.binds path = false) : (site.probe path).Gives .ignored := by
  apply probe_gives
  rw [judge, kind]
  have refused : (site.probeModule path).Gives false := by
    refine (site.acceptsModule_gives path).bind ?_
    rw [unbound]
    exact Run.gives_pure false
  exact refused.bind (Run.gives_pure _)

theorem probe_fst (site : Site κ) (path : String) (bench : Bench) :
    (site.probe path bench).1 = site.verdict path := by
  rw [verdict]
  cases kind : site.settings.loader.classify path with
  | other => exact probe_other_gives kind bench
  | descriptor =>
    cases valid : site.isDescriptor path with
    | false => exact probe_invalid_gives kind valid bench
    | true =>
      cases half : Path.withExtension? path site.settings.loader.moduleExtension with
      | none =>
        have none : Path.isExtension site.settings.loader.moduleExtension = false := by
          simpa [Path.withExtension?] using half
        simpa [verdictOfHalf, half] using probe_fails kind valid none bench
      | some other =>
        have counterpart := counterpart_of_withExtension? (σ := Bench) (by rw [kind]; rfl) half
        simpa [verdictOfHalf, half, valid] using probe_descriptor_gives kind counterpart bench
  | module =>
    cases bound : site.binds path with
    | false => exact probe_unbound_gives kind bound bench
    | true =>
      cases half : Path.withExtension? path site.settings.loader.descriptorExtension with
      | none => simpa [verdictOfHalf, half] using probe_module_fails kind bound half bench
      | some other =>
        have counterpart := counterpart_of_withExtension? (σ := Bench) (by rw [kind]; rfl) half
        simpa [verdictOfHalf, half, bound] using probe_module_gives kind counterpart bench

/-- What inspecting comes to. -/
def inspection (site : Site κ) (path : String) : Except Stop (Except Cause CommandLine.Inspection) :=
  let extension := site.settings.loader.moduleExtension
  match site.descriptor path with
  | .error cause => .ok (.error cause)
  | .ok descriptor =>
    match Path.withExtension? path extension with
    | none => .error (.panic (some (Path.extensionPanic extension)))
    | some other => .ok (.ok ⟨descriptor, other, site.files.isFile other, site.binds other⟩)

theorem inspectPath_fst (site : Site κ) (path : String) (bench : Bench) :
    (CommandLine.inspectPath site path bench).1 = site.inspection path := by
  rw [CommandLine.inspectPath, inspection]
  cases valid : site.descriptor path with
  | error cause => rfl
  | ok descriptor =>
    have half : descriptor.modulePath? site.settings.loader =
        Path.withExtension? path site.settings.loader.moduleExtension := by
      rw [Descriptor.modulePath?, path_of_descriptor valid]
    simp only [half]
    cases Path.withExtension? path site.settings.loader.moduleExtension with
    | none => rfl
    | some other =>
      have accepted : site.acceptsModule other bench =
          (.ok (site.binds other), (site.acceptsModule other bench).2) :=
        Prod.ext (site.acceptsModule_gives other bench) rfl
      simp only [Run.bind_apply_of_ok _ accepted, Run.pure_apply]

/-- What is reported of an inspection: whether there is a module, and whether it binds. -/
def reported (result : Except Stop (Except Cause CommandLine.Inspection)) :
    Except Stop (Option (Bool × Bool)) :=
  result.map fun answer => answer.toOption.map fun inspection =>
    (inspection.modulePresent, inspection.moduleBinds)

theorem reported_inspection (site : Site κ) (path : String) :
    reported (site.inspection path) =
      if site.isDescriptor path then
        match Path.withExtension? path site.settings.loader.moduleExtension with
        | none => .error (.panic (some (Path.extensionPanic site.settings.loader.moduleExtension)))
        | some other => .ok (some (site.files.isFile other, site.binds other))
      else .ok none := by
  rw [inspection, isDescriptor]
  cases site.descriptor path with
  | error cause => rfl
  | ok descriptor =>
    cases Path.withExtension? path site.settings.loader.moduleExtension <;> rfl

/-! ## Both spellings -/

theorem binds_here {factories : OrderedMap String (Factory κ)} (table : site.binder = .table factories)
    (bare : '/' ∉ name.toList) : site.binds (Path.here name) = site.binds name := by
  simp only [binds, table, Binder.bind, Binder.bindEntry_isOk, site.files.isFile_here bare,
    Path.stem?_here bare]

theorem verdictOfHalf_here (bare : '/' ∉ name.toList) (extension : String) {holds : String → Bool}
    (outcome : ProbeOutcome)
    (same : ∀ other, Path.withExtension? name extension = some other →
      holds (Path.here other) = holds other) :
    verdictOfHalf (Path.here name) extension holds outcome =
      verdictOfHalf name extension holds outcome := by
  rw [verdictOfHalf, verdictOfHalf, Path.withExtension?_here bare]
  cases half : Path.withExtension? name extension with
  | none => rfl
  | some other => simp only [Option.map_some, same other half]

theorem verdict_here (bare : '/' ∉ name.toList)
    (itself : site.settings.loader.classify name = .module →
      site.binds (Path.here name) = site.binds name ∨ ∃ other,
        Path.withExtension? name site.settings.loader.descriptorExtension = some other ∧
          site.isDescriptor other = false)
    (half : site.isDescriptor name = true → ∀ other,
      Path.withExtension? name site.settings.loader.moduleExtension = some other →
        site.binds (Path.here other) = site.binds other) :
    site.verdict (Path.here name) = site.verdict name := by
  simp only [verdict, site.settings.loader.classify_here bare, site.isDescriptor_here bare]
  cases kind : site.settings.loader.classify name with
  | other => rfl
  | descriptor =>
    simp only
    split
    · rename_i valid
      exact verdictOfHalf_here bare _ _ (half valid)
    · rfl
  | module =>
    simp only
    have descriptors := verdictOfHalf_here bare site.settings.loader.descriptorExtension .related
      fun other extended => site.isDescriptor_here (Path.bare_withExtension? bare extended)
    rw [descriptors]
    rcases itself kind with same | ⟨other, half, invalid⟩
    · rw [same]
    · -- Without its descriptor a module is ignored, whether it binds or not.
      simp [verdictOfHalf, half, invalid]

theorem reported_inspection_here (bare : '/' ∉ name.toList)
    (half : site.isDescriptor name = true → ∀ other,
      Path.withExtension? name site.settings.loader.moduleExtension = some other →
        site.binds (Path.here other) = site.binds other) :
    reported (site.inspection (Path.here name)) = reported (site.inspection name) := by
  rw [reported_inspection, reported_inspection, site.isDescriptor_here bare,
    Path.withExtension?_here bare]
  cases valid : site.isDescriptor name with
  | false => rfl
  | true =>
    cases extended : Path.withExtension? name site.settings.loader.moduleExtension with
    | none => rfl
    | some other =>
      simp only [Option.map_some, half valid other extended,
        site.files.isFile_here (Path.bare_withExtension? bare extended)]

theorem of_inspection {inspection : CommandLine.Inspection}
    (inspected : site.inspection path = .ok (.ok inspection)) :
    site.isDescriptor path = true ∧
      Path.withExtension? path site.settings.loader.moduleExtension = some inspection.modulePath ∧
      inspection.modulePresent = site.files.isFile inspection.modulePath ∧
      inspection.moduleBinds = site.binds inspection.modulePath := by
  rw [Site.inspection] at inspected
  cases valid : site.descriptor path with
  | error cause =>
    simp only [valid] at inspected
    cases inspected
  | ok descriptor =>
    cases half : Path.withExtension? path site.settings.loader.moduleExtension with
    | none =>
      simp only [valid, half] at inspected
      cases inspected
    | some other =>
      simp only [valid, half, Except.ok.injEq] at inspected
      subst inspected
      exact ⟨by rw [isDescriptor, valid]; rfl, rfl, rfl, rfl⟩

theorem binds_of_exports_table {factories : OrderedMap String (Factory κ)}
    (table : site.binder = .table factories) (present : site.files.isFile path = true)
    (exported : site.Exports path) : site.binds path = true := by
  simp only [Exports, table] at exported
  simp [binds, table, Binder.bind, Binder.bindEntry_isOk, present, exported.1, exported.2]

/-- As a library, a name binds if the system's loader finds the factory under it. -/
theorem binds_bare_iff (libraries : site.binder = .libraries) (bare : '/' ∉ name.toList) :
    site.binds name = true ↔
      ∃ text, Binder.loaderText? name = some text ∧ site.GivesFactory (site.files.system text) := by
  simp only [binds, libraries, Binder.bind, Binder.bindLibrary_isOk_iff,
    Binder.loadLibrary?_bare site.files bare, GivesFactory]
  cases Binder.loaderText? name <;> simp

/-- Spelled out, it binds if the file of this name gives the factory. -/
theorem binds_here_iff (libraries : site.binder = .libraries) (bare : '/' ∉ name.toList) :
    site.binds (Path.here name) = true ↔
      ∃ text, Binder.loaderText? name = some text ∧ site.GivesFactory (site.files.exports? text) := by
  simp only [binds, libraries, Binder.bind, Binder.bindLibrary_isOk_iff,
    Binder.loadLibrary?_here site.files bare, GivesFactory]
  cases Binder.loaderText? name <;> simp

/-- Where the loader and the file agree, both spellings bind or neither does. -/
theorem binds_here_eq_iff (libraries : site.binder = .libraries) (bare : '/' ∉ name.toList) :
    site.binds (Path.here name) = site.binds name ↔
      ∀ text, Binder.loaderText? name = some text →
        (site.GivesFactory (site.files.system text) ↔ site.GivesFactory (site.files.exports? text)) := by
  rw [Bool.eq_iff_iff, binds_here_iff libraries bare, binds_bare_iff libraries bare]
  cases Binder.loaderText? name with
  | none => simp
  | some text => simpa using ⟨Iff.symm, Iff.symm⟩

theorem binds_here_of_exports (libraries : site.binder = .libraries) (bare : '/' ∉ name.toList)
    (exported : site.Exports name) : site.binds (Path.here name) = true := by
  simp only [Exports, libraries] at exported
  obtain ⟨noZero, gives⟩ := exported
  exact (binds_here_iff libraries bare).mpr ⟨name, Binder.loaderText?_of_notMem noZero, gives⟩

theorem exports_of_exports_here (libraries : site.binder = .libraries) (bare : '/' ∉ name.toList)
    (exported : site.Exports (Path.here name)) : site.Exports name := by
  simp only [Exports, libraries, site.files.exports?_here bare, Path.toList_here] at exported ⊢
  exact ⟨fun mem => exported.1 (List.mem_append_right _ mem), exported.2⟩

/-! ## Where they are judged alike -/

/-- Two spellings of a path are judged alike. -/
structure SpeltAlike (site : Site κ) (path other : String) : Prop where
  probed : ∀ bench, (site.probe path bench).1 = (site.probe other bench).1
  inspected : ∀ bench, reported (CommandLine.inspectPath site path bench).1 =
    reported (CommandLine.inspectPath site other bench).1
  /-- With both, a module that is there and gives the factory is one that binds. -/
  honest : ∀ spelling ∈ [path, other], ∀ bench inspection,
    (CommandLine.inspectPath site spelling bench).1 = .ok (.ok inspection) →
      inspection.modulePresent = true → site.Exports inspection.modulePath →
        inspection.moduleBinds = true

/-- A module decides the verdict on a name: it is the module of this descriptor, or the name leads to it
and no descriptor beside it is found wanting. -/
def Decides (site : Site κ) (name module : String) : Prop :=
  site.isDescriptor name = true ∧
      Path.withExtension? name site.settings.loader.moduleExtension = some module ∨
    module = name ∧ site.settings.loader.classify name = .module ∧ ∀ other,
      Path.withExtension? name site.settings.loader.descriptorExtension = some other →
        site.isDescriptor other = true

theorem Decides.bare {module : String} (decides : site.Decides name module)
    (bare : '/' ∉ name.toList) : '/' ∉ module.toList := by
  rcases decides with ⟨-, extended⟩ | ⟨rfl, -⟩
  · exact Path.bare_withExtension? bare extended
  · exact bare

/-- If the module that decides binds under both spellings or under neither, they are judged alike. -/
theorem speltAlike_of_binds (bare : '/' ∉ name.toList) (same : ∀ module, site.Decides name module →
      site.binds (Path.here module) = site.binds module) : site.SpeltAlike name (Path.here name) := by
  have half : site.isDescriptor name = true → ∀ other,
      Path.withExtension? name site.settings.loader.moduleExtension = some other →
        site.binds (Path.here other) = site.binds other :=
    fun valid other extended => same other (.inl ⟨valid, extended⟩)
  have itself : site.settings.loader.classify name = .module →
      site.binds (Path.here name) = site.binds name ∨ ∃ other,
        Path.withExtension? name site.settings.loader.descriptorExtension = some other ∧
          site.isDescriptor other = false := by
    intro kind
    by_cases every : ∀ other,
        Path.withExtension? name site.settings.loader.descriptorExtension = some other →
          site.isDescriptor other = true
    · exact .inl (same name (.inr ⟨rfl, kind, every⟩))
    · simp only [not_forall, Bool.not_eq_true] at every
      obtain ⟨other, extended, invalid⟩ := every
      exact .inr ⟨other, extended, invalid⟩
  constructor
  · intro bench
    rw [probe_fst, probe_fst, verdict_here bare itself half]
  · intro bench
    rw [inspectPath_fst, inspectPath_fst, reported_inspection_here bare half]
  · intro spelling isSpelling bench inspection inspected present exported
    rw [inspectPath_fst] at inspected
    obtain ⟨valid, extended, isPresent, isBound⟩ := of_inspection inspected
    rw [isBound]
    rw [isPresent] at present
    cases isBinder : site.binder with
    | table factories => exact binds_of_exports_table isBinder present exported
    | libraries =>
      rcases List.mem_pair.mp isSpelling with rfl | rfl
      · rw [← half valid _ extended]
        exact binds_here_of_exports isBinder (Path.bare_withExtension? bare extended) exported
      · rw [Path.withExtension?_here bare] at extended
        obtain ⟨other, plain, whole⟩ := Option.map_eq_some_iff.mp extended
        have bare' := Path.bare_withExtension? bare plain
        rw [← whole] at exported ⊢
        exact binds_here_of_exports isBinder bare' (exports_of_exports_here isBinder bare' exported)

/-- Where they are judged alike, the module that decides binds under both spellings or under neither. -/
theorem SpeltAlike.binds_eq (alike : site.SpeltAlike name (Path.here name)) (bare : '/' ∉ name.toList)
    {module : String} (decides : site.Decides name module) :
    site.binds (Path.here module) = site.binds module := by
  rcases decides with ⟨valid, extended⟩ | ⟨rfl, kind, every⟩
  · have same := alike.inspected {}
    rw [inspectPath_fst, inspectPath_fst, reported_inspection, reported_inspection,
      site.isDescriptor_here bare, valid, Path.withExtension?_here bare, extended] at same
    simp only [if_true, Option.map_some, Except.ok.injEq, Option.some.injEq, Prod.mk.injEq] at same
    exact same.2.symm
  · have same := alike.probed {}
    rw [probe_fst, probe_fst, verdict, verdict, site.settings.loader.classify_here bare, kind] at same
    have descriptors := verdictOfHalf_here bare site.settings.loader.descriptorExtension .related
      fun other extended => site.isDescriptor_here (Path.bare_withExtension? bare extended)
    -- A module that binds is told apart from one that does not, its descriptor being valid or none.
    have told : verdictOfHalf module site.settings.loader.descriptorExtension site.isDescriptor
        .related ≠ .ok .ignored := by
      rw [verdictOfHalf]
      split
      · simp
      · next other extended => simp [every other extended]
    simp only [descriptors] at same
    cases bound : site.binds module <;> cases spelled : site.binds (Path.here module) <;>
      simp_all

/-- A name is judged like the same name spelled out, unless modules are loaded as libraries and the
system's loader finds the factory under the module that decides where the file does not give it, or the
other way round. -/
theorem speltAlike_iff (site : Site κ) (bare : '/' ∉ name.toList) :
    site.SpeltAlike name (Path.here name) ↔
      (site.binder = .libraries → ∀ module, site.Decides name module →
        ∀ text, Binder.loaderText? module = some text →
          (site.GivesFactory (site.files.system text) ↔
            site.GivesFactory (site.files.exports? text))) := by
  constructor
  · intro alike libraries module decides
    exact (binds_here_eq_iff libraries (decides.bare bare)).mp (alike.binds_eq bare decides)
  · intro agree
    refine speltAlike_of_binds bare fun module decides => ?_
    cases isBinder : site.binder with
    | table factories => exact binds_here isBinder (decides.bare bare)
    | libraries =>
      exact (binds_here_eq_iff isBinder (decides.bare bare)).mpr (agree isBinder module decides)

/-- A descriptor with its module, in the working folder. -/
def workingPair : FileTree Unit :=
  (FileTree.empty.add "demo.plugin" (.text "[modproxy]\nname=A\n")).add "demo.so"
    (.library [(factorySymbolName, ())])

/-- The module is among the libraries of the system, too. -/
def installedPair : Site Unit where
  files := { workingPair with
    system := fun name => if name = "demo.so" then some [(factorySymbolName, ())] else none }

/-- With libraries, a pair whose module is installed is matched however its path is spelled. -/
theorem installedPair_speltAlike :
    '/' ∉ "demo.plugin".toList ∧ installedPair.binder = .libraries ∧
      (installedPair.probe "./demo.plugin" {}).1 = .ok .matched ∧
      installedPair.SpeltAlike "demo.plugin" "./demo.plugin" := by
  have bare : '/' ∉ "demo.plugin".toList := by decide
  refine ⟨bare, rfl, by rfl, (installedPair.speltAlike_iff bare).mpr fun _ module decides text read => ?_⟩
  have isModule : module = "demo.so" := by
    rcases decides with ⟨-, extended⟩ | ⟨-, kind, -⟩
    · exact (Option.some.inj extended).symm
    · cases kind
  subst isModule
  obtain rfl : "demo.so" = text := Option.some.inj read
  exact ⟨fun _ => ⟨_, rfl, rfl⟩, fun _ => ⟨_, rfl, rfl⟩⟩

def pairOfLibraries : Site Unit := { files := workingPair }

/-- With libraries, a pair whose module is not installed is matched only if its path is spelled out, and
the module that is there and gives the factory does not bind. -/
theorem pairOfLibraries_not_speltAlike :
    (pairOfLibraries.probe "demo.plugin" {}).1 = .ok .ignored ∧
      (pairOfLibraries.probe "./demo.plugin" {}).1 = .ok .matched ∧
      reported (CommandLine.inspectPath pairOfLibraries "demo.plugin" {}).1 =
        .ok (some (true, false)) ∧
      pairOfLibraries.Exports "demo.so" ∧
      ¬pairOfLibraries.SpeltAlike "demo.plugin" "./demo.plugin" := by
  have bare : (pairOfLibraries.probe "demo.plugin" {}).1 = .ok .ignored := by rfl
  have spelled : (pairOfLibraries.probe "./demo.plugin" {}).1 = .ok .matched := by rfl
  refine ⟨bare, spelled, by rfl, ⟨by decide, [(factorySymbolName, ())], by rfl, by rfl⟩, ?_⟩
  intro alike
  have same := alike.probed {}
  rw [bare, spelled] at same
  cases same

end Site

end ExtensionProxy
