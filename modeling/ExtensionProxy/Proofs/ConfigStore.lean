import ExtensionProxy.Proofs.Path
import ExtensionProxy.Proxy.Call

/-!
# Where configuration is kept

A sub-extension keeps its configuration in a store below the folder of the host, under the stem of its
descriptor.  Where a path leads is told from its text alone: empty parts and parts `.` lead nowhere, `..`
leads up again, and any other part leads further down.

So the store of an ordinary stem is where it is meant to be, and two of them are never in each other's
way.  A stem may consist of dots, though: `..plugin` and `...plugin` are names of files, with the stems `.`
and `..`.  The store of the second is outside the folder of the plugins, and that of the first is where
the store of a sub-extension `config` has its folder.
-/

set_option autoImplicit false

namespace ExtensionProxy

namespace Path

/-! ## Where a path leads -/

/-- Where a path leads. -/
structure Place where
  /-- Whether it starts at the root. -/
  absolute : Bool
  /-- How many folders it leads up from where it starts. -/
  ups : Nat
  /-- What it then leads down through. -/
  names : List String
  deriving DecidableEq, Repr

namespace Place

/-- Further down. -/
def below (place : Place) (names : List String) : Place :=
  { place with names := place.names ++ names }

/-- One folder up; nothing is above the root. -/
def up (place : Place) : Place :=
  if place.names ≠ [] then { place with names := place.names.dropLast }
  else if place.absolute then place
  else { place with ups := place.ups + 1 }

/-- One part further. -/
def step (place : Place) (part : String) : Place :=
  if part = "" ∨ part = "." then place
  else if part = ".." then place.up
  else place.below [part]

/-- Whoever goes to the other place comes by this one, or stays there. -/
def IsOnWayTo (place other : Place) : Prop := ∃ names, other = place.below names

/-- The other place is inside this one. -/
def IsAbove (place other : Place) : Prop := ∃ names, names ≠ [] ∧ other = place.below names

end Place

/-- Where the text of a path leads. -/
def resolve (path : String) : Place := (parts path).foldl Place.step ⟨isAbsolute path, 0, []⟩

namespace Place

variable {place : Place} {names others : List String}

@[simp] theorem below_below (place : Place) (names others : List String) :
    (place.below names).below others = place.below (names ++ others) := by
  simp [below]

@[simp] theorem up_below (place : Place) (name : String) : (place.below [name]).up = place := by
  simp [up, below]

/-- A name is neither empty nor made of one or two dots: it leads down. -/
theorem step_of_isName {part : String} (isName : IsName part.toList) (place : Place) :
    place.step part = place.below [part] := by
  have nonempty : part ≠ "" := fun same => isName.nonempty (by simp [same])
  have notDot : part ≠ "." := fun same => isName.notDot (by simp [same])
  have notDots : part ≠ ".." := fun same => isName.notDots (by simp [same])
  simp [step, nonempty, notDot, notDots]

/-- Of two places below a third, one is on the way to the other if its names come first. -/
theorem below_isOnWayTo_iff :
    (place.below names).IsOnWayTo (place.below others) ↔ names <+: others := by
  constructor
  · rintro ⟨more, same⟩
    rw [below_below, below, below, Place.mk.injEq] at same
    exact ⟨more, (List.append_cancel_left same.2.2).symm⟩
  · rintro ⟨more, rfl⟩
    exact ⟨more, (below_below place names more).symm⟩

theorem below_injective (same : place.below names = place.below others) : names = others := by
  rw [below, below, Place.mk.injEq] at same
  exact List.append_cancel_left same.2.2

end Place

/-! ## One part after another -/

theorem parts_append_slash {base name : String} (noSlash : '/' ∉ name.toList) :
    parts (base ++ "/" ++ name) = parts base ++ [name] := by
  have text : (base ++ "/" ++ name).toList = base.toList ++ '/' :: name.toList := by simp
  rw [parts, parts, text, splitEvery_append_cons, splitEvery_of_notMem noSlash]
  simp

/-- The last part of a path that ends in a slash is empty and makes room for a name. -/
theorem exists_parts_of_slash {base name : String} (ends : base.toList.getLast? = some '/')
    (noSlash : '/' ∉ name.toList) :
    ∃ front, parts base = front ++ [""] ∧ parts (base ++ name) = front ++ [name] := by
  obtain ⟨rest, whole⟩ := List.getLast?_eq_some_iff.mp ends
  refine ⟨(splitEvery '/' rest).map String.ofList, ?_, ?_⟩
  · simp [parts, whole, splitEvery_append_cons, splitEvery]
  · simp [parts, whole, splitEvery_append_cons, splitEvery_of_notMem noSlash]

theorem isAbsolute_append {base : String} (nonempty : base ≠ "") (more : String) :
    isAbsolute (base ++ more) = isAbsolute base := by
  obtain ⟨c, rest, whole⟩ : ∃ c rest, base.toList = c :: rest :=
    List.exists_cons_of_ne_nil (by simpa using nonempty)
  simp [isAbsolute, whole]

theorem isAbsolute_of_notMem {name : String} (noSlash : '/' ∉ name.toList) :
    isAbsolute name = false := by
  rw [isAbsolute, beq_eq_false_iff_ne]
  exact fun first => noSlash (List.mem_of_head? first)

/-- A single part that is joined to a path leads one part further. -/
theorem resolve_join {name : String} (noSlash : '/' ∉ name.toList) (base : String) :
    resolve (join base name) = (resolve base).step name := by
  rw [join, isAbsolute_of_notMem noSlash, if_neg Bool.false_ne_true]
  split
  · rename_i ends
    by_cases empty : base = ""
    · subst empty
      have only : parts name = [name] := by simp [parts, splitEvery_of_notMem noSlash]
      rw [String.empty_append, resolve, only, isAbsolute_of_notMem noSlash]
      rfl
    · obtain ⟨front, whole, joined⟩ := exists_parts_of_slash
        (by simpa [String.isEmpty_iff, empty] using ends) noSlash
      simp [resolve, whole, joined, isAbsolute_append empty, Place.step]
  · rename_i ends
    have nonempty : base ≠ "" := by
      rintro rfl
      exact ends rfl
    have start : isAbsolute (base ++ "/" ++ name) = isAbsolute base := by
      rw [String.append_assoc, isAbsolute_append nonempty]
    rw [resolve, start, parts_append_slash noSlash, List.foldl_concat, resolve]

/-! ## Stems -/

theorem cutExtension_eq_self {name stem : List Char} (cut : cutExtension name = (stem, none)) :
    name = stem := by
  unfold cutExtension at cut
  split at cut
  · split at cut
    · exact congrArg Prod.fst cut
    · cases cut
  · exact congrArg Prod.fst cut

theorem stem?_eq_map (path : String) :
    stem? path = (name? path).map fun name => String.ofList (cutExtension name.toList).1 := by
  simp [stem?, name?, Function.comp_def]

/-- What is left of a name without its extension may stand before one, and is the whole name if there was
none to cut off. -/
theorem exists_name_of_stem? {path stem : String} (found : stem? path = some stem) :
    ∃ name, name? path = some name ∧ IsName name.toList ∧ IsStem stem.toList ∧
      (name = stem ∨ ∃ extension : String, '.' ∉ extension.toList ∧ name = stem ++ "." ++ extension) := by
  obtain ⟨⟨front, name⟩, split, stem_eq⟩ := Option.map_eq_some_iff.mp found
  have isName := (splitName?_eq_some split).2
  refine ⟨String.ofList name, by simp [name?, split], by simpa using isName, ?_⟩
  cases cut : cutExtension name with
  | mk chars extension =>
    obtain rfl : String.ofList chars = stem := by simpa only [cut] using stem_eq
    cases extension with
    | none =>
      obtain rfl : name = chars := cutExtension_eq_self cut
      exact ⟨⟨by simpa using isName.nonempty, by simpa using isName.noSlash⟩, .inl rfl⟩
    | some extension =>
      obtain ⟨rfl, nonempty, noDot⟩ := cutExtension_eq_some cut
      have noSlash : '/' ∉ chars := fun mem => isName.noSlash (List.mem_append_left _ mem)
      refine ⟨⟨by simpa using nonempty, by simpa using noSlash⟩, .inr ⟨String.ofList extension, ?_, ?_⟩⟩
      · simpa using noDot
      · rw [← String.toList_inj]
        simp

/-- The name of a file has nothing but one or two dots before the last dot. -/
def IsDotted (path : String) : Prop :=
  ∃ stem, (stem = "." ∨ stem = "..") ∧ ∃ extension : String, '.' ∉ extension.toList ∧
    name? path = some (stem ++ "." ++ extension)

/-- Such a name has a stem of dots, and no other has. -/
theorem isDotted_iff {path stem : String} (found : stem? path = some stem) :
    IsDotted path ↔ stem = "." ∨ stem = ".." := by
  obtain ⟨name, named, isName, -, whole⟩ := exists_name_of_stem? found
  constructor
  · rintro ⟨dots, isDots, extension, noDot, named⟩
    have nonempty : dots.toList ≠ [] := by
      rcases isDots with rfl | rfl <;> simp
    have cut : cutExtension (dots ++ "." ++ extension).toList = (dots.toList, some extension.toList) := by
      simpa using cutExtension_append nonempty noDot
    rw [stem?_eq_map, named, Option.map_some, cut, String.ofList_toList] at found
    cases found
    exact isDots
  · intro isDots
    rcases whole with rfl | ⟨extension, noDot, rfl⟩
    · rcases isDots with rfl | rfl
      · exact absurd rfl isName.notDot
      · exact absurd rfl isName.notDots
    · exact ⟨stem, isDots, extension, noDot, named⟩

/-- A stem leads down as a name does, unless it is made of one or two dots. -/
theorem IsStem.isName {stem : String} (isStem : IsStem stem.toList)
    (notDots : ¬ (stem = "." ∨ stem = "..")) : IsName stem.toList where
  nonempty := isStem.nonempty
  noSlash := isStem.noSlash
  notDot := fun same => notDots (.inl (String.toList_inj.mp same))
  notDots := fun same => notDots (.inr (String.toList_inj.mp same))

end Path

/-! ## Stores -/

/-- What the store of a stem leads down through. -/
def storeNames (stem : String) : List String :=
  if stem = "." then ["plugins", "config"]
  else if stem = ".." then ["config"]
  else ["plugins", stem, "config"]

theorem plugins_isName : Path.IsName "plugins".toList :=
  ⟨by decide, by decide, by decide, by decide⟩

theorem config_isName : Path.IsName "config".toList :=
  ⟨by decide, by decide, by decide, by decide⟩

/-- Where the store of a stem is, below the folder of the host. -/
theorem resolve_configStorePath {stem : String} (isStem : Path.IsStem stem.toList) (configDir : String) :
    Path.resolve (configStorePath configDir stem) =
      (Path.resolve configDir).below (storeNames stem) := by
  rw [configStorePath, Path.resolve_join config_isName.noSlash, Path.resolve_join isStem.noSlash,
    Path.resolve_join plugins_isName.noSlash, Path.Place.step_of_isName plugins_isName,
    Path.Place.step_of_isName config_isName]
  by_cases dot : stem = "."
  · simp [dot, storeNames, Path.Place.step]
  · by_cases dots : stem = ".."
    · simp [dots, storeNames, Path.Place.step]
    · simp [dot, dots, storeNames, Path.Place.step_of_isName (isStem.isName (by simp [dot, dots]))]

/-- The stores of two stems are in each other's way only if one is a single dot and the other one the
name of the store itself. -/
theorem storeNames_prefix_iff {stem other : String} :
    storeNames stem <+: storeNames other ↔ stem = other ∨ stem = "." ∧ other = "config" := by
  simp only [storeNames]
  -- Each of the stems is one of the two dotted ones or neither; the names are compared one by one.
  split_ifs <;> simp [List.cons_prefix_cons] <;> grind

/-! ## What instances are given -/

/-- The store is inside the folder of the plugins, in a folder that has a name of its own. -/
structure IsConfined (configDir store : String) : Prop where
  named : ∃ name : String, Path.IsName name.toList ∧
    Path.resolve store = (Path.resolve configDir).below ["plugins", name, "config"]
  inside : (Path.resolve (Path.join configDir "plugins")).IsAbove (Path.resolve store)

/-- Two stores are apart: they are not the same, and neither is on the way to the other. -/
structure AreApart (store other : String) : Prop where
  forth : ¬ (Path.resolve store).IsOnWayTo (Path.resolve other)
  back : ¬ (Path.resolve other).IsOnWayTo (Path.resolve store)

theorem isConfined_iff {stem : String} (isStem : Path.IsStem stem.toList) (configDir : String) :
    IsConfined configDir (configStorePath configDir stem) ↔ ¬ (stem = "." ∨ stem = "..") := by
  have place := resolve_configStorePath isStem configDir
  constructor
  · rintro ⟨⟨name, isName, same⟩, -⟩ isDots
    have names := Path.Place.below_injective (place.symm.trans same)
    rcases isDots with rfl | rfl <;> simp [storeNames] at names
  · intro notDots
    have names : storeNames stem = ["plugins", stem, "config"] := by
      rw [not_or] at notDots
      simp [storeNames, notDots]
    rw [names] at place
    refine ⟨⟨stem, isStem.isName notDots, place⟩, [stem, "config"], by simp, ?_⟩
    rw [place, Path.resolve_join (by decide), Path.Place.step_of_isName plugins_isName,
      Path.Place.below_below]
    rfl

theorem areApart_iff {stem other : String} (isStem : Path.IsStem stem.toList)
    (isStem' : Path.IsStem other.toList) (different : stem ≠ other) (configDir : String) :
    AreApart (configStorePath configDir stem) (configStorePath configDir other) ↔
      ¬ (stem = "." ∧ other = "config") ∧ ¬ (other = "." ∧ stem = "config") := by
  have forth : (Path.resolve (configStorePath configDir stem)).IsOnWayTo
      (Path.resolve (configStorePath configDir other)) ↔ stem = "." ∧ other = "config" := by
    rw [resolve_configStorePath isStem, resolve_configStorePath isStem',
      Path.Place.below_isOnWayTo_iff, storeNames_prefix_iff, or_iff_right different]
  have back : (Path.resolve (configStorePath configDir other)).IsOnWayTo
      (Path.resolve (configStorePath configDir stem)) ↔ other = "." ∧ stem = "config" := by
    rw [resolve_configStorePath isStem, resolve_configStorePath isStem',
      Path.Place.below_isOnWayTo_iff, storeNames_prefix_iff, or_iff_right different.symm]
  rw [← forth, ← back]
  exact ⟨fun apart => ⟨apart.forth, apart.back⟩, fun ⟨forth, back⟩ => ⟨forth, back⟩⟩

/-- A descriptor that is read has the stem of its file, and a name. -/
theorem Descriptor.stem_name_of_ofKeyFile {settings : LoaderSettings} {environment : Environment}
    {path : String} {file : KeyFile} {descriptor : Descriptor}
    (read : Descriptor.ofKeyFile settings environment path file = .ok descriptor) :
    Path.stem? path = some descriptor.stem ∧ descriptor.name ≠ "" := by
  unfold Descriptor.ofKeyFile at read
  simp only at read
  split at read
  · cases read
  · split at read
    · cases read
    · rename_i nonempty
      split at read
      · cases read
      · rename_i stem found
        cases read
        exact ⟨found, by simpa [String.isEmpty_iff] using nonempty⟩

/-- What an instance is given for its store is confined unless the name of its descriptor is made of
dots, and apart from what others are given in the same folder of the host, unless one stem is a single
dot and the other one the name of the store. -/
theorem ExtensionContext.store_confined_iff {settings : LoaderSettings} {environment : Environment}
    {path : String} {file : KeyFile} {descriptor : Descriptor}
    (read : Descriptor.ofKeyFile settings environment path file = .ok descriptor)
    (handle : ExtensionHandle) (modulePath configDir : String) :
    (IsConfined configDir (ExtensionContext.make handle descriptor modulePath configDir).configPath ↔
      ¬ Path.IsDotted path) ∧
    ∀ {settings' : LoaderSettings} {environment' : Environment} {path' : String} {file' : KeyFile}
      {other : Descriptor}, Descriptor.ofKeyFile settings' environment' path' file' = .ok other →
      descriptor.stem ≠ other.stem → ∀ (handle' : ExtensionHandle) (modulePath' : String),
        (AreApart (ExtensionContext.make handle descriptor modulePath configDir).configPath
            (ExtensionContext.make handle' other modulePath' configDir).configPath ↔
          ¬ (descriptor.stem = "." ∧ other.stem = "config") ∧
          ¬ (other.stem = "." ∧ descriptor.stem = "config")) := by
  have found := (Descriptor.stem_name_of_ofKeyFile read).1
  obtain ⟨-, -, -, isStem, -⟩ := Path.exists_name_of_stem? found
  constructor
  · rw [Path.isDotted_iff found]
    exact isConfined_iff isStem configDir
  · intro settings' environment' path' file' other read' different handle' modulePath'
    obtain ⟨-, -, -, isStem', -⟩ := Path.exists_name_of_stem?
      (Descriptor.stem_name_of_ofKeyFile read').1
    exact areApart_iff isStem isStem' different configDir

namespace Sample

/-- The key file of a descriptor with a name and nothing else. -/
def nameFile : KeyFile := ⟨⟨[("modproxy", ⟨[("name", "A")]⟩)]⟩⟩

/-- What is read from this key file under a path with a stem. -/
def nameOnly (path stem : String) : Descriptor := ⟨path, stem, "A", "", "", "", "", false⟩

/-- A hidden name with several dots, in a folder of the host that is written with detours: its store is
confined, and apart from that of another descriptor. -/
theorem hidden_store_confined :
    Descriptor.ofKeyFile {} [] "e.d/.a.b.plugin" nameFile = .ok (nameOnly "e.d/.a.b.plugin" ".a.b") ∧
    Descriptor.ofKeyFile {} [] "e/config.plugin" nameFile = .ok (nameOnly "e/config.plugin" "config") ∧
    IsConfined "/h/../c/." (ExtensionContext.make ⟨1⟩ (nameOnly "e.d/.a.b.plugin" ".a.b")
      "e.d/.a.b.so" "/h/../c/.").configPath ∧
    AreApart
      (ExtensionContext.make ⟨1⟩ (nameOnly "e.d/.a.b.plugin" ".a.b") "e.d/.a.b.so" "/h/../c/.").configPath
      (ExtensionContext.make ⟨2⟩ (nameOnly "e/config.plugin" "config") "e/config.so"
        "/h/../c/.").configPath := by
  have read : Descriptor.ofKeyFile {} [] "e.d/.a.b.plugin" nameFile =
    .ok (nameOnly "e.d/.a.b.plugin" ".a.b") := rfl
  have read' : Descriptor.ofKeyFile {} [] "e/config.plugin" nameFile =
    .ok (nameOnly "e/config.plugin" "config") := rfl
  have notDotted : ¬ Path.IsDotted "e.d/.a.b.plugin" := by
    rw [Path.isDotted_iff (Descriptor.stem_name_of_ofKeyFile read).1]
    decide
  obtain ⟨confined, apart⟩ :=
    ExtensionContext.store_confined_iff read ⟨1⟩ "e.d/.a.b.so" "/h/../c/."
  exact ⟨read, read', confined.mpr notDotted, (apart read' (by decide) ⟨2⟩ "e/config.so").mpr (by decide)⟩

/-- A name of dots passes for that of a descriptor.  Its store is outside the folder of the plugins; and
another one is on the way to the store of a sub-extension `config`. -/
theorem dotted_store_not_confined :
    Descriptor.ofKeyFile {} [] "...plugin" nameFile = .ok (nameOnly "...plugin" "..") ∧
    (ExtensionContext.make ⟨1⟩ (nameOnly "...plugin" "..") "...so" "cfg").configPath =
      "cfg/plugins/../config" ∧
    Path.resolve "cfg/plugins/../config" = ⟨false, 0, ["cfg", "config"]⟩ ∧
    ¬ IsConfined "cfg" "cfg/plugins/../config" ∧
    Descriptor.ofKeyFile {} [] "..plugin" nameFile = .ok (nameOnly "..plugin" ".") ∧
    Descriptor.ofKeyFile {} [] "config.plugin" nameFile = .ok (nameOnly "config.plugin" "config") ∧
    ¬ AreApart (ExtensionContext.make ⟨1⟩ (nameOnly "..plugin" ".") ".." "cfg").configPath
      (ExtensionContext.make ⟨2⟩ (nameOnly "config.plugin" "config") "config.so" "cfg").configPath := by
  refine ⟨rfl, rfl, by decide +kernel, ?_, rfl, rfl, ?_⟩
  · rintro ⟨⟨name, -, same⟩, -⟩
    have names : ["cfg", "config"] = ["cfg", "plugins", name, "config"] :=
      congrArg Path.Place.names same
    simp at names
  · intro apart
    exact apart.forth ⟨["config"], by decide +kernel⟩

end Sample

end ExtensionProxy
