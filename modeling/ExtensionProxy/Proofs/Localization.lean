import ExtensionProxy.Proofs.Probing

/-!
# Names in every locale

A localized value is looked up under several keys, the most specific first and the plain one last, and
the first key that is there decides.  What is written under it may be blank: a key that is there is taken,
whatever its value.  So a missing translation falls back to a more general one, and finally to the plain
value, but a blank translation does not; a descriptor whose name is translated by a blank has no name.

Nothing else of what a host accepts has to do with the locale.  Two locales in which a descriptor has a
name, or in which it has none, give the same answers to probing and to loading; and if no translation of
the name is blank, all locales do.
-/

set_option autoImplicit false

namespace ExtensionProxy

/-! ## Which value is taken -/

namespace KeyFile

/-- The keys under which a value is looked up for a locale, in this order. -/
def lookupKeys (key : String) : Option String → List String
  | none => [key]
  | some locale => (localeVariants locale).map (localizedKey key) ++ [key]

/-- The value stands under the first of the keys that is there. -/
def IsTaken (file : KeyFile) (group key : String) (locale : Option String) (value : String) : Prop :=
  ∃ front taken back, lookupKeys key locale = front ++ taken :: back ∧
    (∀ other ∈ front, file.string? group other = none) ∧ file.string? group taken = some value

/-- What is taken for a locale is more than blanks. -/
def IsNamed (file : KeyFile) (group key : String) (locale : Option String) : Prop :=
  ∃ value, file.IsTaken group key locale value ∧ trimText value ≠ ""

variable {file : KeyFile} {group key value : String} {locale : Option String}

theorem localized?_eq_findSome? (file : KeyFile) (group key : String) (locale : Option String) :
    file.localized? group key locale = (lookupKeys key locale).findSome? (file.string? group) := by
  cases locale with
  | none => simp [localized?, lookupKeys]
  | some locale =>
    rw [lookupKeys, List.findSome?_append, List.findSome?_map]
    simp [localized?, Function.comp_def]

theorem localized?_eq_some_iff :
    file.localized? group key locale = some value ↔ file.IsTaken group key locale value := by
  rw [localized?_eq_findSome?, List.findSome?_eq_some_iff, IsTaken]
  simp only [and_comm]

theorem mem_lookupKeys (mem : value ∈ lookupKeys key locale) :
    value = key ∨ ∃ variant, value = localizedKey key variant := by
  cases locale with
  | none => exact .inl (List.mem_singleton.mp mem)
  | some locale =>
    rcases List.mem_append.mp mem with localized | plain
    · obtain ⟨variant, -, rfl⟩ := List.mem_map.mp localized
      exact .inr ⟨variant, rfl⟩
    · exact .inl (List.mem_singleton.mp plain)

/-- A value is taken in every locale if the plain key is there. -/
theorem exists_isTaken {plain : String} (there : file.string? group key = some plain)
    (locale : Option String) : ∃ value, file.IsTaken group key locale value := by
  simp only [← localized?_eq_some_iff, localized?, there]
  cases locale with
  | none => exact ⟨plain, rfl⟩
  | some locale =>
    dsimp only
    cases (localeVariants locale).findSome? fun variant => file.string? group (localizedKey key variant) with
    | none => exact ⟨plain, rfl⟩
    | some value => exact ⟨value, rfl⟩

/-- Without blank values there is something to take in every locale. -/
theorem isNamed_of_translated {plain : String} (there : file.string? group key = some plain)
    (notBlank : trimText plain ≠ "")
    (translated : ∀ variant value, file.string? group (localizedKey key variant) = some value →
      trimText value ≠ "") (locale : Option String) : file.IsNamed group key locale := by
  obtain ⟨value, taken⟩ := exists_isTaken there locale
  refine ⟨value, taken, ?_⟩
  obtain ⟨front, under, back, keys, -, found⟩ := taken
  have among : under ∈ lookupKeys key locale := by
    rw [keys]
    exact List.mem_append_right _ List.mem_cons_self
  rcases mem_lookupKeys among with rfl | ⟨variant, rfl⟩
  · obtain rfl : plain = value := Option.some.inj (there.symm.trans found)
    exact notBlank
  · exact translated variant value found

end KeyFile

/-! ## Descriptors -/

namespace Descriptor

variable {settings : LoaderSettings} {environment : Environment} {path stem value : String}
  {file : KeyFile}

theorem hasGroup_of_string? {group key plain : String} (there : file.string? group key = some plain) :
    file.hasGroup group = true := by
  obtain ⟨entries, found, -⟩ := Option.bind_eq_some_iff.mp there
  rw [KeyFile.hasGroup, OrderedMap.contains, found, Option.isSome_some]

/-- The name that is taken is the name of the descriptor, unless it is blank. -/
theorem ofKeyFile_of_isTaken {plain : String}
    (there : file.string? settings.descriptorGroup "name" = some plain)
    (named : Path.stem? path = some stem)
    (taken : file.IsTaken settings.descriptorGroup "name" (settings.effectiveLocale environment) value) :
    (trimText value ≠ "" → ∃ descriptor,
      ofKeyFile settings environment path file = .ok descriptor ∧ descriptor.name = trimText value) ∧
    (trimText value = "" →
      ofKeyFile settings environment path file = .error (.noDescriptorName path)) := by
  have localized := KeyFile.localized?_eq_some_iff.mpr taken
  constructor
  · intro notBlank
    have nonempty : (trimText value).isEmpty = false := by
      simpa [String.isEmpty_iff] using notBlank
    simp only [ofKeyFile, hasGroup_of_string? there, localized, Option.getD_some, nonempty, named,
      Bool.not_true, Bool.false_eq_true, if_false]
    exact ⟨_, rfl, rfl⟩
  · intro blank
    simp only [ofKeyFile, hasGroup_of_string? there, localized, Option.getD_some, blank,
      Bool.not_true, Bool.false_eq_true, if_false]
    rfl

end Descriptor

/-! ## Accepting in every locale -/

namespace Site

variable {κ μ : Type} {site : Site κ} {path stem plain : String} {file : KeyFile}

/-- The site in another locale. -/
def inLocale (site : Site κ) (locale : Option String) (environment : Environment) : Site κ :=
  { site with settings.loader.locale := locale, environment := environment }

/-- The locale in which names are looked up. -/
def locale (site : Site κ) : Option String :=
  site.settings.loader.effectiveLocale site.environment

/-- A key file with a plain name is a valid descriptor if the name that is taken is not blank. -/
theorem isDescriptor_iff_isNamed (read : KeyFile.ofFile site.files path = .ok file)
    (there : file.string? site.settings.loader.descriptorGroup "name" = some plain)
    (named : Path.stem? path = some stem) :
    site.isDescriptor path = true ↔
      file.IsNamed site.settings.loader.descriptorGroup "name" site.locale := by
  have made : site.descriptor path =
      Descriptor.ofKeyFile site.settings.loader site.environment path file := by
    rw [descriptor, Descriptor.ofFile, read]
  obtain ⟨value, taken⟩ := KeyFile.exists_isTaken there site.locale
  obtain ⟨accepted, refused⟩ := Descriptor.ofKeyFile_of_isTaken there named taken
  rw [isDescriptor, made]
  constructor
  · intro isOk
    refine ⟨value, taken, fun blank => ?_⟩
    rw [refused blank] at isOk
    cases isOk
  · rintro ⟨other, taken', notBlank⟩
    obtain rfl : value = other := Option.some.inj
      ((KeyFile.localized?_eq_some_iff.mpr taken).symm.trans (KeyFile.localized?_eq_some_iff.mpr taken'))
    obtain ⟨descriptor, isOk, -⟩ := accepted notBlank
    rw [isOk]
    rfl

/-- It is one in two locales alike if in both a name is taken that is not blank, or in both one that
is. -/
theorem isDescriptor_inLocale {locale : Option String} {environment : Environment}
    (read : KeyFile.ofFile site.files path = .ok file)
    (there : file.string? site.settings.loader.descriptorGroup "name" = some plain)
    (named : Path.stem? path = some stem)
    (same : file.IsNamed site.settings.loader.descriptorGroup "name" site.locale ↔
      file.IsNamed site.settings.loader.descriptorGroup "name"
        (site.inLocale locale environment).locale) :
    site.isDescriptor path = (site.inLocale locale environment).isDescriptor path := by
  have read' : KeyFile.ofFile (site.inLocale locale environment).files path = .ok file := read
  rw [Bool.eq_iff_iff, isDescriptor_iff_isNamed read there named,
    isDescriptor_iff_isNamed read' there named]
  exact same

end Site

/-- What the locale has to do with a descriptor whose plain name is not blank. -/
structure LocaleDecidesName (κ μ : Type) (group path : String) (file : KeyFile) : Prop where
  /-- In every locale a name is taken: where a translation is missing, a more general one or the plain
  name. -/
  fallsBack : ∀ locale, ∃ value, file.IsTaken group "name" locale value
  /-- The name that is taken is the name of the descriptor, unless it is blank. -/
  accepted : ∀ settings environment, settings.descriptorGroup = group → ∀ value,
    file.IsTaken group "name" (settings.effectiveLocale environment) value → trimText value ≠ "" →
      ∃ descriptor, Descriptor.ofKeyFile settings environment path file = .ok descriptor ∧
        descriptor.name = trimText value ∧ descriptor.name ≠ ""
  /-- If it is blank, there is no descriptor. -/
  refused : ∀ settings environment, settings.descriptorGroup = group → ∀ value,
    file.IsTaken group "name" (settings.effectiveLocale environment) value → trimText value = "" →
      Descriptor.ofKeyFile settings environment path file = .error (.noDescriptorName path)
  /-- If no translation is blank, there is a descriptor with a name in every locale. -/
  everywhere : (∀ variant value, file.string? group (KeyFile.localizedKey "name" variant) = some value →
      trimText value ≠ "") → ∀ settings environment, settings.descriptorGroup = group →
    file.IsNamed group "name" (settings.effectiveLocale environment) ∧
      ∃ descriptor, Descriptor.ofKeyFile settings environment path file = .ok descriptor ∧
        descriptor.name ≠ ""
  /-- Loading is granted in two locales alike, and refused alike, if in both a name is taken that is not
  blank, or in both one that is. -/
  loadedAlike : ∀ (site : Site κ) locale environment, site.settings.loader.descriptorGroup = group →
    KeyFile.ofFile site.files path = .ok file →
    (file.IsNamed group "name" site.locale ↔
      file.IsNamed group "name" (site.inLocale locale environment).locale) →
    ∀ (handle : ExtensionHandle) (s t : State κ μ),
      ((∃ id reached, loadRecord site handle path s = (.ok (some id), reached)) ↔
        ∃ id reached, loadRecord (site.inLocale locale environment) handle path t =
          (.ok (some id), reached)) ∧
      ((∃ reached, loadRecord site handle path s = (.ok none, reached)) ↔
        ∃ reached, loadRecord (site.inLocale locale environment) handle path t = (.ok none, reached))
  /-- So is probing, of what is a descriptor by its extension, if that of modules can be one. -/
  probedAlike : ∀ (site : Site κ) locale environment, site.settings.loader.descriptorGroup = group →
    Path.isExtension site.settings.loader.moduleExtension = true →
    site.settings.loader.classify path = .descriptor → KeyFile.ofFile site.files path = .ok file →
    (file.IsNamed group "name" site.locale ↔
      file.IsNamed group "name" (site.inLocale locale environment).locale) →
    ∀ (s t : State κ μ), (Run.zoom State.benchLens (site.probe path) s).1 =
      (Run.zoom State.benchLens ((site.inLocale locale environment).probe path) t).1

/-- A plain name that is not blank is what every locale falls back to, but not from a blank. -/
theorem localeDecidesName (κ μ : Type) {group path stem plain : String} {file : KeyFile}
    (there : file.string? group "name" = some plain) (notBlank : trimText plain ≠ "")
    (named : Path.stem? path = some stem) : LocaleDecidesName κ μ group path file where
  fallsBack := KeyFile.exists_isTaken there
  accepted := by
    rintro settings environment rfl value taken nonempty
    obtain ⟨descriptor, made, name⟩ := (Descriptor.ofKeyFile_of_isTaken there named taken).1 nonempty
    exact ⟨descriptor, made, name, name ▸ nonempty⟩
  refused := by
    rintro settings environment rfl value taken
    exact (Descriptor.ofKeyFile_of_isTaken there named taken).2
  everywhere := by
    rintro translated settings environment rfl
    have isNamed := KeyFile.isNamed_of_translated there notBlank translated
      (settings.effectiveLocale environment)
    obtain ⟨value, taken, nonempty⟩ := isNamed
    obtain ⟨descriptor, made, name⟩ := (Descriptor.ofKeyFile_of_isTaken there named taken).1 nonempty
    exact ⟨⟨value, taken, nonempty⟩, descriptor, made, name ▸ nonempty⟩
  loadedAlike := by
    rintro site locale environment rfl read same handle s t
    have valid := Site.isDescriptor_inLocale read there named same
    constructor
    · rw [loadRecord_loads_iff, loadRecord_loads_iff, valid]
      exact Iff.rfl
    · rw [loadRecord_refuses_iff, loadRecord_refuses_iff, valid]
  probedAlike := by
    rintro site locale environment rfl extension kind read same s t
    let other := site.inLocale locale environment
    have extension' : Path.isExtension other.settings.loader.moduleExtension = true := extension
    have kind' : other.settings.loader.classify path = .descriptor := kind
    have valid := Site.isDescriptor_inLocale read there named same
    have here := Site.probe_descriptor_gives kind (Site.counterpart_of_descriptor extension kind)
    have away := Site.probe_descriptor_gives kind' (Site.counterpart_of_descriptor extension' kind')
    rw [Run.zoom_fst, Run.zoom_fst, here, away, ← valid]
    rfl

/-- A name with one translation. -/
def translatedFile : KeyFile :=
  ⟨⟨[("modproxy", ⟨[("name", "A"), ("name[de]", "B")]⟩)]⟩⟩

theorem translatedFile_localeDecidesName :
    KeyFile.parse "[modproxy]\nname=A\nname[de]=B" = .ok translatedFile ∧
      LocaleDecidesName Unit Unit "modproxy" "a.plugin" translatedFile := by
  have there : translatedFile.string? "modproxy" "name" = some "A" := rfl
  have named : Path.stem? "a.plugin" = some "a" := rfl
  exact ⟨rfl, localeDecidesName Unit Unit there (by decide) named⟩

/-- A name that is translated by a blank: there is no descriptor in that locale, although there is one in
others. -/
theorem blank_translation_refused :
    ∃ file, KeyFile.parse "[modproxy]\nname=A\nname[de]=\n" = .ok file ∧
      file.string? "modproxy" "name" = some "A" ∧ trimText "A" ≠ "" ∧
      Path.stem? "a.plugin" = some "a" ∧
      Descriptor.ofKeyFile { locale := some "de" } [] "a.plugin" file =
        .error (.noDescriptorName "a.plugin") ∧
      (Descriptor.ofKeyFile { locale := some "fr" } [] "a.plugin" file).isOk = true :=
  ⟨⟨⟨[("modproxy", ⟨[("name", "A"), ("name[de]", "")]⟩)]⟩⟩, rfl, rfl, by decide, rfl, rfl, rfl⟩

end ExtensionProxy
