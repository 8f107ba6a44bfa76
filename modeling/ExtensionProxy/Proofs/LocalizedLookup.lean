import Mathlib.Data.List.ReduceOption
import ExtensionProxy.Proofs.KeyFile.Contents
import ExtensionProxy.Proofs.Localization

/-!
# Look-up in a locale

A locale is cut twice on its way to a value: what the user has set loses its codeset, and what is left is
cut again into the forms under which a value may be localized.  Both cuts are at the first modifier sign,
so that what is cut the second time is what the first cut left, whatever separators stand in the modifier
and in the country.  Together they give the documented order of the candidates, from the language with
its country and modifier down to the plain key, without those that need a part the locale does not have.

The candidates of a locale differ from each other.  So what stands under a less specific one, or under a
name that is no candidate, has no part in the look-up.
-/

set_option autoImplicit false

namespace ExtensionProxy

/-! ## Written locales -/

/-- A locale `language_COUNTRY.codeset@modifier`, other than those that stand for no locale. -/
structure Locale where
  language : String
  country : Option String := none
  codeset : Option String := none
  modifier : Option String := none
  language_ne : language ≠ ""
  language_plain : '_' ∉ language.toList ∧ '.' ∉ language.toList ∧ '@' ∉ language.toList
  country_plain : ∀ text : String, country = some text → '.' ∉ text.toList ∧ '@' ∉ text.toList
  codeset_plain : ∀ text : String, codeset = some text → '@' ∉ text.toList
  not_neutral : language ++ country.elim "" ("_" ++ ·) ∉ ["C", "POSIX"]

namespace Locale

/-- Language and country. -/
def base (locale : Locale) : String := locale.language ++ locale.country.elim "" ("_" ++ ·)

/-- The locale without its codeset. -/
def plain (locale : Locale) : String := locale.base ++ locale.modifier.elim "" ("@" ++ ·)

/-- The locale as it is written. -/
def text (locale : Locale) : String :=
  locale.base ++ locale.codeset.elim "" ("." ++ ·) ++ locale.modifier.elim "" ("@" ++ ·)

/-- The forms under which a value may be localized, the most specific first.  A form that names a missing
part is left out. -/
def forms (locale : Locale) : List String :=
  [ do return locale.language ++ "_" ++ (← locale.country) ++ "@" ++ (← locale.modifier),
    do return locale.language ++ "_" ++ (← locale.country),
    do return locale.language ++ "@" ++ (← locale.modifier),
    some locale.language ].reduceOption

/-- The names under which the value of a key is looked up, the key itself last. -/
def candidates (locale : Locale) (key : String) : List String :=
  (locale.forms.map fun form => key ++ "[" ++ form ++ "]") ++ [key]

end Locale

/-! ## The two cuts -/

variable {base : List Char}

/-- The modifier sign that cuts is the first one: others belong to the modifier. -/
theorem cutModifier_append (absent : '@' ∉ base) (modifier : Option (List Char)) :
    cutModifier (base ++ modifier.elim [] ('@' :: ·)) = (base, modifier) := by
  cases modifier with
  | none => simp [cutModifier, splitFirst_eq_none_iff.mpr absent]
  | some modifier => simp [cutModifier, splitFirst_append absent]

theorem eq_append_of_cutModifier {locale : List Char} {modifier : Option (List Char)}
    (cut : cutModifier locale = (base, modifier)) :
    locale = base ++ modifier.elim [] ('@' :: ·) ∧ '@' ∉ base := by
  rw [cutModifier] at cut
  split at cut
  · rename_i parts
    cases cut
    exact eq_append_of_splitFirst parts
  · rename_i whole
    cases cut
    exact ⟨(List.append_nil _).symm, splitFirst_eq_none_iff.mp whole⟩

/-- A codeset is cut off, and nothing else. -/
theorem normalizeLocale_parts (noDot : '.' ∉ base) (noSign : '@' ∉ base)
    (notNeutral : base ∉ [[], "C".toList, "POSIX".toList]) {codeset : Option (List Char)}
    (plain : ∀ text : List Char, codeset = some text → '@' ∉ text) (modifier : Option (List Char)) :
    normalizeLocale (.ofList (base ++ codeset.elim [] ('.' :: ·) ++ modifier.elim [] ('@' :: ·))) =
      some (.ofList (base ++ modifier.elim [] ('@' :: ·))) := by
  have noSign' : '@' ∉ base ++ codeset.elim [] ('.' :: ·) := by
    cases codeset with
    | none => simpa using noSign
    | some text => simp [noSign, plain text rfl]
  have before : beforeFirst '.' (base ++ codeset.elim [] ('.' :: ·)) = base := by
    cases codeset with
    | none => simpa using beforeFirst_of_notMem noDot
    | some text => exact beforeFirst_append noDot text
  have named : (base.isEmpty || base == "C".toList || base == "POSIX".toList) = false := by
    simpa [and_assoc] using notNeutral
  simp only [normalizeLocale, String.toList_ofList, cutModifier_append noSign', before, named]
  cases modifier <;> simp

/-- What is left has no codeset, so nothing more is cut off. -/
theorem normalizeLocale_idempotent {raw normal : String} (left : normalizeLocale raw = some normal) :
    normalizeLocale normal = some normal := by
  obtain ⟨whole, modifier, cut⟩ : ∃ whole modifier, cutModifier raw.toList = (whole, modifier) :=
    ⟨_, _, rfl⟩
  obtain ⟨-, noSign⟩ := eq_append_of_cutModifier cut
  have absent : '@' ∉ beforeFirst '.' whole := fun mem =>
    noSign ((List.takeWhile_prefix _).subset mem)
  simp only [normalizeLocale, cut] at left
  split at left
  · cases left
  · rename_i named
    have noCodeset : ∀ text : List Char, none = some text → '@' ∉ text := by simp
    have again := normalizeLocale_parts (notMem_beforeFirst '.' whole) absent
      (by simpa [and_assoc] using named) noCodeset modifier
    cases modifier <;> simpa [← Option.some.inj left] using again

/-- The forms of a locale, from its parts. -/
theorem localeVariants_parts {language : List Char} {country : Option (List Char)}
    (noRule : '_' ∉ language) (noSign : '@' ∉ language ++ country.elim [] ('_' :: ·))
    (modifier : Option (List Char)) :
    localeVariants (.ofList (language ++ country.elim [] ('_' :: ·) ++ modifier.elim [] ('@' :: ·))) =
      ([ do return language ++ '_' :: (← country) ++ '@' :: (← modifier),
        do return language ++ '_' :: (← country),
        do return language ++ '@' :: (← modifier),
        some language ].reduceOption).map .ofList := by
  have before : beforeFirst '_' (language ++ country.elim [] ('_' :: ·)) = language := by
    cases country with
    | none => simpa using beforeFirst_of_notMem noRule
    | some country => exact beforeFirst_append noRule country
  simp only [localeVariants, String.toList_ofList, cutModifier_append noSign, before]
  cases country <;> cases modifier <;> simp

namespace Locale

variable (locale : Locale)

theorem base_plain : '.' ∉ locale.base.toList ∧ '@' ∉ locale.base.toList := by
  obtain ⟨-, noDot, noSign⟩ := locale.language_plain
  cases named : locale.country with
  | none => simp [base, named, noDot, noSign]
  | some country => simp [base, named, noDot, noSign, locale.country_plain country named]

theorem base_toList : locale.base.toList =
    locale.language.toList ++ (locale.country.map String.toList).elim [] ('_' :: ·) := by
  cases named : locale.country <;> simp [base, named]

theorem plain_toList : locale.plain.toList =
    locale.base.toList ++ (locale.modifier.map String.toList).elim [] ('@' :: ·) := by
  cases named : locale.modifier <;> simp [plain, named]

theorem text_toList : locale.text.toList =
    locale.base.toList ++ (locale.codeset.map String.toList).elim [] ('.' :: ·) ++
      (locale.modifier.map String.toList).elim [] ('@' :: ·) := by
  cases coded : locale.codeset <;> cases named : locale.modifier <;> simp [text, coded, named]

/-- Normalizing takes the codeset away. -/
theorem normalizeLocale_text : normalizeLocale locale.text = some locale.plain := by
  obtain ⟨noDot, noSign⟩ := locale.base_plain
  have nonempty : locale.base ≠ "" := by simp [base, locale.language_ne]
  have notNeutral : locale.base.toList ∉ [[], "C".toList, "POSIX".toList] := by
    have named : locale.base ∉ ["C", "POSIX"] := locale.not_neutral
    rw [← String.toList_empty]
    simpa only [List.mem_cons, String.toList_inj, nonempty, false_or, List.not_mem_nil] using named
  have plain : ∀ text, locale.codeset.map String.toList = some text → '@' ∉ text := by
    intro text coded
    obtain ⟨codeset, given, rfl⟩ := Option.map_eq_some_iff.mp coded
    exact locale.codeset_plain codeset given
  have cut := normalizeLocale_parts noDot noSign notNeutral plain (locale.modifier.map String.toList)
  rwa [← text_toList, ← plain_toList, String.ofList_toList, String.ofList_toList] at cut

/-- The forms of what is left are those of the locale. -/
theorem localeVariants_plain : localeVariants locale.plain = locale.forms := by
  have noSign := locale.base_plain.2
  rw [base_toList] at noSign
  have cut := localeVariants_parts locale.language_plain.1 noSign (locale.modifier.map String.toList)
  rw [← base_toList, ← plain_toList, String.ofList_toList] at cut
  rw [cut, forms]
  cases locale.country <;> cases locale.modifier <;> simp [← String.toList_inj]

theorem lookupKeys_plain (key : String) :
    KeyFile.lookupKeys key (some locale.plain) = locale.candidates key := by
  rw [KeyFile.lookupKeys, localeVariants_plain]
  rfl

/-- No two forms are the same. -/
theorem forms_nodup : locale.forms.Nodup := by
  rw [forms]
  cases locale.country <;> cases locale.modifier <;> simp [← String.toList_inj]

theorem bracketed_injective (key : String) :
    Function.Injective fun form => key ++ "[" ++ form ++ "]" := by
  intro form other same
  simpa using same

/-- A key in brackets is not the key. -/
theorem bracketed_ne (key form : String) : key ++ "[" ++ form ++ "]" ≠ key := by
  simp [← String.toList_inj]

theorem candidates_nodup (key : String) : (locale.candidates key).Nodup := by
  refine List.nodup_append.mpr
    ⟨locale.forms_nodup.map (bracketed_injective key), List.nodup_singleton key, ?_⟩
  intro name mem plain isKey
  obtain ⟨form, -, rfl⟩ := List.mem_map.mp mem
  rw [List.mem_singleton.mp isKey]
  exact bracketed_ne key form

theorem bracketed_mem_candidates {key form : String} :
    key ++ "[" ++ form ++ "]" ∈ locale.candidates key ↔ form ∈ locale.forms := by
  rw [candidates, List.mem_append, List.mem_map_of_injective (bracketed_injective key),
    List.mem_singleton]
  simp [bracketed_ne]

end Locale

/-! ## Where the locale comes from -/

/-- The text is set as the locale, or it is the first of the variables for it that is not empty. -/
inductive LoaderSettings.Names (settings : LoaderSettings) (environment : Environment) (raw : String) :
    Prop
  | set (isSet : settings.locale = some raw)
  | inherited {before after : List String} {name : String} (unset : settings.locale = none)
      (order : ["LC_ALL", "LC_MESSAGES", "LANG"] = before ++ name :: after)
      (passed : ∀ other ∈ before, ∀ value, environment.get? other = some value → value = "")
      (named : environment.get? name = some raw) (notEmpty : raw ≠ "")

theorem Environment.locale_eq_some_iff {environment : Environment} {raw : String} :
    environment.locale = some raw ↔
      ∃ before name after, ["LC_ALL", "LC_MESSAGES", "LANG"] = before ++ name :: after ∧
        (∀ other ∈ before, ∀ value, environment.get? other = some value → value = "") ∧
        environment.get? name = some raw ∧ raw ≠ "" := by
  rw [locale, localeVariables, List.findSome?_eq_some_iff]
  simp [Option.filter_eq_some_iff, Option.filter_eq_none_iff, and_comm, and_assoc]

theorem LoaderSettings.effectiveLocale_of_names {settings : LoaderSettings} {environment : Environment}
    {raw : String} (names : settings.Names environment raw) :
    settings.effectiveLocale environment = normalizeLocale raw := by
  cases names with
  | set isSet => simp [effectiveLocale, isSet]
  | inherited unset order passed named notEmpty =>
    have isLocale := Environment.locale_eq_some_iff.mpr ⟨_, _, _, order, passed, named, notEmpty⟩
    simp [effectiveLocale, unset, isLocale]

/-! ## What a look-up depends on -/

namespace KeyFile

variable {file : KeyFile} {group key name : String} {locale : Option String}

/-- The value stands under the first of the names that is there. -/
def IsFirst (file : KeyFile) (group : String) (names : List String) (value : String) : Prop :=
  ∃ front taken back, names = front ++ taken :: back ∧
    (∀ other ∈ front, file.string? group other = none) ∧ file.string? group taken = some value

/-- A search that ends at an element depends on what is looked at until then. -/
theorem findSome?_append_cons_congr {α β : Type} {f g : α → Option β} {front : List α} {last : α}
    (ends : f last ≠ none) (same : ∀ x ∈ front ++ [last], g x = f x) (back : List α) :
    (front ++ last :: back).findSome? g = (front ++ last :: back).findSome? f := by
  induction front with
  | nil =>
    obtain ⟨value, found⟩ := Option.ne_none_iff_exists'.mp ends
    have found' : g last = some value := (same last (by simp)).trans found
    simp [found, found']
  | cons first front ih =>
    have rest := ih fun x mem => same x (List.mem_cons_of_mem first mem)
    rw [List.cons_append, List.findSome?_cons, List.findSome?_cons, same first (by simp), rest]

/-- What is written below the key at which a look-up ends is not looked at. -/
theorem localized?_set_of_ends {front back : List String} {taken : String}
    (keys : lookupKeys key locale = front ++ taken :: back) (ends : file.string? group taken ≠ none)
    (notLooked : name ∉ front ++ [taken]) (text : String) :
    (file.set group name text).localized? group key locale = file.localized? group key locale := by
  rw [localized?_eq_findSome?, localized?_eq_findSome?, keys]
  refine findSome?_append_cons_congr ends (fun other mem => ?_) back
  rw [string?_set, if_neg]
  rintro ⟨-, rfl⟩
  exact notLooked mem

/-- What is written in another group, or under a name that is no key of the look-up, is not looked at. -/
theorem localized?_set_of_notMem {group' : String}
    (notLooked : group' ≠ group ∨ name ∉ lookupKeys key locale) (text : String) :
    (file.set group' name text).localized? group key locale = file.localized? group key locale := by
  rw [localized?_eq_findSome?, localized?_eq_findSome?]
  have same : ∀ other ∈ lookupKeys key locale,
      (file.set group' name text).string? group other = file.string? group other := by
    intro other mem
    rw [string?_set, if_neg]
    rintro ⟨rfl, rfl⟩
    exact notLooked.elim (· rfl) (· mem)
  rw [← List.head?_filterMap, ← List.head?_filterMap, List.filterMap_congr same]

end KeyFile

/-! ## The order of look-up -/

/-- How the values of keys are looked up in a locale, if `effective` is what is left of it. -/
structure Locale.LookedUp (locale : Locale) (effective : Option String) : Prop where
  /-- Normalizing takes the codeset away and nothing else. -/
  normal : effective = some locale.plain
  /-- Normalizing once more changes nothing. -/
  settled : effective.bind normalizeLocale = effective
  /-- With another codeset, or without one, the same is left. -/
  anyCodeset : ∀ other : Locale, other.language = locale.language → other.country = locale.country →
    other.modifier = locale.modifier → ∀ (settings : LoaderSettings) (environment : Environment),
      settings.Names environment other.text → settings.effectiveLocale environment = effective
  /-- The value is that of the first candidate that is there. -/
  first : ∀ (file : KeyFile) group key value, file.localized? group key effective = some value ↔
    file.IsFirst group (locale.candidates key) value
  /-- There is no value if and only if no candidate is there. -/
  missing : ∀ (file : KeyFile) group key, file.localized? group key effective = none ↔
    ∀ name ∈ locale.candidates key, file.string? group name = none
  /-- If a candidate is there, what is written under a less specific one has no effect. -/
  lessSpecific : ∀ (file : KeyFile) group key front taken back,
    locale.candidates key = front ++ taken :: back → file.string? group taken ≠ none →
      ∀ name ∈ back, ∀ text,
        (file.set group name text).localized? group key effective = file.localized? group key effective
  /-- What is written for another locale has no effect. -/
  otherLocale : ∀ (file : KeyFile) group key, ∀ form ∉ locale.forms, ∀ text,
    (file.set group (key ++ "[" ++ form ++ "]") text).localized? group key effective =
      file.localized? group key effective
  /-- Nor has any other entry. -/
  otherEntry : ∀ (file : KeyFile) group key group' name,
    group' ≠ group ∨ name ∉ locale.candidates key → ∀ text,
      (file.set group' name text).localized? group key effective = file.localized? group key effective

/-- In every locale, whether it is set or inherited, values are looked up from the most specific
candidate to the plain key. -/
theorem Locale.lookedUp_of_names {locale : Locale} {settings : LoaderSettings}
    {environment : Environment} (names : settings.Names environment locale.text) :
    locale.LookedUp (settings.effectiveLocale environment) := by
  have effective : settings.effectiveLocale environment = some locale.plain :=
    (LoaderSettings.effectiveLocale_of_names names).trans locale.normalizeLocale_text
  rw [effective]
  exact {
    normal := rfl
    settled := normalizeLocale_idempotent locale.normalizeLocale_text
    anyCodeset := by
      intro other language country modifier settings' environment' names'
      rw [LoaderSettings.effectiveLocale_of_names names', other.normalizeLocale_text]
      simp only [plain, base, language, country, modifier]
    first := by
      intro file group key value
      rw [KeyFile.localized?_eq_some_iff, KeyFile.IsTaken, locale.lookupKeys_plain]
      rfl
    missing := by
      intro file group key
      rw [KeyFile.localized?_eq_findSome?, List.findSome?_eq_none_iff, locale.lookupKeys_plain]
    lessSpecific := by
      intro file group key front taken back order there name below text
      have keys := (locale.lookupKeys_plain key).trans order
      refine KeyFile.localized?_set_of_ends keys there (fun above => ?_) text
      -- The candidates are distinct: one below the taken one is none of those above.
      have distinct := locale.candidates_nodup key
      rw [order, List.append_cons] at distinct
      exact (List.nodup_append.mp distinct).2.2 name above name below rfl
    otherLocale := by
      intro file group key form absent text
      refine KeyFile.localized?_set_of_notMem (.inr fun mem => ?_) text
      rw [locale.lookupKeys_plain] at mem
      exact absent (locale.bracketed_mem_candidates.mp mem)
    otherEntry := by
      intro file group key group' name absent text
      rw [← locale.lookupKeys_plain] at absent
      exact KeyFile.localized?_set_of_notMem absent text }

/-- A locale with all its parts. -/
def Locale.serbian : Locale where
  language := "sr"
  country := some "RS"
  codeset := some "UTF-8"
  modifier := some "latin"
  language_ne := by decide
  language_plain := by decide
  country_plain := by rintro _ ⟨⟩; decide
  codeset_plain := by rintro _ ⟨⟩; decide
  not_neutral := by decide

/-- An environment that names it. -/
def Locale.serbianEnvironment : Environment := [("LC_ALL", ""), ("LANG", "sr_RS.UTF-8@latin")]

theorem Locale.serbian_lookedUp :
    serbian.text = "sr_RS.UTF-8@latin" ∧
      LoaderSettings.Names {} serbianEnvironment serbian.text ∧
      serbian.LookedUp (LoaderSettings.effectiveLocale {} serbianEnvironment) ∧
      serbian.candidates "name" =
        ["name[sr_RS@latin]", "name[sr_RS]", "name[sr@latin]", "name[sr]", "name"] := by
  have order : ["LC_ALL", "LC_MESSAGES", "LANG"] = ["LC_ALL", "LC_MESSAGES"] ++ "LANG" :: [] := rfl
  have names : LoaderSettings.Names {} serbianEnvironment serbian.text :=
    .inherited rfl order (by decide) rfl (by decide)
  exact ⟨rfl, names, lookedUp_of_names names, rfl⟩

end ExtensionProxy
