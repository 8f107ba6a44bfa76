import ExtensionProxy.Configuration.Load
import ExtensionProxy.Proofs.Text

/-!
# Where settings come from

A setting is given by the environment, else by the file, else by its default.  Which source decides is as
documented: variables are laid over the file entry by entry, so that what no variable names stays as the
file has it.  There are two exceptions.  A section that the file writes as a list has no entries by name,
and the first variable that reaches into the section puts a table in the place of the list.  And a variable
that names a whole section puts its own value in the place of everything that was laid there before.

What decides need not arrive as it was written.  Every setting is a text, and a text in a file stays as
it is; the text of a variable is read as a truth value or a number if it looks like one, and what comes
out is what that value is written as.  So a text arrives from a variable unchanged exactly if it is
verbatim: if it reads as nothing else, or as something that is written just so.  All defaults are.

How sources are laid over each other and how a variable is read is what the configuration library does; it
is assumed here as its documentation has it (`ConfigValue.layer`, `Environment.named`,
`ConfigValue.ofVariable`).  The library takes variables in an order of its own.  An environment is a list of
them in that order, and what is proved holds of every such list.  Only variables that lead to a place in a
section by its number are left out: they make a list of the section, in which settings have no names.
-/

set_option autoImplicit false

namespace ExtensionProxy

/-! ## Settings by name -/

/-- A setting by its name. -/
inductive Setting where
  | descriptorGroup
  | descriptorExtension
  | moduleExtension
  | factorySymbol
  | locale
  | level
  | format
  deriving DecidableEq, Repr

namespace Setting

/-- The name of the section in which it stands. -/
def home : Setting → String
  | .level | .format => "logging"
  | _ => "loader"

/-- Its place in the section. -/
def place : Setting → Nat
  | .descriptorGroup => 0
  | .descriptorExtension => 1
  | .moduleExtension => 2
  | .factorySymbol => 3
  | .locale => 4
  | .level => 0
  | .format => 1

/-- Its name in the section. -/
def name : Setting → String
  | .descriptorGroup => "descriptor_group"
  | .descriptorExtension => "descriptor_extension"
  | .moduleExtension => "module_extension"
  | .factorySymbol => "factory_symbol"
  | .locale => "locale"
  | .level => "level"
  | .format => "format"

/-- What it is set to; only the locale may be set to nothing. -/
def get : Setting → Settings → Option String
  | .descriptorGroup, settings => some settings.loader.descriptorGroup
  | .descriptorExtension, settings => some settings.loader.descriptorExtension
  | .moduleExtension, settings => some settings.loader.moduleExtension
  | .factorySymbol, settings => some settings.loader.factorySymbol
  | .locale, settings => settings.loader.locale
  | .level, settings => some settings.logging.level
  | .format, settings => some settings.logging.format

/-- What it is if nobody sets it. -/
def default (setting : Setting) : Option String := setting.get {}

/-- The way to it from the whole configuration. -/
def way (setting : Setting) : List ConfigStep := [.key setting.home, .key setting.name]

/-- The variable that is documented for it. -/
def variableName (setting : Setting) : String :=
  "MODPROXY__" ++ setting.home.toUpper ++ "__" ++ setting.name.toUpper

end Setting

/-! ## What the sources give -/

/-- The way that the name of a variable tells, if it names a setting. -/
def wayOfVariable? (name : String) : Option (List ConfigStep) :=
  (settingName? name).map ConfigStep.ofText

/-- The documented variable leads to the setting. -/
theorem wayOfVariable?_variableName (setting : Setting) :
    wayOfVariable? setting.variableName = some setting.way := by
  cases setting <;> decide +kernel

namespace Environment

variable (environment : Environment)

/-- The text of the last variable that leads some way. -/
def lastText? (way : List ConfigStep) : Option String :=
  ((environment.filter fun entry => wayOfVariable? entry.1 = some way).getLast?).map Prod.snd

/-- Some variable leads into a section. -/
def Reaches (home : String) : Prop :=
  ∃ entry ∈ environment, ∃ rest, wayOfVariable? entry.1 = some (.key home :: rest)

/-- No variable leads to a place in a section by its number. -/
def NamesEntries : Prop :=
  ∀ entry ∈ environment, ∀ (setting : Setting) number rest,
    wayOfVariable? entry.1 ≠ some (.key setting.home :: .index number :: rest)

/-- Some variable names a whole section. -/
def NamesWhole (home : String) : Prop :=
  ∃ entry ∈ environment, wayOfVariable? entry.1 = some [.key home]

instance (home : String) : Decidable (NamesWhole environment home) :=
  inferInstanceAs (Decidable (∃ entry ∈ environment, wayOfVariable? entry.1 = some [.key home]))

/-- The variables that come after all those that name a whole section. -/
def since (home : String) : Environment :=
  (environment.reverse.takeWhile fun entry => wayOfVariable? entry.1 ≠ some [.key home]).reverse

end Environment

namespace ConfigValue

/-- The text of what is given for a setting, or the default if nothing is. -/
def textOr (default : Option String) : Option ConfigValue → Option String
  | none => default
  | some .missing => default
  | some value => value.text?

/-- The value of a setting in a section, if there is the section. -/
def settingIn (entries : List (String × ConfigValue)) (setting : Setting) : Option ConfigValue :=
  (get? entries setting.home).bind (setting? setting.place setting.name)

end ConfigValue

/-- The entries of a file laid out: a name with dots in it is the way to an entry of a section. -/
def laidOut (fromFile : List (String × ConfigValue)) : List (String × ConfigValue) :=
  ((ConfigValue.table []).layer fromFile).entries

/-- The entries of the file that is loaded; none without a file. -/
def entriesToLoad {κ : Type} (files : FileTree κ) (path : Option String) :
    Except Cause (List (String × ConfigValue)) :=
  (path.map (fileEntries files)).getD (.ok [])

namespace Setting

variable (setting : Setting) (fromFile : List (String × ConfigValue)) (environment : Environment)

/-- What the file gives for a setting. -/
def fileValue? : Option ConfigValue := ConfigValue.settingIn (laidOut fromFile) setting

/-- The text of the highest source that gives a setting, or the default if none does. -/
def given : Option String :=
  (environment.lastText? setting.way).or
    (ConfigValue.textOr setting.default (setting.fileValue? fromFile))

/-- The last text for a setting that no variable for the whole section puts aside. -/
def lastText? : Option String := (environment.since setting.home).lastText? setting.way

/-- What the file gives for the section is put aside: some variable names the section, or some variable
leads into it and the file writes it as a list. -/
def Discarded : Prop :=
  environment.NamesWhole setting.home ∨ environment.Reaches setting.home ∧
    ∃ items, ConfigValue.get? (laidOut fromFile) setting.home = some (.list items)

end Setting

/-- A text that reads as nothing else, or as a value that is written just so. -/
structure Verbatim (text : String) : Prop where
  truth : text.toLower = "true" → text = "true"
  falsity : text.toLower = "false" → text = "false"
  integer : ∀ value, readInt64? text = some value → text = toString value
  fractional : readInt64? text = none → ∀ value, readNumeral? text = some value → text = value.display

/-- For a text that is no truth value it is only a matter of numbers. -/
theorem verbatim_of_notTruth {text : String} (notTrue : text.toLower ≠ "true")
    (notFalse : text.toLower ≠ "false") (integer : ∀ value, readInt64? text = some value →
      text = toString value) (fractional : readInt64? text = none → ∀ value,
      readNumeral? text = some value → text = value.display) : Verbatim text where
  truth := fun isTrue => absurd isTrue notTrue
  falsity := fun isFalse => absurd isFalse notFalse
  integer := integer
  fractional := fractional

/-! ## Words -/

/-- A sign that no numeral has. -/
def IsWordSign (c : Char) : Prop := c.isDigit = false ∧ c ∉ ['+', '-', '.', 'e', 'E']

instance (c : Char) : Decidable (IsWordSign c) :=
  inferInstanceAs (Decidable (c.isDigit = false ∧ c ∉ ['+', '-', '.', 'e', 'E']))

section

variable {c : Char} {chars : List Char}

theorem digitsValue?_eq_none (mem : c ∈ chars) (notDigit : c.isDigit = false) :
    digitsValue? chars = none := by
  rw [digitsValue?, if_pos]
  have mixed : chars.all Char.isDigit = false :=
    List.all_eq_false.mpr ⟨c, mem, by simp [notDigit]⟩
  simp [mixed]

theorem readSigned?_eq_none (mem : c ∈ chars) (isWord : IsWordSign c) : readSigned? chars = none := by
  obtain ⟨notDigit, noSign⟩ := isWord
  simp only [List.mem_cons, List.not_mem_nil, or_false, not_or] at noSign
  unfold readSigned?
  split
  · rw [digitsValue?_eq_none (List.mem_of_ne_of_mem noSign.2.1 mem) notDigit]
    rfl
  · rw [digitsValue?_eq_none (List.mem_of_ne_of_mem noSign.1 mem) notDigit]
    rfl
  · rw [digitsValue?_eq_none mem notDigit]
    rfl

theorem mem_readSign (mem : c ∈ chars) (isWord : IsWordSign c) : c ∈ (readSign chars).2 := by
  obtain ⟨-, noSign⟩ := isWord
  simp only [List.mem_cons, List.not_mem_nil, or_false, not_or] at noSign
  unfold readSign
  split
  · exact List.mem_of_ne_of_mem noSign.2.1 mem
  · exact List.mem_of_ne_of_mem noSign.1 mem
  · exact mem

/-- Whether a sign may stand before the letter of a power of ten. -/
def isMantissaSign (c : Char) : Bool := c ≠ 'e' ∧ c ≠ 'E'

theorem cutPower_eq (chars : List Char) :
    cutPower chars = (chars.takeWhile isMantissaSign, (chars.dropWhile isMantissaSign).tail?) := by
  have rest : chars.drop (chars.takeWhile isMantissaSign).length = chars.dropWhile isMantissaSign := by
    have parts : chars.takeWhile isMantissaSign ++ chars.dropWhile isMantissaSign = chars :=
      List.takeWhile_append_dropWhile
    have dropped := @List.drop_left _ (chars.takeWhile isMantissaSign) (chars.dropWhile isMantissaSign)
    rwa [parts] at dropped
  unfold cutPower
  simp only [← isMantissaSign.eq_def, rest]
  cases chars.dropWhile isMantissaSign <;> rfl

/-- Only the letter before the power of ten is cut out of a numeral. -/
theorem mem_cutPower (mem : c ∈ chars) (isWord : IsWordSign c) :
    c ∈ (cutPower chars).1 ∨ ∃ power, (cutPower chars).2 = some power ∧ c ∈ power := by
  obtain ⟨-, noSign⟩ := isWord
  simp only [List.mem_cons, List.not_mem_nil, or_false, not_or] at noSign
  have before : isMantissaSign c = true := by simp [isMantissaSign, noSign]
  have stops := List.head?_dropWhile_not isMantissaSign chars
  rw [← @List.takeWhile_append_dropWhile _ isMantissaSign chars, List.mem_append] at mem
  rw [cutPower_eq]
  refine mem.imp id fun mem => ?_
  cases rest : chars.dropWhile isMantissaSign with
  | nil => simp [rest] at mem
  | cons first power =>
    refine ⟨power, rfl, ?_⟩
    rw [rest] at mem stops
    rcases List.mem_cons.mp mem with rfl | mem
    · simp [before] at stops
    · exact mem

theorem readFinite?_eq_none (mem : c ∈ chars) (isWord : IsWordSign c) (negative : Bool) :
    readFinite? negative chars = none := by
  have inPart := mem_cutPower mem isWord
  obtain ⟨mantissa, power, cut⟩ : ∃ mantissa power, cutPower chars = (mantissa, power) := ⟨_, _, rfl⟩
  obtain ⟨whole, fraction, split⟩ :
      ∃ whole fraction, (splitFirst '.' mantissa).getD (mantissa, []) = (whole, fraction) := ⟨_, _, rfl⟩
  have digits : c ∈ mantissa → digitsValue? (whole ++ fraction) = none := by
    intro inMantissa
    refine digitsValue?_eq_none ?_ isWord.1
    cases found : splitFirst '.' mantissa with
    | none =>
      rw [found, Option.getD_none, Prod.mk.injEq] at split
      exact List.mem_append_left _ (split.1 ▸ inMantissa)
    | some parts =>
      rw [found, Option.getD_some] at split
      obtain ⟨parted, -⟩ := eq_append_of_splitFirst (found.trans (congrArg some split))
      have notPoint : c ≠ '.' := fun same => isWord.2 (by simp [same])
      rw [parted, List.mem_append, List.mem_cons] at inMantissa
      exact List.mem_append.mpr (inMantissa.imp id fun mem => mem.resolve_left notPoint)
  rw [cut] at inPart
  simp only [readFinite?, cut, split]
  cases power with
  | none =>
    have inMantissa : c ∈ mantissa := by simpa using inPart
    simp [readDecimal?, digits inMantissa]
  | some power =>
    rcases inPart with inMantissa | ⟨_, ⟨⟩, inPower⟩
    · simp [readDecimal?, digits inMantissa]
    · simp [readSigned?_eq_none inPower isWord]

/-- A text with a sign that no numeral has, and that is none of the words for other values, is
verbatim. -/
theorem verbatim_of_word {text : String} (mem : c ∈ text.toList) (isWord : IsWordSign c)
    (noTruth : text.toLower ∉ ["true", "false"])
    (noName : (String.ofList (readSign text.toList).2).toLower ∉ ["inf", "infinity", "nan"]) :
    Verbatim text := by
  have noInteger : readInt64? text = none := by
    rw [readInt64?, readSigned?_eq_none mem isWord]
    rfl
  have noNumeral : readNumeral? text = none := by
    simp only [List.mem_cons, List.not_mem_nil, or_false, not_or] at noName
    simp only [readNumeral?, noName, or_self, if_false]
    exact readFinite?_eq_none (mem_readSign mem isWord) isWord _
  simp only [List.mem_cons, List.not_mem_nil, or_false, not_or] at noTruth
  exact verbatim_of_notTruth noTruth.1 noTruth.2 (by simp [noInteger]) (by simp [noNumeral])

/-- Every default arrives unchanged, also from a variable. -/
theorem verbatim_of_default {setting : Setting} {text : String} (isDefault : setting.default = some text) :
    Verbatim text := by
  have words : ∀ text ∈ setting.default.toList, text.toList.any (IsWordSign ·) = true ∧
      text.toLower ∉ ["true", "false"] ∧
      (String.ofList (readSign text.toList).2).toLower ∉ ["inf", "infinity", "nan"] := by
    cases setting <;> decide +kernel
  obtain ⟨known, noTruth, noName⟩ := words text (by simp [isDefault])
  obtain ⟨c, mem, isWord⟩ := List.any_eq_true.mp known
  exact verbatim_of_word mem (of_decide_eq_true isWord) noTruth noName

end

/-! ## Settings of a configuration -/

open ConfigValue

theorem textOr_some {value : ConfigValue} (there : value ≠ .missing) (default : Option String) :
    textOr default (some value) = value.text? := by
  cases value with
  | missing => exact absurd rfl there
  | _ => rfl

theorem textOr_of_settingOr? {source : ConfigValue} {place : Nat} {name fallback text : String}
    (given : source.settingOr? place name fallback = some text) :
    textOr (some fallback) (source.setting? place name) = some text := by
  rw [settingOr?] at given
  cases found : source.setting? place name with
  | none =>
    rw [found] at given
    exact given
  | some value =>
    rw [found] at given
    cases value with
    | missing => cases given
    | _ => exact given

/-- The settings of a section, or the defaults without one, are the texts that the section gives. -/
theorem LoggingSettings.texts {source : Option ConfigValue} {logging : LoggingSettings}
    (read : source.elim (some {}) LoggingSettings.ofValue? = some logging) :
    textOr (some "info") (source.bind (setting? 0 "level")) = some logging.level ∧
      textOr (some "pretty") (source.bind (setting? 1 "format")) = some logging.format := by
  cases source with
  | none =>
    cases read
    exact ⟨rfl, rfl⟩
  | some value =>
    rw [Option.elim_some, LoggingSettings.ofValue?] at read
    split at read
    · cases read
    · obtain ⟨level, isLevel, read⟩ := Option.bind_eq_some_iff.mp read
      obtain ⟨format, isFormat, read⟩ := Option.bind_eq_some_iff.mp read
      cases read
      exact ⟨textOr_of_settingOr? isLevel, textOr_of_settingOr? isFormat⟩

theorem isSection_of_text? {value : ConfigValue} {text : String} (written : value.text? = some text) :
    value.isSection = false := by
  cases value with
  | list | table => cases written
  | _ => rfl

theorem LoaderSettings.texts {source : Option ConfigValue} {loader : LoaderSettings}
    (read : source.elim (some {}) LoaderSettings.ofValue? = some loader) :
    textOr (some "modproxy") (source.bind (setting? 0 "descriptor_group")) =
        some loader.descriptorGroup ∧
      textOr (some "plugin") (source.bind (setting? 1 "descriptor_extension")) =
        some loader.descriptorExtension ∧
      textOr (some "so") (source.bind (setting? 2 "module_extension")) = some loader.moduleExtension ∧
      textOr (some factorySymbolName) (source.bind (setting? 3 "factory_symbol")) =
        some loader.factorySymbol ∧
      textOr none (source.bind (setting? 4 "locale")) = loader.locale ∧
      ∀ value, source.bind (setting? 4 "locale") = some value → value.isSection = false := by
  cases source with
  | none =>
    cases read
    exact ⟨rfl, rfl, rfl, rfl, rfl, by simp⟩
  | some value =>
    rw [Option.elim_some, LoaderSettings.ofValue?] at read
    cases isSection : value.isSection with
    | false =>
      rw [isSection] at read
      cases read
    | true =>
      simp only [isSection, Bool.not_true, Bool.false_eq_true, if_false] at read
      obtain ⟨group, isGroup, read⟩ := Option.bind_eq_some_iff.mp read
      obtain ⟨descriptor, isDescriptor, read⟩ := Option.bind_eq_some_iff.mp read
      obtain ⟨module, isModule, read⟩ := Option.bind_eq_some_iff.mp read
      obtain ⟨symbol, isSymbol, read⟩ := Option.bind_eq_some_iff.mp read
      have isLocale :
          ⟨group, descriptor, module, symbol, textOr none (value.setting? 4 "locale")⟩ = loader ∧
            ∀ given, value.setting? 4 "locale" = some given → given.isSection = false := by
        split at read
        · rename_i found
          rw [found]
          exact ⟨Option.some.inj read, by simp⟩
        · rename_i found
          rw [found]
          exact ⟨Option.some.inj read, fun other same => Option.some.inj same ▸ rfl⟩
        · rename_i given there found
          obtain ⟨locale, isLocale, read⟩ := Option.bind_eq_some_iff.mp read
          obtain ⟨text, written, rfl⟩ := Option.map_eq_some_iff.mp isLocale
          rw [found, textOr_some there, written]
          refine ⟨Option.some.inj read, fun other same => ?_⟩
          obtain rfl := Option.some.inj same
          exact isSection_of_text? written
      obtain ⟨rfl, scalar⟩ := isLocale
      exact ⟨textOr_of_settingOr? isGroup, textOr_of_settingOr? isDescriptor,
        textOr_of_settingOr? isModule, textOr_of_settingOr? isSymbol, rfl, scalar⟩

theorem ofEntries?_eq (entries : List (String × ConfigValue)) : Settings.ofEntries? entries =
    ((get? entries "loader").elim (some {}) LoaderSettings.ofValue?).bind fun loader =>
      ((get? entries "logging").elim (some {}) LoggingSettings.ofValue?).bind fun logging =>
        some ⟨loader, logging⟩ := by
  rw [Settings.ofEntries?]
  cases get? entries "loader" <;> cases get? entries "logging" <;> rfl

/-- Every setting is the text that the configuration gives for it, or its default. -/
theorem get_of_ofEntries? {entries : List (String × ConfigValue)} {settings : Settings}
    (read : Settings.ofEntries? entries = some settings) (setting : Setting) :
    setting.get settings = textOr setting.default (settingIn entries setting) := by
  rw [ofEntries?_eq] at read
  obtain ⟨loader, isLoader, read⟩ := Option.bind_eq_some_iff.mp read
  obtain ⟨logging, isLogging, read⟩ := Option.bind_eq_some_iff.mp read
  obtain rfl : (⟨loader, logging⟩ : Settings) = settings := Option.some.inj read
  obtain ⟨group, descriptor, module, symbol, locale, -⟩ := LoaderSettings.texts isLoader
  obtain ⟨level, format⟩ := LoggingSettings.texts isLogging
  cases setting with
  | descriptorGroup => exact group.symm
  | descriptorExtension => exact descriptor.symm
  | moduleExtension => exact module.symm
  | factorySymbol => exact symbol.symm
  | locale => exact locale.symm
  | level => exact level.symm
  | format => exact format.symm

/-- A section of a configuration that is read is a list or a table. -/
theorem isSection_of_ofEntries? {entries : List (String × ConfigValue)} {settings : Settings}
    (read : Settings.ofEntries? entries = some settings) {setting : Setting} {value : ConfigValue}
    (there : get? entries setting.home = some value) : value.isSection = true := by
  rw [ofEntries?_eq] at read
  obtain ⟨loader, isLoader, read⟩ := Option.bind_eq_some_iff.mp read
  obtain ⟨logging, isLogging, -⟩ := Option.bind_eq_some_iff.mp read
  have ofLoader : get? entries "loader" = some value → value.isSection = true := by
    intro there
    rw [there, Option.elim_some, LoaderSettings.ofValue?] at isLoader
    by_contra scalar
    simp [scalar] at isLoader
  have ofLogging : get? entries "logging" = some value → value.isSection = true := by
    intro there
    rw [there, Option.elim_some, LoggingSettings.ofValue?] at isLogging
    by_contra scalar
    simp [scalar] at isLogging
  cases setting with
  | level | format => exact ofLogging there
  | _ => exact ofLoader there

/-- No setting of a configuration that is read is a list or a table. -/
theorem isScalar_of_ofEntries? {entries : List (String × ConfigValue)} {settings : Settings}
    (read : Settings.ofEntries? entries = some settings) {setting : Setting} {value : ConfigValue}
    (there : settingIn entries setting = some value) : value.isSection = false := by
  have told := get_of_ofEntries? read setting
  rw [there] at told
  by_contra nested
  rw [Bool.not_eq_false] at nested
  have nothing : setting.get settings = none := by
    cases value with
    | list | table => exact told
    | _ => cases nested
  rw [ofEntries?_eq] at read
  obtain ⟨loader, isLoader, -⟩ := Option.bind_eq_some_iff.mp read
  obtain ⟨-, -, -, -, -, scalar⟩ := LoaderSettings.texts isLoader
  cases setting with
  | locale => exact Bool.false_ne_true ((scalar value there).symm.trans nested)
  | _ => cases nothing

/-! ## Laying variables over a configuration -/

namespace ConfigValue

theorem get?_cons (entry : String × ConfigValue) (rest : List (String × ConfigValue)) (name : String) :
    get? (entry :: rest) name = if entry.1 = name then some entry.2 else get? rest name := by
  by_cases same : entry.1 = name
  · simp [get?, same]
  · rw [get?, List.find?_cons_of_neg (by simpa using same), if_neg same, get?]

theorem get?_alter (entries : List (String × ConfigValue)) (name other : String)
    (change : ConfigValue → ConfigValue) :
    get? (alter name change entries) other =
      if other = name then some (change ((get? entries name).getD .missing))
      else get? entries other := by
  induction entries with
  | nil =>
    rw [alter, get?_cons]
    simp only [@eq_comm _ name]
    rfl
  | cons entry rest ih =>
    rw [alter]
    by_cases there : entry.1 = name
    · rw [if_pos there, get?_cons, get?_cons, get?_cons, if_pos there, there, Option.getD_some]
      simp only [@eq_comm _ name]
      split <;> rfl
    · rw [if_neg there, get?_cons, ih, get?_cons, get?_cons, if_neg there]
      by_cases same : other = name
      · subst same
        simp [there]
      · simp [same]

/-- The value of a variable is written as some text. -/
theorem exists_text?_ofVariable (text : String) : ∃ written, (ofVariable text).text? = some written := by
  rw [ofVariable]
  split
  · exact ⟨_, rfl⟩
  split
  · exact ⟨_, rfl⟩
  split
  · exact ⟨_, rfl⟩
  split <;> exact ⟨_, rfl⟩

/-- What a variable gives is a scalar. -/
theorem isSection_ofVariable (text : String) : (ofVariable text).isSection = false :=
  (exists_text?_ofVariable text).elim fun _ written => isSection_of_text? written

/-- A scalar takes the place of whatever was there. -/
theorem laidOver_of_scalar {value : ConfigValue} (scalar : value.isSection = false)
    (below : ConfigValue) : value.laidOver below = value := by
  cases value with
  | list | table => cases scalar
  | _ => rfl

theorem laidOver_ofVariable (text : String) (below : ConfigValue) :
    (ofVariable text).laidOver below = ofVariable text :=
  laidOver_of_scalar (isSection_ofVariable text) below

/-- One variable laid over a configuration, if it names a setting. -/
def afterVariable (all : ConfigValue) (entry : String × String) : ConfigValue :=
  (wayOfVariable? entry.1).elim all (alterAt (ofVariable entry.2).laidOver all)

theorem layer_named (all : ConfigValue) (environment : Environment) :
    all.layer environment.named = environment.foldl afterVariable all := by
  rw [layer, Environment.named, List.foldl_filterMap]
  congr 1
  funext all ⟨name, written⟩
  rw [afterVariable, wayOfVariable?]
  cases named : settingName? name <;> simp [named]

end ConfigValue

theorem ConfigStep.eq_key_of_readPart? {part : List Char} {steps : List ConfigStep}
    (read : readPart? part = some steps) : ∃ name indices, steps = .key name :: indices := by
  rw [readPart?] at read
  split at read
  · split at read
    · cases read
    · obtain ⟨indices, -, rfl⟩ := Option.map_eq_some_iff.mp read
      exact ⟨_, indices, rfl⟩
  · cases read

/-- No way begins with a place in a list. -/
theorem ConfigStep.ofText_eq (text : String) :
    ∃ name rest, ConfigStep.ofText text = .key name :: rest := by
  rw [ofText]
  split
  · rename_i parts read
    cases cut : splitEvery '.' text.toList with
    | nil => simp [splitEvery_eq_splitOn, List.splitOn_ne_nil] at cut
    | cons part more =>
      rw [cut, List.mapM_cons] at read
      obtain ⟨steps, isFirst, read⟩ := Option.bind_eq_some_iff.mp read
      obtain ⟨rest, -, read⟩ := Option.bind_eq_some_iff.mp read
      cases read
      obtain ⟨name, indices, rfl⟩ := eq_key_of_readPart? isFirst
      exact ⟨name, indices ++ rest.flatten, rfl⟩
  · exact ⟨text, [], rfl⟩

namespace ConfigValue

variable {all : ConfigValue} {entry : String × String} {home name : String}
  {environment : Environment}

/-- What a section gives under a name. -/
def entryIn (all : ConfigValue) (home name : String) : Option ConfigValue :=
  get? ((get? all.entries home).getD .missing).entries name

/-- A variable that leads into a section puts its value in it. -/
theorem get?_afterVariable_of_reaching {rest : List ConfigStep}
    (leads : wayOfVariable? entry.1 = some (.key home :: rest)) :
    get? (all.afterVariable entry).entries home =
      some (alterAt (ofVariable entry.2).laidOver ((get? all.entries home).getD .missing) rest) := by
  have placed : alterAt (ofVariable entry.2).laidOver all (.key home :: rest) =
      .table (alter home (alterAt (ofVariable entry.2).laidOver · rest) all.entries) := rfl
  rw [afterVariable, leads, Option.elim_some, placed, entries, get?_alter, if_pos rfl]

/-- A scalar has no entries. -/
theorem get?_entries_of_scalar {value : ConfigValue} (scalar : value.isSection = false) (name : String) :
    get? value.entries name = none := by
  cases value with
  | list | table => cases scalar
  | _ => rfl

/-- A variable for a whole section takes its place. -/
theorem get?_afterVariable_of_whole (leads : wayOfVariable? entry.1 = some [.key home]) :
    get? (all.afterVariable entry).entries home = some (ofVariable entry.2) := by
  rw [get?_afterVariable_of_reaching leads, alterAt, laidOver_ofVariable]

/-- A variable for an entry of a section changes no other entry. -/
theorem entryIn_afterVariable_of_key {first : String} {rest : List ConfigStep}
    (leads : wayOfVariable? entry.1 = some (.key home :: .key first :: rest)) (name : String) :
    (all.afterVariable entry).entryIn home name =
      if name = first then
        some (alterAt (ofVariable entry.2).laidOver ((all.entryIn home first).getD .missing) rest)
      else all.entryIn home name := by
  rw [entryIn, get?_afterVariable_of_reaching leads, Option.getD_some, alterAt, entries, get?_alter]
  rfl

/-- What stands inside an entry makes a table or a list of it. -/
theorem isSection_alterAt_cons (change : ConfigValue → ConfigValue) (value : ConfigValue)
    (step : ConfigStep) (rest : List ConfigStep) :
    (alterAt change value (step :: rest)).isSection = true := by
  cases step <;> rfl

/-- A variable that does not lead into a section leaves it alone. -/
theorem get?_afterVariable_of_other
    (elsewhere : ∀ rest, wayOfVariable? entry.1 ≠ some (.key home :: rest)) :
    get? (all.afterVariable entry).entries home = get? all.entries home := by
  rw [afterVariable]
  cases leads : wayOfVariable? entry.1 with
  | none => rfl
  | some way =>
    obtain ⟨path, -, rfl⟩ := Option.map_eq_some_iff.mp leads
    obtain ⟨first, rest, whole⟩ := ConfigStep.ofText_eq path
    have other : home ≠ first := by
      rintro rfl
      exact elsewhere rest (leads.trans (congrArg some whole))
    have placed : alterAt (ofVariable entry.2).laidOver all (.key first :: rest) =
      .table (alter first (alterAt (ofVariable entry.2).laidOver · rest) all.entries) := rfl
    rw [whole, Option.elim_some, placed, entries, get?_alter, if_neg other]

end ConfigValue

namespace Environment

variable {environment : Environment} {entry : String × String} {home name : String}
  {way : List ConfigStep}

theorem lastText?_concat (environment : Environment) (entry : String × String) (way : List ConfigStep) :
    lastText? (environment ++ [entry]) way =
      if wayOfVariable? entry.1 = some way then some entry.2 else environment.lastText? way := by
  rw [lastText?, List.filter_append]
  by_cases leads : wayOfVariable? entry.1 = some way
  · simp [leads]
  · simp [leads, lastText?]

theorem since_concat (environment : Environment) (entry : String × String) (home : String) :
    since (environment ++ [entry]) home =
      if wayOfVariable? entry.1 = some [.key home] then [] else environment.since home ++ [entry] := by
  rw [since, List.reverse_concat, List.takeWhile_cons]
  by_cases whole : wayOfVariable? entry.1 = some [.key home]
  · simp [whole]
  · simp [whole, since]

theorem since_suffix (environment : Environment) (home : String) :
    environment.since home <:+ environment := by
  rw [since, ← List.reverse_prefix, List.reverse_reverse]
  exact List.takeWhile_prefix _

theorem namesWhole_concat (environment : Environment) (entry : String × String) (home : String) :
    NamesWhole (environment ++ [entry]) home ↔
      environment.NamesWhole home ∨ wayOfVariable? entry.1 = some [.key home] := by
  simp [NamesWhole, or_and_right, exists_or]

/-- What no variable for the whole section puts aside is the last of all. -/
theorem lastText?_of_since {text : String} (last : (environment.since home).lastText? way = some text) :
    environment.lastText? way = some text := by
  obtain ⟨before, split⟩ := environment.since_suffix home
  rw [lastText?] at last ⊢
  obtain ⟨entry, isLast, rfl⟩ := Option.map_eq_some_iff.mp last
  rw [← split, List.filter_append, List.getLast?_append, isLast]
  rfl

theorem since_of_notWhole (notWhole : ¬ environment.NamesWhole home) :
    environment.since home = environment := by
  rw [since, List.takeWhile_eq_self_iff.mpr, List.reverse_reverse]
  intro entry mem
  rw [List.mem_reverse] at mem
  simpa using fun whole => notWhole ⟨entry, mem, whole⟩

theorem reaches_of_namesWhole (whole : environment.NamesWhole home) : environment.Reaches home := by
  obtain ⟨entry, mem, leads⟩ := whole
  exact ⟨entry, mem, [], leads⟩

theorem reaches_of_lastText? {text : String} {rest : List ConfigStep}
    (last : environment.lastText? (.key home :: rest) = some text) : environment.Reaches home := by
  obtain ⟨entry, isLast, -⟩ := Option.map_eq_some_iff.mp last
  have mem := List.mem_of_getLast? isLast
  rw [List.mem_filter, decide_eq_true_eq] at mem
  exact ⟨entry, mem.1, rest, mem.2⟩

end Environment

/-! ## What a configuration says after all variables -/

namespace ConfigValue

variable {environment : Environment} {home name : String}

/-- Where no variable leads, nothing changes. -/
theorem get?_foldl_of_unreached {all : ConfigValue} (unreached : ¬ environment.Reaches home) :
    get? (environment.foldl afterVariable all).entries home = get? all.entries home := by
  induction environment generalizing all with
  | nil => rfl
  | cons entry rest ih =>
    have elsewhere : ∀ more, wayOfVariable? entry.1 ≠ some (.key home :: more) := fun more leads =>
      unreached ⟨entry, List.mem_cons_self, more, leads⟩
    have unreached' : ¬ Environment.Reaches rest home := fun ⟨other, mem, leads⟩ =>
      unreached ⟨other, List.mem_cons_of_mem entry mem, leads⟩
    rw [List.foldl_cons, ih unreached', get?_afterVariable_of_other elsewhere]

/-- A variable names a whole section, or leads to an entry of it, or does not lead into it. -/
theorem leads_cases {given : String} (plain : ∀ number rest,
      wayOfVariable? given ≠ some (.key home :: .index number :: rest)) :
    wayOfVariable? given = some [.key home] ∨
      (∃ first rest, wayOfVariable? given = some (.key home :: .key first :: rest)) ∨
      ∀ rest, wayOfVariable? given ≠ some (.key home :: rest) := by
  by_cases leads : ∃ rest, wayOfVariable? given = some (.key home :: rest)
  · obtain ⟨rest, leads⟩ := leads
    rcases rest with - | ⟨first | number, rest⟩
    · exact .inl leads
    · exact .inr (.inl ⟨first, rest, leads⟩)
    · exact absurd leads (plain number rest)
  · exact .inr (.inr fun rest found => leads ⟨rest, found⟩)

/-- Of the variables that lead to an entry the last one counts, unless one that names the whole section
comes later; without one the entry is what it was, unless one names the whole section.  It is something
else only if it is no scalar. -/
theorem entryIn_foldl (all : ConfigValue) (plain : ∀ entry ∈ environment, ∀ number rest,
      wayOfVariable? entry.1 ≠ some (.key home :: .index number :: rest)) (name : String) :
    (environment.foldl afterVariable all).entryIn home name =
        (((environment.since home).lastText? [.key home, .key name]).map ofVariable).or
          (if environment.NamesWhole home then none else all.entryIn home name) ∨
      ∃ value, (environment.foldl afterVariable all).entryIn home name = some value ∧
        value.isSection = true := by
  induction environment using List.reverseRecOn with
  | nil => exact .inl rfl
  | append_singleton environment entry ih =>
    have before := ih fun other mem => plain other (List.mem_append_left _ mem)
    rw [List.foldl_concat, Environment.since_concat]
    simp only [Environment.namesWhole_concat]
    obtain whole | ⟨first, rest, inside⟩ | elsewhere := leads_cases (plain entry (by simp))
    · refine .inl ?_
      rw [entryIn, get?_afterVariable_of_whole whole, if_pos whole, if_pos (.inr whole)]
      exact get?_entries_of_scalar (isSection_ofVariable entry.2) name
    · have notWhole : wayOfVariable? entry.1 ≠ some [.key home] := by simp [inside]
      rw [entryIn_afterVariable_of_key inside, if_neg notWhole, Environment.lastText?_concat, inside]
      simp only [List.cons.injEq, reduceCtorEq, and_false, Option.some.injEq, or_false, true_and,
        ConfigStep.key.injEq]
      by_cases same : name = first
      · subst same
        cases rest with
        | nil => exact .inl (by simp [alterAt, laidOver_ofVariable])
        | cons step rest => exact .inr ⟨_, if_pos rfl, isSection_alterAt_cons _ _ step rest⟩
      · simp only [same, Ne.symm same, false_and, if_false]
        exact before
    · rw [entryIn, get?_afterVariable_of_other elsewhere, if_neg (elsewhere _),
        Environment.lastText?_concat, if_neg (elsewhere _)]
      simp only [elsewhere, or_false]
      exact before

/-- A section into which a variable leads is a table, or else no section. -/
theorem get?_foldl_of_reached (all : ConfigValue) (plain : ∀ entry ∈ environment, ∀ number rest,
      wayOfVariable? entry.1 ≠ some (.key home :: .index number :: rest))
    (reached : environment.Reaches home) :
    ∃ value, get? (environment.foldl afterVariable all).entries home = some value ∧
      (value.isSection = true → ∃ entries, value = .table entries) := by
  induction environment using List.reverseRecOn with
  | nil =>
    obtain ⟨entry, mem, -⟩ := reached
    cases mem
  | append_singleton environment entry ih =>
    rw [List.foldl_concat]
    obtain whole | ⟨first, rest, inside⟩ | elsewhere := leads_cases (plain entry (by simp))
    · refine ⟨_, get?_afterVariable_of_whole whole, fun isSection => ?_⟩
      rw [isSection_ofVariable] at isSection
      cases isSection
    · exact ⟨_, get?_afterVariable_of_reaching inside, fun _ => ⟨_, rfl⟩⟩
    · rw [get?_afterVariable_of_other elsewhere]
      refine ih (fun other mem => plain other (List.mem_append_left _ mem)) ?_
      obtain ⟨other, mem, more, found⟩ := reached
      rcases List.mem_append.mp mem with mem | mem
      · exact ⟨other, mem, more, found⟩
      · rw [List.mem_singleton.mp mem] at found
        exact absurd found (elsewhere more)

end ConfigValue

/-! ## What arrives -/

namespace ConfigValue

theorem textOr_ofVariable (text : String) (default : Option String) :
    textOr default (some (ofVariable text)) = (ofVariable text).text? := by
  obtain ⟨written, isText⟩ := exists_text?_ofVariable text
  refine textOr_some (fun missing => ?_) default
  rw [missing] at isText
  cases isText

/-- What is written is the text of the variable exactly if that is verbatim. -/
theorem text?_ofVariable_iff (text : String) : (ofVariable text).text? = some text ↔ Verbatim text := by
  have isWord : ∀ word ∈ ["true", "false"], Verbatim word := by
    intro word known
    have lower : word.toLower = word := by
      revert word
      decide +kernel
    have noNumber : readInt64? word = none ∧ (readNumeral? word).isNone = true := by
      revert word
      decide +kernel
    exact {
      truth := lower.symm.trans
      falsity := lower.symm.trans
      integer := by simp [noNumber.1]
      fractional := by simp [Option.isNone_iff_eq_none.mp noNumber.2] }
  rw [ofVariable]
  split
  · rename_i isTrue
    refine ⟨fun same => ?_, fun verbatim => congrArg some (verbatim.truth isTrue).symm⟩
    obtain rfl : "true" = text := Option.some.inj same
    exact isWord "true" (by simp)
  split
  · rename_i isFalse
    refine ⟨fun same => ?_, fun verbatim => congrArg some (verbatim.falsity isFalse).symm⟩
    obtain rfl : "false" = text := Option.some.inj same
    exact isWord "false" (by simp)
  rename_i notTrue notFalse
  split
  · rename_i value isInteger
    refine ⟨fun same => ?_, fun verbatim => congrArg some (verbatim.integer value isInteger).symm⟩
    have written : toString value = text := Option.some.inj same
    refine verbatim_of_notTruth notTrue notFalse (fun other reads => ?_) (by simp [isInteger])
    rw [← Option.some.inj (isInteger.symm.trans reads), written]
  · rename_i noInteger
    split
    · rename_i value isNumeral
      refine ⟨fun same => ?_,
        fun verbatim => congrArg some (verbatim.fractional noInteger value isNumeral).symm⟩
      have written : value.display = text := Option.some.inj same
      refine verbatim_of_notTruth notTrue notFalse (by simp [noInteger]) (fun _ other reads => ?_)
      rw [← Option.some.inj (isNumeral.symm.trans reads), written]
    · rename_i noNumeral
      exact ⟨fun _ => verbatim_of_notTruth notTrue notFalse (by simp [noInteger])
        (by simp [noNumeral]), fun _ => rfl⟩

variable {environment : Environment} {fromFile : List (String × ConfigValue)} {setting : Setting}

/-- By name a list has no settings, and a table has the same ones as by place. -/
theorem get?_entries_of_notList {source : Option ConfigValue}
    (notList : ∀ items, source ≠ some (.list items)) (place : Nat) (name : String) :
    get? (source.getD .missing).entries name = source.bind (setting? place name) := by
  cases source with
  | none => rfl
  | some value =>
    cases value with
    | list items => exact absurd rfl (notList items)
    | _ => rfl

theorem settingIn_of_unreached {all : ConfigValue} (unreached : ¬ environment.Reaches setting.home) :
    settingIn (environment.foldl afterVariable all).entries setting = settingIn all.entries setting := by
  rw [settingIn, settingIn, get?_foldl_of_unreached unreached]

theorem settingIn_of_reached (plain : environment.NamesEntries) {all : ConfigValue} {settings : Settings}
    (read : Settings.ofEntries? (environment.foldl afterVariable all).entries = some settings)
    (reached : environment.Reaches setting.home) :
    settingIn (environment.foldl afterVariable all).entries setting =
      ((setting.lastText? environment).map ofVariable).or
        (if environment.NamesWhole setting.home then none
          else all.entryIn setting.home setting.name) := by
  have named := fun entry mem => plain entry mem setting
  obtain ⟨value, there, isTable⟩ := get?_foldl_of_reached all named reached
  obtain ⟨entries, rfl⟩ := isTable (isSection_of_ofEntries? read there)
  have byName : settingIn (environment.foldl afterVariable all).entries setting =
      (environment.foldl afterVariable all).entryIn setting.home setting.name := by
    rw [settingIn, entryIn, there]
    rfl
  rcases entryIn_foldl all named setting.name with same | ⟨value, nested, isSection⟩
  · exact byName.trans same
  · have scalar := isScalar_of_ofEntries? read (byName.trans nested)
    exact absurd (scalar.symm.trans isSection) Bool.false_ne_true

end ConfigValue

/-- The settings that the entries of a file come to, with an environment laid over them. -/
def Settings.ofSources? (fromFile : List (String × ConfigValue)) (environment : Environment) :
    Option Settings :=
  Settings.ofEntries? (((ConfigValue.table []).layer fromFile).layer environment.named).entries

theorem Settings.load_eq_ok_iff {κ : Type} {files : FileTree κ} {environment : Environment}
    {path : Option String} {settings : Settings} :
    Settings.load files environment path = .ok settings ↔ ∃ fromFile,
      entriesToLoad files path = .ok fromFile ∧
        Settings.ofSources? fromFile environment = some settings := by
  rw [Settings.load, ← entriesToLoad]
  cases entriesToLoad files path with
  | error cause => simp
  | ok fromFile =>
    simp only [Except.ok.injEq, exists_eq_left', Settings.ofSources?]
    cases Settings.ofEntries? (((table []).layer fromFile).layer environment.named).entries <;> simp

/-- How settings come about from the entries of a file and an environment. -/
structure Settings.Arrive (settings : Settings) (fromFile : List (String × ConfigValue))
    (environment : Environment) : Prop where
  /-- The last variable that leads to a setting decides, unless one for the whole section comes later, and
  what arrives is what its value is written as. -/
  byVariable : ∀ (setting : Setting) text, setting.lastText? environment = some text →
    setting.get settings = (ConfigValue.ofVariable text).text?
  /-- That is its text if and only if the text is verbatim. -/
  unchanged_iff : ∀ (setting : Setting) text, setting.lastText? environment = some text →
    (setting.get settings = some text ↔ Verbatim text)
  /-- The text of a default is. -/
  default_kept : ∀ (setting : Setting) text, setting.lastText? environment = some text →
    setting.default = some text → setting.get settings = some text
  /-- Without a variable the file decides, or else the default, whatever variables there are for other
  settings. -/
  byFile : ∀ setting : Setting, setting.lastText? environment = none →
    ¬ setting.Discarded fromFile environment →
      setting.get settings = ConfigValue.textOr setting.default (setting.fileValue? fromFile)
  /-- But where variables name the section, or lead into a list, the other settings of the section are at
  their defaults. -/
  discarded : ∀ setting : Setting, setting.lastText? environment = none →
    setting.Discarded fromFile environment → setting.get settings = setting.default

/-- What decides, decides on each setting by itself. -/
theorem Settings.arrive_of_ofSources? {settings : Settings} {fromFile : List (String × ConfigValue)}
    {environment : Environment} (plain : environment.NamesEntries)
    (read : Settings.ofSources? fromFile environment = some settings) :
    settings.Arrive fromFile environment := by
  rw [Settings.ofSources?, layer_named] at read
  have byVariable : ∀ (setting : Setting) text, setting.lastText? environment = some text →
      setting.get settings = (ConfigValue.ofVariable text).text? := by
    intro setting text last
    have reached := Environment.reaches_of_lastText? (Environment.lastText?_of_since last)
    rw [get_of_ofEntries? read, settingIn_of_reached plain read reached, last]
    exact textOr_ofVariable text setting.default
  have unchanged_iff : ∀ (setting : Setting) text, setting.lastText? environment = some text →
      (setting.get settings = some text ↔ Verbatim text) := by
    intro setting text last
    rw [byVariable setting text last]
    exact text?_ofVariable_iff text
  constructor
  case byVariable => exact byVariable
  case unchanged_iff => exact unchanged_iff
  case default_kept =>
    intro setting text last isDefault
    exact (unchanged_iff setting text last).mpr (verbatim_of_default isDefault)
  case byFile =>
    intro setting none kept
    rw [get_of_ofEntries? read]
    congr 1
    by_cases reached : environment.Reaches setting.home
    · have notList : ∀ items, get? (laidOut fromFile) setting.home ≠ some (.list items) :=
        fun items isList => kept (.inr ⟨reached, items, isList⟩)
      rw [settingIn_of_reached plain read reached, none, if_neg fun whole => kept (.inl whole)]
      exact get?_entries_of_notList notList setting.place setting.name
    · exact settingIn_of_unreached reached
  case discarded =>
    intro setting none gone
    rw [get_of_ofEntries? read]
    rcases gone with whole | ⟨reached, items, isList⟩
    · rw [settingIn_of_reached plain read (Environment.reaches_of_namesWhole whole), none, if_pos whole]
      rfl
    · rw [laidOut] at isList
      rw [settingIn_of_reached plain read reached, none, entryIn, isList]
      split <;> rfl

/-- When text arrives unchanged from where it was set. -/
structure Settings.TextArrives (settings : Settings) (fromFile : List (String × ConfigValue))
    (environment : Environment) : Prop extends settings.Arrive fromFile environment where
  /-- Every setting is the text of its highest source if and only if the variables that decide are
  verbatim and nothing is discarded that says anything but the defaults. -/
  given_iff : (∀ setting : Setting, setting.get settings = setting.given fromFile environment) ↔
    (∀ (setting : Setting) text, setting.lastText? environment = some text → Verbatim text) ∧
      ∀ setting : Setting, setting.lastText? environment = none →
        setting.Discarded fromFile environment →
          setting.given fromFile environment = setting.default
  /-- The same text in a file comes to the same setting if and only if it is verbatim. -/
  eitherWay : ∀ (setting : Setting) text, setting.lastText? environment = some text →
    ∀ {κ : Type} (files : FileTree κ) (path : Option String) (environment' : Environment)
      (other : Settings) (fromFile' : List (String × ConfigValue)),
    Settings.load files environment' path = .ok other → entriesToLoad files path = .ok fromFile' →
    environment'.NamesEntries → setting.lastText? environment' = none →
    ¬ setting.Discarded fromFile' environment' → setting.fileValue? fromFile' = some (.text text) →
      (setting.get settings = setting.get other ↔ Verbatim text)

/-- Where nothing is discarded, the last text is that of all variables. -/
theorem Setting.given_of_kept {setting : Setting} {environment : Environment}
    {fromFile : List (String × ConfigValue)} (none : setting.lastText? environment = none)
    (kept : ¬ setting.Discarded fromFile environment) :
    setting.given fromFile environment =
      ConfigValue.textOr setting.default (setting.fileValue? fromFile) := by
  rw [lastText?, Environment.since_of_notWhole fun whole => kept (.inl whole)] at none
  rw [given, none]
  rfl

/-- What is loaded comes from the sources as documented, but for texts that are not verbatim and sections
that are put aside as a whole. -/
theorem Settings.textArrives_of_load {κ : Type} {files : FileTree κ} {environment : Environment}
    {path : Option String} {settings : Settings} (plain : environment.NamesEntries)
    (loaded : Settings.load files environment path = .ok settings) :
    (∀ setting : Setting, wayOfVariable? setting.variableName = some setting.way) ∧
      ∃ fromFile, entriesToLoad files path = .ok fromFile ∧
        settings.TextArrives fromFile environment := by
  obtain ⟨fromFile, isFile, read⟩ := Settings.load_eq_ok_iff.mp loaded
  have arrive := Settings.arrive_of_ofSources? plain read
  refine ⟨wayOfVariable?_variableName, fromFile, isFile,
    { arrive with given_iff := ?_, eitherWay := ?_ }⟩
  · have given : ∀ (setting : Setting) text, setting.lastText? environment = some text →
        setting.given fromFile environment = some text := by
      intro setting text last
      rw [Setting.given, Environment.lastText?_of_since last]
      rfl
    constructor
    · intro law
      constructor
      · intro setting text last
        exact (arrive.unchanged_iff setting text last).mp
          ((law setting).trans (given setting text last))
      · intro setting none gone
        exact (law setting).symm.trans (arrive.discarded setting none gone)
    · rintro ⟨verbatim, kept⟩ setting
      cases last : setting.lastText? environment with
      | some text =>
        rw [given setting text last]
        exact (arrive.unchanged_iff setting text last).mpr (verbatim setting text last)
      | none =>
        by_cases gone : setting.Discarded fromFile environment
        · rw [arrive.discarded setting last gone, kept setting last gone]
        · rw [arrive.byFile setting last gone, Setting.given_of_kept last gone]
  · intro setting text last κ' files' path' environment' other fromFile' loaded' isFile' plain' none kept
      inFile
    obtain ⟨fromFile', same, read'⟩ := Settings.load_eq_ok_iff.mp loaded'
    cases isFile'.symm.trans same
    have there := (Settings.arrive_of_ofSources? plain' read').byFile setting none kept
    rw [inFile] at there
    rw [there]
    exact arrive.unchanged_iff setting text last

namespace Sample

/-- A file that sets an extension that looks like a number, and another setting. -/
def configuredFiles : FileTree Unit :=
  FileTree.empty.add "m.ini" (.text "[loader]\nmodule_extension=007\nlocale=de\n")

/-- Variables for settings of both sections, and one for something else. -/
def configuredEnvironment : Environment :=
  [("MODPROXY__LOADER__LOCALE", "fr"), ("HOME", "/root"), ("modproxy__logging__level", "debug")]

/-- What the two come to. -/
def configured : Settings :=
  { loader := { moduleExtension := "007", locale := some "fr" }, logging := { level := "debug" } }

theorem configuredEnvironment_namesEntries : configuredEnvironment.NamesEntries := by
  have ways : configuredEnvironment.map (fun entry => wayOfVariable? entry.1) =
      [some [.key "loader", .key "locale"], none, some [.key "logging", .key "level"]] := by
    decide +kernel
  intro entry mem setting number rest leads
  have among : wayOfVariable? entry.1 ∈ configuredEnvironment.map fun entry => wayOfVariable? entry.1 :=
    List.mem_map_of_mem mem
  rw [ways, leads] at among
  simp at among

theorem configured_textArrives :
    configuredEnvironment.NamesEntries ∧
      Settings.load configuredFiles configuredEnvironment (some "m.ini") = .ok configured ∧
      ∃ fromFile, entriesToLoad configuredFiles (some "m.ini") = .ok fromFile ∧
        configured.TextArrives fromFile configuredEnvironment := by
  have loaded : Settings.load configuredFiles configuredEnvironment (some "m.ini") = .ok configured := by
    decide +kernel
  exact ⟨configuredEnvironment_namesEntries, loaded,
    (Settings.textArrives_of_load configuredEnvironment_namesEntries loaded).2⟩

/-- The same extension in a variable. -/
def numberedEnvironment : Environment := [("MODPROXY__LOADER__MODULE_EXTENSION", "007")]

/-- What the variable sets is not what arrives. -/
theorem numbered_not_given :
    Settings.load (FileTree.empty : FileTree Unit) numberedEnvironment none =
        .ok { loader := { moduleExtension := "7" } } ∧
      Setting.moduleExtension.given [] numberedEnvironment = some "007" ∧
      ¬ ∀ settings,
        Settings.load (FileTree.empty : FileTree Unit) numberedEnvironment none = .ok settings →
          ∀ setting : Setting, setting.get settings = setting.given [] numberedEnvironment := by
  have loaded : Settings.load (FileTree.empty : FileTree Unit) numberedEnvironment none =
      .ok { loader := { moduleExtension := "7" } } := by decide +kernel
  have last : numberedEnvironment.lastText? Setting.moduleExtension.way = some "007" := by decide +kernel
  have given : Setting.moduleExtension.given [] numberedEnvironment = some "007" := by
    rw [Setting.given, last]
    rfl
  refine ⟨loaded, given, fun law => ?_⟩
  have same := (law _ loaded .moduleExtension).trans given
  simp [Setting.get] at same

end Sample

end ExtensionProxy
