import ExtensionProxy.Proofs.HostTable
import ExtensionProxy.Proofs.KeyFile.Contents
import ExtensionProxy.Proofs.Localization
import ExtensionProxy.Proofs.Scanning

/-!
# What the host shows

What is loaded is handed to the host as four terminated texts.  A text is handed over as it is, unless
there is a zero in it: then it is handed over empty, and nobody is told.  So a name, which a descriptor
cannot leave empty, is shown empty if and only if it holds a zero.

A zero is nothing special to whoever reads a descriptor.  It is no blank, so trimming leaves it, and no
escape writes one or takes one away.  So a presented text holds a zero exactly if there is one behind
the equals sign of the line that it was read from.
-/

set_option autoImplicit false

namespace ExtensionProxy

/-! ## Zeros through a descriptor -/

theorem mem_trimBlank_iff {c : Char} {text : List Char} (notBlank : isBlank c = false) :
    c ∈ trimBlank text ↔ c ∈ text := by
  refine ⟨mem_of_mem_trimBlank, fun mem => ?_⟩
  have kept : c ∈ text.dropWhile isBlank := by
    rw [← List.takeWhile_append_dropWhile (p := isBlank) (l := text), List.mem_append] at mem
    refine mem.resolve_left fun blank => ?_
    rw [List.mem_takeWhile_imp blank] at notBlank
    cases notBlank
  rw [trimBlank, trimBlankEnd, List.mem_reverse]
  rw [← List.mem_reverse, ← List.takeWhile_append_dropWhile (p := isBlank)
    (l := (text.dropWhile isBlank).reverse), List.mem_append] at kept
  refine kept.resolve_left fun blank => ?_
  rw [List.mem_takeWhile_imp blank] at notBlank
  cases notBlank

namespace KeyFile

/-- Escapes neither write a zero nor take one away. -/
theorem zero_mem_unescape_iff (text : List Char) : '\x00' ∈ unescape text ↔ '\x00' ∈ text := by
  fun_induction unescape text <;> simp_all

/-- A line says something of a key; what it says stands behind the first equals sign. -/
def SaysOf (raw : List Char) (key : String) (after : List Char) : Prop :=
  ∃ before, trimBlank raw = before ++ '=' :: after ∧ '=' ∉ before ∧
    String.ofList (trimBlank before) = key

variable {file : KeyFile} {text group key value : String} {lines : List Line} {raws : List (List Char)}

theorem mem_of_mem_pairsUnder {open? : Option String} {pair : String × String}
    (mem : pair ∈ pairsUnder group open? lines) : Line.pair pair.1 pair.2 ∈ lines := by
  induction lines generalizing open? with
  | nil => cases mem
  | cons line lines ih =>
    cases line with
    | skip => exact List.mem_cons_of_mem _ (ih mem)
    | header name => exact List.mem_cons_of_mem _ (ih mem)
    | pair key value =>
      rw [pairsUnder] at mem
      split at mem
      · rcases List.mem_cons.mp mem with rfl | mem
        · exact List.mem_cons_self
        · exact List.mem_cons_of_mem _ (ih mem)
      · exact List.mem_cons_of_mem _ (ih mem)

theorem Say.exists_line (say : Say raws lines) {line : Line} (mem : line ∈ lines) :
    ∃ raw ∈ raws, Line.Written (trimBlank raw) line := by
  induction say with
  | nil => cases mem
  | cons written _ ih =>
    rcases List.mem_cons.mp mem with rfl | mem
    · exact ⟨_, List.mem_cons_self, written⟩
    · obtain ⟨raw, there, written⟩ := ih mem
      exact ⟨raw, List.mem_cons_of_mem _ there, written⟩

/-- A value that is found was read from a line that says something of its key. -/
theorem exists_line_of_string? (read : parse text = .ok file)
    (found : file.string? group key = some value) : ∃ raw ∈ textLines text.toList, ∃ after,
      SaysOf raw key after ∧ value = String.ofList (unescape (trimBlank after)) := by
  obtain ⟨lines, say, holds⟩ := holds_of_parse read
  rw [holds.values, Option.map_eq_some_iff] at found
  obtain ⟨pair, last, rfl⟩ := found
  obtain ⟨mem, isKey⟩ := List.mem_filter.mp (List.mem_of_getLast? last)
  obtain rfl : pair.1 = key := by simpa using isKey
  obtain ⟨raw, there, written⟩ := say.exists_line (mem_of_mem_pairsUnder mem)
  obtain ⟨name, value⟩ := pair
  generalize whole : trimBlank raw = trimmed at written
  cases written with
  | pair before after opens noSeparator nonempty =>
    exact ⟨raw, there, after, ⟨before, whole, noSeparator, rfl⟩, rfl⟩

end KeyFile

/-- The texts that are shown. -/
def Presentation.texts (shown : Presentation) : List String :=
  [shown.name, shown.description, shown.version, shown.author]

namespace Descriptor

variable {settings : LoaderSettings} {environment : Environment} {path text shown : String}
  {file : KeyFile} {descriptor : Descriptor}

theorem presentation_of_ofKeyFile (made : ofKeyFile settings environment path file = .ok descriptor) :
    let locale := settings.effectiveLocale environment
    let localized := fun key => trimText ((file.localized? settings.descriptorGroup key locale).getD "")
    let plain := fun key => trimText ((file.string? settings.descriptorGroup key).getD "")
    descriptor.presentation =
      ⟨localized "name", localized "description", plain "version", plain "author"⟩ := by
  unfold ofKeyFile at made
  simp only at made
  split at made
  · cases made
  · split at made
    · cases made
    · split at made
      · cases made
      · cases made
        rfl

/-- A shown text is the trimmed value of some key, or empty. -/
theorem exists_value_of_shown (made : ofKeyFile settings environment path file = .ok descriptor)
    (mem : shown ∈ descriptor.presentation.texts) :
    shown = "" ∨ ∃ group key value, file.string? group key = some value ∧ shown = trimText value := by
  have plain (key : String)
      (isShown : shown = trimText ((file.string? settings.descriptorGroup key).getD "")) :
      shown = "" ∨ ∃ group key value, file.string? group key = some value ∧ shown = trimText value := by
    cases found : file.string? settings.descriptorGroup key with
    | none =>
      rw [found] at isShown
      exact .inl isShown
    | some value =>
      rw [found] at isShown
      exact .inr ⟨_, key, value, found, isShown⟩
  have localized (key : String) (isShown : shown = trimText ((file.localized?
      settings.descriptorGroup key (settings.effectiveLocale environment)).getD "")) :
      shown = "" ∨ ∃ group key value, file.string? group key = some value ∧ shown = trimText value := by
    cases found : file.localized? settings.descriptorGroup key
        (settings.effectiveLocale environment) with
    | none =>
      rw [found] at isShown
      exact .inl isShown
    | some value =>
      rw [found] at isShown
      obtain ⟨-, taken, -, -, -, there⟩ := KeyFile.localized?_eq_some_iff.mp found
      exact .inr ⟨_, taken, value, there, isShown⟩
  rw [presentation_of_ofKeyFile made, Presentation.texts, List.mem_cons, List.mem_cons,
    List.mem_cons, List.mem_singleton] at mem
  rcases mem with isName | isDescription | isVersion | isAuthor
  · exact localized "name" isName
  · exact localized "description" isDescription
  · exact plain "version" isVersion
  · exact plain "author" isAuthor

/-- A shown text was read from a line that says it, or is empty. -/
theorem exists_line_of_shown (read : KeyFile.parse text = .ok file)
    (made : ofKeyFile settings environment path file = .ok descriptor)
    (mem : shown ∈ descriptor.presentation.texts) :
    shown = "" ∨ ∃ raw ∈ textLines text.toList, ∃ key after, KeyFile.SaysOf raw key after ∧
      shown.toList = trimBlank (KeyFile.unescape (trimBlank after)) ∧
      ('\x00' ∈ shown.toList ↔ '\x00' ∈ after) := by
  rcases exists_value_of_shown made mem with empty | ⟨group, key, value, found, rfl⟩
  · exact .inl empty
  · obtain ⟨raw, there, after, line, rfl⟩ := KeyFile.exists_line_of_string? read found
    have notBlank : isBlank '\x00' = false := by decide
    have whole : (trimText (String.ofList (KeyFile.unescape (trimBlank after)))).toList =
        trimBlank (KeyFile.unescape (trimBlank after)) := by
      simp [trimText]
    refine .inr ⟨raw, there, key, after, line, whole, ?_⟩
    rw [whole, mem_trimBlank_iff notBlank, KeyFile.zero_mem_unescape_iff, mem_trimBlank_iff notBlank]

end Descriptor

/-- A descriptor was read from the text of a file. -/
theorem Site.exists_text_of_descriptor {κ : Type} {site : Site κ} {place : String}
    {descriptor : Descriptor} (valid : site.descriptor place = .ok descriptor) :
    ∃ text file, site.files.text? place = some text ∧ KeyFile.parse text = .ok file ∧
      Descriptor.ofKeyFile site.settings.loader site.environment place file = .ok descriptor := by
  rw [Site.descriptor, Descriptor.ofFile, KeyFile.ofFile] at valid
  cases written : site.files.text? place with
  | none =>
    simp only [written] at valid
    cases valid
  | some text =>
    cases parsed : KeyFile.parse text with
    | error fault =>
      simp only [written, parsed] at valid
      cases valid
    | ok file =>
      simp only [written, parsed] at valid
      exact ⟨text, file, rfl, parsed, valid⟩

namespace Boundary

/-! ## Terminated texts -/

namespace Bytes

theorem toList_loop (bytes : ByteArray) (place : Nat) (reversed : List UInt8) :
    ByteArray.toList.loop bytes place reversed = reversed.reverse ++ bytes.data.toList.drop place := by
  fun_induction ByteArray.toList.loop bytes place reversed with
  | case1 place reversed inside ih =>
    have next : bytes.data.toList.drop place = bytes.get! place :: bytes.data.toList.drop (place + 1) := by
      have within : place < bytes.data.toList.length := by simpa using inside
      rw [List.drop_eq_getElem_cons within]
      simp [ByteArray.get!, inside]
    rw [ih, next, List.reverse_cons, List.append_assoc, List.singleton_append]
  | case2 place reversed outside =>
    have nothing : bytes.data.toList.drop place = [] :=
      List.drop_eq_nil_of_le (by simpa using Nat.le_of_not_lt outside)
    rw [nothing, List.append_nil]

theorem toArray_toList (bytes : ByteArray) : (⟨bytes.toList.toArray⟩ : ByteArray) = bytes := by
  simp [ByteArray.toList, toList_loop]

theorem toList_toUTF8 (text : String) :
    text.toUTF8.toList = text.toList.flatMap String.utf8EncodeChar := by
  have whole : text.toUTF8 = (text.toList.flatMap String.utf8EncodeChar).toByteArray := by
    conv_lhs => rw [← String.ofList_toList (s := text)]
    exact String.toByteArray_ofList
  rw [whole, ByteArray.toList, toList_loop, List.data_toByteArray]
  rfl

/-- Only the zero is written with a zero byte: the bytes of longer characters have a mark. -/
theorem zero_mem_utf8EncodeChar {c : Char} (mem : 0 ∈ String.utf8EncodeChar c) : c = '\x00' := by
  have small {n : Nat} (zero : (0 : UInt8) = UInt8.ofNat n) (short : n < 256) : n = 0 := by
    have same := congrArg UInt8.toNat zero
    rw [UInt8.toNat_ofNat', Nat.mod_eq_of_lt short] at same
    exact same.symm
  unfold String.utf8EncodeChar at mem
  simp only at mem
  split at mem
  · exact Char.ext (UInt32.toNat_inj.mp (small (List.mem_singleton.mp mem) (by omega)))
  · exfalso
    split at mem
    · simp only [List.mem_cons, List.not_mem_nil, or_false] at mem
      rcases mem with zero | zero
      all_goals
        have := small zero (by omega)
        omega
    · split at mem <;> simp only [List.mem_cons, List.not_mem_nil, or_false] at mem
      · rcases mem with zero | zero | zero
        all_goals
          have := small zero (by omega)
          omega
      · rcases mem with zero | zero | zero | zero
        all_goals
          have := small zero (by omega)
          omega

/-- What is read back of a text that was handed over. -/
theorem read?_writeOr (text : String) :
    read? (some (writeOr text)) = some (if '\x00' ∈ text.toList then "" else text) := by
  rw [read?, Option.bind_some]
  by_cases zero : '\x00' ∈ text.toList
  · have nothing : writeOr text = [] := by simp [writeOr, write?, zero]
    rw [nothing, if_pos zero]
    exact fromUTF8?_eq_some_iff.mpr rfl
  · have whole : writeOr text = text.toUTF8.toList := by simp [writeOr, write?, zero]
    have kept : terminated text.toUTF8.toList = text.toUTF8.toList := by
      rw [terminated, List.takeWhile_eq_self_iff]
      intro byte mem
      rw [decide_eq_true_eq]
      rintro rfl
      rw [toList_toUTF8, List.mem_flatMap] at mem
      obtain ⟨c, there, mem⟩ := mem
      exact zero (zero_mem_utf8EncodeChar mem ▸ there)
    rw [whole, kept, if_neg zero]
    exact fromUTF8?_eq_some_iff.mpr (toArray_toList _).symm

theorem read?_writeOr_eq_self_iff {text : String} :
    read? (some (writeOr text)) = some text ↔ '\x00' ∉ text.toList := by
  rw [read?_writeOr, Option.some.injEq]
  split
  · rename_i zero
    refine ⟨fun empty => ?_, fun noZero => absurd zero noZero⟩
    rw [← empty] at zero
    simp at zero
  · rename_i noZero
    exact ⟨fun _ => noZero, fun _ => rfl⟩

end Bytes

/-- What is handed over reads back as it was presented. -/
structure RawInfo.Agrees (info : RawInfo) (shown : Presentation) : Prop where
  name : Bytes.read? (some info.name) = some shown.name
  description : Bytes.read? (some info.description) = some shown.description
  version : Bytes.read? (some info.version) = some shown.version
  author : Bytes.read? (some info.author) = some shown.author

theorem RawInfo.agrees_of_iff (shown : Presentation) (offer : Offer) :
    (RawInfo.of shown offer).Agrees shown ↔ ∀ text ∈ shown.texts, '\x00' ∉ text.toList := by
  simp only [Presentation.texts, List.forall_mem_cons, ← Bytes.read?_writeOr_eq_self_iff]
  constructor
  · intro agrees
    exact ⟨agrees.name, agrees.description, agrees.version, agrees.author, by simp⟩
  · rintro ⟨name, description, version, author, -⟩
    exact ⟨name, description, version, author⟩

theorem RawInfo.name_of_ne_iff {shown : Presentation} (nonempty : shown.name ≠ "") (offer : Offer) :
    Bytes.read? (some (RawInfo.of shown offer).name) ≠ some "" ↔ '\x00' ∉ shown.name.toList := by
  rw [RawInfo.of, Bytes.read?_writeOr, Ne, Option.some.injEq]
  split
  · simp [*]
  · simp [*]

theorem RawInfo.readBack_of (shown : Presentation) (offer : Offer) :
    List.Forall₂ (fun bytes shown => Bytes.read? (some bytes) =
        some (if '\x00' ∈ shown.toList then "" else shown))
      [(RawInfo.of shown offer).name, (RawInfo.of shown offer).description,
        (RawInfo.of shown offer).version, (RawInfo.of shown offer).author] shown.texts :=
  .cons (Bytes.read?_writeOr _) (.cons (Bytes.read?_writeOr _) (.cons (Bytes.read?_writeOr _)
    (.cons (Bytes.read?_writeOr _) .nil)))

/-! ## Under the entry points -/

namespace HostRun

variable {run next : HostRun} {given : Bool} {entry : Entry} {value : Returned} {site : Site Code}
  {slot : String} {handle : ExtensionHandle} {path : Option Bytes}

theorem call_of_enter {proxy : Option (Site Code)} {world : World}
    (entered : run.enter given entry run.world = (.ok (.ok (value, proxy)), world)) :
    run.call given entry = (.ok value, { run with proxy := proxy, world := world }) := by
  have faulting : run.faulting given entry run.world = (.ok (.ok (value, proxy)), world) :=
    Run.bind_apply_of_ok _ entered
  have guarded := guard_of_ok entry.name faulting
  unfold HostRun.faulting at guarded
  simp only [call, guarded]

theorem ok_of_guard {σ α : Type} {run : Run σ (Except Fault α)} {s reached : σ} {name : String}
    {value : α} (guarded : guard name run s = (.ok (.ok value), reached)) :
    run s = (.ok (.ok value), reached) := by
  obtain ⟨result, mid, contained, ended⟩ := Run.of_bind_ok guarded
  cases result with
  | error fatal => cases ended
  | ok first =>
    cases ended
    unfold contain at contained
    split at contained
    · rename_i ran
      cases contained
      exact ran
    · cases contained
    · cases contained
    · cases contained

/-- A call that returns came to its end. -/
theorem enter_of_call (called : run.call given entry = (.ok value, next)) :
    ∃ proxy world, run.enter given entry run.world = (.ok (.ok (value, proxy)), world) ∧
      next = { run with proxy := proxy, world := world } := by
  simp only [call] at called
  split at called
  · rename_i returned proxy world guarded
    cases called
    obtain ⟨result, mid, entered, ended⟩ := Run.of_bind_ok (ok_of_guard guarded)
    cases result with
    | error cause => cases ended
    | ok pair =>
      cases ended
      exact ⟨proxy, world, entered, rfl⟩
  · cases called
  · cases called

/-- What is shown of what is in a slot. -/
theorem call_info {record : Record} (kept : run.world.slotRecord? slot = some record) (given : Bool) :
    run.call given (.info (some slot)) =
      (.ok (.info (RawInfo.of record.descriptor.presentation record.descriptor.offer)), run) := by
  obtain ⟨id, found, there⟩ := Option.bind_eq_some_iff.mp kept
  have found : recordGiven (some slot) run.world = .ok (id, record) := by
    simp only [recordGiven, Option.bind_some, found, there]
  refine call_of_enter (?_ : run.enter given (.info (some slot)) run.world =
    (.ok (.ok (_, run.proxy)), run.world))
  have shown : onRecord (some slot) (fun _ record => pure (.ok (.info (RawInfo.of
      record.descriptor.presentation record.descriptor.offer)))) run.world =
      (.ok (.ok (.info (RawInfo.of record.descriptor.presentation record.descriptor.offer))),
        run.world) := by
    rw [onRecord, Run.get_bind_apply, found]
    rfl
  exact Run.bind_apply_of_ok _ shown

/-- A call of a load that returns true has loaded with the proxy. -/
theorem loadInto_of_call (loaded : run.call given (.load slot handle path) = (.ok (.truth true), next)) :
    ∃ site, run.proxy = some site ∧
      loadInto site slot handle path run.world = (.ok (.ok (.truth true)), next.world) := by
  obtain ⟨proxy, world, entered, rfl⟩ := enter_of_call loaded
  unfold enter at entered
  cases isGiven : run.proxyGiven given with
  | error cause =>
    simp only [isGiven] at entered
    cases entered
  | ok site =>
    simp only [isGiven] at entered
    obtain ⟨result, mid, ran, ended⟩ := Run.of_bind_ok entered
    cases result with
    | error cause => cases ended
    | ok value =>
      cases ended
      refine ⟨site, ?_, ran⟩
      unfold proxyGiven at isGiven
      split at isGiven
      · rename_i isSome
        cases isGiven
        exact isSome
      · cases isGiven

/-- What is loaded into a slot is the record of a descriptor. -/
theorem exists_record_of_loadInto {world reached : World}
    (loaded : loadInto site slot handle path world = (.ok (.ok (.truth true)), reached)) :
    ∃ place record, Bytes.read? path = some place ∧
      site.descriptor place = .ok record.descriptor ∧ reached.slotRecord? slot = some record := by
  unfold loadInto at loaded
  cases read : Bytes.read? path with
  | none =>
    rw [read] at loaded
    cases loaded
  | some place =>
    rw [read] at loaded
    obtain ⟨result, mid, ran, ended⟩ := Run.of_bind_ok loaded
    cases result with
    | none => cases ended
    | some id =>
      cases ended
      unfold loadRecord at ran
      cases valid : site.descriptor place with
      | error cause =>
        rw [valid] at ran
        cases ran
      | ok descriptor =>
        rw [valid] at ran
        cases half : descriptor.modulePath? site.settings.loader with
        | none =>
          simp only [half] at ran
          cases ran
        | some modulePath =>
          simp only [half] at ran
          cases ran
          refine ⟨place, ⟨handle, descriptor, modulePath, .probed, none, none⟩, rfl, valid, ?_⟩
          refine Option.bind_eq_some_iff.mpr ⟨⟨world.recordCount⟩, ?_, ?_⟩
          · exact (OrderedMap.get?_insert _ _ _ _).trans (if_pos rfl)
          · exact (OrderedMap.get?_insert _ _ _ _).trans (if_pos rfl)

/-- The host is shown what is in a slot, which was read from a text. -/
structure Shows (run : HostRun) (slot : String) (text : String) (shown : Presentation)
    (info : RawInfo) : Prop where
  kept : (run.world.slotRecord? slot).map (·.descriptor.presentation) = some shown
  returned : ∀ given, run.call given (.info (some slot)) = (.ok (.info info), run)
  /-- A text with a zero reads back empty, every other one as it is. -/
  readBack : List.Forall₂ (fun bytes shown => Bytes.read? (some bytes) =
      some (if '\x00' ∈ shown.toList then "" else shown))
    [info.name, info.description, info.version, info.author] shown.texts
  agrees : info.Agrees shown ↔ ∀ text ∈ shown.texts, '\x00' ∉ text.toList
  named : shown.name ≠ "" ∧
    (Bytes.read? (some info.name) ≠ some "" ↔ '\x00' ∉ shown.name.toList)
  /-- Each text was read from a line, and holds a zero exactly if the line says one. -/
  lines : ∀ presented ∈ shown.texts, presented = "" ∨ ∃ raw ∈ textLines text.toList, ∃ key after,
    KeyFile.SaysOf raw key after ∧
      presented.toList = trimBlank (KeyFile.unescape (trimBlank after)) ∧
      ('\x00' ∈ presented.toList ↔ '\x00' ∈ after)

/-- What is loaded is shown as it was presented, unless there is a zero in it. -/
theorem shows_of_load (loaded : run.call given (.load slot handle path) = (.ok (.truth true), next)) :
    ∃ site place text file descriptor info, run.proxy = some site ∧ Bytes.read? path = some place ∧
      site.files.text? place = some text ∧ KeyFile.parse text = .ok file ∧
      Descriptor.ofKeyFile site.settings.loader site.environment place file = .ok descriptor ∧
      next.Shows slot text descriptor.presentation info := by
  obtain ⟨site, proxy, ran⟩ := loadInto_of_call loaded
  obtain ⟨place, record, isPlace, valid, kept⟩ := exists_record_of_loadInto ran
  obtain ⟨text, file, written, parsed, made⟩ := site.exists_text_of_descriptor valid
  have nonempty : record.descriptor.presentation.name ≠ "" :=
    (Descriptor.stem_name_of_ofKeyFile made).2
  refine ⟨site, place, text, file, record.descriptor, RawInfo.of record.descriptor.presentation
    record.descriptor.offer, proxy, isPlace, written, parsed, made, ?_⟩
  exact {
    kept := by rw [kept]; rfl
    returned := call_info kept
    readBack := RawInfo.readBack_of _ _
    agrees := RawInfo.agrees_of_iff _ _
    named := ⟨nonempty, RawInfo.name_of_ne_iff nonempty _⟩
    lines := fun presented => Descriptor.exists_line_of_shown parsed made }

end HostRun

namespace Sample

/-- A process whose only file is a descriptor with the given text, and a proxy. -/
def reader (text : String) : HostRun :=
  let files : FileTree Code := FileTree.empty.add "a.plugin" (.text text)
  { HostRun.start 0 {} [] files with proxy := some { files := files, binder := .libraries } }

/-- Loading this descriptor. -/
def loading : Entry := .load "a" ⟨1⟩ (some "a.plugin".toUTF8.toList)

/-- A name with blanks and escapes around a letter of two bytes. -/
def spacedText : String := "[modproxy]\nname=\\s Ä\\tB \nversion= 1"

theorem spaced_shows :
    ((reader spacedText).call true loading).1 = .ok (.truth true) ∧ ∃ info,
      ((reader spacedText).call true loading).2.Shows "a" spacedText ⟨"Ä\tB", "", "1", ""⟩ info ∧
      info.Agrees ⟨"Ä\tB", "", "1", ""⟩ := by
  have returned : ((reader spacedText).call true loading).1 = .ok (.truth true) := by decide +kernel
  have isShown : (((reader spacedText).call true loading).2.world.slotRecord? "a").map
      (·.descriptor.presentation) = some ⟨"Ä\tB", "", "1", ""⟩ := by decide +kernel
  have loaded : (reader spacedText).call true loading =
      (.ok (.truth true), ((reader spacedText).call true loading).2) := Prod.ext returned rfl
  refine ⟨returned, ?_⟩
  generalize ((reader spacedText).call true loading).2 = next at isShown loaded ⊢
  obtain ⟨site, place, text, file, descriptor, info, proxy, isPlace, written, -, -, shows⟩ :=
    HostRun.shows_of_load loaded
  have sameFiles : site.files = FileTree.empty.add "a.plugin" (.text spacedText) := by
    rw [← Option.some.inj proxy]
  have samePlace : some "a.plugin" = some place :=
    (by decide +kernel : some "a.plugin" = Bytes.read? (some "a.plugin".toUTF8.toList)).trans isPlace
  rw [sameFiles, ← Option.some.inj samePlace] at written
  have sameText : some spacedText = some text :=
    (by decide +kernel : some spacedText = FileTree.text? (FileTree.empty.add (ι := Code) "a.plugin"
      (.text spacedText)) "a.plugin").trans written
  have same := Option.some.inj (shows.kept.symm.trans isShown)
  rw [same, ← Option.some.inj sameText] at shows
  exact ⟨info, shows, shows.agrees.mpr (by decide)⟩

/-- A name with a zero in it is shown empty. -/
theorem zeroName_not_agrees :
    ((reader "[modproxy]\nname=A\x00B\n").call true loading).1 = .ok (.truth true) ∧
      (((reader "[modproxy]\nname=A\x00B\n").call true loading).2.world.slotRecord? "a").map
        (·.descriptor.presentation) = some ⟨"A\x00B", "", "", ""⟩ ∧
      ∃ info, (((reader "[modproxy]\nname=A\x00B\n").call true loading).2.call true
          (.info (some "a"))).1 = .ok (.info info) ∧
        Bytes.read? (some info.name) = some "" ∧ ¬info.Agrees ⟨"A\x00B", "", "", ""⟩ := by
  refine ⟨by decide +kernel, by decide +kernel, ⟨[], [], [], [], ⟨false, false⟩⟩, by decide +kernel,
    by decide +kernel, fun agrees => ?_⟩
  have empty : Bytes.read? (some []) = some "" := by decide +kernel
  exact absurd (empty.symm.trans agrees.name) (by decide)

end Sample

end Boundary

end ExtensionProxy
