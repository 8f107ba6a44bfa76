import ExtensionProxy.Proofs.KeyFile.Lines

/-!
# The canonical text of a key file

Whatever a text says, the key file that is read from it can be written and read again, and comes back
as it was.  A file is `Canonical` if its names, keys and values bear the marks of reading and each name,
and in its group each key, is there once.  Reading keeps to canonical files line by line.  The lines of
a canonical file read back as the headers and entries they were written for; since no name and no key
comes twice, each is appended where it was, and the same file is put together again.
-/

set_option autoImplicit false

namespace ExtensionProxy.KeyFile

/-! ## Canonical files -/

/-- A group as reading gives it. -/
structure IsGroup (group : String × OrderedMap String String) : Prop where
  isName : IsGroupName group.1.toList
  /-- Each key is there once. -/
  keysOnce : group.2.keys.Nodup
  isEntry : ∀ entry ∈ group.2.entries, IsKey entry.1.toList ∧ Trimmed (escape entry.2.toList)

/-- A file as reading gives it. -/
structure Canonical (file : KeyFile) : Prop where
  /-- Each group is there once. -/
  groupsOnce : file.groups.keys.Nodup
  isGroup : ∀ group ∈ file.groups.entries, IsGroup group

theorem canonical_empty : Canonical empty := ⟨List.nodup_nil, by simp [empty, OrderedMap.empty]⟩

theorem isGroup_empty {name : String} (isName : IsGroupName name.toList) : IsGroup (name, .empty) :=
  ⟨isName, List.nodup_nil, by simp [OrderedMap.empty]⟩

theorem IsGroup.insert {name key value : String} {entries : OrderedMap String String}
    (isGroup : IsGroup (name, entries)) (isKey : IsKey key.toList)
    (isValue : Trimmed (escape value.toList)) : IsGroup (name, entries.insert key value) where
  isName := isGroup.isName
  keysOnce := OrderedMap.nodup_keys_alter key _ isGroup.keysOnce
  isEntry := by
    intro entry mem
    rcases OrderedMap.mem_alterEntries mem with old | rfl | ⟨_, -, rfl⟩
    · exact isGroup.isEntry entry old
    · exact ⟨isKey, isValue⟩
    · exact ⟨isKey, isValue⟩

/-- A change of one group keeps a file canonical if what it makes of that group is a group. -/
theorem Canonical.alter {file : KeyFile} {name : String}
    {change : Option (OrderedMap String String) → OrderedMap String String} (canonical : Canonical file)
    (fresh : IsGroup (name, change none))
    (changed : ∀ old, IsGroup (name, old) → IsGroup (name, change (some old))) :
    Canonical ⟨file.groups.alter name change⟩ where
  groupsOnce := OrderedMap.nodup_keys_alter name change canonical.groupsOnce
  isGroup := by
    intro group mem
    rcases OrderedMap.mem_alterEntries mem with there | rfl | ⟨old, there, rfl⟩
    · exact canonical.isGroup group there
    · exact fresh
    · exact changed old (canonical.isGroup _ there)

theorem Canonical.openGroup {file : KeyFile} {name : String} (canonical : Canonical file)
    (isName : IsGroupName name.toList) : Canonical (file.openGroup name) :=
  canonical.alter (isGroup_empty isName) fun _ isGroup => isGroup

theorem Canonical.set {file : KeyFile} {name key value : String} (canonical : Canonical file)
    (isName : IsGroupName name.toList) (isKey : IsKey key.toList)
    (isValue : Trimmed (escape value.toList)) : Canonical (file.set name key value) :=
  canonical.alter ((isGroup_empty isName).insert isKey isValue)
    fun _ isGroup => isGroup.insert isKey isValue

/-! ## Reading keeps to canonical files -/

/-- What has been read so far is canonical, and pairs go to a group with a name. -/
structure Reading.Sound (r : Reading) : Prop where
  canonical : Canonical r.file
  current : ∀ name ∈ r.current, IsGroupName name.toList

theorem Reading.Sound.add {r next : Reading} {raw : List Char} (sound : r.Sound) (oneLine : '\n' ∉ raw)
    (added : r.add raw = .ok next) : next.Sound := by
  unfold Reading.add at added
  split at added
  · cases added
  · cases added
    exact sound
  · rename_i name read
    have isName : IsGroupName name.toList := readLine_isRead oneLine read
    cases added
    exact ⟨sound.canonical.openGroup isName, fun _ same => Option.some.inj same ▸ isName⟩
  · rename_i key value read
    obtain ⟨isKey, isValue⟩ : IsKey key.toList ∧ Trimmed (escape value.toList) :=
      readLine_isRead oneLine read
    split at added
    · cases added
    · rename_i name current
      cases added
      exact ⟨sound.canonical.set (sound.current name current) isKey isValue, sound.current⟩

theorem Reading.Sound.addLines {r last : Reading} {number : Nat} {lines : List (List Char)}
    (sound : r.Sound) (oneLine : ∀ line ∈ lines, '\n' ∉ line)
    (added : r.addLines number lines = .ok last) : last.Sound := by
  induction lines generalizing r number with
  | nil => cases added; exact sound
  | cons raw rest ih =>
    rw [List.forall_mem_cons] at oneLine
    rw [Reading.addLines] at added
    split at added
    · cases added
    · rename_i next first
      exact ih (sound.add oneLine.1 first) oneLine.2 added

theorem sound_start : Reading.start.Sound := ⟨canonical_empty, by simp [Reading.start]⟩

/-- Every file that is read is canonical. -/
theorem canonical_of_parse {text : String} {file : KeyFile} (read : parse text = .ok file) :
    Canonical file := by
  obtain ⟨last, added⟩ := parse_eq_ok.mp read
  exact (sound_start.addLines (fun _ mem => notMem_of_mem_textLines mem) added).canonical

/-! ## Reading puts a canonical file together again -/

theorem notMem_of_nodup_append {α β : Type} {front rest : List (α × β)} {entry : α × β}
    (once : ((front ++ entry :: rest).map Prod.fst).Nodup) : entry.1 ∉ front.map Prod.fst := by
  rw [List.map_append, List.map_cons] at once
  intro mem
  exact (List.nodup_append.mp once).2.2 entry.1 mem entry.1 List.mem_cons_self rfl

theorem nodup_append_cons {α β : Type} {front rest : List (α × β)} {entry : α × β}
    (once : ((front ++ entry :: rest).map Prod.fst).Nodup) :
    (((front ++ [entry]) ++ rest).map Prod.fst).Nodup := by
  rwa [List.append_assoc, List.singleton_append]

theorem add_renderEntry {name : String} {front : List (String × OrderedMap String String)}
    {written : List (String × String)} {entry : String × String} (isNew : name ∉ front.map Prod.fst)
    (isFresh : entry.1 ∉ written.map Prod.fst) (isKey : IsKey entry.1.toList)
    (isValue : Trimmed (escape entry.2.toList)) :
    Reading.add ⟨⟨⟨front ++ [(name, ⟨written⟩)]⟩⟩, some name⟩ (renderEntry entry) =
      .ok ⟨⟨⟨front ++ [(name, ⟨written ++ [entry]⟩)]⟩⟩, some name⟩ := by
  have appended := OrderedMap.alterEntries_append isFresh (fun _ => entry.2) []
  rw [List.append_nil] at appended
  simp only [Reading.add, readLine_renderEntry isKey isValue, KeyFile.set, OrderedMap.alter,
    OrderedMap.alterEntries_append isNew, OrderedMap.alterEntries, if_true, Option.getD_some,
    OrderedMap.insert, appended]

/-- The entries of a group are read after its header and the entries before them. -/
theorem addLines_entries {name : String} {front : List (String × OrderedMap String String)}
    (written entries : List (String × String)) (number : Nat) (isNew : name ∉ front.map Prod.fst)
    (keysOnce : ((written ++ entries).map Prod.fst).Nodup)
    (isEntry : ∀ entry ∈ entries, IsKey entry.1.toList ∧ Trimmed (escape entry.2.toList)) :
    Reading.addLines ⟨⟨⟨front ++ [(name, ⟨written⟩)]⟩⟩, some name⟩ number (entries.map renderEntry) =
      .ok ⟨⟨⟨front ++ [(name, ⟨written ++ entries⟩)]⟩⟩, some name⟩ := by
  induction entries generalizing written number with
  | nil => simp [Reading.addLines]
  | cons entry entries ih =>
    rw [List.forall_mem_cons] at isEntry
    have isFresh := notMem_of_nodup_append keysOnce
    rw [List.map_cons, Reading.addLines, add_renderEntry isNew isFresh isEntry.1.1 isEntry.1.2]
    simp only [ih (written ++ [entry]) (number + 1) (nodup_append_cons keysOnce) isEntry.2]
    rw [List.append_assoc, List.singleton_append]

theorem add_renderHeader {name : String} {front : List (String × OrderedMap String String)}
    {current : Option String} (isNew : name ∉ front.map Prod.fst)
    (isName : IsGroupName name.toList) :
    Reading.add ⟨⟨⟨front⟩⟩, current⟩ (renderHeader name) =
      .ok ⟨⟨⟨front ++ [(name, ⟨[]⟩)]⟩⟩, some name⟩ := by
  have appended := OrderedMap.alterEntries_append isNew
    (fun entries => entries.getD (OrderedMap.empty : OrderedMap String String)) []
  rw [List.append_nil] at appended
  simp only [Reading.add, readLine_renderHeader isName, KeyFile.openGroup, OrderedMap.alter, appended]
  rfl

/-- Groups are read after the groups before them. -/
theorem addLines_groups (front groups : List (String × OrderedMap String String))
    (current : Option String) (number : Nat) (groupsOnce : ((front ++ groups).map Prod.fst).Nodup)
    (isGroup : ∀ group ∈ groups, IsGroup group) :
    ∃ last, Reading.addLines ⟨⟨⟨front⟩⟩, current⟩ number (groups.flatMap renderGroup) =
      .ok ⟨⟨⟨front ++ groups⟩⟩, last⟩ := by
  induction groups generalizing front current number with
  | nil => exact ⟨current, by simp [Reading.addLines]⟩
  | cons group groups ih =>
    obtain ⟨name, ⟨entries⟩⟩ := group
    rw [List.forall_mem_cons] at isGroup
    have isNew := notMem_of_nodup_append groupsOnce
    have filled := addLines_entries [] entries (number + 1) isNew isGroup.1.keysOnce isGroup.1.isEntry
    rw [List.nil_append] at filled
    obtain ⟨last, added⟩ := ih (front ++ [(name, ⟨entries⟩)]) (some name)
      (number + 1 + (entries.map renderEntry).length) (nodup_append_cons groupsOnce) isGroup.2
    refine ⟨last, ?_⟩
    rw [List.flatMap_cons, renderGroup, List.cons_append, Reading.addLines,
      add_renderHeader isNew isGroup.1.isName]
    simp only [Reading.addLines_append, filled, Except.bind, added]
    rw [List.append_assoc, List.singleton_append]

/-- A canonical file is read from its text. -/
theorem Canonical.parse_render {file : KeyFile} (canonical : Canonical file) :
    parse (render file) = .ok file := by
  have oneLine : ∀ line ∈ file.groups.entries.flatMap renderGroup, '\n' ∉ line := by
    intro line mem
    obtain ⟨group, isThere, mem⟩ := List.mem_flatMap.mp mem
    have isGroup := canonical.isGroup group isThere
    rcases List.mem_cons.mp mem with rfl | mem
    · exact newline_notMem_renderHeader isGroup.isName
    · obtain ⟨entry, isThere, rfl⟩ := List.mem_map.mp mem
      exact newline_notMem_renderEntry (isGroup.isEntry entry isThere).1
  obtain ⟨last, added⟩ :=
    addLines_groups [] file.groups.entries none 1 canonical.groupsOnce canonical.isGroup
  have added : Reading.start.addLines 1 (file.groups.entries.flatMap renderGroup) = .ok ⟨file, last⟩ :=
    added
  rw [parse_eq_ok, render, String.toList_ofList, textLines_flatMap oneLine]
  exact ⟨last, added⟩

/-- What was read comes back as it was when it is written and read again. -/
theorem parse_render_of_parse {text : String} {file : KeyFile} (read : parse text = .ok file) :
    parse (render file) = .ok file :=
  (canonical_of_parse read).parse_render

/-- A value between blanks, with a space and a tab of its own at its ends. -/
theorem parse_render_of_padded :
    parse "[ a ]\r\n  key = \\sx\\q\\t  " = .ok ⟨⟨[(" a ", ⟨[("key", " x\\q\t")]⟩)]⟩⟩ ∧
      parse (render ⟨⟨[(" a ", ⟨[("key", " x\\q\t")]⟩)]⟩⟩) =
        .ok ⟨⟨[(" a ", ⟨[("key", " x\\q\t")]⟩)]⟩⟩ := by
  have read : parse "[ a ]\r\n  key = \\sx\\q\\t  " =
      .ok ⟨⟨[(" a ", ⟨[("key", " x\\q\t")]⟩)]⟩⟩ := rfl
  exact ⟨read, parse_render_of_parse read⟩

end ExtensionProxy.KeyFile
