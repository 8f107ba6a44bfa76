import ExtensionProxy.Proofs.KeyFile.Grammar

/-!
# What the lines of a key file come to

The headers of a text list the groups and its pairs list the keys, each in the order of first
appearance.  A pair stands under the last header before it.  One group can have several headers; what
stands under any of them goes to it, and of the pairs for one key the last one counts.

The contents are said of the list of lines, `Holds`, and are kept while lines are taken up one by one:
the lines so far determine the file so far and the group that is open.
-/

set_option autoImplicit false

namespace ExtensionProxy.KeyFile

/-! ## Headers and pairs -/

/-- The names of the headers. -/
def headerNames : List Line → List String
  | [] => []
  | .skip :: lines => headerNames lines
  | .header name :: lines => name :: headerNames lines
  | .pair _ _ :: lines => headerNames lines

/-- The pairs under the headers of a group; `open?` is the header above the first line. -/
def pairsUnder (group : String) (open? : Option String) : List Line → List (String × String)
  | [] => []
  | .skip :: lines => pairsUnder group open? lines
  | .header name :: lines => pairsUnder group (some name) lines
  | .pair key value :: lines =>
    if open? = some group then (key, value) :: pairsUnder group open? lines
    else pairsUnder group open? lines

/-- A file holds what lines say. -/
structure Holds (lines : List Line) (file : KeyFile) : Prop where
  /-- The groups come in the order of their first headers, each once. -/
  groupNames : file.groupNames = (headerNames lines).eraseDups
  /-- The keys of a group come in the order of their first pairs, each once. -/
  keys : ∀ group, file.keys group = ((pairsUnder group none lines).map Prod.fst).eraseDups
  /-- The value of a key is that of its last pair under any header of the group. -/
  values : ∀ group key, file.string? group key =
    ((pairsUnder group none lines).filter fun pair => pair.1 = key).getLast?.map Prod.snd

variable {file : KeyFile} {lines : List Line} {line : Line} {raws : List (List Char)}
  {r next last : Reading}

theorem headerNames_append (front back : List Line) :
    headerNames (front ++ back) = headerNames front ++ headerNames back := by
  induction front with
  | nil => rfl
  | cons line front ih => cases line <;> simp [headerNames, ih]

/-- Lines go on under the last header before them. -/
theorem pairsUnder_append (group : String) (open? : Option String) (front back : List Line) :
    pairsUnder group open? (front ++ back) =
      pairsUnder group open? front ++
        pairsUnder group ((headerNames front).getLast?.or open?) back := by
  induction front generalizing open? with
  | nil => rfl
  | cons line front ih =>
    cases line with
    | skip => exact ih open?
    | header name =>
      rw [List.cons_append, pairsUnder, pairsUnder, ih, headerNames, List.getLast?_cons]
      cases (headerNames front).getLast? <;> rfl
    | pair key value =>
      rw [List.cons_append, pairsUnder, pairsUnder, ih]
      split <;> rfl

@[simp] theorem headerNames_concat_skip (lines : List Line) :
    headerNames (lines ++ [.skip]) = headerNames lines := by
  simp [headerNames_append, headerNames]

@[simp] theorem headerNames_concat_header (lines : List Line) (name : String) :
    headerNames (lines ++ [.header name]) = headerNames lines ++ [name] := by
  simp [headerNames_append, headerNames]

@[simp] theorem headerNames_concat_pair (lines : List Line) (key value : String) :
    headerNames (lines ++ [.pair key value]) = headerNames lines := by
  simp [headerNames_append, headerNames]

@[simp] theorem pairsUnder_concat_skip (group : String) (lines : List Line) :
    pairsUnder group none (lines ++ [.skip]) = pairsUnder group none lines := by
  simp [pairsUnder_append, pairsUnder]

@[simp] theorem pairsUnder_concat_header (group name : String) (lines : List Line) :
    pairsUnder group none (lines ++ [.header name]) = pairsUnder group none lines := by
  simp [pairsUnder_append, pairsUnder]

/-- A pair goes to the group of the last header. -/
theorem pairsUnder_concat_pair {name : String} (current : (headerNames lines).getLast? = some name)
    (group key value : String) :
    pairsUnder group none (lines ++ [.pair key value]) =
      pairsUnder group none lines ++ if group = name then [(key, value)] else [] := by
  rw [pairsUnder_append, current, Option.some_or, pairsUnder, pairsUnder]
  by_cases same : group = name
  · simp [same]
  · simp [same, Ne.symm same]

/-! ## Writing to a file -/

theorem eraseDups_concat (names : List String) (name : String) :
    (names ++ [name]).eraseDups =
      if name ∈ names.eraseDups then names.eraseDups else names.eraseDups ++ [name] := by
  have single : [name].eraseDups = [name] := rfl
  rw [List.eraseDups_append]
  by_cases there : name ∈ names
  · simp [List.removeAll, there]
  · simp [List.removeAll, there, single]

theorem groupNames_openGroup (name : String) :
    (file.openGroup name).groupNames =
      if name ∈ file.groupNames then file.groupNames else file.groupNames ++ [name] :=
  OrderedMap.keys_alter file.groups name _

/-- An absent group counts as one without keys. -/
theorem keys_eq_getD (group : String) :
    file.keys group = ((file.groups.get? group).getD .empty).keys := by
  rw [keys]
  cases file.groups.get? group <;> rfl

theorem keys_openGroup (name group : String) : (file.openGroup name).keys group = file.keys group := by
  rw [keys_eq_getD, keys_eq_getD, openGroup, OrderedMap.get?_alter]
  by_cases same : group = name
  · rw [if_pos same, Option.getD_some, same]
  · rw [if_neg same]

theorem string?_openGroup (name group key : String) :
    (file.openGroup name).string? group key = file.string? group key := by
  simp only [string?, openGroup, OrderedMap.get?_alter]
  by_cases same : group = name
  · subst same
    cases file.groups.get? group <;> simp
  · rw [if_neg same]

theorem groupNames_set {name : String} (there : name ∈ file.groupNames) (key value : String) :
    (file.set name key value).groupNames = file.groupNames :=
  (OrderedMap.keys_alter file.groups name _).trans (if_pos there)

theorem keys_set (name key value group : String) :
    (file.set name key value).keys group =
      if group = name ∧ key ∉ file.keys group then file.keys group ++ [key]
      else file.keys group := by
  rw [keys_eq_getD, keys_eq_getD, set, OrderedMap.get?_alter]
  by_cases same : group = name
  · subst same
    rw [if_pos rfl, Option.getD_some, OrderedMap.insert, OrderedMap.keys_alter]
    simp only [true_and, ite_not]
  · rw [if_neg same, if_neg fun both => same both.1]

theorem string?_set (name key value group other : String) :
    (file.set name key value).string? group other =
      if group = name ∧ other = key then some value else file.string? group other := by
  simp only [string?, set, OrderedMap.get?_alter]
  by_cases same : group = name
  · subst same
    simp only [if_true, Option.bind_some, OrderedMap.get?_insert, true_and]
    cases file.groups.get? group <;> simp
  · rw [if_neg same, if_neg fun both => same both.1]

/-! ## Taking up lines -/

theorem Holds.skip (holds : Holds lines file) : Holds (lines ++ [.skip]) file where
  groupNames := by rw [headerNames_concat_skip, holds.groupNames]
  keys group := by rw [pairsUnder_concat_skip, holds.keys]
  values group key := by rw [pairsUnder_concat_skip, holds.values]

theorem Holds.openGroup (holds : Holds lines file) (name : String) :
    Holds (lines ++ [.header name]) (file.openGroup name) where
  groupNames := by
    rw [groupNames_openGroup, holds.groupNames, headerNames_concat_header, eraseDups_concat]
  keys group := by rw [keys_openGroup, pairsUnder_concat_header, holds.keys]
  values group key := by rw [string?_openGroup, pairsUnder_concat_header, holds.values]

theorem Holds.set {name : String} (holds : Holds lines file)
    (current : (headerNames lines).getLast? = some name) (key value : String) :
    Holds (lines ++ [.pair key value]) (file.set name key value) where
  groupNames := by
    have there : name ∈ file.groupNames := by
      rw [holds.groupNames, List.mem_eraseDups]
      exact List.mem_of_getLast? current
    rw [groupNames_set there, holds.groupNames, headerNames_concat_pair]
  keys group := by
    rw [keys_set, holds.keys, pairsUnder_concat_pair current]
    by_cases same : group = name
    · rw [if_pos same, List.map_append, List.map_singleton, eraseDups_concat]
      simp only [same, true_and, ite_not]
    · rw [if_neg same, if_neg fun both => same both.1, List.append_nil]
  values group other := by
    rw [string?_set, holds.values, pairsUnder_concat_pair current]
    by_cases same : group = name
    · rw [if_pos same, List.filter_append]
      by_cases written : other = key
      · simp [same, written]
      · simp [same, written, Ne.symm written]
    · rw [if_neg same, if_neg fun both => same both.1, List.append_nil]

/-- What has been read so far is what the lines so far say, and pairs go to the group of the last
header. -/
structure Reading.Tells (lines : List Line) (r : Reading) : Prop where
  current : r.current = (headerNames lines).getLast?
  holds : Holds lines r.file

theorem Reading.tells_start : Reading.start.Tells [] where
  current := rfl
  holds := ⟨rfl, fun _ => rfl, fun _ _ => rfl⟩

theorem Reading.Tells.after (tells : r.Tells lines) (taken : r.after? line = some next) :
    next.Tells (lines ++ [line]) := by
  cases line with
  | skip =>
    cases taken
    exact ⟨by rw [tells.current, headerNames_concat_skip], tells.holds.skip⟩
  | header name =>
    cases taken
    exact ⟨by rw [headerNames_concat_header, List.getLast?_concat], tells.holds.openGroup name⟩
  | pair key value =>
    obtain ⟨name, current, rfl⟩ := Option.map_eq_some_iff.mp taken
    have opened : (headerNames lines).getLast? = some name := tells.current.symm.trans current
    exact ⟨by rw [headerNames_concat_pair, opened], tells.holds.set opened key value⟩

/-- From what the lines before say to what all lines say. -/
theorem Reading.Tells.addLines {number : Nat} (tells : r.Tells lines)
    (added : r.addLines number raws = .ok last) :
    ∃ more, Say raws more ∧ last.Tells (lines ++ more) := by
  induction raws generalizing r lines number with
  | nil =>
    cases added
    exact ⟨[], .nil, by rwa [List.append_nil]⟩
  | cons raw raws ih =>
    rw [Reading.addLines] at added
    split at added
    · cases added
    · rename_i next first
      obtain ⟨line, written, taken⟩ := add_eq_ok_iff.mp first
      obtain ⟨more, say, whole⟩ := ih (tells.after taken) added
      rw [List.append_assoc] at whole
      exact ⟨line :: more, .cons written say, whole⟩

/-- A file that is read holds what the lines of its text say. -/
theorem holds_of_parse {text : String} (read : parse text = .ok file) :
    ∃ lines, Say (textLines text.toList) lines ∧ Holds lines file := by
  obtain ⟨last, added⟩ := parse_eq_ok.mp read
  obtain ⟨lines, say, whole⟩ := Reading.tells_start.addLines added
  exact ⟨lines, say, whole.holds⟩

example : (parse "[a]\nx=1\n[b]\nx=2\n[a]\nx=3\ny=4").toOption.map
    (fun file => (file.groupNames, file.keys "a", file.string? "a" "x")) =
      some (["a", "b"], ["x", "y"], some "3") := rfl

/-! ## Reading by the grammar -/

/-- A text is read as the grammar has it. -/
structure ReadByGrammar (text : String) : Prop where
  /-- Exactly the texts in the grammar are accepted. -/
  accepts : (∃ file, parse text = .ok file) ↔ Grammatical (textLines text.toList)
  /-- A fault names the first line at which the text leaves the grammar. -/
  refuses : ∀ fault, parse text = .error fault → LeavesAt text fault
  /-- Line ends may be written either way. -/
  lineEnds : parse (String.ofList (writeLineEnds false text.toList)) = parse text
  /-- What is accepted comes to the headers and pairs that the lines say. -/
  contents : ∀ file, parse text = .ok file →
    ∃ lines, Say (textLines text.toList) lines ∧ Holds lines file

theorem parse_readByGrammar (text : String) : ReadByGrammar text where
  accepts := parse_isOk_iff
  refuses _ := leavesAt_of_parse
  lineEnds := parse_writeLineEnds text
  contents _ := holds_of_parse

end ExtensionProxy.KeyFile
