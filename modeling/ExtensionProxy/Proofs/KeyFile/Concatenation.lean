import ExtensionProxy.Proofs.KeyFile.Canonical

/-!
# Reading one text after another

A text that is put together from two, with a line feed between them, is read like the first text and
then like the second.  Where the first fails, the whole fails.  Otherwise the second text meets the
groups of the first and finds a group open, and this is all that it can notice of it: what its lines say,
and which of them are wrong, does not depend on what was read before, save for a pair that has no group
to go to.  So the file of the whole is the file of the first updated by the file of the second, line by
line.

The step is `Reading.add_over`: opening a group in the second file, or setting an entry in it, does to
the updated file what it does to the second one.
-/

set_option autoImplicit false

namespace ExtensionProxy.KeyFile

/-! ## Updating one file by another -/

/-- Opens a group and sets entries in it, in order. -/
def setGroup (file : KeyFile) (group : String × OrderedMap String String) : KeyFile :=
  group.2.entries.foldl (fun file entry => file.set group.1 entry.1 entry.2) (file.openGroup group.1)

/-- A file updated by another: each group of the other is opened, at the end if it is not there, and
each of its entries is set in it, in place or at the end. -/
def update (file other : KeyFile) : KeyFile := other.groups.entries.foldl setGroup file

/-- The entries of a group written into what is there of it. -/
def writeEntries (old : Option (OrderedMap String String)) (entries : OrderedMap String String) :
    OrderedMap String String :=
  (old.getD .empty).amend (fun _ value => value) entries.entries

theorem foldl_set_alter (groups : OrderedMap String (OrderedMap String String)) (name : String)
    (first : Option (OrderedMap String String) → OrderedMap String String)
    (entries : List (String × String)) :
    entries.foldl (fun (file : KeyFile) entry => file.set name entry.1 entry.2)
        ⟨groups.alter name first⟩ =
      ⟨groups.alter name fun old => (first old).amend (fun _ value => value) entries⟩ := by
  induction entries generalizing first with
  | nil => rfl
  | cons entry entries ih =>
    rw [List.foldl_cons, KeyFile.set, OrderedMap.alter_alter, ih]
    rfl

theorem setGroup_eq_alter (file : KeyFile) (name : String) (entries : OrderedMap String String) :
    file.setGroup (name, entries) = ⟨file.groups.alter name fun old => writeEntries old entries⟩ :=
  foldl_set_alter file.groups name _ entries.entries

theorem update_eq_amend (file other : KeyFile) :
    file.update other = ⟨file.groups.amend writeEntries other.groups.entries⟩ := by
  rw [update]
  induction other.groups.entries generalizing file with
  | nil => rfl
  | cons group rest ih => rw [List.foldl_cons, setGroup_eq_alter, ih]; rfl

theorem update_openGroup {other : KeyFile} (file : KeyFile) (canonical : Canonical other)
    (name : String) : file.update (other.openGroup name) = (file.update other).openGroup name := by
  rw [update_eq_amend, update_eq_amend]
  exact congrArg mk (OrderedMap.amend_alterEntries file.groups canonical.groupsOnce
    (fun _ _ _ => rfl) fun _ => rfl)

theorem writeEntries_insert {entries : OrderedMap String String} (keysOnce : entries.keys.Nodup)
    (old : Option (OrderedMap String String)) (key value : String) :
    writeEntries old (entries.insert key value) = (writeEntries old entries).insert key value :=
  OrderedMap.amend_alterEntries (old.getD .empty) keysOnce (fun _ _ _ => rfl) fun _ => rfl

theorem update_set {other : KeyFile} (file : KeyFile) (canonical : Canonical other)
    (name key value : String) :
    file.update (other.set name key value) = (file.update other).set name key value := by
  rw [update_eq_amend, update_eq_amend]
  refine congrArg mk (OrderedMap.amend_alterEntries file.groups canonical.groupsOnce ?_ fun _ => rfl)
  intro old entries mem
  exact writeEntries_insert (canonical.isGroup _ mem).keysOnce old key value

/-! ## Reading on top of a file -/

/-- The state of reading a text after another one that left the file `base` and the group `last`. -/
def Reading.over (base : KeyFile) (last : Option String) (r : Reading) : Reading :=
  ⟨base.update r.file, r.current.or last⟩

variable {base : KeyFile} {last : Option String} {r next : Reading}

/-- What one line does to a reading it does on top of a file. -/
theorem Reading.add_over {raw : List Char} (canonical : Canonical r.file)
    (added : r.add raw = .ok next) : (r.over base last).add raw = .ok (next.over base last) := by
  unfold Reading.add at added ⊢
  split at added
  · cases added
  · cases added
    rfl
  · cases added
    simp only [Reading.over, update_openGroup base canonical, Option.some_or]
  · split at added
    · cases added
    · rename_i current
      cases added
      simp only [Reading.over, current, update_set base canonical, Option.some_or]

/-- A line that fails for what it says fails on top of any file. -/
theorem Reading.add_over_fails {raw : List Char} {fault : LineFault}
    (hasGroup : ∀ key, fault ≠ .orphanKey key) (failed : r.add raw = .error fault)
    (other : Reading) : other.add raw = .error fault := by
  unfold Reading.add at failed ⊢
  split at failed
  · cases failed
    rfl
  · cases failed
  · cases failed
  · split at failed
    · cases failed
      exact absurd rfl (hasGroup _)
    · cases failed

/-- What lines do to a reading they do on top of a file, `offset` lines later. -/
theorem Reading.addLines_over {lines : List (List Char)} {number : Nat} (sound : r.Sound)
    (oneLine : ∀ line ∈ lines, '\n' ∉ line) (offset : Nat)
    (added : r.addLines number lines = .ok next) :
    (r.over base last).addLines (number + offset) lines = .ok (next.over base last) := by
  induction lines generalizing r number with
  | nil => cases added; rfl
  | cons raw rest ih =>
    rw [List.forall_mem_cons] at oneLine
    rw [Reading.addLines] at added ⊢
    split at added
    · cases added
    · rename_i following first
      simp only [Reading.add_over sound.canonical first]
      rw [Nat.add_right_comm]
      exact ih (sound.add oneLine.1 first) oneLine.2 added

theorem Reading.addLines_over_fails {lines : List (List Char)} {number : Nat} {fault : SyntaxFault}
    (sound : r.Sound) (oneLine : ∀ line ∈ lines, '\n' ∉ line) (offset : Nat)
    (hasGroup : ∀ key, fault.fault ≠ .orphanKey key) (failed : r.addLines number lines = .error fault) :
    (r.over base last).addLines (number + offset) lines =
      .error ⟨fault.line + offset, fault.fault⟩ := by
  induction lines generalizing r number with
  | nil => cases failed
  | cons raw rest ih =>
    rw [List.forall_mem_cons] at oneLine
    rw [Reading.addLines] at failed ⊢
    split at failed
    · rename_i why first
      cases failed
      simp only [Reading.add_over_fails hasGroup first]
    · rename_i following first
      simp only [Reading.add_over sound.canonical first]
      rw [Nat.add_right_comm]
      exact ih (sound.add oneLine.1 first) oneLine.2 failed

/-! ## Texts one after another -/

/-- An empty line at the end changes nothing. -/
theorem Reading.addLines_concat_nil (r : Reading) (number : Nat) (lines : List (List Char)) :
    r.addLines number (lines ++ [[]]) = r.addLines number lines := by
  rw [Reading.addLines_append]
  cases r.addLines number lines with
  | error fault => rfl
  | ok next => rfl

theorem Reading.addLines_concat_newline (r : Reading) (number : Nat) (text : List Char) :
    r.addLines number (textLines (text ++ ['\n'])) = r.addLines number (textLines text) := by
  rcases textLines_concat_newline text with same | added
  · rw [same]
  · rw [added, addLines_concat_nil]

/-- Two texts with a line feed between them are read like the first and, from there, the second. -/
theorem addLines_append_newline (a b : String) :
    Reading.start.addLines 1 (textLines (a ++ "\n" ++ b).toList) =
      (Reading.start.addLines 1 (textLines a.toList)).bind fun first =>
        first.addLines (1 + (textLines (a ++ "\n").toList).length) (textLines b.toList) := by
  have ended : (a ++ "\n").toList = a.toList ++ ['\n'] := String.toList_append
  have whole : (a ++ "\n" ++ b).toList = a.toList ++ '\n' :: b.toList := by
    rw [String.toList_append, ended, List.append_assoc, List.singleton_append]
  rw [whole, ended, textLines_append_newline, Reading.addLines_append, Reading.addLines_concat_newline]

theorem over_start (base : KeyFile) (last : Option String) :
    Reading.start.over base last = ⟨base, last⟩ := rfl

/-- What a text with two parts gives: the file of the first part updated by the file of the second; the
fault of the first part; and else the fault of the second, as many lines later as the first part has, if
it is not that a pair comes before any group. -/
theorem parse_concatenation (a b : String) :
    (∀ first second, parse a = .ok first → parse b = .ok second →
      parse (a ++ "\n" ++ b) = .ok (first.update second)) ∧
    (∀ fault, parse a = .error fault → parse (a ++ "\n" ++ b) = .error fault) ∧
    (∀ first fault, parse a = .ok first → parse b = .error fault →
      (∀ key, fault.fault ≠ .orphanKey key) →
      parse (a ++ "\n" ++ b) =
        .error ⟨fault.line + (textLines (a ++ "\n").toList).length, fault.fault⟩) := by
  have whole := addLines_append_newline a b
  have oneLine : ∀ line ∈ textLines b.toList, '\n' ∉ line := fun _ mem => notMem_of_mem_textLines mem
  refine ⟨?_, ?_, ?_⟩
  · intro first second readFirst readSecond
    obtain ⟨last, added⟩ := parse_eq_ok.mp readFirst
    obtain ⟨last', added'⟩ := parse_eq_ok.mp readSecond
    rw [added, Except.bind, ← over_start first last,
      Reading.addLines_over sound_start oneLine _ added'] at whole
    exact parse_eq_ok.mpr ⟨_, whole⟩
  · intro fault failed
    rw [parse_eq_error.mp failed, Except.bind] at whole
    exact parse_eq_error.mpr whole
  · intro first fault readFirst failed hasGroup
    obtain ⟨last, added⟩ := parse_eq_ok.mp readFirst
    rw [added, Except.bind, ← over_start first last,
      Reading.addLines_over_fails sound_start oneLine _ hasGroup (parse_eq_error.mp failed)] at whole
    exact parse_eq_error.mpr whole

/-- A group that comes again, a header that is not closed, and a pair without a key. -/
theorem parse_concatenation_samples :
    parse ("[g]\nk=1\nl=2" ++ "\n" ++ "[g]\r\nk=3\n[h]") =
        .ok ⟨⟨[("g", ⟨[("k", "3"), ("l", "2")]⟩), ("h", ⟨[]⟩)]⟩⟩ ∧
      parse ("[g" ++ "\n" ++ "") = .error ⟨1, .unterminatedHeader⟩ ∧
      parse ("[g]\n" ++ "\n" ++ "=1") = .error ⟨3, .emptyKey⟩ :=
  ⟨(parse_concatenation "[g]\nk=1\nl=2" "[g]\r\nk=3\n[h]").1
      ⟨⟨[("g", ⟨[("k", "1"), ("l", "2")]⟩)]⟩⟩ ⟨⟨[("g", ⟨[("k", "3")]⟩), ("h", ⟨[]⟩)]⟩⟩ rfl rfl,
    (parse_concatenation "[g" "").2.1 ⟨1, .unterminatedHeader⟩ rfl,
    (parse_concatenation "[g]\n" "=1").2.2 ⟨⟨[("g", ⟨[]⟩)]⟩⟩ ⟨1, .emptyKey⟩ rfl rfl (by simp)⟩

end ExtensionProxy.KeyFile
