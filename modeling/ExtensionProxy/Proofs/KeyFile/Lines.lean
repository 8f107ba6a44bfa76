import ExtensionProxy.KeyFile.Parser
import ExtensionProxy.KeyFile.Printer
import ExtensionProxy.Proofs.Text

/-!
# The lines of a key file

Reading leaves its mark on names, keys and values.  A name has no brackets.  A key is trimmed, holds no
equals sign, and opens as no comment and no header does.  A value, once escaped, has no blank at its
ends: it is trimmed before its escapes are read, so a blank at its end is one that was escaped, and the
blanks that can be are among the characters that writing escapes.

A header or an entry that bears these marks is written as one line, and this line reads back as the
header or the entry.
-/

set_option autoImplicit false

namespace ExtensionProxy.KeyFile

/-! ## Escapes -/

/-- The characters that are escaped in a value. -/
def escapable : List Char := ['\\', '\n', '\t', '\r', ' ']

theorem escapeChar_of_mem {c : Char} (mem : c ∈ escapable) :
    ∃ d, escapeChar c = ['\\', d] ∧ isBlank d = false ∧ d ≠ '\n' ∧
      ∀ rest, unescape ('\\' :: d :: rest) = c :: unescape rest := by
  simp only [escapable, List.mem_cons, List.not_mem_nil, or_false] at mem
  rcases mem with rfl | rfl | rfl | rfl | rfl
  all_goals exact ⟨_, rfl, by decide, by decide, fun _ => by simp [unescape]⟩

theorem escapeChar_of_notMem {c : Char} (absent : c ∉ escapable) : escapeChar c = [c] := by
  simp only [escapable, List.mem_cons, List.not_mem_nil, or_false, not_or] at absent
  simp [escapeChar, absent]

theorem unescape_escapeChar (c : Char) (rest : List Char) :
    unescape (escapeChar c ++ rest) = c :: unescape rest := by
  by_cases mem : c ∈ escapable
  · obtain ⟨d, written, -, -, read⟩ := escapeChar_of_mem mem
    rw [written]
    exact read rest
  · have plain : c ≠ '\\' := fun same => mem (by simp [escapable, same])
    rw [escapeChar_of_notMem mem, List.singleton_append]
    simp [unescape, plain]

/-- Reading the escapes of a value undoes the writing of them. -/
theorem unescape_escape (value : List Char) : unescape (escape value) = value := by
  induction value with
  | nil => rfl
  | cons c rest ih => rw [escape, List.flatMap_cons, unescape_escapeChar, ← escape, ih]

theorem newline_notMem_escape (value : List Char) : '\n' ∉ escape value := by
  intro mem
  obtain ⟨c, -, mem⟩ := List.mem_flatMap.mp mem
  by_cases escaped : c ∈ escapable
  · obtain ⟨d, written, -, oneLine, -⟩ := escapeChar_of_mem escaped
    simp [written, Ne.symm oneLine] at mem
  · rw [escapeChar_of_notMem escaped, List.mem_singleton] at mem
    exact escaped (by simp [escapable, ← mem])

/-- The first character of a written value is no blank, or it is the first of the value and is none
of those that are escaped. -/
theorem head?_escape {value : List Char} {c : Char} (first : c ∈ (escape value).head?) :
    isBlank c = false ∨ c ∈ value.head? ∧ c ∉ escapable := by
  cases value with
  | nil => simp [escape] at first
  | cons d rest =>
    rw [escape, List.flatMap_cons] at first
    by_cases escaped : d ∈ escapable
    · obtain ⟨e, written, -⟩ := escapeChar_of_mem escaped
      simp only [written, List.cons_append, List.head?_cons, Option.mem_some] at first
      exact .inl (first ▸ by decide)
    · simp only [escapeChar_of_notMem escaped, List.singleton_append, List.head?_cons,
        Option.mem_some] at first
      exact .inr (first ▸ ⟨rfl, escaped⟩)

/-- The last character of a written value is no blank, or it is the last of the value and is none of
those that are escaped. -/
theorem getLast?_escape {value : List Char} {c : Char} (last : c ∈ (escape value).getLast?) :
    isBlank c = false ∨ c ∈ value.getLast? ∧ c ∉ escapable := by
  rcases value.eq_nil_or_concat' with rfl | ⟨front, d, rfl⟩
  · simp [escape] at last
  · rw [escape, List.flatMap_append, List.flatMap_singleton] at last
    by_cases escaped : d ∈ escapable
    · obtain ⟨e, written, notBlank, -⟩ := escapeChar_of_mem escaped
      simp only [written, List.getLast?_append, List.getLast?_cons_cons, List.getLast?_singleton,
        Option.some_or, Option.mem_some] at last
      exact .inl (last ▸ notBlank)
    · simp only [escapeChar_of_notMem escaped, List.getLast?_append, List.getLast?_singleton,
        Option.some_or, Option.mem_some] at last
      exact .inr (last ▸ ⟨by simp, escaped⟩)

theorem unescape_eq_nil {text : List Char} (nothing : unescape text = []) : text = [] := by
  revert nothing
  fun_cases unescape text <;> simp

/-- The first character of a value is the first of its text, or one that is written with an escape. -/
theorem head?_unescape {text : List Char} {c : Char} (first : c ∈ (unescape text).head?) :
    c ∈ text.head? ∨ c ∈ escapable := by
  revert first
  fun_cases unescape text <;> simp_all [escapable, eq_comm]

theorem mem_getLast?_cons {c d : Char} {text : List Char} :
    c ∈ (d :: text).getLast? ↔ text = [] ∧ c = d ∨ c ∈ text.getLast? := by
  cases text <;> simp [eq_comm]

/-- The last character of a value is the last of its text, or one that is written with an escape. -/
theorem getLast?_unescape {text : List Char} {c : Char} (last : c ∈ (unescape text).getLast?) :
    c ∈ text.getLast? ∨ c ∈ escapable := by
  fun_induction unescape text
  case case1 | case2 | case3 | case4 | case5 =>
    rename_i ih
    simp only [mem_getLast?_cons, reduceCtorEq, false_and, false_or] at last ⊢
    rcases last with ⟨-, rfl⟩ | last
    · exact .inr (by decide)
    · exact (ih last).imp_left .inr
  case case6 | case7 =>
    rename_i ih
    simp only [mem_getLast?_cons, reduceCtorEq, false_and, false_or] at last ⊢
    rcases last with ⟨nothing, rfl⟩ | last
    · exact .inl (.inl ⟨unescape_eq_nil nothing, rfl⟩)
    · exact (ih last).imp_left .inr
  case case8 => cases last

/-! ## What reading leaves on names, keys and values -/

/-- A name that a header can carry. -/
structure IsGroupName (name : List Char) : Prop where
  nonempty : name ≠ []
  noOpening : '[' ∉ name
  noClosing : ']' ∉ name
  oneLine : '\n' ∉ name

/-- A key that a line can carry. -/
structure IsKey (key : List Char) : Prop where
  trimmed : Trimmed key
  /-- The line of the key is no blank line, no comment and no header. -/
  opens : ∃ c rest, key = c :: rest ∧ c ≠ '#' ∧ c ≠ ';' ∧ c ≠ '['
  noSeparator : '=' ∉ key
  oneLine : '\n' ∉ key

/-- A line as reading gives it. -/
def Line.IsRead : Line → Prop
  | .skip => True
  | .header name => IsGroupName name.toList
  | .pair key value => IsKey key.toList ∧ Trimmed (escape value.toList)

/-- The value of a trimmed text is written without blanks at its ends. -/
theorem trimmed_escape_unescape {text : List Char} (trimmed : Trimmed text) :
    Trimmed (escape (unescape text)) where
  first := fun c first => by
    rcases head?_escape first with notBlank | ⟨first, notEscaped⟩
    · exact notBlank
    · exact trimmed.first c ((head?_unescape first).resolve_right notEscaped)
  last := fun c last => by
    rcases getLast?_escape last with notBlank | ⟨last, notEscaped⟩
    · exact notBlank
    · exact trimmed.last c ((getLast?_unescape last).resolve_right notEscaped)

theorem readHeader_append (name : List Char) :
    readHeader (name ++ [']']) =
      if name ≠ [] ∧ '[' ∉ name ∧ ']' ∉ name then .ok (.header (String.ofList name))
      else .error (.invalidGroupName (String.ofList name)) := by
  simp only [readHeader, List.getLast?_append, List.getLast?_singleton, Option.some_or,
    List.dropLast_concat, List.contains_eq_mem, Bool.or_eq_true, List.isEmpty_iff, decide_eq_true_eq]
  by_cases refused : (name = [] ∨ '[' ∈ name) ∨ ']' ∈ name
  · rw [if_pos refused, if_neg (by tauto)]
  · rw [if_neg refused, if_pos (by tauto)]

/-- A header reads as a name with its closing bracket. -/
theorem readHeader_eq_ok {rest : List Char} {line : Line} (read : readHeader rest = .ok line) :
    ∃ name, rest = name ++ [']'] ∧ name ≠ [] ∧ '[' ∉ name ∧ ']' ∉ name ∧
      line = .header (String.ofList name) := by
  rcases rest.eq_nil_or_concat' with rfl | ⟨name, last, rfl⟩
  · cases read
  · by_cases closed : last = ']'
    · subst closed
      rw [readHeader_append] at read
      split at read
      · rename_i fine
        cases read
        exact ⟨name, rfl, fine.1, fine.2.1, fine.2.2, rfl⟩
      · cases read
    · simp [readHeader, closed] at read

theorem readPair_append {before : List Char} (absent : '=' ∉ before) (after : List Char) :
    readPair (before ++ '=' :: after) =
      if trimBlank before ≠ [] then
        .ok (.pair (String.ofList (trimBlank before)) (String.ofList (unescape (trimBlank after))))
      else .error .emptyKey := by
  simp only [readPair, splitFirst_append absent, List.isEmpty_iff]
  by_cases empty : trimBlank before = []
  · rw [if_pos empty, if_neg (by simp [empty])]
  · rw [if_neg empty, if_pos empty]

/-- A pair reads as a key, cut off at the first equals sign, and a value; both are trimmed, and the
escapes of the value are read. -/
theorem readPair_eq_ok {text : List Char} {line : Line} (read : readPair text = .ok line) :
    ∃ before after, text = before ++ '=' :: after ∧ '=' ∉ before ∧ trimBlank before ≠ [] ∧
      line = .pair (String.ofList (trimBlank before)) (String.ofList (unescape (trimBlank after))) := by
  cases cut : splitFirst '=' text with
  | none => simp [readPair, cut] at read
  | some parts =>
    obtain ⟨before, after⟩ := parts
    obtain ⟨rfl, absent⟩ := eq_append_of_splitFirst cut
    rw [readPair_append absent] at read
    split at read
    · rename_i nonempty
      cases read
      exact ⟨before, after, rfl, absent, nonempty, rfl⟩
    · cases read

/-- Every line that can be read bears the marks of reading. -/
theorem readLine_isRead {raw : List Char} {line : Line} (oneLine : '\n' ∉ raw)
    (read : readLine raw = .ok line) : line.IsRead := by
  unfold readLine at read
  have oneLine : '\n' ∉ trimBlank raw := fun mem => oneLine (mem_of_mem_trimBlank mem)
  have trimmed := trimmed_trimBlank raw
  generalize trimBlank raw = text at read oneLine trimmed
  split at read
  · cases read; trivial
  · cases read; trivial
  · cases read; trivial
  · obtain ⟨name, rfl, nonempty, noOpening, noClosing, rfl⟩ := readHeader_eq_ok read
    simp only [List.mem_cons, List.mem_append, not_or] at oneLine
    exact ⟨by simpa using nonempty, by simpa using noOpening, by simpa using noClosing,
      by simpa using oneLine.2.1⟩
  · rename_i notEmpty notHash notSemicolon notBracket
    obtain ⟨before, after, rfl, noSeparator, nonempty, rfl⟩ := readPair_eq_ok read
    simp only [List.mem_append, not_or] at oneLine
    -- the key begins where the line begins, and there is no blank there
    obtain ⟨c, rest, rfl⟩ : ∃ c rest, before = c :: rest := by
      cases before with
      | nil => exact absurd rfl nonempty
      | cons c rest => exact ⟨c, rest, rfl⟩
    obtain ⟨kept, key_eq⟩ := trimBlank_cons_of_notBlank (trimmed.first c rfl) rest
    have key : IsKey (trimBlank (c :: rest)) := {
      trimmed := trimmed_trimBlank _
      opens := ⟨c, kept, key_eq, fun same => notHash _ (by rw [same]; rfl),
        fun same => notSemicolon _ (by rw [same]; rfl), fun same => notBracket _ (by rw [same]; rfl)⟩
      noSeparator := fun mem => noSeparator (mem_of_mem_trimBlank mem)
      oneLine := fun mem => oneLine.1 (mem_of_mem_trimBlank mem) }
    have value := trimmed_escape_unescape (trimmed_trimBlank after)
    simpa only [Line.IsRead, String.toList_ofList] using And.intro key value

/-! ## The lines that are written -/

theorem readLine_renderHeader {name : String} (isName : IsGroupName name.toList) :
    readLine (renderHeader name) = .ok (.header name) := by
  have trimmed : Trimmed ('[' :: (name.toList ++ [']'])) := by
    constructor
    · intro c first
      rw [← Option.some.inj first]
      decide
    · intro c last
      rw [← List.cons_append, List.getLast?_concat] at last
      rw [← Option.some.inj last]
      decide
  rw [readLine, renderHeader, List.cons_append, trimmed.trimBlank_eq]
  simp only [readHeader_append]
  rw [if_pos ⟨isName.nonempty, isName.noOpening, isName.noClosing⟩, String.ofList_toList]

/-- A line that opens as no blank line, no comment and no header is read as a pair. -/
theorem readLine_pair {raw rest : List Char} {c : Char} (trim : trimBlank raw = c :: rest)
    (opens : c ≠ '#' ∧ c ≠ ';' ∧ c ≠ '[') : readLine raw = readPair (c :: rest) := by
  rw [readLine, trim]
  split
  all_goals simp_all

theorem trimmed_renderEntry {key value : List Char} (isKey : IsKey key)
    (isValue : Trimmed (escape value)) : Trimmed (key ++ '=' :: escape value) where
  first := by
    obtain ⟨c, rest, rfl, -⟩ := isKey.opens
    exact isKey.trimmed.first
  last := by
    intro c last
    rw [List.getLast?_append_cons, mem_getLast?_cons] at last
    rcases last with ⟨-, rfl⟩ | last
    · decide
    · exact isValue.last c last

theorem readLine_renderEntry {key value : String} (isKey : IsKey key.toList)
    (isValue : Trimmed (escape value.toList)) :
    readLine (renderEntry (key, value)) = .ok (.pair key value) := by
  have trimmed := (trimmed_renderEntry isKey isValue).trimBlank_eq
  obtain ⟨c, rest, key_eq, opens⟩ := isKey.opens
  have whole : key.toList ++ '=' :: escape value.toList =
      c :: (rest ++ '=' :: escape value.toList) := by
    rw [key_eq, List.cons_append]
  rw [renderEntry, readLine_pair (trimmed.trans whole) opens, ← whole,
    readPair_append isKey.noSeparator, isKey.trimmed.trimBlank_eq, isValue.trimBlank_eq,
    unescape_escape, if_pos (by simp [key_eq]), String.ofList_toList, String.ofList_toList]

theorem newline_notMem_renderHeader {name : String} (isName : IsGroupName name.toList) :
    '\n' ∉ renderHeader name := by
  simp [renderHeader, isName.oneLine]

theorem newline_notMem_renderEntry {entry : String × String} (isKey : IsKey entry.1.toList) :
    '\n' ∉ renderEntry entry := by
  simp [renderEntry, isKey.oneLine, newline_notMem_escape]

end ExtensionProxy.KeyFile
