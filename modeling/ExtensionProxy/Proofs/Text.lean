import ExtensionProxy.Text.Blank
import ExtensionProxy.Text.Lines
import Mathlib.Data.List.DropRight

/-!
# Trimming, lines and cuts

A text is trimmed when it neither begins nor ends with a blank: that is what trimming gives, and
exactly what it leaves alone.  The lines of a text hold no line feed, and a text that is put together
from lines has these lines.  A text is cut in one way at its first separator, and in one way at all of
them.
-/

set_option autoImplicit false

namespace ExtensionProxy

/-! ## Trimming -/

/-- A text without blanks at its ends. -/
structure Trimmed (text : List Char) : Prop where
  /-- It does not begin with a blank. -/
  first : ∀ c ∈ text.head?, isBlank c = false
  /-- It does not end with a blank. -/
  last : ∀ c ∈ text.getLast?, isBlank c = false

variable {text : List Char}

theorem trimBlankEnd_eq_rdropWhile (text : List Char) :
    trimBlankEnd text = text.rdropWhile isBlank := rfl

theorem trimBlankEnd_isPrefixOf (text : List Char) : trimBlankEnd text <+: text :=
  List.rdropWhile_prefix isBlank text

theorem getLast?_trimBlankEnd {c : Char} (last : c ∈ (trimBlankEnd text).getLast?) :
    isBlank c = false := by
  rw [trimBlankEnd_eq_rdropWhile] at last
  obtain ⟨nonempty, rfl⟩ := List.mem_getLast?_eq_getLast last
  simpa using List.rdropWhile_last_not isBlank text nonempty

theorem head?_dropWhile_isBlank {c : Char} (text : List Char)
    (first : c ∈ (text.dropWhile isBlank).head?) : isBlank c = false := by
  have notBlank := List.head?_dropWhile_not isBlank text
  rw [Option.mem_def.mp first] at notBlank
  exact notBlank

/-- What trimming gives is trimmed. -/
theorem trimmed_trimBlank (text : List Char) : Trimmed (trimBlank text) where
  first := by
    intro c first
    obtain ⟨rest, whole⟩ := trimBlankEnd_isPrefixOf (text.dropWhile isBlank)
    have kept : (trimBlankEnd (text.dropWhile isBlank)).head? = some c := first
    apply head?_dropWhile_isBlank text
    rw [← whole, List.head?_append, kept]
    rfl
  last := fun c last => getLast?_trimBlankEnd last

/-- Trimming leaves alone what is trimmed. -/
theorem Trimmed.trimBlank_eq (trimmed : Trimmed text) : trimBlank text = text := by
  have front : text.dropWhile isBlank = text := by
    cases text with
    | nil => rfl
    | cons c rest => simp [trimmed.first c rfl]
  rw [trimBlank, front, trimBlankEnd_eq_rdropWhile, List.rdropWhile_eq_self_iff]
  intro nonempty
  simp [trimmed.last _ (List.getLast?_eq_some_getLast nonempty)]

theorem trimBlank_isInfixOf (text : List Char) : trimBlank text <:+: text :=
  (trimBlankEnd_isPrefixOf _).isInfix.trans (List.dropWhile_suffix isBlank).isInfix

theorem mem_of_mem_trimBlank {c : Char} (mem : c ∈ trimBlank text) : c ∈ text :=
  (trimBlank_isInfixOf text).subset mem

/-- What comes before the last blanks begins as the whole does. -/
theorem trimBlank_cons_of_notBlank {c : Char} (notBlank : isBlank c = false) (rest : List Char) :
    ∃ kept, trimBlank (c :: rest) = c :: kept := by
  have front : (c :: rest).dropWhile isBlank = c :: rest := by simp [notBlank]
  rw [trimBlank, front]
  cases kept : trimBlankEnd (c :: rest) with
  | nil =>
    rw [trimBlankEnd_eq_rdropWhile, List.rdropWhile_eq_nil_iff] at kept
    have blank := kept c List.mem_cons_self
    rw [notBlank] at blank
    cases blank
  | cons d more =>
    obtain ⟨rest', whole⟩ := trimBlankEnd_isPrefixOf (c :: rest)
    rw [kept] at whole
    simp only [List.cons_append, List.cons.injEq] at whole
    exact ⟨more, by rw [whole.1]⟩

/-- A blank at the end does not count. -/
theorem trimBlank_concat_blank {c : Char} (text : List Char) (blank : isBlank c = true) :
    trimBlank (text ++ [c]) = trimBlank text := by
  rw [trimBlank, List.dropWhile_append]
  split
  · rename_i nothing
    rw [List.isEmpty_iff] at nothing
    simp [trimBlank, nothing, blank]
  · rw [trimBlankEnd_eq_rdropWhile, List.rdropWhile_concat_pos _ _ _ blank, trimBlank,
      trimBlankEnd_eq_rdropWhile]

/-! ## Lines -/

/-- A line holds no line feed. -/
theorem notMem_of_mem_textLines {line : List Char} (mem : line ∈ textLines text) :
    '\n' ∉ line := by
  induction text generalizing line with
  | nil => simp [textLines] at mem
  | cons c rest ih =>
    rw [textLines] at mem
    split at mem
    · rcases List.mem_cons.mp mem with rfl | mem
      · simp
      · exact ih mem
    · rename_i different
      split at mem
      · simp only [List.mem_singleton] at mem
        simpa [mem] using Ne.symm different
      · rename_i first lines rest_eq
        rw [rest_eq] at ih
        rcases List.mem_cons.mp mem with rfl | mem
        · simp [Ne.symm different, ih List.mem_cons_self]
        · exact ih (List.mem_cons_of_mem _ mem)

/-- A line with its line feed is the first line of a text that begins with it. -/
theorem textLines_line_append {line : List Char} (oneLine : '\n' ∉ line) (rest : List Char) :
    textLines (line ++ '\n' :: rest) = line :: textLines rest := by
  induction line with
  | nil => simp [textLines]
  | cons c line ih =>
    rw [List.mem_cons, not_or] at oneLine
    simp [textLines, Ne.symm oneLine.1, ih oneLine.2]

/-- Lines, each with its line feed, are the lines of the text they make. -/
theorem textLines_flatMap {lines : List (List Char)} (oneLine : ∀ line ∈ lines, '\n' ∉ line) :
    textLines (lines.flatMap (· ++ ['\n'])) = lines := by
  induction lines with
  | nil => rfl
  | cons line lines ih =>
    rw [List.forall_mem_cons] at oneLine
    simp only [List.flatMap_cons, List.append_assoc, List.singleton_append]
    rw [textLines_line_append oneLine.1, ih oneLine.2]

theorem textLines_append_ne_nil (front back : List Char) : textLines (front ++ '\n' :: back) ≠ [] := by
  cases front with
  | nil => simp [textLines]
  | cons c front =>
    rw [List.cons_append, textLines]
    split
    · simp
    · split <;> simp

/-- A line feed at the end of a text ends its last line, or adds an empty one. -/
theorem textLines_concat_newline (text : List Char) :
    textLines (text ++ ['\n']) = textLines text ∨
      textLines (text ++ ['\n']) = textLines text ++ [[]] := by
  induction text with
  | nil => exact .inr (by simp [textLines])
  | cons c rest ih =>
    rw [List.cons_append, textLines, textLines]
    split
    · exact ih.imp (congrArg _) (congrArg _)
    · rcases ih with same | added
      · rw [same]
        exact .inl rfl
      · rw [added]
        cases textLines rest with
        | nil => exact .inl rfl
        | cons line lines => exact .inr rfl

/-- What comes after a line feed has its own lines. -/
theorem textLines_append_newline (front back : List Char) :
    textLines (front ++ '\n' :: back) = textLines (front ++ ['\n']) ++ textLines back := by
  induction front with
  | nil => simp [textLines]
  | cons c front ih =>
    rw [List.cons_append, List.cons_append, textLines, textLines, ih]
    split
    · rfl
    · cases lines : textLines (front ++ ['\n']) with
      | nil => exact absurd lines (textLines_append_ne_nil front [])
      | cons line lines => rfl

/-- A text with more than one line begins with the first of them and its line feed. -/
theorem textLines_eq_cons_cons {line next : List Char} {lines : List (List Char)}
    (split : textLines text = line :: next :: lines) :
    ∃ rest, text = line ++ '\n' :: rest ∧ textLines rest = next :: lines := by
  induction text generalizing line with
  | nil => cases split
  | cons c rest ih =>
    rw [textLines] at split
    split at split
    · rename_i feed
      obtain ⟨rfl, following⟩ := List.cons.inj split
      exact ⟨rest, by rw [feed]; rfl, following⟩
    · split at split
      · cases split
      · rename_i first others inner
        cases split
        obtain ⟨more, rfl, following⟩ := ih inner
        exact ⟨more, rfl, following⟩

/-- A text begins with its lines, each with its line feed, up to any of them. -/
theorem textLines_front {front back : List (List Char)} {line : List Char}
    (split : textLines text = front ++ line :: back) :
    ∃ rest, text = front.flatMap (· ++ ['\n']) ++ rest := by
  induction front generalizing text with
  | nil => exact ⟨text, rfl⟩
  | cons first front ih =>
    obtain ⟨next, others, more⟩ : ∃ next others, front ++ line :: back = next :: others := by
      cases front with
      | nil => exact ⟨line, back, rfl⟩
      | cons next front => exact ⟨next, _, rfl⟩
    rw [List.cons_append, more] at split
    obtain ⟨rest, rfl, following⟩ := textLines_eq_cons_cons split
    obtain ⟨rest, rfl⟩ := ih (following.trans more.symm)
    exact ⟨rest, by simp⟩

/-! ## Cuts -/

/-- A text is cut at its first separator, which the part before does not hold. -/
theorem splitFirst_append {separator : Char} {before : List Char} (absent : separator ∉ before)
    (after : List Char) :
    splitFirst separator (before ++ separator :: after) = some (before, after) := by
  induction before with
  | nil => simp [splitFirst]
  | cons c before ih =>
    rw [List.mem_cons, not_or] at absent
    simp [splitFirst, Ne.symm absent.1, ih absent.2]

/-- The parts of a cut make the text again, and the part before does not hold the separator. -/
theorem eq_append_of_splitFirst {separator : Char} {before after : List Char}
    (cut : splitFirst separator text = some (before, after)) :
    text = before ++ separator :: after ∧ separator ∉ before := by
  induction text generalizing before with
  | nil => cases cut
  | cons c rest ih =>
    rw [splitFirst] at cut
    split at cut
    · rename_i same
      cases cut
      simp [same]
    · rename_i different
      obtain ⟨⟨front, back⟩, cut, parts⟩ := Option.map_eq_some_iff.mp cut
      cases parts
      obtain ⟨whole, absent⟩ := ih cut
      simp [whole, absent, Ne.symm different]

theorem splitFirst_eq_none_iff {separator : Char} :
    splitFirst separator text = none ↔ separator ∉ text := by
  constructor
  · intro whole mem
    obtain ⟨before, after, rfl, absent⟩ := List.eq_append_cons_of_mem mem
    rw [splitFirst_append absent] at whole
    cases whole
  · intro absent
    cases cut : splitFirst separator text with
    | none => rfl
    | some parts =>
      obtain ⟨rfl, -⟩ := eq_append_of_splitFirst cut
      simp at absent

/-- What is before a separator is all that is before the first one. -/
theorem beforeFirst_append {separator : Char} {before : List Char} (absent : separator ∉ before)
    (after : List Char) : beforeFirst separator (before ++ separator :: after) = before := by
  have passed : ∀ c ∈ before, (decide (c ≠ separator)) = true := fun c mem =>
    decide_eq_true fun same => absent (same ▸ mem)
  rw [beforeFirst, List.takeWhile_append_of_pos passed]
  simp

theorem beforeFirst_of_notMem {separator : Char} (absent : separator ∉ text) :
    beforeFirst separator text = text :=
  List.takeWhile_eq_self_iff.mpr fun _ mem => decide_eq_true fun same => absent (same ▸ mem)

theorem notMem_beforeFirst (separator : Char) (text : List Char) :
    separator ∉ beforeFirst separator text := by
  intro mem
  have other := List.mem_takeWhile_imp mem
  simp at other

/-- The parts between separators are those of the library. -/
theorem splitEvery_eq_splitOn (separator : Char) (text : List Char) :
    splitEvery separator text = text.splitOn separator := by
  rw [List.splitOn_eq_splitOnP]
  induction text with
  | nil => rfl
  | cons c rest ih =>
    rw [splitEvery, ih, List.splitOnP_cons_eq_if_modifyHead]
    by_cases same : c = separator
    · simp [same]
    · rw [if_neg same, if_neg (by simpa using same)]
      cases cut : List.splitOnP (· == separator) rest with
      | nil => exact absurd cut (List.splitOnP_ne_nil _ _)
      | cons part parts => rfl

/-- What is before a separator and what is after it have their own parts. -/
theorem splitEvery_append_cons (separator : Char) (before after : List Char) :
    splitEvery separator (before ++ separator :: after) =
      splitEvery separator before ++ splitEvery separator after := by
  simp only [splitEvery_eq_splitOn, List.splitOn_eq_splitOnP]
  exact List.splitOnP_append_cons before after (beq_self_eq_true separator)

theorem splitEvery_of_notMem {separator : Char} (absent : separator ∉ text) :
    splitEvery separator text = [text] := by
  rw [splitEvery_eq_splitOn, List.splitOn_eq_singleton absent]

/-- No part holds the separator. -/
theorem notMem_of_mem_splitEvery {separator : Char} {part : List Char}
    (mem : part ∈ splitEvery separator text) : separator ∉ part := by
  induction text generalizing part with
  | nil => simp_all [splitEvery]
  | cons c rest ih =>
    rw [splitEvery] at mem
    split at mem
    · rcases List.mem_cons.mp mem with rfl | mem
      · simp
      · exact ih mem
    · rename_i different
      split at mem
      · simpa [List.mem_singleton.mp mem] using Ne.symm different
      · rename_i first parts cut
        rw [cut] at ih
        rcases List.mem_cons.mp mem with rfl | mem
        · simp [Ne.symm different, ih List.mem_cons_self]
        · exact ih (List.mem_cons_of_mem _ mem)

end ExtensionProxy
