import ExtensionProxy.Proofs.KeyFile.Lines

/-!
# The grammar of key files

What a line may be is said here without the reader.  A line, once trimmed, is blank or a comment, a
header, or a pair.  A header is a name between brackets that is not empty and holds no bracket.  A pair
has an equals sign, and what stands before the first one is not empty once trimmed; it does not open as a
comment or a header does.  A text is in the grammar if every line is one of these and some header comes
before the first pair.

Reading accepts exactly the texts in the grammar.  Since lines are taken up one after another and nothing
is taken back, a text is refused at the first line with which it leaves the grammar: the lines before are
accepted, and whatever follows is never looked at.  What is read depends on the trimmed lines alone, so it
is the same whether lines end in a line feed or in a carriage return and a line feed.
-/

set_option autoImplicit false

namespace ExtensionProxy.KeyFile

/-! ## Lines -/

/-- What a trimmed line says. -/
inductive Line.Written : List Char → Line → Prop
  | blank : Written [] .skip
  | comment (mark : Char) (rest : List Char) (isMark : mark = '#' ∨ mark = ';') :
      Written (mark :: rest) .skip
  | header (name : List Char) (nonempty : name ≠ []) (noOpening : '[' ∉ name)
      (noClosing : ']' ∉ name) : Written ('[' :: (name ++ [']'])) (.header (String.ofList name))
  /-- The key stands before the first equals sign. -/
  | pair (before after : List Char) (opens : ∀ c ∈ before.head?, c ≠ '#' ∧ c ≠ ';' ∧ c ≠ '[')
      (noSeparator : '=' ∉ before) (nonempty : trimBlank before ≠ []) :
      Written (before ++ '=' :: after)
        (.pair (String.ofList (trimBlank before)) (String.ofList (unescape (trimBlank after))))

/-- A line is read as what it says, and is refused if it says nothing. -/
theorem readLine_eq_ok_iff {raw : List Char} {line : Line} :
    readLine raw = .ok line ↔ Line.Written (trimBlank raw) line := by
  constructor
  · intro read
    unfold readLine at read
    generalize trimBlank raw = text at read
    split at read
    · cases read
      exact .blank
    · cases read
      exact .comment _ _ (.inl rfl)
    · cases read
      exact .comment _ _ (.inr rfl)
    · obtain ⟨name, rfl, nonempty, noOpening, noClosing, rfl⟩ := readHeader_eq_ok read
      exact .header name nonempty noOpening noClosing
    · rename_i notHash notSemicolon notBracket
      obtain ⟨before, after, rfl, noSeparator, nonempty, rfl⟩ := readPair_eq_ok read
      refine .pair before after (fun c first => ?_) noSeparator nonempty
      obtain ⟨rest, rfl⟩ : ∃ rest, before = c :: rest := List.head?_eq_some_iff.mp first
      exact ⟨fun same => notHash _ (by rw [same]; rfl), fun same => notSemicolon _ (by rw [same]; rfl),
        fun same => notBracket _ (by rw [same]; rfl)⟩
  · intro written
    generalize trim : trimBlank raw = text at written
    cases written with
    | blank => rw [readLine, trim]
    | comment mark rest isMark => rcases isMark with rfl | rfl <;> simp only [readLine, trim]
    | header name nonempty noOpening noClosing =>
      rw [readLine, trim]
      exact (readHeader_append name).trans (if_pos ⟨nonempty, noOpening, noClosing⟩)
    | pair before after opens noSeparator nonempty =>
      cases before with
      | nil => exact absurd rfl nonempty
      | cons c rest =>
        rw [readLine_pair trim (opens c rfl)]
        exact (readPair_append noSeparator after).trans (if_pos nonempty)

/-- Lines, and what they say. -/
def Say (raws : List (List Char)) (lines : List Line) : Prop :=
  List.Forall₂ (fun raw line => Line.Written (trimBlank raw) line) raws lines

/-- Some header comes before the first pair. -/
def HeaderFirst (lines : List Line) : Prop :=
  ∀ front key value back, lines = front ++ .pair key value :: back → ∃ name, Line.header name ∈ front

/-- Every line says something, and some header comes before the first pair. -/
def Grammatical (raws : List (List Char)) : Prop := ∃ lines, Say raws lines ∧ HeaderFirst lines

variable {name key value : String} {line : Line} {lines : List Line} {raw : List Char}
  {raws : List (List Char)} {r next : Reading} {number : Nat}

theorem headerFirst_nil : HeaderFirst [] := by
  intro front key value back whole
  simp at whole

theorem headerFirst_header (name : String) (lines : List Line) :
    HeaderFirst (.header name :: lines) := by
  intro front key value back whole
  cases front with
  | nil => cases whole
  | cons first front =>
    cases whole
    exact ⟨name, List.mem_cons_self⟩

theorem headerFirst_skip : HeaderFirst (.skip :: lines) ↔ HeaderFirst lines := by
  constructor
  · rintro headed front key value back rfl
    obtain ⟨name, mem⟩ := headed (.skip :: front) key value back rfl
    exact ⟨name, (List.mem_cons.mp mem).resolve_left (by simp)⟩
  · intro headed front key value back whole
    cases front with
    | nil => cases whole
    | cons first front =>
      obtain ⟨rfl, rfl⟩ := List.cons.inj whole
      obtain ⟨name, mem⟩ := headed front key value back rfl
      exact ⟨name, List.mem_cons_of_mem _ mem⟩

theorem not_headerFirst_pair : ¬ HeaderFirst (.pair key value :: lines) := by
  intro headed
  obtain ⟨name, mem⟩ := headed [] key value lines rfl
  cases mem

/-! ## Taking up what lines say -/

/-- The reading after a line that says something; a pair needs a group to go to. -/
def Reading.after? (r : Reading) : Line → Option Reading
  | .skip => some r
  | .header name => some ⟨r.file.openGroup name, some name⟩
  | .pair key value => r.current.map fun group => ⟨r.file.set group key value, some group⟩

theorem Reading.add_eq_ok_iff :
    r.add raw = .ok next ↔ ∃ line, Line.Written (trimBlank raw) line ∧ r.after? line = some next := by
  simp only [← readLine_eq_ok_iff]
  rw [Reading.add]
  cases readLine raw with
  | error fault => simp
  | ok line =>
    cases line with
    | skip => simp [after?]
    | header name => simp [after?]
    | pair key value =>
      obtain ⟨file, current⟩ := r
      cases current <;> simp [after?]

/-- Lines can be taken up if they say something, and if no group is open, a header comes before the first
pair. -/
theorem Reading.addLines_isOk_iff (r : Reading) (number : Nat) (raws : List (List Char)) :
    (∃ last, r.addLines number raws = .ok last) ↔
      ∃ lines, Say raws lines ∧ (r.current = none → HeaderFirst lines) := by
  -- Whether a group is open is all that a line can notice of the lines before.
  induction raws generalizing r number with
  | nil => exact ⟨fun _ => ⟨[], .nil, fun _ => headerFirst_nil⟩, fun _ => ⟨r, rfl⟩⟩
  | cons raw raws ih =>
    constructor
    · rintro ⟨last, added⟩
      rw [addLines] at added
      split at added
      · cases added
      · rename_i next first
        obtain ⟨line, written, taken⟩ := add_eq_ok_iff.mp first
        obtain ⟨lines, say, headed⟩ := (ih next (number + 1)).mp ⟨last, added⟩
        refine ⟨line :: lines, .cons written say, fun closed => ?_⟩
        cases line with
        | skip =>
          cases taken
          exact headerFirst_skip.mpr (headed closed)
        | header name => exact headerFirst_header name lines
        | pair key value => simp [after?, closed] at taken
    · rintro ⟨lines, say, headed⟩
      cases say with
      | @cons _ line _ lines written say =>
      obtain ⟨next, taken, goesOn⟩ : ∃ next, r.after? line = some next ∧
          (next.current = none → HeaderFirst lines) := by
        cases line with
        | skip => exact ⟨r, rfl, fun closed => headerFirst_skip.mp (headed closed)⟩
        | header name => exact ⟨_, rfl, by simp⟩
        | pair key value =>
          cases current : r.current with
          | none => exact absurd (headed current) not_headerFirst_pair
          | some group => exact ⟨_, by simp only [after?, current]; rfl, by simp⟩
      rw [addLines, add_eq_ok_iff.mpr ⟨line, written, taken⟩]
      exact (ih next (number + 1)).mpr ⟨lines, say, goesOn⟩

/-- A text is accepted exactly if it is in the grammar. -/
theorem parse_isOk_iff {text : String} :
    (∃ file, parse text = .ok file) ↔ Grammatical (textLines text.toList) := by
  have accepted := Reading.addLines_isOk_iff .start 1 (textLines text.toList)
  simp only [show Reading.start.current = none from rfl, true_imp_iff] at accepted
  rw [Grammatical, ← accepted]
  simp only [parse_eq_ok]
  exact ⟨fun ⟨file, last, added⟩ => ⟨_, added⟩, fun ⟨⟨file, last⟩, added⟩ => ⟨file, last, added⟩⟩

/-! ## Leaving the grammar -/

/-- Lines are refused at one of them: those before are taken up, and that one is not. -/
theorem Reading.addLines_eq_error {fault : SyntaxFault}
    (failed : r.addLines number raws = .error fault) :
    ∃ front raw back reached, raws = front ++ raw :: back ∧ fault.line = number + front.length ∧
      r.addLines number front = .ok reached ∧ reached.add raw = .error fault.fault := by
  induction raws generalizing r number with
  | nil => cases failed
  | cons raw raws ih =>
    rw [addLines] at failed
    split at failed
    · rename_i why first
      cases failed
      exact ⟨[], raw, raws, r, rfl, rfl, rfl, first⟩
    · rename_i next first
      obtain ⟨front, other, back, reached, rfl, line, taken, refused⟩ := ih failed
      refine ⟨raw :: front, other, back, reached, rfl, ?_, ?_, refused⟩
      · rw [line, List.length_cons, Nat.add_right_comm, Nat.add_assoc]
      · rw [addLines, first]
        exact taken

/-- Whatever follows the line at which lines are refused, they are refused there. -/
theorem Reading.addLines_refused {front : List (List Char)} {why : LineFault}
    (taken : r.addLines number front = .ok next) (refused : next.add raw = .error why)
    (back : List (List Char)) :
    r.addLines number (front ++ raw :: back) = .error ⟨number + front.length, why⟩ := by
  rw [addLines_append, taken, Except.bind, addLines, refused]

/-- A text leaves the grammar at the line of a fault. -/
structure LeavesAt (text : String) (fault : SyntaxFault) : Prop where
  /-- The text has this line. -/
  there : 0 < fault.line ∧ fault.line ≤ (textLines text.toList).length
  /-- The text of the lines before is accepted. -/
  before : ∃ earlier rest : String, text = earlier ++ rest ∧
    textLines earlier.toList = (textLines text.toList).take (fault.line - 1) ∧
    ∃ file, parse earlier = .ok file
  /-- With this line it is no longer in the grammar. -/
  breaks : ¬ Grammatical ((textLines text.toList).take fault.line)
  /-- A text that begins with these lines is refused in the same way, however it goes on. -/
  after : ∀ other : String, (textLines text.toList).take fault.line <+: textLines other.toList →
    parse other = .error fault

/-- The fault names the line at which the text leaves the grammar. -/
theorem leavesAt_of_parse {text : String} {fault : SyntaxFault} (failed : parse text = .error fault) :
    LeavesAt text fault := by
  obtain ⟨line, why⟩ := fault
  obtain ⟨front, raw, back, reached, whole, number, taken, refused⟩ :=
    Reading.addLines_eq_error (parse_eq_error.mp failed)
  subst number
  have oneLine : ∀ line ∈ front, '\n' ∉ line := fun line mem =>
    notMem_of_mem_textLines (whole ▸ List.mem_append_left _ mem)
  have upTo : (textLines text.toList).take (1 + front.length) = front ++ [raw] := by
    rw [whole, Nat.add_comm, List.take_append, List.take_of_length_le (Nat.le_succ _),
      Nat.add_sub_cancel_left, List.take_succ_cons, List.take_zero]
  have again : ∀ more, Reading.start.addLines 1 (front ++ raw :: more) =
      .error ⟨1 + front.length, why⟩ := Reading.addLines_refused taken refused
  obtain ⟨rest, split⟩ := textLines_front whole
  have fits : 1 + front.length ≤ (textLines text.toList).length := by
    rw [whole, List.length_append, List.length_cons]
    omega
  refine ⟨⟨Nat.add_pos_left Nat.one_pos _, fits⟩, ?_, ?_, ?_⟩
  · refine ⟨String.ofList (front.flatMap (· ++ ['\n'])), String.ofList rest, ?_, ?_, ?_⟩
    · rw [← String.ofList_append, ← split, String.ofList_toList]
    · rw [String.toList_ofList, textLines_flatMap oneLine, whole, Nat.add_sub_cancel_left,
        List.take_left]
    · refine ⟨reached.file, parse_eq_ok.mpr ⟨reached.current, ?_⟩⟩
      rw [String.toList_ofList, textLines_flatMap oneLine]
      exact taken
  · rw [upTo]
    rintro ⟨lines, say, headed⟩
    obtain ⟨last, added⟩ := (Reading.addLines_isOk_iff .start 1 _).mpr
      ⟨lines, say, fun _ => headed⟩
    cases (again []).symm.trans added
  · intro other begins
    rw [upTo] at begins
    obtain ⟨more, lines⟩ := begins
    rw [parse_eq_error, ← lines, List.append_assoc, List.singleton_append]
    exact again more

/-! ## Line ends -/

/-- A text with each line end written as a carriage return and a line feed; `returned` tells that a
carriage return has just been written. -/
def writeLineEnds (returned : Bool) : List Char → List Char
  | [] => []
  | c :: rest =>
    if c = '\n' then
      if returned then c :: writeLineEnds false rest else '\r' :: c :: writeLineEnds false rest
    else c :: writeLineEnds (c == '\r') rest

/-- Two lines that may differ by a carriage return at the end. -/
def SameLine (first second : List Char) : Prop := first = second ∨ first = second ++ ['\r']

theorem SameLine.cons {first second : List Char} (c : Char) (same : SameLine first second) :
    SameLine (c :: first) (c :: second) :=
  same.imp (congrArg _) (congrArg _)

theorem SameLine.trimBlank_eq {first second : List Char} (same : SameLine first second) :
    trimBlank first = trimBlank second := by
  rcases same with rfl | rfl
  · rfl
  · exact trimBlank_concat_blank second (by decide)

/-- Writing line ends changes at most the ends of lines. -/
theorem textLines_writeLineEnds (returned : Bool) (text : List Char) :
    List.Forall₂ SameLine (textLines (writeLineEnds returned text)) (textLines text) := by
  -- The flag matters only if a line feed comes next, where either value leaves an equal line.
  induction text generalizing returned with
  | nil => exact .nil
  | cons c rest ih =>
    by_cases feed : c = '\n'
    · subst feed
      cases returned with
      | true => exact .cons (.inl rfl) (ih false)
      | false => exact .cons (.inr rfl) (ih false)
    · have inner := ih (c == '\r')
      rw [writeLineEnds, if_neg feed, textLines, textLines, if_neg feed, if_neg feed]
      revert inner
      generalize textLines (writeLineEnds (c == '\r') rest) = written
      generalize textLines rest = plain
      intro inner
      cases inner with
      | nil => exact .cons (.inl rfl) .nil
      | cons same more => exact .cons (same.cons c) more

/-- What is read from lines depends on their trimmed text alone. -/
theorem Reading.addLines_congr {others : List (List Char)} (same : List.Forall₂ SameLine raws others) :
    r.addLines number raws = r.addLines number others := by
  induction same generalizing r number with
  | nil => rfl
  | @cons first second _ _ same _ ih =>
    have added : r.add first = r.add second := by
      simp only [Reading.add, readLine, same.trimBlank_eq]
    rw [addLines, addLines, added]
    cases r.add second with
    | error fault => rfl
    | ok next => exact ih

theorem parse_writeLineEnds (text : String) :
    parse (String.ofList (writeLineEnds false text.toList)) = parse text := by
  rw [parse, parse, String.toList_ofList, Reading.addLines_congr (textLines_writeLineEnds false _)]

example : writeLineEnds false "[a]\nx=1\r\n\ny=2".toList = "[a]\r\nx=1\r\n\r\ny=2".toList := by
  decide

end ExtensionProxy.KeyFile
