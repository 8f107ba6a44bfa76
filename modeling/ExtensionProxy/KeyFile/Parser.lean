import ExtensionProxy.KeyFile.Basic
import ExtensionProxy.Text.Blank
import ExtensionProxy.Text.Lines

/-!
# Reading key files

A text is read line by line.  A line, once trimmed, is blank or a comment, a group header
`[name]`, or a pair `key=value`; a pair belongs to the group opened last.  Reading stops at the
first line that is none of these, and the fault names the line.

In a value, after trimming, a backslash writes a line feed, a tab, a carriage return, a space or a
backslash; before any other character, and at the end, it stands for itself.
-/

set_option autoImplicit false

namespace ExtensionProxy.KeyFile

/-- What may be wrong with one line. -/
inductive LineFault where
  /-- A header without its closing bracket. -/
  | unterminatedHeader
  /-- A header whose name is empty or holds a bracket. -/
  | invalidGroupName (name : String)
  /-- A line that is no header and has no equals sign. -/
  | noSeparator
  /-- A pair whose key is empty. -/
  | emptyKey
  /-- A pair before the first header. -/
  | orphanKey (key : String)
  deriving DecidableEq, Repr

/-- The wording of a fault. -/
def LineFault.message : LineFault → String
  | .unterminatedHeader => "unterminated group header"
  | .invalidGroupName name => "invalid group name '" ++ name ++ "'"
  | .noSeparator => "expected 'key=value', a group header, or a comment"
  | .emptyKey => "empty key"
  | .orphanKey key => "key '" ++ key ++ "' appears before any group"

/-- The first fault of a text, with its line counted from one. -/
structure SyntaxFault where
  /-- The line, counted from one. -/
  line : Nat
  /-- What is wrong with it. -/
  fault : LineFault
  deriving DecidableEq, Repr

/-- The fault as it is shown. -/
def SyntaxFault.display (f : SyntaxFault) : String :=
  "line " ++ toString f.line ++ ": " ++ f.fault.message

/-- What one line says. -/
inductive Line where
  /-- A blank line or a comment. -/
  | skip
  /-- The header of a group. -/
  | header (name : String)
  /-- A key with its value, escapes already read. -/
  | pair (key value : String)
  deriving DecidableEq, Repr

/-- Reads the escapes of a value. -/
def unescape : List Char → List Char
  | '\\' :: 'n' :: rest => '\n' :: unescape rest
  | '\\' :: 't' :: rest => '\t' :: unescape rest
  | '\\' :: 'r' :: rest => '\r' :: unescape rest
  | '\\' :: 's' :: rest => ' ' :: unescape rest
  | '\\' :: c :: rest => if c = '\\' then '\\' :: unescape rest else '\\' :: c :: unescape rest
  | c :: rest => c :: unescape rest
  | [] => []

/-- Reads a trimmed line that opens with a bracket, from after the bracket. -/
def readHeader (rest : List Char) : Except LineFault Line :=
  match rest.getLast? with
  | some ']' =>
    let name := rest.dropLast
    if name.isEmpty || name.contains '[' || name.contains ']' then
      .error (.invalidGroupName (String.ofList name))
    else .ok (.header (String.ofList name))
  | _ => .error .unterminatedHeader

/-- Reads a trimmed line as a pair. -/
def readPair (line : List Char) : Except LineFault Line :=
  match splitFirst '=' line with
  | none => .error .noSeparator
  | some (key, value) =>
    let key := trimBlank key
    if key.isEmpty then .error .emptyKey
    else .ok (.pair (String.ofList key) (String.ofList (unescape (trimBlank value))))

/-- Reads one line. -/
def readLine (raw : List Char) : Except LineFault Line :=
  match trimBlank raw with
  | [] => .ok .skip
  | '#' :: _ => .ok .skip
  | ';' :: _ => .ok .skip
  | '[' :: rest => readHeader rest
  | line => readPair line

/-- What has been read so far: the file, and the group that pairs go to. -/
structure Reading where
  /-- The file read so far. -/
  file : KeyFile
  /-- The group opened last. -/
  current : Option String

/-- The start of a text. -/
def Reading.start : Reading := ⟨.empty, none⟩

/-- Takes up one line. -/
def Reading.add (r : Reading) (raw : List Char) : Except LineFault Reading :=
  match readLine raw with
  | .error fault => .error fault
  | .ok .skip => .ok r
  | .ok (.header name) => .ok ⟨r.file.openGroup name, some name⟩
  | .ok (.pair key value) =>
    match r.current with
    | none => .error (.orphanKey key)
    | some group => .ok { r with file := r.file.set group key value }

/-- Takes up lines, the first of which has the given number. -/
def Reading.addLines (r : Reading) (number : Nat) : List (List Char) → Except SyntaxFault Reading
  | [] => .ok r
  | raw :: rest =>
    match r.add raw with
    | .error fault => .error ⟨number, fault⟩
    | .ok next => next.addLines (number + 1) rest

/-- Lines are taken up one part after the other; the numbers go on where the first part ends. -/
theorem Reading.addLines_append (r : Reading) (number : Nat) (front back : List (List Char)) :
    r.addLines number (front ++ back) =
      (r.addLines number front).bind fun next => next.addLines (number + front.length) back := by
  induction front generalizing r number with
  | nil => rfl
  | cons raw front ih =>
    rw [List.cons_append, addLines, addLines]
    cases r.add raw with
    | error fault => rfl
    | ok next =>
      simp only [ih]
      rw [List.length_cons, Nat.add_right_comm, Nat.add_assoc]

/-- Reads a text. -/
def parse (text : String) : Except SyntaxFault KeyFile :=
  match Reading.start.addLines 1 (textLines text.toList) with
  | .error fault => .error fault
  | .ok reading => .ok reading.file

theorem parse_eq_ok {text : String} {file : KeyFile} :
    parse text = .ok file ↔
      ∃ last, Reading.start.addLines 1 (textLines text.toList) = .ok ⟨file, last⟩ := by
  rw [parse]
  cases Reading.start.addLines 1 (textLines text.toList) with
  | error fault => simp
  | ok reading => cases reading; simp

theorem parse_eq_error {text : String} {fault : SyntaxFault} :
    parse text = .error fault ↔
      Reading.start.addLines 1 (textLines text.toList) = .error fault := by
  rw [parse]
  cases Reading.start.addLines 1 (textLines text.toList) <;> simp

end ExtensionProxy.KeyFile
