import ExtensionProxy.Text.Lines

/-!
# Arguments

What the program is asked to do.  Options stand before the command; one that takes a value takes it
from the same argument or from the next, and is judged only when the next option comes or when
everything else has been read.  So a request for help or for the version that comes before a command
fails with an option that cannot stand, while a request for help with a command does not look back.
-/

set_option autoImplicit false

namespace ExtensionProxy.CommandLine

/-- How results are shown. -/
inductive OutputFormat where
  /-- As tables and lines to read. -/
  | table
  | json
  deriving DecidableEq, Repr

/-- The format of a name. -/
def OutputFormat.ofName? (name : String) : Option OutputFormat :=
  if name = "table" then some .table else if name = "json" then some .json else none

/-- What is to be done. -/
inductive Command where
  /-- Says of every path what it is. -/
  | probe (paths : List String)
  /-- Shows a descriptor and how its module fares. -/
  | inspect (path : String)
  /-- Probes the descriptors in a folder. -/
  | scan (folder : String)
  | showSettings
  deriving DecidableEq, Repr

/-- A command with the options that it is given. -/
structure Invocation where
  /-- The path of the configuration. -/
  config : String
  /-- How results are shown. -/
  format : OutputFormat
  /-- What is to be done. -/
  command : Command
  deriving DecidableEq, Repr

/-- What is asked for. -/
inductive Request where
  /-- A command. -/
  | run (invocation : Invocation)
  /-- How the program is used. -/
  | help
  | version
  deriving DecidableEq, Repr

/-- The options that take a value. -/
inductive ValueOption where
  /-- The path of the configuration. -/
  | config
  /-- How results are shown. -/
  | format
  deriving DecidableEq, Repr

/-- An option as it is written. -/
def ValueOption.display : ValueOption → String
  | .config => "--config"
  | .format => "--format"

/-- Why arguments are refused. -/
inductive Misuse where
  | noCommand
  /-- There is no such command. -/
  | unknownCommand (text : String)
  /-- There is no such option. -/
  | unknownOption (text : String)
  /-- An option lacks its value. -/
  | noValue (option : ValueOption)
  /-- An option cannot have this value. -/
  | badValue (option : ValueOption) (value : String)
  /-- An option is given twice. -/
  | repeated (option : ValueOption)
  /-- The command lacks a path. -/
  | noPath
  | emptyPath
  /-- An argument too many. -/
  | surplus (text : String)
  deriving DecidableEq, Repr

/-- The wording of a misuse. -/
def Misuse.message : Misuse → String
  | .noCommand => "a command is missing"
  | .unknownCommand text => "there is no command '" ++ text ++ "'"
  | .unknownOption text => "there is no option '" ++ text ++ "' here"
  | .noValue option => option.display ++ " needs a value"
  | .badValue option value => option.display ++ " cannot be '" ++ value ++ "'"
  | .repeated option => option.display ++ " can be given only once"
  | .noPath => "a path is missing"
  | .emptyPath => "a path cannot be empty"
  | .surplus text => "'" ++ text ++ "' is one argument too many"

/-! ## Options -/

/-- Whether an argument is an option: it starts with a hyphen and is more than that. -/
def isOption (arg : String) : Bool := arg.toList.head? == some '-' && arg != "-"

/-- What an option asks for. -/
inductive OptionToken where
  /-- How the program is used. -/
  | help
  | version
  /-- An option whose value is the next argument. -/
  | opens (option : ValueOption)
  | gives (option : ValueOption) (value : String)
  /-- No option of the program. -/
  | unknown
  deriving DecidableEq, Repr

/-- An option written with two hyphens: a name, and a value after an equals sign. -/
def longToken (text : List Char) : OptionToken :=
  let (name, value?) := match splitFirst '=' text with
    | some (name, value) => (String.ofList name, some (String.ofList value))
    | none => (String.ofList text, none)
  match name, value? with
  | "config", none => .opens .config
  | "config", some value => .gives .config value
  | "format", none => .opens .format
  | "format", some value => .gives .format value
  | "help", none => .help
  | "version", none => .version
  | _, _ => .unknown

/-- What follows the letter of an option that takes a value; an equals sign between the two does not
belong to the value. -/
def shortValue (option : ValueOption) : List Char → OptionToken
  | [] => .opens option
  | '=' :: value => .gives option (String.ofList value)
  | value => .gives option (String.ofList value)

/-- An option written with one hyphen: a letter, and a value right after it. -/
def shortToken : List Char → OptionToken
  | 'c' :: rest => shortValue .config rest
  | 'f' :: rest => shortValue .format rest
  | 'h' :: _ => .help
  | 'V' :: _ => .version
  | _ => .unknown

/-- What an argument that is an option asks for. -/
def optionToken (arg : String) : OptionToken :=
  match arg.toList with
  | '-' :: '-' :: text => longToken text
  | '-' :: text => shortToken text
  | _ => .unknown

/-- The options read so far. -/
structure Given where
  /-- The path of the configuration. -/
  config : Option String := none
  /-- How results are shown. -/
  format : Option OutputFormat := none
  /-- The option read last, which is not judged yet, and its value. -/
  waiting : Option (ValueOption × Option String) := none
  deriving DecidableEq, Repr

namespace Given

/-- Accepts a value, unless the option cannot have it or has one. -/
def accept (given : Given) (option : ValueOption) (value : String) : Except Misuse Given :=
  match option with
  | .config =>
    if given.config.isSome then .error (.repeated option)
    else if value.isEmpty then .error (.badValue option value)
    else .ok { given with config := some value }
  | .format =>
    if given.format.isSome then .error (.repeated option)
    else match OutputFormat.ofName? value with
      | some format => .ok { given with format := some format }
      | none => .error (.badValue option value)

/-- Judges the option that was read last. -/
def settle (given : Given) : Except Misuse Given :=
  match given.waiting with
  | none => .ok given
  | some (option, none) => .error (.noValue option)
  | some (option, some value) => { given with waiting := none }.accept option value

/-- The option that takes the next argument. -/
def awaiting? (given : Given) : Option ValueOption :=
  match given.waiting with
  | some (option, none) => some option
  | _ => none

end Given

/-! ## Commands -/

/-- What is read after the name of a command: the command, or a request for help with it. -/
abbrev Reading := Except Misuse (Option Command)

/-- Refuses paths that are empty. -/
def checkPaths (paths : List String) : Except Misuse (List String) :=
  if paths.any String.isEmpty then .error .emptyPath else .ok paths

/-- Refuses more paths than there is room for. -/
def checkRoom (room : Option Nat) (paths : List String) : Except Misuse (List String) :=
  match room with
  | some most =>
    match paths.drop most with
    | [] => .ok paths
    | extra :: _ => .error (.surplus extra)
  | none => .ok paths

/-- Reads the paths of a command that has room for some number of them, or for any.  Help may be
asked for between them; after two hyphens everything is a path. -/
def readPaths (room : Option Nat) (taken : List String) :
    List String → Except Misuse (Option (List String))
  | [] => (checkPaths taken).map some
  | arg :: rest =>
    if arg = "--" then do
      let paths ← checkRoom room (taken ++ rest)
      (checkPaths paths).map some
    else if isOption arg then
      match optionToken arg with
      | .help => (checkPaths taken).map fun _ => none
      | _ => .error (.unknownOption arg)
    else do
      let paths ← checkRoom room (taken ++ [arg])
      readPaths room paths rest

/-- Makes a command of the paths that were read. -/
def commandOf (make : List String → Except Misuse Command) :
    Except Misuse (Option (List String)) → Reading
  | .error misuse => .error misuse
  | .ok none => .ok none
  | .ok (some paths) => (make paths).map some

/-- A command on one path. -/
def onePath (make : String → Command) : List String → Except Misuse Command
  | [] => .error .noPath
  | path :: _ => .ok (make path)

/-- Reads what follows the name of the group of commands about the configuration. -/
def readConfigCommand : List String → Reading
  | [] => .error .noCommand
  | arg :: rest =>
    if isOption arg then
      match optionToken arg with
      | .help => .ok none
      | _ => .error (.unknownOption arg)
    else match arg, rest with
      | "show", rest => commandOf (fun _ => .ok .showSettings) (readPaths (some 0) [] rest)
      | "help", [] => .ok none
      | "help", ["show"] => .ok none
      | "help", ["help"] => .ok none
      | other, _ => .error (.unknownCommand other)

/-- Whether there is help about the given words. -/
def isHelpTopic : List String → Bool
  | [] => true
  | "config" :: rest => rest.isEmpty || rest == ["show"] || rest == ["help"]
  | [name] => ["probe", "inspect", "scan", "help"].contains name
  | _ => false

/-- Reads what follows the name of a command. -/
def readCommand (name : String) (rest : List String) : Reading :=
  match name with
  | "probe" =>
    commandOf (fun paths => if paths.isEmpty then .error .noPath else .ok (.probe paths))
      (readPaths none [] rest)
  | "inspect" => commandOf (onePath .inspect) (readPaths (some 1) [] rest)
  | "scan" => commandOf (onePath .scan) (readPaths (some 1) [] rest)
  | "config" => readConfigCommand rest
  | "help" => if isHelpTopic rest then .ok none else .error (.unknownCommand (" ".intercalate rest))
  | other => .error (.unknownCommand other)

/-- The path of the configuration if none is given. -/
def defaultConfig : String := "config/modproxy.toml"

/-- What is asked for by a command and the options before it. -/
def Given.request (given : Given) : Reading → Except Misuse Request
  | .error misuse => .error misuse
  | .ok none => .ok .help
  | .ok (some command) => given.settle.map fun settled =>
    .run ⟨settled.config.getD defaultConfig, settled.format.getD .table, command⟩

/-- Reads arguments after the options given. -/
def readAfter (given : Given) : List String → Except Misuse Request
  | [] => .error .noCommand
  | arg :: rest =>
    if isOption arg then
      match optionToken arg with
      | .unknown => .error (.unknownOption arg)
      | .help => given.settle.map fun _ => .help
      | .version => given.settle.map fun _ => .version
      | .opens option => do
        let settled ← given.settle
        readAfter { settled with waiting := some (option, none) } rest
      | .gives option value => do
        let settled ← given.settle
        let accepted ← settled.accept option value
        readAfter accepted rest
    else match given.awaiting? with
      | some option => readAfter { given with waiting := some (option, some arg) } rest
      | none => given.request (readCommand arg rest)

/-- Reads the arguments of the program. -/
def readArguments (args : List String) : Except Misuse Request := readAfter {} args

end ExtensionProxy.CommandLine
