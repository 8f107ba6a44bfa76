import ExtensionProxy.Candidate
import ExtensionProxy.CommandLine.Arguments
import ExtensionProxy.CommandLine.Grid
import ExtensionProxy.Configuration.Load
import ExtensionProxy.Json.Printer
import ExtensionProxy.Json.Values

/-!
# What the program prints

Every command gives a text to print or a cause to report.  Modules are bound by loading libraries,
and every binding is given back; no factory is called.

A command that panics ends the program, and the panic is told as the runtime tells every panic: with
the thread and the place in the code above the message, and a hint below it.
-/

set_option autoImplicit false

namespace ExtensionProxy.CommandLine

/-- What a run of the program leaves behind. -/
structure Report where
  /-- The exit status. -/
  status : Nat
  /-- What is printed. -/
  output : String := ""
  /-- What is printed as errors. -/
  errors : String := ""
  deriving DecidableEq, Repr

/-! ## Texts -/

/-- A text on a line of its own. -/
def line (text : String) : String := text ++ "\n"

/-- A line that tells of a success. -/
def successLine (text : String) : String := line ("✓ " ++ text)

/-- A line that warns. -/
def warningLine (text : String) : String := line ("⚠ " ++ text)

/-- A line that tells of a failure. -/
def failureLine (text : String) : String := line ("✗ " ++ text)

/-- The width of the names before values. -/
def nameWidth : Nat := 24

/-- A line with a name and a value. -/
def valueLine (name value : String) : String :=
  let named := name ++ ":"
  line ("  " ++ named ++ String.ofList (List.replicate (nameWidth - named.length) ' ') ++ " " ++
    value)

/-- A truth value in words. -/
def yesOrNo (value : Bool) : String := if value then "yes" else "no"

/-- A list of rows under titles; in JSON a member is named by the title in lower case. -/
def showRows (format : OutputFormat) (titles : List String) (rows : List (List String)) : String :=
  match format with
  | .table => line (if rows.isEmpty then "No results found." else drawGrid (titles :: rows))
  | .json =>
    let names := titles.map String.toLower
    line (Json.list (rows.map fun row =>
      .object ((names.zip row).map fun (name, text) => (name, text)))).pretty

/-! ## Probing -/

variable {κ : Type}

/-- What is shown of a path that is probed. -/
def probeRow (site : Site κ) (path : String) : Run Bench (List String) := do
  let outcome ← site.probe path
  pure [path, (site.settings.loader.classify path).display, outcome.display]

/-- Probes every path. -/
def probePaths (site : Site κ) (format : OutputFormat) (paths : List String) :
    Run Bench String := do
  let rows ← paths.mapM (probeRow site)
  pure (showRows format ["Path", "Kind", "Outcome"] rows)

/-- One descriptor found in a folder. -/
structure ScanRow where
  /-- The stem of the file. -/
  stem : String
  /-- The name that the descriptor gives, or the empty text if it cannot be read. -/
  name : String
  /-- The version that it gives, or the empty text. -/
  version : String
  /-- What the file is to the host. -/
  outcome : ProbeOutcome
  deriving DecidableEq, Repr

/-- Probes a descriptor found in a folder and reads what it presents. -/
def scanRow (site : Site κ) (path : String) : Run Bench ScanRow := do
  let outcome ← site.probe path
  pure (match site.descriptor path with
    | .ok descriptor => ⟨descriptor.stem, descriptor.name, descriptor.version, outcome⟩
    | .error _ => ⟨(Path.stem? path).getD "", "", "", outcome⟩)

/-- The paths in a folder that are descriptors by their extension. -/
def descriptorsIn (site : Site κ) (folder : String) : Except Cause (List String) :=
  match site.files.names? folder with
  | none => .error (.unreadableDirectory folder)
  | some names => .ok ((names.map (Path.join folder)).filter fun path =>
      site.settings.loader.classify path == .descriptor)

/-- Probes every descriptor in a folder; the rows are sorted by stem. -/
def scanFolder (site : Site κ) (folder : String) : Run Bench (Except Cause (List ScanRow)) :=
  match descriptorsIn site folder with
  | .error cause => pure (.error cause)
  | .ok paths => do
    let rows ← paths.mapM (scanRow site)
    pure (.ok (rows.mergeSort fun a b => !(b.stem < a.stem)))

/-- What is shown of a scan; the line below a table counts the descriptors that can be loaded. -/
def showScan (format : OutputFormat) (rows : List ScanRow) : String :=
  let matched := rows.filter fun row => row.outcome == .matched
  let listed := showRows format ["Stem", "Name", "Version", "Outcome"]
    (rows.map fun row => [row.stem, row.name, row.version, row.outcome.display])
  match format with
  | .json => listed
  | .table => listed ++ successLine
      (toString matched.length ++ " of " ++ toString rows.length ++ " descriptors loadable")

/-! ## Inspecting -/

/-- A descriptor and how its module fares. -/
structure Inspection where
  descriptor : Descriptor
  modulePath : String
  /-- Whether there is a file. -/
  modulePresent : Bool
  moduleBinds : Bool
  deriving DecidableEq, Repr

/-- Inspects a descriptor. -/
def inspectPath (site : Site κ) (path : String) : Run Bench (Except Cause Inspection) :=
  match site.descriptor path with
  | .error cause => pure (.error cause)
  | .ok descriptor =>
    match descriptor.modulePath? site.settings.loader with
    | none => Run.panic (some (Path.extensionPanic site.settings.loader.moduleExtension))
    | some modulePath => do
      let binds ← site.acceptsModule modulePath
      pure (.ok ⟨descriptor, modulePath, site.files.isFile modulePath, binds⟩)

/-- What is said of the module. -/
def Inspection.verdict (settings : LoaderSettings) (inspection : Inspection) : String :=
  if !inspection.modulePresent then warningLine "Module file is missing"
  else if !inspection.moduleBinds then
    warningLine ("Module does not export " ++ settings.factorySymbol)
  else successLine "Module binds"

/-- What is shown of an inspection. -/
def Inspection.shown (settings : LoaderSettings) (inspection : Inspection) :
    OutputFormat → String
  | .table =>
    let descriptor := inspection.descriptor
    line descriptor.name ++ valueLine "Stem" descriptor.stem ++
      valueLine "Description" descriptor.description ++ valueLine "Version" descriptor.version ++
      valueLine "Author" descriptor.author ++ valueLine "Help" descriptor.helpUri ++
      valueLine "Configurable" (yesOrNo descriptor.configurable) ++
      valueLine "Module" inspection.modulePath ++ inspection.verdict settings
  | .json => line (Json.object (inspection.descriptor.members.append
      [("module_path", inspection.modulePath), ("module_present", inspection.modulePresent),
        ("module_binds", inspection.moduleBinds)])).pretty

/-! ## Settings -/

/-- What is shown of the settings. -/
def showSettings (settings : Settings) : OutputFormat → String
  | .table =>
    let loader := settings.loader
    line "[loader]" ++ valueLine "descriptor_group" loader.descriptorGroup ++
      valueLine "descriptor_extension" loader.descriptorExtension ++
      valueLine "module_extension" loader.moduleExtension ++
      valueLine "factory_symbol" loader.factorySymbol ++
      valueLine "locale" (loader.locale.getD "(system)") ++
      line "[logging]" ++ valueLine "level" settings.logging.level ++
      valueLine "format" settings.logging.format
  | .json => line (toJson settings).pretty

/-! ## Commands -/

/-- Carries a command out: the text to print, or the cause to report. -/
def perform (site : Site κ) (format : OutputFormat) : Command → Run Bench (Except Cause String)
  | .probe paths => Except.ok <$> probePaths site format paths
  | .inspect path => do
    let result ← inspectPath site path
    pure (result.map fun inspection => inspection.shown site.settings.loader format)
  | .scan folder => do
    let result ← scanFolder site folder
    pure (result.map (showScan format))
  | .showSettings => pure (.ok (showSettings site.settings format))

/-- The report of a cause. -/
def failing (cause : Cause) : Report := { status := 1, errors := failureLine cause.fault.display }

/-- What the runtime writes around the message of a panic. -/
structure PanicFrame where
  /-- The number that the system has for the main thread. -/
  thread : Nat
  /-- The place in the code at which an extension is refused, the only one at which a command panics. -/
  place : String
  /-- What is said below the message of how to learn more. -/
  hint : String
  deriving DecidableEq, Repr

/-- A panic as it is told. -/
def PanicFrame.tell (frame : PanicFrame) (message : String) : String :=
  "\n" ++ line ("thread 'main' (" ++ toString frame.thread ++ ") panicked at " ++ frame.place ++ ":") ++
    line message ++ line frame.hint

/-- The report of a stop. -/
def stopping (frame : PanicFrame) : Stop → Report
  | .panic (some message) => { status := 101, errors := frame.tell message }
  | _ => { status := 101 }

/-- Carries an invocation out: the configuration is read first. -/
def Invocation.report (frame : PanicFrame) (invocation : Invocation) (files : FileTree κ)
    (environment : Environment) : Report :=
  match Settings.load files environment (some invocation.config) with
  | .error cause => failing cause
  | .ok settings =>
    let site : Site κ := ⟨settings, environment, files, .libraries⟩
    match (perform site invocation.format invocation.command {}).1 with
    | .ok (.ok text) => { status := 0, output := text }
    | .ok (.error cause) => failing cause
    | .error stop => stopping frame stop

/-! ## The program -/

/-- The name and the version of the program. -/
def versionText : String := "modproxy-cli 0.1.0"

/-- How the program is used. -/
def usageText : String :=
  "usage: modproxy-cli [-c PATH] [-f table|json] COMMAND\n\n" ++
  "  probe PATH...   says of every path what it is\n" ++
  "  inspect PATH    shows a descriptor and how its module fares\n" ++
  "  scan FOLDER     probes the descriptors in a folder\n" ++
  "  config show     shows the settings\n" ++
  "  help            shows this text\n"

/-- Runs the program. -/
def run (frame : PanicFrame) (args : List String) (files : FileTree κ) (environment : Environment) :
    Report :=
  match readArguments args with
  | .error misuse => { status := 2, errors := line misuse.message ++ usageText }
  | .ok .help => { status := 0, output := usageText }
  | .ok .version => { status := 0, output := line versionText }
  | .ok (.run invocation) => invocation.report frame files environment

end ExtensionProxy.CommandLine
