import ExtensionProxy.CommandLine.Report
import ExtensionProxy.Module.SharedObject

/-!
# The program

The outer layer of the command line: it reads the environment and the files that the arguments speak
of, lets `CommandLine.run` do the work, and prints what that tells.
-/

set_option autoImplicit false

namespace ExtensionProxy.CommandLine

/-- What a file with these bytes is to the program. -/
def nodeOfBytes (bytes : ByteArray) : FileNode Unit :=
  match SharedObject.exports? bytes with
  | some names => .library (names.map fun name => (name, ()))
  | none =>
    match String.fromUTF8? bytes with
    | some text => .text text
    | none => .binary bytes.toList

/-- The variables in the text of an environment, in which a zero byte ends each. -/
def environmentOfText (text : String) : Environment :=
  (splitEvery '\x00' text.toList).filterMap fun entry =>
    (splitFirst '=' entry).map fun (name, value) => (String.ofList name, String.ofList value)

/-- The folder of a path, and the beginning that the names beside it have in common with it. -/
def neighbourhood (path : String) : String × String :=
  match Path.splitName? path with
  | none => (path, "")
  | some (folder, _) =>
    (if folder.isEmpty then "." else String.ofList folder, (Path.stem? path).getD "")

/-- The folders that an invocation speaks of, each with the beginning of the names that count. -/
def Invocation.neighbourhoods (invocation : Invocation) : List (String × String) :=
  neighbourhood invocation.config :: match invocation.command with
    | .probe paths => paths.map neighbourhood
    | .inspect path => [neighbourhood path]
    | .scan folder => [(folder, "")]
    | .showSettings => []

/-- Adds the file or folder at a path to a tree. -/
def addPath (tree : FileTree Unit) (path : String) (isFolder : Bool) : IO (FileTree Unit) :=
  if isFolder then pure (tree.add path .folder)
  else
    try
      let bytes ← IO.FS.readBinFile path
      pure (tree.add path (nodeOfBytes bytes))
    catch _ => pure tree

/-- Adds what stands in a folder under names that begin as given. -/
def addFolder (tree : FileTree Unit) (folder start : String) : IO (FileTree Unit) := do
  try
    let here ← IO.currentDir
    let entries ← (here / folder).readDir
    let mut seen := tree.add folder .folder
    for entry in entries do
      if entry.fileName.startsWith start then
        seen ← addPath seen (Path.join folder entry.fileName) (← entry.path.isDir)
    pure seen
  catch _ => pure tree

/-- The beginnings of the names without a folder that an invocation speaks of. -/
def Invocation.bareStems (invocation : Invocation) : List String :=
  let paths := match invocation.command with
    | .probe paths => paths
    | .inspect path => [path]
    | _ => []
  (paths.filter fun path => !path.toList.contains '/').filterMap Path.stem?

/-- The folders in which the system's loader looks for the name of a library. -/
def libraryFolders (environment : Environment) : List String :=
  let listed := splitEvery ':' ((environment.get? "LD_LIBRARY_PATH").getD "").toList
  (listed.map String.ofList).filter (fun folder => !folder.isEmpty) ++ ["/lib", "/usr/lib"]

/-- What the libraries of these folders export whose names begin as given, by their names. -/
def readLibraries (folders starts : List String) : IO (List (String × List (String × Unit))) := do
  let here ← IO.currentDir
  let mut found := []
  for folder in folders do
    try
      for entry in ← (here / folder).readDir do
        if starts.any fun start => entry.fileName.startsWith start then
          if let .library exports := nodeOfBytes (← IO.FS.readBinFile entry.path) then
            found := found ++ [(entry.fileName, exports)]
    catch _ => pure ()
  pure found

/-- The files that the arguments speak of.  The program itself exports nothing. -/
def readTree (args : List String) (environment : Environment) : IO (FileTree Unit) := do
  let here ← IO.currentDir
  let tree : FileTree Unit :=
    .workingAt ((Path.parts here.toString).filter fun part => !part.isEmpty)
  match readArguments args with
  | .ok (.run invocation) =>
    let libraries ← readLibraries (libraryFolders environment) invocation.bareStems
    let mut seen :=
      { tree with system := fun name => if name.isEmpty then some [] else libraries.lookup name }
    for (folder, start) in invocation.neighbourhoods do
      seen ← addFolder seen folder start
    pure seen
  | _ => pure tree

/-- What is written around the message of a panic of this process. -/
def readPanicFrame : IO PanicFrame := do
  let thread ←
    try
      let bytes ← IO.FS.readBinFile "/proc/self/stat"
      let digits := ((String.fromUTF8? bytes).getD "").toList.takeWhile Char.isDigit
      pure ((String.ofList digits).toNat?.getD 0)
    catch _ => pure 0
  pure ⟨thread, "Path.withExtension?", "note: there is no backtrace"⟩

/-- The environment of the process. -/
def readEnvironment : IO Environment := do
  try
    let bytes ← IO.FS.readBinFile "/proc/self/environ"
    pure (environmentOfText ((String.fromUTF8? bytes).getD ""))
  catch _ => pure []

end ExtensionProxy.CommandLine

open ExtensionProxy.CommandLine in
/-- The program. -/
def main (args : List String) : IO UInt32 := do
  let environment ← readEnvironment
  let report := run (← readPanicFrame) args (← readTree args environment) environment
  (← IO.getStdout).putStr report.output
  (← IO.getStderr).putStr report.errors
  pure report.status.toUInt32
