import ScriptDeps.Console.Commands

/-!
# The program

Runs a command line on the machine. The directories that a command may look at are read into a
file system first; the changes that it makes there are made on the machine afterwards.
-/

open ScriptDeps

namespace ScriptDeps.Program

/-- How deep directories are read below those that are named. -/
def depth : Nat := 8

/-- How often newly found directories are read as well. -/
def rounds : Nat := 8

/-- The bindings between the null characters of a text. -/
def bindings (text : String) : Environment :=
  (Text.split '\x00' text.toList).filterMap fun binding =>
    if binding.contains '=' then
      let (name, value) := Text.cutAt '=' binding
      some (String.ofList name, String.ofList value)
    else none

def place (path : String) : Place :=
  (Path.ofText path).names.reverse

/-- The directories that commands look at, whatever they are asked for. -/
def standingDirs (environment : Environment) : List String :=
  let locations : Locations := {}
  let atHome := [locations.globalDir environment, locations.userScripts environment]
  let packages := defaultPackageRoots environment environment
  (locations.cache :: atHome.filterMap Except.toOption ++ packages.toOption.getD []).map Path.text
    ++ (engineRoot? environment).toList

/-- The directories that a script leads to, as far as the files are known. -/
def scriptDirs (files : FileSystem) (environment : Environment) (script : String) : List String :=
  let shared := (SearchPath.globalDirs files environment).toOption.getD []
  let declared := match files.resolvePath (.ofText script) >>= ImportGraph.ofPath files [] with
    | .ok graph => graph.searchDirs
    | .error (.importNotFound _ _ probed) => probed.map fun path => (Path.ofText path).parent.text
    | .error _ => []
  distinct ((Path.ofText script).parent.text :: shared ++ declared)

def script? (arguments : List String) : Option String := do
  let (_, command, rest) ← Console.split? arguments
  (← Console.Request.ofArguments? command rest).script?

def readFile (path : String) (modified : Int) : IO Node := do
  try
    return .file (← IO.FS.readBinFile path) modified false
  catch _ => return .file .empty modified true

/-- The files with those in a directory of the machine. -/
def readDirectory : Nat → FileSystem → String → IO FileSystem
  | 0, files, _ => return files
  | depth + 1, files, path => do
    try
      let real ← IO.FS.realPath path
      let mut files := files.plant (place path) (.directory false)
      for entry in ← real.readDir do
        let inner := Path.inDirectory path entry.fileName
        let data ← entry.path.metadata
        if data.type == .dir then
          files ← readDirectory depth files inner
        else
          files := files.plant (place inner) (← readFile inner data.modified.sec)
      return files
    catch _ => return files

/-- The files with the directories that lead to a place, as far as they are there. -/
def readAncestors (files : FileSystem) : Place → IO FileSystem
  | [] => return files
  | name :: above => do
    let files ← readAncestors files above
    try
      let real ← IO.FS.realPath (FileSystem.pathOf (name :: above)).text
      if ← real.isDir then return files.plant (name :: above) (.directory false) else return files
    catch _ => return files

/-- The files with those in a directory of the machine and the directories that lead to it. -/
def readNamed (files : FileSystem) (path : String) : IO FileSystem := do
  readDirectory depth (← readAncestors files (place path)) path

/-- The files with those in directories, and in those that the script then leads to. -/
def readAll (environment : Environment) (script : Option String) :
    Nat → List String → FileSystem → List String → IO FileSystem
  | 0, _, files, _ => return files
  | rounds + 1, known, files, dirs => do
    let unread := dirs.filter fun dir => !known.contains dir
    if unread.isEmpty then return files
    let files ← unread.foldlM readNamed files
    let further := (script.map (scriptDirs files environment)).getD []
    readAll environment script rounds (unread ++ known) files further

def makeChange : Change → IO Unit
  | .madeDirectory path => IO.FS.createDir path
  | .wroteFile path text => IO.FS.writeFile path text

def tableText (table : Console.Table) : String :=
  String.join ((table.title :: (table.columns :: table.rows).map ("  ".intercalate ·)).map (· ++ "\n"))

/-- What is printed at the end of a command line. -/
def report (ending : Console.Ending) : IO Unit := do
  for table in ending.printed.tables do
    IO.print (tableText table)
  IO.print ending.printed.output
  IO.eprint ending.printed.errors
  match ending.failure with
  | some failure => IO.eprintln ("Error: " ++ failure.message.escaped)
  | none =>
    if ending.code == 2 then
      IO.eprintln "Usage: [--human] [--verbose] resolve|search-dirs|decoration|config [arguments]"

end ScriptDeps.Program

open Program in
def main (arguments : List String) : IO UInt32 := do
  let environment := bindings (← IO.FS.readFile "/proc/self/environ")
  let current := (← IO.currentDir).toString
  let script := script? arguments
  let start : FileSystem := { nodes := [], workingDirectory := place current }
  let files ← readAll environment script rounds [] start
    (current :: standingDirs environment ++ (script.map fun s => (Path.ofText s).parent.text).toList)
  let host : Host := { files, environment, modules := [], worker := .answers }
  let (ending, host, _) := Console.run arguments (host, {})
  host.changes.reverse.forM makeChange
  report ending
  return ending.code.toUInt32
