import ScriptDeps.Distinct
import ScriptDeps.Library.Index
import ScriptDeps.Script.Directive

/-!
# Import graphs

A script and everything that it imports, directly or through other scripts. A file that is imported
under two lists of renamings stands for two scripts; under one list it is visited once, so that
scripts may import each other. Every script comes after those it imports, as far as they do not
lead back to it.
-/

namespace ScriptDeps

namespace Script

/-- A script file as one import sees it. -/
structure ScriptFile where
  path : Path
  renamings : List Renaming
  /-- The text after the renamings; none if there are none. -/
  generated : Option String
  directives : Directives
  /-- The directories that it declares, resolved. -/
  searchDirs : List String
  deriving DecidableEq, Repr

/-- What one visit of a file is told by: its path and the renamings. -/
abbrev VisitKey := String × List Renaming

/-- What the visit of a file is told by. -/
def ScriptFile.key (file : ScriptFile) : VisitKey :=
  (file.path.text, file.renamings)

/-- How far the imports have been followed. -/
structure Traversal where
  visited : List VisitKey := []
  /-- The directories declared by the files visited so far. -/
  declaredDirs : List String := []
  /-- The files whose imports have all been followed, in that order. -/
  finished : List ScriptFile := []
  deriving DecidableEq, Repr

/-! ### Reading a file -/

def readScript (fs : FileSystem) (path : Path) : Except Failure String :=
  match fs.readUnmarked path.text with
  | .ok text => .ok (Text.withLineFeeds text)
  | .error (.file fault refused) => .error (.unreadableScript path.text (.file fault refused))
  | .error (.encoding fault) => .error (.unreadableScript path.text (.encoding fault))
  | .error failure => .error failure

/-- The text after renamings; none if there are none. -/
def generate (content : String) (renamings : List Renaming) : Except Failure (Option String) :=
  if renamings.isEmpty then .ok none else return some (← renameAll content renamings)

/-- The file with a content as its import sees it. -/
def scriptFile (fs : FileSystem) (path : Path) (content : String) (renamings : List Renaming) :
    Except Failure ScriptFile := do
  let generated ← generate content renamings
  let directives := Directives.ofText (generated.getD content) path.text
  let searchDirs ← directives.searchDirs.mapM fun dir => do
    return (← fs.resolvePath (path.parent.child dir)).text
  return ⟨path, renamings, generated, directives, searchDirs⟩

/-! ### Finding an imported file -/

def extension : String := ".cs"

/-- The names that an import may mean: with and without the extension. -/
def namesMeant (name : Path) : Except Failure (List Path) :=
  if Text.lower name.suffix == extension then .ok [name]
  else match name.withName? (name.name ++ extension) with
    | some extended => .ok [name, extended]
    | none => .error .namelessPath

/-- The paths at which an imported file may be, in the order in which they are tried. -/
def probesFor (dirs : List String) (name : Path) : Except Failure (List Path) := do
  let names ← namesMeant name
  if name.isAbsolute then return names
  else return dirs.flatMap fun dir => names.map (Path.ofText dir ++ ·)

def locate (fs : FileSystem) (dirs : List String) (importer : Path) (name : String) :
    Except Failure Path := do
  let probes ← probesFor dirs (.ofText name)
  match ← fs.firstFile? probes with
  | some path => fs.resolvePath path
  | none => throw (.importNotFound importer.text name (probes.map Path.text))

/-! ### Following imports -/

namespace Traversal

def enter (t : Traversal) (file : ScriptFile) : Traversal :=
  { t with
    visited := file.key :: t.visited
    declaredDirs := distinct (t.declaredDirs ++ file.searchDirs) }

/-- The traversal after all imports of a file have been followed. -/
def finish (t : Traversal) (file : ScriptFile) : Traversal :=
  { t with finished := t.finished ++ [file] }

/-- The directories that the imports of a file are looked for in. -/
def dirsFor (t : Traversal) (file : ScriptFile) (extraDirs : List String) : List String :=
  file.path.parent.text :: (file.searchDirs ++ t.declaredDirs ++ extraDirs)

end Traversal

/-- What follows imports, and keeps what was visited before it failed. -/
abbrev Following (α : Type) := ExceptT Failure (StateM Traversal) α

/-- A value or a failure that does not depend on what was visited. -/
def Following.ofExcept {α : Type} (result : Except Failure α) : Following α :=
  fun t => (result, t)

/-- Follows imports of a file, one after the other. -/
def followImports (fs : FileSystem) (extraDirs : List String)
    (visit : Path → List Renaming → Following Unit) (file : ScriptFile) :
    List Import → Following Unit
  | [] => pure ()
  | imported :: rest => do
    let t ← get
    let path ← .ofExcept (locate fs (t.dirsFor file extraDirs) file.path imported.name)
    visit path imported.renamings
    followImports fs extraDirs visit file rest

/-- Visits a file and what it imports, at most `depth` files inside one another. -/
def visit (fs : FileSystem) (extraDirs : List String) :
    Nat → Path → List Renaming → Following Unit
  | 0, _, _ => throw .importsTooDeep
  | depth + 1, path, renamings => do
    let content ← .ofExcept (readScript fs path)
    if (← get).visited.contains (path.text, renamings) then return
    let file ← .ofExcept (scriptFile fs path content renamings)
    modify (·.enter file)
    followImports fs extraDirs (visit fs extraDirs depth) file file.directives.imports
    modify (·.finish file)

/-- Follows all imports of a script, at most `depth` files inside one another. -/
def followFrom (fs : FileSystem) (extraDirs : List String) (depth : Nat) (root : ScriptFile) :
    Except Failure Unit × Traversal :=
  followImports fs extraDirs (visit fs extraDirs depth) root root.directives.imports
    (({} : Traversal).enter root)

def maxDepth : Nat := 980

end Script

open Script

/-- A script and the files that it imports, directly or not, in the order in which they were
finished. -/
structure ImportGraph where
  root : ScriptFile
  imports : List ScriptFile
  deriving DecidableEq, Repr

namespace ImportGraph

/-- The import graph of the script at a path, with at most `depth` files inside one another;
`extraDirs` are looked at last for imported files. -/
def within (depth : Nat) (fs : FileSystem) (extraDirs : List String) (path : Path) :
    Except Failure ImportGraph := do
  let root ← scriptFile fs path (← readScript fs path) []
  let (followed, t) := followFrom fs extraDirs depth root
  followed
  return ⟨root, t.finished⟩

/-- The import graph of the script at a path. -/
def ofPath (fs : FileSystem) (extraDirs : List String) (path : Path) :
    Except Failure ImportGraph :=
  within maxDepth fs extraDirs path

def files (graph : ImportGraph) : List ScriptFile :=
  graph.root :: graph.imports

/-- What the files declare of one kind, each once. -/
def declared (graph : ImportGraph) (part : Directives → List String) : List String :=
  distinct (graph.files.flatMap fun file => part file.directives)

def namespaces (graph : ImportGraph) : List String :=
  graph.declared (·.namespaces)

def references (graph : ImportGraph) : List String :=
  graph.declared (·.references)

/-- The namespaces that are never looked up: the usual ones, and those that are declared so. -/
def ignored (graph : ImportGraph) : List String :=
  distinct (LibraryIndex.defaultIgnored ++ graph.declared (·.ignoredNamespaces))

/-- The directory of the script and those that are declared. -/
def searchDirs (graph : ImportGraph) : List String :=
  distinct (graph.root.path.parent.text :: graph.files.flatMap (·.searchDirs))

/-- The packages that are needed, each name once in any letter case. -/
def packages (graph : ImportGraph) : List PackageReference :=
  distinctBy (Text.lower ·.name) (graph.files.flatMap (·.directives.packages))

/-- Whether the script asks to be wrapped into a class. -/
def asksForClass (graph : ImportGraph) : Bool :=
  graph.root.directives.autoClass

end ImportGraph

end ScriptDeps
