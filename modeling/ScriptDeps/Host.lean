import ScriptDeps.FileSystem.Access
import ScriptDeps.Package.Reference
import ScriptDeps.Text.Casing

/-!
# The host

The machine that scripts are resolved on: its files, its environment, the modules loaded into the
process, how the identity worker behaves, and the changes made to the files so far. An action runs
on a host and keeps the changes made before it failed.
-/

namespace ScriptDeps

abbrev Environment := List (String × String)

namespace Environment

def get? (environment : Environment) (name : String) : Option String :=
  (environment.find? (·.1 == name)).map (·.2)

/-- The value of a variable that is set and not empty. -/
def getSome? (environment : Environment) (name : String) : Option String :=
  (environment.get? name).filter (· != "")

def set (environment : Environment) (name value : String) : Environment :=
  (environment.filter (·.1 != name)) ++ [(name, value)]

def unset (environment : Environment) (name : String) : Environment :=
  environment.filter (·.1 != name)

/-- Whether a variable is set to one of the words for "yes". -/
def isYes (value : String) : Bool :=
  let word := Text.lower (String.ofList (Text.trim value.toList))
  word == "1" || word == "true" || word == "yes" || word == "on"

end Environment

/-- How the identity worker behaves when it is started. -/
inductive WorkerMode
  /-- It answers. -/
  | answers
  /-- It cannot be started. -/
  | missing
  /-- It does not end in time. -/
  | hangs
  /-- It ends with a code and says nothing. -/
  | exits (code : Int)
  /-- It ends well after writing a text. -/
  | writes (output : String)
  deriving DecidableEq, Repr

/-- A change made to the files. -/
inductive Change
  | madeDirectory (path : String)
  | wroteFile (path text : String)
  deriving DecidableEq, Repr

/-- The machine that scripts are resolved on. -/
structure Host where
  files : FileSystem
  environment : Environment
  /-- The loaded modules with the files they come from. -/
  modules : List (String × Option String)
  worker : WorkerMode
  /-- The changes so far, the last first. -/
  changes : List Change := []
  /-- The packages handed to the downloader so far, the last first. -/
  fetched : List PackageReference := []

abbrev Action (α : Type) := ExceptT Failure (StateM Host) α

namespace Action

def ofHost {α : Type} (f : Host → Except Failure α) : Action α :=
  fun host => (f host, host)

/-- A value or a failure that is already known. -/
def ofExcept {α : Type} (result : Except Failure α) : Action α :=
  fun host => (result, host)

def makeDirectory (path : String) : Action Unit := fun host =>
  match host.files.makeDirectory path with
  | .ok files =>
    (.ok (), { host with files, changes := .madeDirectory path :: host.changes })
  | .error failure => (.error failure, host)

/-- A text is written to the file at a path. -/
def writeText (path text : String) : Action Unit := fun host =>
  match host.files.writeText path text with
  | .ok files =>
    (.ok (), { host with files, changes := .wroteFile path text :: host.changes })
  | .error failure => (.error failure, host)

/-- A directory that could not be made is no failure if it is there. -/
def unlessDirectory (path : String) (failure : Failure) : Action Unit := do
  if ← ofHost (·.files.isDirectory path) then return else throw failure

/-- The directory at a path is made with those above it, unless it is there. The names are given
with the last one first. -/
def makeDirectories (root : PathRoot) : List String → Action Unit
  | [] => do
    let path := (Path.mk root []).text
    tryCatch (makeDirectory path) fun failure =>
      match failure with
      | .file .missing _ => throw failure
      | .file _ _ => unlessDirectory path failure
      | _ => throw failure
  | name :: above => do
    let path := (Path.mk root (name :: above).reverse).text
    tryCatch (makeDirectory path) fun failure =>
      match failure with
      | .file .missing _ => do
        makeDirectories root above
        tryCatch (makeDirectory path) fun failure =>
          match failure with
          | .file .missing _ => throw failure
          | .file _ _ => unlessDirectory path failure
          | _ => throw failure
      | .file _ _ => unlessDirectory path failure
      | _ => throw failure

def ensureDirectory (path : Path) : Action Unit :=
  makeDirectories path.root path.names.reverse

end Action

end ScriptDeps
