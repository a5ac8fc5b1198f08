import ScriptDeps.Distinct
import ScriptDeps.Locations
import ScriptDeps.Package.Version
import ScriptDeps.Script.Directive

/-!
# Package stores

Packages lie under roots in one of two layouts, `<id>/<version>` or `<id>.<version>`. The first
root that has a fitting version gives the package; of several versions the highest is taken. A
package that is not there can be fetched once, if that is allowed.
-/

namespace ScriptDeps

/-- What comes of fetching a package. -/
inductive Delivery
  /-- Empty files are put at these paths. -/
  | files (paths : List String)
  /-- The fetch fails with a reason. -/
  | fails (reason : String)
  /-- The package is not accepted. -/
  | refuses
  deriving DecidableEq, Repr

/-- Where packages are looked for, and what can be fetched, by name; `none` if nothing is ever
fetched. -/
structure PackageStore where
  roots : List Path
  deliveries : Option (List (String × Delivery)) := none
  deriving DecidableEq, Repr

/-- The roots looked at when none are given: the user's packages, then those of the script
engine. -/
def defaultPackageRoots (environment home : Environment) : Except Failure (List Path) := do
  let user ← match environment.getSome? "NUGET_PACKAGES" with
    | some root => pure (Path.ofText root)
    | none => pure (((← homeDirectory home).child ".nuget").child "packages")
  return user :: match engineRoot? environment with
    | some root => [(((Path.ofText root).child "Lib").child "Bin").child "NuGet"]
    | none => []

namespace PackageStore

def ofEnvironment (environment : Environment) : Except Failure PackageStore := do
  return ⟨← defaultPackageRoots environment environment, none⟩

def inside (directory : Path) (name : String) : Path :=
  ⟨directory.root, directory.names ++ [name]⟩

/-! ### Finding a package -/

/-- Whether a text is a version: numbers with dots between them, perhaps a dash and a
prerelease. -/
def isVersion (text : List Char) : Bool :=
  let (numbers, prerelease) := Text.cutAt '-' text
  Package.isDotted numbers && (!text.contains '-' ||
    (!prerelease.isEmpty && prerelease.all fun c => c.isAlphanum || c == '.' || c == '-'))

/-- The id and the version in a directory's name, at the first dot that can stand between them;
`before` is what has been read of the id, backwards. -/
def splitVersionFrom? (before : List Char) : List Char → Option (List Char × List Char)
  | [] => none
  | c :: rest =>
    if c == '.' && !before.isEmpty && isVersion (Package.dropFinalBreak rest) then
      some (before.reverse, Package.dropFinalBreak rest)
    else if c == '\n' then none
    else splitVersionFrom? (c :: before) rest

/-- The id and the version in a directory's name. -/
def splitVersion? (name : String) : Option (String × String) :=
  (splitVersionFrom? [] name.toList).map fun (id, version) =>
    (String.ofList id, String.ofList version)

/-- A version of a package and the directory it lies in. -/
abbrev Installed := String × Path

/-- The directories among the entries of a directory, up to the first that cannot be asked
about. -/
def directoriesUntilFault (fs : FileSystem) (directory : Path) : List String → List Installed
  | [] => []
  | name :: rest =>
    match fs.isDirectory (inside directory name).text with
    | .ok true => (name, inside directory name) :: directoriesUntilFault fs directory rest
    | .ok false => directoriesUntilFault fs directory rest
    | .error _ => []

/-- The names in a directory; none if it cannot be listed. -/
def listOrNone (fs : FileSystem) (path : Path) : Except Failure (List String) :=
  match fs.list path.text with
  | .ok names => .ok names
  | .error (.file _ _) => .ok []
  | .error failure => .error failure

/-- The versions of a package that an entry of a root offers. -/
def offered (fs : FileSystem) (root : Path) (wanted entry : String) :
    Except Failure (List Installed) := do
  let path := inside root entry
  if !(← fs.isDirectory path.text) then return []
  else if Text.lower entry == wanted then
    return directoriesUntilFault fs path (← listOrNone fs path)
  else match splitVersion? entry with
    | some (id, version) => return if Text.lower id == wanted then [(version, path)] else []
    | none => return []

/-- The versions of a package that a root offers. -/
def versionsIn (fs : FileSystem) (root : Path) (name : String) : Except Failure (List Installed) := do
  let entries ← listOrNone fs root
  return (← entries.mapM (offered fs root (Text.lower name))).flatten

/-- The highest of some versions; of equal ones the first. -/
def highest? (installed : List Installed) : Except Failure (Option Path) := do
  let keyed ← installed.mapM fun entry => return (← Package.VersionKey.ofText entry.1, entry.2)
  return (Package.sortDown Package.VersionKey.compare keyed).head?.map (·.2)

/-- The directory of a package in the first of some roots that has it. -/
def findIn (fs : FileSystem) (package : PackageReference) :
    List Path → Except Failure (Option Path)
  | [] => .ok none
  | root :: rest => do
    let installed ← versionsIn fs root package.name
    let fitting := match package.version.filter (· != "") with
      | some version => installed.filter (·.1 == version)
      | none => installed
    if fitting.isEmpty then findIn fs package rest else highest? fitting

def find (store : PackageStore) (fs : FileSystem) (package : PackageReference) :
    Except Failure (Option Path) :=
  findIn fs package store.roots

/-! ### The libraries of a package -/

def librariesIn (fs : FileSystem) (directory : Path) : Except Failure (List String) := do
  let names ← fs.list directory.text
  let kept ← names.filterM fun name => do
    let path := inside directory name
    return (← fs.isFile path.text) && Text.lower path.suffix == ".dll"
  return kept.map fun name => (inside directory name).text

/-- The libraries of the package in a directory: those directly in `lib`, then those in its
folders, newest framework first. -/
def libraries (fs : FileSystem) (package : Path) : Except Failure (List String) := do
  let lib := package.child "lib"
  if !(← fs.isDirectory lib.text) then return []
  let folders ← (← fs.list lib.text).filterM fun name => fs.isDirectory (inside lib name).text
  let frameworks ← Package.sortFrameworks folders
  return (← (lib :: frameworks.map (inside lib)).mapM (librariesIn fs)).flatten

/-! ### Resolving -/

def fetch (deliveries : List (String × Delivery)) (package : PackageReference) : Action Unit := do
  modify fun host => { host with fetched := package :: host.fetched }
  match deliveries.find? (·.1 == package.name) with
  | none => return
  | some (_, .refuses) => throw .downloadRefused
  | some (_, .fails reason) => throw (.download package.name reason)
  | some (_, .files paths) => modify fun host =>
    { host with files := paths.foldl (fun fs path =>
        fs.plant (Path.ofText path).names.reverse (.file .empty 1000000000 false)) host.files }

/-- The directory of a package, fetched if it is not there and may be. -/
def obtain (store : PackageStore) (suppress : Bool) (package : PackageReference) :
    Action (Option Path) := do
  match ← Action.ofHost (store.find ·.files package) with
  | some directory => return some directory
  | none =>
    match store.deliveries with
    | some deliveries =>
      if suppress then return none
      fetch deliveries package
      Action.ofHost (store.find ·.files package)
    | none => return none

def librariesOf (store : PackageStore) (suppress : Bool) (package : PackageReference) :
    Action (List String) := do
  if package.noReference then return []
  match ← store.obtain suppress package with
  | none => return []
  | some directory => Action.ofHost (libraries ·.files directory)

/-- The libraries of packages in their order, each once. -/
def resolve (store : PackageStore) (suppress : Bool) (packages : List PackageReference) :
    Action (List String) := do
  return distinct (← packages.mapM (store.librariesOf suppress)).flatten

end PackageStore

end ScriptDeps
