import ScriptDeps.Companion
import ScriptDeps.Library.Candidates
import ScriptDeps.Library.Identity
import ScriptDeps.Package.Store
import ScriptDeps.Script.ImportCache
import ScriptDeps.SearchPath.Settings

/-!
# Closures

What a script needs to be compiled: its source files, the script last, and one library for each
identity. A builder can serve many scripts, and keeps nothing of one for the next.
-/

namespace ScriptDeps

open Library

/-- What a script needs to be compiled. -/
structure Closure where
  script : String
  sources : List String
  libraries : List String
  searchDirs : List String
  /-- What told the libraries apart. -/
  strategy : Strategy
  deriving DecidableEq, Repr

/-- Reads a script and all that it imports, and tells the store that its packages are taken from:
the host's own, unless one is given. -/
def openScript (packages : Option PackageStore) (extraDirs : List String) (script : String)
    (host : Host) : Except Failure (PackageStore × ImportGraph) := do
  let path ← host.files.resolvePath (.ofText script)
  let packages ← match packages with
    | some packages => pure packages
    | none => PackageStore.ofEnvironment host.environment
  return (packages, ← ImportGraph.ofPath host.files extraDirs path)

/-- Settles how closures are resolved. -/
structure ClosureBuilder where
  /-- The variables that name the script engine; those of the host if none are given. -/
  engineEnv : Option Environment
  /-- The store of packages; the host's own if none is given. -/
  packages : Option PackageStore
  locations : Locations
  deduplicator : Deduplicator
  /-- The extensions of libraries. -/
  extensions : List Json
  /-- The namespaces that are never looked up. -/
  ignored : List Json

namespace ClosureBuilder

def defaultExtensions : Json := .ofTexts LibraryIndex.defaultExtensions

/-- A builder with the given extensions, and the given namespaces ignored beside the usual ones. -/
def make (engineEnv : Option Environment) (packages : Option PackageStore) (locations : Locations)
    (deduplicator : Deduplicator) (extensions ignored : Json) : Except Failure ClosureBuilder := do
  let extensions ← extensions.listed
  let ignored ← ignored.listed
  let usual := LibraryIndex.defaultIgnored.map fun name => Json.text (.ofString name)
  return { engineEnv, packages, locations, deduplicator, extensions, ignored := usual ++ ignored }

/-- How the strategy is called that holds when none is configured. -/
def unconfiguredName : String := "DedupStrategy.FILENAME"

/-- The strategy that settings configure, unless one is given. -/
def configuredStrategy (settings : UserSettings) (given : Option String) :
    Except Failure Strategy :=
  let configured := settings.get? "resolution.dedup_strategy"
  let wanted := match given.filter (· != "") with
    | some name => .text name
    | none => configured.getD (.text Strategy.filename.text)
  match Strategy.ofValue wanted with
  | .ok strategy => .ok strategy
  | .error _ =>
    let shown := (configured.map Json.shown).getD unconfiguredName
    .error (.unknownConfiguredStrategy shown)

def ofSettings (settings : UserSettings) (given : Option String) (engineEnv : Option Environment)
    (packages : Option PackageStore) (locations : Locations) : Except Failure ClosureBuilder := do
  let strategy ← configuredStrategy settings given
  let timeout := (settings.get? "probe.timeout_seconds").getD Probe.defaultTimeout
  make engineEnv packages locations (.ofStrategy strategy timeout)
    ((settings.get? "resolution.library_extensions").getD defaultExtensions)
    ((settings.get? "resolution.ignore_namespaces").getD (.list []))

/-- The host's companion that settings configure, if it is not the usual one. -/
def configuredCompanion? (settings : UserSettings) : Option Companion :=
  match settings.get? "host.companion_prefix" with
  | none => none
  | some hostName =>
    if hostName.text? == some UserSettings.defaultCompanion then none else some { hostName }

/-! ### Resolving -/

/-- A script that has been read, with its search path and its source files. -/
structure Prepared where
  /-- The store that its packages are taken from. -/
  packages : PackageStore
  graph : ImportGraph
  searchDirs : List String
  sources : List String
  deriving DecidableEq, Repr

/-- The search path of a script: its own directories, the global ones, and that of the user's
scripts. -/
def searchPath (b : ClosureBuilder) (graph : ImportGraph) : Action (List String) := do
  let shared ← Action.ofHost fun host =>
    SearchPath.globalDirs host.files (b.engineEnv.getD host.environment)
  let own ← b.locations.ensureUserScripts
  return SearchPath.normalize (graph.searchDirs ++ shared ++ [own.text])

/-- Reads a script, and puts its source files in place. -/
def prepare (b : ClosureBuilder) (script : String) : Action Prepared := do
  let (packages, graph) ← Action.ofHost (openScript b.packages [] script)
  let searchDirs ← b.searchPath graph
  let sources ← Script.materializeAll b.locations.importsCache graph
  return ⟨packages, graph, searchDirs, sources ++ [graph.root.path.text]⟩

/-- A fresh index with the builder's extensions and ignored namespaces. -/
def freshIndex (b : ClosureBuilder) : Except Failure LibraryIndex :=
  LibraryIndex.ofValues b.extensions b.ignored

/-- The candidates of a script that has been read. -/
def candidates (p : Prepared) : Gathering (List Candidate) :=
  gather (fun suppress => p.packages.resolve suppress p.graph.packages)
    { namespaces := p.graph.namespaces
      ignored := p.graph.ignored
      references := p.graph.references
      searchDirs := p.searchDirs }
    Source.all

/-- The closure, given the candidates. The companion library comes last. -/
def finish (b : ClosureBuilder) (companion : Companion) (p : Prepared)
    (candidates : List Candidate) : Action Closure := do
  let deduped ← Action.ofHost (b.deduplicator.dedupe (candidates.map fun c => .text c.path))
  let companion := (companion.path (← get).modules).toList
  return { script := p.graph.root.path.text
           sources := p.sources
           libraries := deduped.paths ++ companion
           searchDirs := p.searchDirs
           strategy := deduped.used }

/-- The closure of a script, with libraries looked up in a given index. -/
def resolveWith (b : ClosureBuilder) (companion : Companion) (script : String) :
    Gathering Closure := do
  let p ← Gathering.onHost (b.prepare script)
  let found ← candidates p
  Gathering.onHost (b.finish companion p found)

def resolve (b : ClosureBuilder) (companion : Companion) (script : String) : Action Closure := do
  let p ← b.prepare script
  let index ← Action.ofExcept b.freshIndex
  let found ← Gathering.startingFrom index (candidates p)
  b.finish companion p found

end ClosureBuilder

end ScriptDeps
