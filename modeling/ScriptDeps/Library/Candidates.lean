import ScriptDeps.Distinct
import ScriptDeps.Library.Index

/-!
# Candidates

The libraries that a script may need, from three sources: the namespaces it uses, the libraries it
refers to, and its packages. A path that several sources name is a candidate of the first.
-/

namespace ScriptDeps.Library

/-- Where a candidate comes from. -/
inductive Source
  | usedNamespace
  | reference
  | package
  deriving DecidableEq, Repr

namespace Source

def text : Source → String
  | usedNamespace => "namespace"
  | reference => "directive"
  | package => "package"

/-- The sources in the order in which they are asked. -/
def all : List Source := [usedNamespace, reference, package]

end Source

/-- A library that may be needed, and what names it. -/
structure Candidate where
  path : String
  source : Source
  key : String
  deriving DecidableEq, Repr

/-- What libraries are looked for, and where. -/
structure Wanted where
  namespaces : List String
  ignored : List String
  references : List String
  searchDirs : List String
  deriving DecidableEq, Repr

/-- What runs on a host and an index, and keeps what was listed before it failed. -/
abbrev Gathering (α : Type) := ExceptT Failure (StateM (Host × LibraryIndex)) α

namespace Gathering

def onHost {α : Type} (action : Action α) : Gathering α := fun (host, index) =>
  let (result, host) := action host
  (result, host, index)

def onIndex {α : Type} (lookup : FileSystem → LibraryIndex.Lookup α) : Gathering α :=
  fun (host, index) =>
    let (result, index) := lookup host.files index
    (result, host, index)

/-- What runs on a host and an index of its own. -/
def startingFrom {α : Type} (index : LibraryIndex) (gathering : Gathering α) : Action α :=
  fun host =>
    let (result, host, _) := gathering (host, index)
    (result, host)

end Gathering

def suppressDownloads : Bool := true

def candidatesAt (source : Source) (key : String) (paths : List String) : List Candidate :=
  paths.map fun path => ⟨path, source, key⟩

/-- The candidates for a namespace; none if it is ignored. -/
def ofNamespace (wanted : Wanted) (name : String) : Gathering (List Candidate) := do
  let (_, index) ← get
  if index.isIgnored name wanted.ignored then return []
  let paths ← Gathering.onIndex (LibraryIndex.find · name wanted.searchDirs)
  return candidatesAt .usedNamespace name paths

def ofReference (wanted : Wanted) (reference : String) : Gathering (List Candidate) := do
  let key := LibraryIndex.stripQuotes reference
  let paths ← Gathering.onIndex (LibraryIndex.find · key wanted.searchDirs)
  return candidatesAt .reference key paths

/-- The candidates from a source. `packages` gives the libraries of packages; it is told not to
fetch any. -/
def ofSource (packages : Bool → Action (List String)) (wanted : Wanted) :
    Source → Gathering (List Candidate)
  | .usedNamespace => return (← wanted.namespaces.mapM (ofNamespace wanted)).flatten
  | .reference => return (← wanted.references.mapM (ofReference wanted)).flatten
  | .package => do
    return candidatesAt .package "" (← Gathering.onHost (packages suppressDownloads))

def gather (packages : Bool → Action (List String)) (wanted : Wanted) (sources : List Source) :
    Gathering (List Candidate) := do
  return distinctBy (·.path) (← sources.mapM (ofSource packages wanted)).flatten

end ScriptDeps.Library
