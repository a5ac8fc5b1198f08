import ScriptDeps.Host

/-!
# Looking libraries up

A name is looked up as the base name of a library: the name itself first, then its dotted
beginnings from the longest down. The first that any search directory has a library for gives all
libraries of that base name. Each directory is listed once in the life of an index.
-/

namespace ScriptDeps

/-- The libraries of a directory: base names in lower case, each with its files. -/
abbrev Listing := List (String × List String)

/-- Looks libraries up and remembers the directories it has listed. -/
structure LibraryIndex where
  /-- The extensions of libraries in lower case, in the order of preference. -/
  extensions : List String
  /-- The namespaces that are never looked up. -/
  ignored : List String
  listings : List (String × Listing) := []
  deriving Repr

namespace LibraryIndex

def defaultExtensions : List String := [".dll", ".exe"]

/-- The namespaces that every script has without a library. -/
def defaultIgnored : List String :=
  ["System", "System.Collections", "System.Collections.Generic", "System.Core", "System.IO",
   "System.Linq", "System.Text", "System.Threading", "System.Threading.Tasks"]

def fresh (extensions ignored : List String) : LibraryIndex :=
  ⟨extensions.map Text.lower, ignored, []⟩

/-- A fresh index with the usual extensions and ignored namespaces. -/
def standard : LibraryIndex := fresh defaultExtensions defaultIgnored

/-- An index with extensions and ignored namespaces as settings give them. What is no text can be
ignored, but is never asked for. -/
def ofValues (extensions ignored : List Json) : Except Failure LibraryIndex := do
  let extensions ← extensions.mapM fun value => match value with
    | .text extension => .ok extension.toString?
    | _ => .error .notAText
  if ignored.all Json.isAtomic then
    return fresh (extensions.filterMap id) (ignored.filterMap Json.text?)
  else throw .notAtomic

/-! ### Names -/

/-- A text without quotes and the white space around the rest. -/
def stripQuotes (text : String) : String :=
  String.ofList (Text.trim (text.toList.filter fun c => c != '"' && c != '\''))

/-- The parts of a dotted name that are not empty. -/
def nameParts (name : String) : List (List Char) :=
  (Text.split '.' name.toList).filter (!·.isEmpty)

/-- The dotted beginnings of a name, the longest first. -/
def candidateNames (name : String) : List String :=
  let parts := nameParts name
  ((List.range parts.length).map fun dropped =>
    String.ofList (Text.join '.' (parts.take (parts.length - dropped))))

/-- The extension of a file name, in lower case. -/
def extensionOf (name : String) : String :=
  Text.lower (String.ofList (Path.splitExtension name.toList).2)

def baseOf (name : String) : String :=
  String.ofList (Path.splitExtension name.toList).1

/-- Whether a file's extension is that of a library. -/
def isLibrary (index : LibraryIndex) (path : String) : Bool :=
  index.extensions.contains (extensionOf path)

def isIgnored (index : LibraryIndex) (name : String) (also : List String) : Bool :=
  index.ignored.contains name || also.contains name

/-! ### Listing directories -/

/-- A file added to those of its base name. -/
def addFile (base file : String) : Listing → Listing
  | [] => [(base, [file])]
  | (other, files) :: rest =>
    if other = base then (base, files ++ [file]) :: rest
    else (other, files) :: addFile base file rest

def collect (index : LibraryIndex) (fs : FileSystem) (directory : String) (names : List String) :
    Listing :=
  (names.filter fun name => index.isLibrary name
      && (fs.isFile (Path.inDirectory directory name)).toOption.getD false).foldl
    (fun listing name =>
      addFile (Text.lower (baseOf name)) (Path.inDirectory directory name) listing) []

def preference (index : LibraryIndex) (path : String) : Nat :=
  index.extensions.idxOf (extensionOf path)

/-- Files in the order of preference of their extensions. -/
def byPreference (index : LibraryIndex) (files : List String) : List String :=
  files.mergeSort fun a b => index.preference a ≤ index.preference b

/-- The listing of a directory as it is now; empty if it cannot be listed. -/
def listDirectory (index : LibraryIndex) (fs : FileSystem) (directory : String) :
    Except Failure Listing :=
  match fs.list directory with
  | .ok names =>
    .ok ((index.collect fs directory names).map fun (base, files) =>
      (base, index.byPreference files))
  | .error (.file _ _) => .ok []
  | .error failure => .error failure

/-- What runs on an index, and keeps what was listed before it failed. -/
abbrev Lookup (α : Type) := ExceptT Failure (StateM LibraryIndex) α

/-- The listing of a directory when it was first asked for. -/
def listing (fs : FileSystem) (directory : String) : Lookup Listing := fun index =>
  match index.listings.find? (·.1 == directory) with
  | some (_, listing) => (.ok listing, index)
  | none =>
    match index.listDirectory fs directory with
    | .ok listing => (.ok listing, { index with listings := (directory, listing) :: index.listings })
    | .error failure => (.error failure, index)

/-- The libraries of a base name in any letter case, directory by directory. -/
def findBase (fs : FileSystem) (name : String) (dirs : List String) : Lookup (List String) := do
  let found ← dirs.mapM fun directory => do
    let listing ← listing fs directory
    return ((listing.find? (·.1 == Text.lower name)).map (·.2)).getD []
  return found.flatten

/-- The libraries of the first name that has any. -/
def findFirst (fs : FileSystem) (dirs : List String) : List String → Lookup (List String)
  | [] => return []
  | name :: rest => do
    let found ← findBase fs name dirs
    if found.isEmpty then findFirst fs dirs rest else return found

/-! ### Names of files -/

/-- The file that a name with a library's extension names, itself or in a search directory. -/
def findFile? (index : LibraryIndex) (fs : FileSystem) (name : String) (dirs : List String) :
    Except Failure (Option Path) :=
  if !index.isLibrary name then .ok none
  else
    let path := Path.ofText name
    if path.isAbsolute then fs.firstFile? [path]
    else fs.firstFile? (dirs.map fun directory => Path.ofText directory ++ path)

/-- The libraries for a namespace, an assembly's name, a file name or a path. -/
def find (fs : FileSystem) (name : String) (dirs : List String) : Lookup (List String) := do
  let key := stripQuotes name
  if key.isEmpty then return []
  let index ← get
  match ← ExceptT.mk (pure (index.findFile? fs key dirs)) with
  | some file => return [file.text]
  | none =>
    let named := index.isLibrary key
    let stem := if named then baseOf key else key
    if stem.toList.contains '/' then return []
    else findFirst fs dirs (if named then [stem] else candidateNames key)

end LibraryIndex

end ScriptDeps
