import ScriptDeps.Failure

/-!
# Reading and changing files

What programs ask of the file system. Questions of existence take an absent file for a plain
"no"; everything else fails with the fault and the path it was asked about.
-/

namespace ScriptDeps.FileSystem

def orFail {α : Type} (path : String) : Except FileFault α → Except Failure α
  | .ok a => .ok a
  | .error fault => .error (.file fault path)

def checkPath (path : String) : Except Failure Unit :=
  if path.toList.contains '\x00' then .error .nullInPath else .ok ()

/-! ### Questions -/

/-- What a path leads to, or nothing when it leads nowhere. -/
def node?At (fs : FileSystem) (path : String) : Except Failure (Option Node) :=
  if path.toList.contains '\x00' then .ok none
  else match fs.stat path with
    | .ok node => .ok (some node)
    | .error fault => if fault.isAbsence then .ok none else .error (.file fault path)

def isPresent (fs : FileSystem) (path : String) : Except Failure Bool :=
  return (← fs.node?At path).isSome

def isFile (fs : FileSystem) (path : String) : Except Failure Bool :=
  return (← fs.node?At path).any Node.isFile

def isDirectory (fs : FileSystem) (path : String) : Except Failure Bool :=
  return (← fs.node?At path).any Node.isDirectory

/-- The first of some paths that leads to a regular file. -/
def firstFile? (fs : FileSystem) : List Path → Except Failure (Option Path)
  | [] => .ok none
  | path :: rest => do
    if ← fs.isFile path.text then return some path else firstFile? fs rest

/-- When the file at a path was last changed. -/
def modifiedAt (fs : FileSystem) (path : String) : Except Failure Int := do
  checkPath path
  return (← orFail path (fs.stat path)).modified

/-- The path of a place with every link resolved, unless they lead back to themselves. -/
def resolvePath (fs : FileSystem) (path : Path) : Except Failure Path := do
  checkPath path.text
  let resolved := pathOf (fs.realPlace path)
  match fs.stat resolved.text with
  | .error .tooManyLinks => throw .linkLoop
  | _ => return resolved

/-! ### Reading -/

def list (fs : FileSystem) (path : String) : Except Failure (List String) := do
  checkPath path
  match ← orFail path (fs.walk true path) with
  | .absent _ => throw (.file .missing path)
  | .present place node =>
    if !node.isDirectory then throw (.file .notDirectory path)
    else if node.isDenied then throw (.file .denied path)
    else return fs.namesIn place

def readBytes (fs : FileSystem) (path : String) : Except Failure ByteArray := do
  checkPath path
  match ← orFail path (fs.stat path) with
  | .file content _ denied => if denied then throw (.file .denied path) else return content
  | .directory denied => throw (.file (if denied then .denied else .isDirectory) path)
  | .link _ => throw (.file .tooManyLinks path)

/-- The text of the file at a path, as it stands. -/
def readExact (fs : FileSystem) (path : String) : Except Failure String := do
  match Text.decodeUtf8 (← fs.readBytes path) with
  | .ok text => return text
  | .error fault => throw (.encoding fault)

/-- The text of the file at a path, with its line breaks folded. -/
def readText (fs : FileSystem) (path : String) : Except Failure String :=
  return Text.withLineFeeds (← fs.readExact path)

/-- The text of the file at a path after the byte order mark that may begin it. -/
def readUnmarked (fs : FileSystem) (path : String) : Except Failure String := do
  match Text.decodeUtf8 (Text.dropMark (← fs.readBytes path)) with
  | .ok text => return text
  | .error fault => throw (.encoding fault)

/-! ### Changing -/

/-- The time of the first file written; each later one is a second later. -/
def firstWriteTime : Int := 2000000000

/-- The file system with a new directory at a path. -/
def makeDirectory (fs : FileSystem) (path : String) : Except Failure FileSystem := do
  checkPath path
  match ← orFail path (fs.walk false path) with
  | .present _ _ => throw (.file .taken path)
  | .absent place => return fs.put place (.directory false)

/-- The file system with a text in the file at a path, which is made if it is not there. -/
def writeText (fs : FileSystem) (path text : String) : Except Failure FileSystem := do
  checkPath path
  let written := Node.file text.toUTF8 (firstWriteTime + fs.writes) false
  let count := { fs with writes := fs.writes + 1 }
  match ← orFail path (fs.walk true path) with
  | .absent place => return count.put place written
  | .present place node =>
    if node.isDirectory then throw (.file .isDirectory path)
    else if node.isDenied then throw (.file .denied path)
    else return count.put place written

/-- The directories from the one at a place up to the top that are not there, made. -/
def makeParents (fs : FileSystem) : Place → FileSystem
  | [] => fs
  | name :: parent =>
    let fs := fs.makeParents parent
    if (fs.node? (name :: parent)).isSome then fs else fs.put (name :: parent) (.directory false)

/-- The file system with a node at a place and directories above it. -/
def plant (fs : FileSystem) (place : Place) (node : Node) : FileSystem :=
  (fs.makeParents place.tail).put place node

/-- The file system without what lies at or under a place. -/
def uproot (fs : FileSystem) (place : Place) : FileSystem :=
  { fs with nodes := fs.nodes.filter fun entry => !(place.reverse.isPrefixOf entry.1.reverse) }

/-- Every path below a place in the order of the names, a directory before what it holds and with a
slash at its end. Places nest at most as deeply as there are nodes. -/
def treeFrom (fs : FileSystem) : Nat → Place → List String
  | 0, _ => []
  | depth + 1, place =>
    (fs.namesIn place).flatMap fun name =>
      let text := (pathOf (name :: place)).text
      match fs.node? (name :: place) with
      | some (.directory _) => (text ++ "/") :: fs.treeFrom depth (name :: place)
      | _ => [text]

def tree (fs : FileSystem) : List String :=
  fs.treeFrom (fs.nodes.length + 1) []

end ScriptDeps.FileSystem
