import ScriptDeps.Path
import ScriptDeps.Text.Quoted

/-!
# The file system

Files, directories and symbolic links, each at a place. A place lists the names that lead to it
from the top, the last one first, so that its tail is the directory it lies in.

`walk` follows a path from a directory, through at most `maxLinks` links.
-/

namespace ScriptDeps

/-- Where something lies: the names leading to it, the last one first. -/
abbrev Place := List String

/-- What lies at a place. A denied one can be walked through but neither opened nor listed. -/
inductive Node
  | file (content : ByteArray) (modified : Int) (denied : Bool)
  | directory (denied : Bool)
  | link (target : String)
  deriving Inhabited

namespace Node

def isFile : Node → Bool
  | file .. => true
  | _ => false

def isDirectory : Node → Bool
  | directory _ => true
  | _ => false

def isLink : Node → Bool
  | link _ => true
  | _ => false

/-- Whether the node may be neither opened nor listed. -/
def isDenied : Node → Bool
  | file _ _ denied => denied
  | directory denied => denied
  | link _ => false

def modified : Node → Int
  | file _ time _ => time
  | _ => 1000000000

end Node

/-- Why a file operation fails. -/
inductive FileFault
  | missing
  | denied
  | taken
  | notDirectory
  | isDirectory
  | nameTooLong
  | tooManyLinks
  deriving DecidableEq, Repr

namespace FileFault

def number : FileFault → Nat
  | missing => 2
  | denied => 13
  | taken => 17
  | notDirectory => 20
  | isDirectory => 21
  | nameTooLong => 36
  | tooManyLinks => 40

def reason : FileFault → String
  | missing => "No such file or directory"
  | denied => "Permission denied"
  | taken => "File exists"
  | notDirectory => "Not a directory"
  | isDirectory => "Is a directory"
  | nameTooLong => "File name too long"
  | tooManyLinks => "Too many levels of symbolic links"

/-- Whether the fault only says that nothing is there. -/
def isAbsence : FileFault → Bool
  | missing | notDirectory | tooManyLinks => true
  | _ => false

/-- What is said about a fault at a path. -/
def message (fault : FileFault) (path : String) : String :=
  "[Errno " ++ toString fault.number ++ "] " ++ fault.reason ++ ": " ++ Text.quoted path

end FileFault

/-- What lies on the machine, the directory that relative paths start from, and how many files
have been opened for writing so far. -/
structure FileSystem where
  nodes : List (Place × Node)
  workingDirectory : Place
  writes : Nat := 0

namespace FileSystem

/-- What lies at a place. The top is always a directory. -/
def node? (fs : FileSystem) : Place → Option Node
  | [] => some (.directory false)
  | place => (fs.nodes.find? (·.1 == place)).map (·.2)

/-- The entry at a place set to a node, in its place if there is one, else at the end. -/
def putNode (place : Place) (node : Node) : List (Place × Node) → List (Place × Node)
  | [] => [(place, node)]
  | (other, old) :: rest =>
    if other = place then (place, node) :: rest else (other, old) :: putNode place node rest

/-- The file system with a node at a place. -/
def put (fs : FileSystem) (place : Place) (node : Node) : FileSystem :=
  { fs with nodes := putNode place node fs.nodes }

/-- The names in a directory, in the order of their characters. -/
def namesIn (fs : FileSystem) (place : Place) : List String :=
  (fs.nodes.filterMap fun entry => match entry.1 with
    | name :: parent => if parent == place then some name else none
    | [] => none).mergeSort (fun a b => !decide (b < a))

/-! ### Walking -/

/-- What a walk meets at its end. -/
inductive Found
  | present (place : Place) (node : Node)
  /-- The directory is there, but not the last name. -/
  | absent (place : Place)

def maxLinks : Nat := 40

def maxNameBytes : Nat := 255

def maxPathBytes : Nat := 4095

/-- The names to walk for a text: empty names and single dots are left out, but for one at the
end, which asks for a directory. -/
def stepsOf (text : List Char) : List String :=
  let pieces := Text.split '/' text
  let steps := Path.namesOf text
  match pieces.getLast? with
  | some last => if last == [] || last == ['.'] then steps ++ ["."] else steps
  | none => steps

/-- Walks the names from a directory. `onLink` goes on at a link, given the directory it lies in,
its target and the names after it; a link at the very end is followed only if asked for. -/
def walkNames (fs : FileSystem) (followLast : Bool)
    (onLink : Place → String → List String → Except FileFault Found) :
    Place → List String → Except FileFault Found
  | place, [] => .ok (.present place ((fs.node? place).getD (.directory false)))
  | place, name :: rest =>
    if name == "." then walkNames fs followLast onLink place rest
    else if name == ".." then walkNames fs followLast onLink place.tail rest
    else if maxNameBytes < name.utf8ByteSize then .error .nameTooLong
    else match fs.node? (name :: place) with
      | none => if rest.isEmpty then .ok (.absent (name :: place)) else .error .missing
      | some (.directory _) => walkNames fs followLast onLink (name :: place) rest
      | some (.link target) =>
        if rest.isEmpty && !followLast then .ok (.present (name :: place) (.link target))
        else onLink place target rest
      | some node =>
        if rest.isEmpty then .ok (.present (name :: place) node) else .error .notDirectory

/-- Walks the names from a directory through at most `links` links. -/
def walkLinks (fs : FileSystem) (followLast : Bool) :
    Nat → Place → List String → Except FileFault Found
  | 0 => walkNames fs followLast fun _ _ _ => .error .tooManyLinks
  | links + 1 => walkNames fs followLast fun place target rest =>
    if target.isEmpty then .error .missing
    else
      let start := if (Path.ofText target).isAbsolute then [] else place
      walkLinks fs followLast links start (stepsOf target.toList ++ rest)

def walk (fs : FileSystem) (followLast : Bool) (text : String) : Except FileFault Found :=
  if text.isEmpty then .error .missing
  else if maxPathBytes < text.utf8ByteSize then .error .nameTooLong
  else if (Path.ofText text).isAbsolute then
    walkLinks fs followLast maxLinks [] (stepsOf text.toList)
  else if (fs.node? fs.workingDirectory).isNone then .error .missing
  else walkLinks fs followLast maxLinks fs.workingDirectory (stepsOf text.toList)

def stat (fs : FileSystem) (text : String) : Except FileFault Node := do
  match ← fs.walk true text with
  | .present _ node => return node
  | .absent _ => throw .missing

/-! ### Resolving links -/

/-- Whether the name leads nowhere: it is empty or a single dot. -/
def isIdle (name : String) : Bool :=
  name == "" || name == "."

/-- The place that names lead to when no link is followed. An empty name with others after it is a
slash at the start, and leads to the top. -/
def lexical (place : Place) (names : List String) : Place :=
  let start := match names with
    | "" :: _ :: _ => []
    | _ => place
  names.foldl (fun at_ name => if isIdle name then at_ else if name == ".." then at_.tail
    else name :: at_) start

/-- The names between the slashes of a link's target, empty ones included. -/
def targetNames (target : String) : List String :=
  let text := target.toList
  (Text.split '/' (if text.head? == some '/' then text.drop 1 else text)).map String.ofList

/-- How far links are resolved: where each one met leads, or that it is still being followed. -/
abbrev Resolved := List (Place × Option Place)

/-- A resolved place; `looped` when a link leads back to itself, in which case the names after it
are kept as they are. -/
structure Resolution where
  place : Place
  looped : Bool
  known : Resolved

/-- Resolves the names after a place. `enter` resolves the target of a link met for the first
time. -/
def resolveNames (fs : FileSystem)
    (enter : Place → List String → Resolved → Resolution) :
    Place → List String → Resolved → Resolution
  | place, [], known => ⟨place, false, known⟩
  | place, name :: rest, known =>
    if isIdle name then resolveNames fs enter place rest known
    else if name == ".." then resolveNames fs enter place.tail rest known
    else match fs.node? (name :: place) with
      | some (.link target) =>
        match known.find? (·.1 == name :: place) with
        | some (_, some resolved) => resolveNames fs enter resolved rest known
        | some (_, none) => ⟨lexical (name :: place) rest, true, known⟩
        | none =>
          let start := if (Path.ofText target).isAbsolute then [] else place
          let inner := enter start (targetNames target) ((name :: place, none) :: known)
          if inner.looped then ⟨lexical inner.place rest, true, inner.known⟩
          else resolveNames fs enter inner.place rest
            ((name :: place, some inner.place) :: inner.known)
      | _ => resolveNames fs enter (name :: place) rest known

/-- Resolves names through nested links, at most `depth` of them inside one another. -/
def resolveLinks (fs : FileSystem) : Nat → Place → List String → Resolved → Resolution
  | 0 => resolveNames fs fun place names known => ⟨lexical place names, true, known⟩
  | depth + 1 => resolveNames fs (resolveLinks fs depth)

/-- The place of a path with every link resolved. Names that lead nowhere are kept. A link is never
inside itself, so the number of links bounds their nesting. -/
def realPlace (fs : FileSystem) (path : Path) : Place :=
  let start := if path.isAbsolute then [] else fs.workingDirectory
  let links := (fs.nodes.filter (·.2.isLink)).length
  (fs.resolveLinks links start path.names []).place

def pathOf (place : Place) : Path :=
  ⟨.top, place.reverse⟩

end FileSystem

end ScriptDeps
