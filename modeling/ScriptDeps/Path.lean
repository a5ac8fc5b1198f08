import ScriptDeps.Text.Segment

/-!
# Paths

A path is a root and a list of names. Reading a text drops empty names and single dots and keeps
double dots; exactly two leading slashes are a root of their own.
-/

namespace ScriptDeps

/-- What a path starts from. -/
inductive PathRoot
  /-- The working directory. -/
  | relative
  /-- One slash. -/
  | top
  /-- Two slashes. -/
  | doubleTop
  deriving DecidableEq, Repr

/-- A path: the names to walk from a root. -/
structure Path where
  root : PathRoot
  names : List String
  deriving DecidableEq, Repr

namespace PathRoot

def text : PathRoot → String
  | relative => ""
  | top => "/"
  | doubleTop => "//"

end PathRoot

namespace Path

/-- The names between the slashes of a text, single dots left out. -/
def namesOf (text : List Char) : List String :=
  ((Text.split '/' text).filter fun name => name ≠ [] && name ≠ ['.']).map String.ofList

def rootOf : List Char → PathRoot
  | '/' :: '/' :: '/' :: _ => .top
  | '/' :: '/' :: _ => .doubleTop
  | '/' :: _ => .top
  | _ => .relative

def ofText (text : String) : Path :=
  ⟨rootOf text.toList, namesOf text.toList⟩

/-- The text of a path; a single dot when it has neither root nor names. -/
def text (path : Path) : String :=
  match path.root, path.names with
  | .relative, [] => "."
  | root, names => root.text ++ "/".intercalate names

/-- Whether the path does not depend on the working directory. -/
def isAbsolute (path : Path) : Bool :=
  path.root != .relative

/-- The second path, taken from where the first leads. -/
def append (path other : Path) : Path :=
  if other.isAbsolute then other else ⟨path.root, path.names ++ other.names⟩

instance : Append Path where
  append := append

def child (path : Path) (name : String) : Path :=
  path ++ ofText name

def parent (path : Path) : Path :=
  ⟨path.root, path.names.dropLast⟩

def name (path : Path) : String :=
  path.names.getLast?.getD ""

/-- A file name cut before its last dot, if something stands on both sides of it. -/
def cutName (name : List Char) : List Char × List Char :=
  match Text.cutLast? '.' name with
  | some (stem, suffix) => if stem.isEmpty || suffix.length ≤ 1 then (name, []) else (stem, suffix)
  | none => (name, [])

def stem (path : Path) : String :=
  String.ofList (cutName path.name.toList).1

/-- The suffix of the last name, with its dot. -/
def suffix (path : Path) : String :=
  String.ofList (cutName path.name.toList).2

/-- The path with another last name, if it has one. -/
def withName? (path : Path) (name : String) : Option Path :=
  if path.names.isEmpty then none else some ⟨path.root, path.names.dropLast ++ [name]⟩

/-! ### Extensions of file names in texts -/

/-- A text cut before the last dot of its last name. Dots that start the name do not count. -/
def splitExtension (text : List Char) : List Char × List Char :=
  let name := Text.trimRight (· != '/') text
  let last := text.drop name.length
  match Text.cutLast? '.' last with
  | some (stem, extension) =>
    if stem.all (· == '.') then (text, []) else (name ++ stem, extension)
  | none => (text, [])

/-- A file in a directory, both given as texts. -/
def inDirectory (directory name : String) : String :=
  if directory.isEmpty || directory.endsWith "/" then directory ++ name
  else directory ++ "/" ++ name

end Path

end ScriptDeps
