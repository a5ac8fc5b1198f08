import ScriptDeps.Hash.Sha1
import ScriptDeps.Locations
import ScriptDeps.Script.ImportGraph

/-!
# Generated copies

An import with renamings is compiled from a copy of its text, which is kept in a cache directory
under a name that tells the file and the renamings. A copy is written again only if it is older than
the file or its text is another one.
-/

namespace ScriptDeps.Script

def shownPair (names : Renaming) : String :=
  "(" ++ Text.quoted names.1 ++ ", " ++ Text.quoted names.2 ++ ")"

/-- Renamings, shown; a single one is followed by a comma. -/
def shownRenamings : List Renaming → String
  | [names] => "(" ++ shownPair names ++ ",)"
  | renamings => "(" ++ ", ".intercalate (renamings.map shownPair) ++ ")"

/-- The digits that tell the path and the renamings of a copy. -/
def copyDigits (path : String) (renamings : List Renaming) : List Char :=
  let shown := "(" ++ Text.quoted path ++ ", " ++ shownRenamings renamings ++ ")"
  ((Hash.digest shown.toUTF8.toList).flatMap fun byte => Text.hexDigits 2 byte.toNat).take 12

/-- The path of the copy of a file in a cache directory. -/
def copyPath (cache : Path) (file : ScriptFile) : Path :=
  cache.child (file.path.stem ++ "." ++ String.ofList (copyDigits file.path.text file.renamings)
    ++ file.path.suffix)

def isCurrent (fs : FileSystem) (copy source : Path) (text : String) : Except Failure Bool := do
  if !(← fs.isPresent copy.text) then return false
  let copied ← fs.modifiedAt copy.text
  let changed ← fs.modifiedAt source.text
  if copied < changed then return false
  return (← fs.readText copy.text) == text

/-- The file that an import is compiled from: the file itself, or a current copy. -/
def materialize (cache : Path) (file : ScriptFile) : Action String := do
  match file.generated with
  | none => return file.path.text
  | some text =>
    let copy := copyPath cache file
    if !(← Action.ofHost (isCurrent ·.files copy file.path text)) then
      Action.ensureDirectory copy.parent
      Action.writeText copy.text text
    return copy.text

/-- The files that the imports of a script are compiled from, each once. -/
def materializeAll (cache : Path) (graph : ImportGraph) : Action (List String) := do
  return distinct (← graph.imports.mapM (materialize cache))

end ScriptDeps.Script
