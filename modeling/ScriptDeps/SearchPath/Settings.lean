import ScriptDeps.Distinct
import ScriptDeps.Locations
import ScriptDeps.SearchPath.Expansion
import ScriptDeps.Xml.File

/-!
# Global search directories

The directories that libraries are looked for in on behalf of every script: the engine's own
`Lib`, and those that its settings file lists. A file that is missing, unreadable or not
well-formed lists none.
-/

namespace ScriptDeps.SearchPath

def normalize (dirs : List String) : List String :=
  distinct (dirs.filter (· != ""))

/-- The text of the list of directories in a settings file. -/
def listedText (content : ByteArray) : Except Failure (Option (List Char)) :=
  match Xml.read content with
  | .ok document => .ok ((document.child? "searchDirs".toList).map Xml.Tree.allText)
  | .error .malformed => .ok none
  | .error .unknownEncoding => .error .unknownEncoding
  | .error .wideEncoding => .error .wideEncoding
  | .error .uselessEncoding => .error .uselessEncoding

/-- The directories that a settings file lists, with references to variables replaced. -/
def listedDirs (fs : FileSystem) (environment : Environment) (file : String) :
    Except Failure (List String) := do
  if !(← fs.isFile file) then return []
  match fs.readBytes file with
  | .error _ => return []
  | .ok content =>
    match ← listedText content with
    | none => return []
    | some text =>
      let entries := (Text.split ';' text).map fun entry => String.ofList (Text.trim entry)
      return entries.map (expand environment)

/-- The global search directories; none if the environment names no engine. -/
def globalDirs (fs : FileSystem) (environment : Environment) : Except Failure (List String) := do
  match engineRoot? environment with
  | none => return []
  | some root =>
    let directory := Path.ofText root
    let listed ← listedDirs fs environment (directory.child "css_config.xml").text
    return normalize ((directory.child "Lib").text :: listed)

end ScriptDeps.SearchPath
