import ScriptDeps.Host

/-!
# Locations

The directories that scripts, settings and generated files are kept in. Each root can be given;
otherwise it lies under the home directory or the directory for temporary files.
-/

namespace ScriptDeps

/-- Where the user's files and the generated ones are kept. -/
structure Locations where
  documentsRoot : Option Path := none
  homeRoot : Option Path := none
  cacheRoot : Option Path := none
  deriving DecidableEq, Repr

/-- The home directory that the environment names. What starts with a tilde would itself have to be
looked for at home, so it names none. -/
def homeDirectory (environment : Environment) : Except Failure Path :=
  let home := (environment.get? "HOME").getD "/root"
  match Text.trimRight (· == '/') home.toList with
  | '~' :: _ => .error .homeless
  | [] => .ok (.ofText "/")
  | trimmed => .ok (.ofText (String.ofList trimmed))

/-- The root of the script engine, if the environment names one. -/
def engineRoot? (environment : Environment) : Option String :=
  environment.getSome? "CSSCRIPT_DIR"

namespace Locations

def home (l : Locations) (environment : Environment) : Except Failure Path :=
  match l.homeRoot with
  | some home => .ok home
  | none => homeDirectory environment

def documents (l : Locations) (environment : Environment) : Except Failure Path :=
  match l.documentsRoot with
  | some documents => .ok documents
  | none => return (← l.home environment).child "Documents"

def userScripts (l : Locations) (environment : Environment) : Except Failure Path := do
  return (← l.documents environment).child "NppScripts"

def globalDir (l : Locations) (environment : Environment) : Except Failure Path := do
  return (← l.home environment).child ".scriptlens"

def globalSettings (l : Locations) (environment : Environment) : Except Failure Path := do
  return (← l.globalDir environment).child "config.json"

def logs (l : Locations) (environment : Environment) : Except Failure Path := do
  return (← l.globalDir environment).child "logs"

def cache (l : Locations) : Path :=
  l.cacheRoot.getD ((Path.ofText "/tmp").child "scriptlens")

def importsCache (l : Locations) : Path :=
  l.cache.child "imports"

/-- The directory of the user's scripts, made if it is not there. -/
def ensureUserScripts (l : Locations) : Action Path := do
  let directory ← Action.ofHost (l.userScripts ·.environment)
  if !(← Action.ofHost (·.files.isPresent directory.text)) then
    Action.ensureDirectory directory
  return directory

end Locations

end ScriptDeps
