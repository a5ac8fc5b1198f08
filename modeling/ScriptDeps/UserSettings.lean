import ScriptDeps.Locations

/-!
# User settings

Built-in settings, overridden by those for all projects, and these by those of the project. Objects
are merged member by member; any other value replaces what it overrides. A file that cannot be read,
is not JSON or holds no object overrides nothing.
-/

namespace ScriptDeps

namespace Json

mutual

def override (base : Json) : Json → Json
  | object members => match base with
    | object old => object (overrideMembers old members)
    | _ => object members
  | value => value

def overrideMembers (base : List (LooseText × Json)) :
    List (LooseText × Json) → List (LooseText × Json)
  | [] => base
  | (name, value) :: rest =>
    let merged := match lookup? name base with
      | some old => override old value
      | none => value
    overrideMembers (put name merged base) rest

end

/-- The value that a path of member names leads to. -/
def descend? (value : Json) : List String → Option Json
  | [] => some value
  | name :: rest => (value.get? name).bind fun inner => descend? inner rest

end Json

/-- The files that settings are read from, and the settings. -/
structure UserSettings where
  globalFile : Path
  localFile : Path
  members : List (LooseText × Json)

namespace UserSettings

/-- The prefix of the names of the host's own modules. -/
def defaultCompanion : String := "nppscripts"

def builtIn : List (LooseText × Json) :=
  [ ("resolution", .object
      [ ("dedup_strategy", .text "filename"),
        ("library_extensions", .list [.text ".dll", .text ".exe"]),
        ("ignore_namespaces", .list []) ]),
    ("host", .object [("companion_prefix", .text defaultCompanion)]),
    ("probe", .object [("timeout_seconds", .integer 30)]) ]

/-- What a file overrides; nothing if it is not there or cannot be read as an object. -/
def overrides (fs : FileSystem) (file : Path) : Except Failure (List (LooseText × Json)) := do
  if !(← fs.isPresent file.text) then return []
  match fs.readText file.text with
  | .error (.file _ _) => return []
  | .error (.encoding _) => return []
  | .error failure => throw failure
  | .ok text => match Json.read text with
    | .ok (.object members) => return members
    | .error .tooDeep => throw (.json .tooDeep)
    | _ => return []

def membersOf (fs : FileSystem) (globalFile localFile : Path) :
    Except Failure (List (LooseText × Json)) := do
  let shared ← overrides fs globalFile
  let own ← overrides fs localFile
  return Json.overrideMembers (Json.overrideMembers builtIn shared) own

/-- The settings of a project, by default that in the working directory. -/
def load (host : Host) (project globalFile : Option Path) : Except Failure UserSettings := do
  let project := project.getD (FileSystem.pathOf host.files.workingDirectory)
  let globalFile ← match globalFile with
    | some file => pure file
    | none => ({} : Locations).globalSettings host.environment
  let localFile := (project.child ".scriptlens").child "config.json"
  return ⟨globalFile, localFile, ← membersOf host.files globalFile localFile⟩

def reload (settings : UserSettings) (host : Host) : Except Failure UserSettings := do
  return { settings with
    members := ← membersOf host.files settings.globalFile settings.localFile }

/-- The greatest number of lists and objects inside one another in settings that are shown, the
settings themselves included. -/
def maxDepth : Nat := 490

def toJson (settings : UserSettings) : Except Failure Json :=
  let value := Json.object settings.members
  if value.depth ≤ maxDepth then .ok value else .error .settingsTooDeep

/-- The setting at a path of names with dots between them. -/
def get? (settings : UserSettings) (key : String) : Option Json :=
  Json.descend? (.object settings.members) ((Text.split '.' key.toList).map String.ofList)

end UserSettings

end ScriptDeps
