import ScriptDeps.Closure
import ScriptDeps.Console.CommandLine
import ScriptDeps.Console.Output
import ScriptDeps.Logging

/-!
# Commands

What the commands do. Every command ends with a code: zero, one after a failure, two if it is asked
for wrongly. Failures that a command foresees are printed; the others are passed on.
-/

namespace ScriptDeps

open Library (Strategy)

/-- What commands leave for later ones: whom the output is for, the settings once they have been
read, and the host's companion library. -/
structure Console where
  audience : Option Console.Audience := none
  settings : Option UserSettings := none
  companion : Companion := {}

namespace Console

abbrev Command (α : Type) := ExceptT Failure (StateM (Host × Console)) α

namespace Command

def onHost {α : Type} (action : Action α) : Command α := fun (host, console) =>
  let (result, host) := action host
  (result, host, console)

def onConsole (change : Console → Console) : Command Unit :=
  modify fun (host, console) => (host, change console)

end Command

def audienceOn (console : Console) (host : Host) : Audience :=
  console.audience.getD (.ofEnvironment host.environment)

/-- The user's settings, read when they are first needed. -/
def userSettings : Command UserSettings := do
  let (host, console) ← get
  match console.settings with
  | some settings => return settings
  | none =>
    let settings ← ExceptT.mk (pure (UserSettings.load host none none))
    Command.onConsole fun console => { console with settings := some settings }
    return settings

/-- The strategy that is asked for by name, if one is. -/
def strategyNamed (name : Option String) : Except Failure (Option Strategy) :=
  match name.filter (· != "") with
  | none => .ok none
  | some name => match Strategy.ofText? name with
    | some strategy => .ok (some strategy)
    | none => .error .unknownStrategy

/-- The closure of a script as the settings configure it. -/
def closureOf (settings : UserSettings) (strategy : Option Strategy)
    (engineEnv : Option Environment) (script : String) : Command Closure := do
  let builder ← Command.onHost (Action.ofExcept
    (ClosureBuilder.ofSettings settings (strategy.map Strategy.text) engineEnv none {}))
  match ClosureBuilder.configuredCompanion? settings with
  | some companion => Command.onHost (builder.resolve companion script)
  | none =>
    let (host, console) ← get
    let closure ← Command.onHost (builder.resolve console.companion script)
    Command.onConsole fun console =>
      { console with companion := console.companion.lookedUp host.modules }
    return closure

/-! ### The end of a command -/

/-- How a command ends. -/
structure Ending where
  code : Nat
  printed : Printed := {}
  /-- The failure that the command did not foresee. -/
  failure : Option Failure := none
  deriving DecidableEq, Repr

def misuse : Ending := ⟨2, {}, none⟩

def failed (audience : Audience) (code : String) (message : LooseText) (input : String) : Ending :=
  ⟨1, error audience (.text code) (.text message) (.text input), none⟩

def closureJson (closure : Closure) : Json :=
  .object [("script", .text closure.script), ("source_files", .ofTexts closure.sources),
    ("libraries", .ofTexts closure.libraries), ("search_dirs", .ofTexts closure.searchDirs),
    ("dedup_strategy", .text closure.strategy.text)]

/-- A closure for people: a table, and what told the libraries apart. -/
def closureTable (name : String) (closure : Closure) : Printed :=
  { tables := [{ title := "Closure of " ++ name
                 columns := ["Kind", "Path"]
                 rows := closure.sources.map (["source", ·]) ++ closure.libraries.map (["library", ·]) }] }
    ++ line .human ("Library identity: " ++ closure.strategy.text)

/-- What is printed of a failure to resolve a script; none if it is not foreseen. -/
def resolveFailure? (audience : Audience) (script : String) : Failure → Option Ending
  | f@(.importNotFound _ name _) => some (failed audience "IMPORT_NOT_FOUND" f.message name)
  | f@(.unreadableScript ..) => some (failed audience "RESOLUTION_FAILED" f.message script)
  | f@(.unknownConfiguredStrategy _) => some (failed audience "RESOLUTION_FAILED" f.message script)
  | f@(.download ..) => some (failed audience "RESOLUTION_FAILED" f.message script)
  | f@(.worker _) => some (failed audience "RESOLUTION_FAILED" f.message script)
  | f@(.file ..) => some (failed audience "MATERIALIZATION_FAILED" f.message script)
  | _ => none

def resolve (audience : Audience) (script : Path) (strictIdentity : Bool) : Command Ending :=
  tryCatch
    (do
      let settings ← userSettings
      let strategy := if strictIdentity then some Strategy.load else none
      let closure ← closureOf settings strategy none script.text
      return ⟨0, match audience with
        | .machine => jsonText .machine none (closureJson closure)
        | .human => closureTable script.name closure, none⟩)
    fun failure => match resolveFailure? audience script.text failure with
      | some ending => return ending
      | none => throw failure

def searchDirs (audience : Audience) : Command Ending := do
  let dirs ← Command.onHost (Action.ofHost fun host =>
    SearchPath.globalDirs host.files host.environment)
  return ⟨0, match audience with
    | .machine => jsonText .machine none (.object [("search_dirs", .ofTexts dirs)])
    | .human =>
      if dirs.isEmpty then line .human "No global search directories (CSSCRIPT_DIR is not set)."
      else dirs.foldl (fun printed dir => printed ++ line .human dir) {}, none⟩

/-- What is said of the region that wrapping a script added. -/
def decorationPrinted (audience : Audience) (code : String) : Printed :=
  let region := Script.markedRegion? code.toList
  match audience, region with
  | .machine, _ =>
    jsonText .machine none (.object
      [("offset", .integer ((region.map fun r => Int.ofNat r.offset).getD (-1))),
       ("length", .integer ((region.map fun r => Int.ofNat r.length).getD 0)),
       ("needs_autoclass", .bool (Script.asksForClass code))])
  | .human, some r =>
    line .human ("Injected region: offset " ++ toString r.offset ++ ", length " ++ toString r.length)
  | .human, none => line .human "No injected region."

def decoration (audience : Audience) (script : Path) : Command Ending := do
  let (host, _) ← get
  match host.files.readUnmarked script.text with
  | .ok code => return ⟨0, decorationPrinted audience code, none⟩
  | .error (.file fault path) =>
    return failed audience "FILE_NOT_FOUND"
      ("Cannot read " ++ script.text ++ ": " ++ fault.message path) script.text
  | .error failure => throw failure

def config (audience : Audience) : Command Ending := do
  let settings ← userSettings
  let shown ← ExceptT.mk (pure settings.toJson)
  return ⟨0, jsonText audience none shown, none⟩

/-! ### Running a command line -/

/-- Whether a script is there but may not be read. -/
def isUnreadable (host : Host) (script : String) : Except Failure Bool := do
  FileSystem.checkPath script
  match host.files.stat script with
  | .ok node => return node.isDenied
  | .error _ => return false

def perform (audience : Audience) : Request → Command Ending
  | .resolve script strict => resolve audience (.ofText script) strict
  | .searchDirs => searchDirs audience
  | .decoration script => decoration audience (.ofText script)
  | .config => config audience

/-- Settles whom the output is for, and where messages go. -/
def applyOptions (options : GlobalOptions) : Command Audience := do
  let audience := if options.human then Audience.human else .machine
  Command.onConsole fun console => { console with audience := some audience }
  let request : LoggingRequest :=
    if options.human then { level := if options.verbose then some "DEBUG" else none
                            quiet := some false }
    else { level := some "DEBUG", quiet := some (!options.verbose) }
  let (host, _) ← get
  if !Logging.hasKnownLevel request host.environment then throw .unknownLevel
  let _ ← Command.onHost (Logging.setUp {} request { isSetUp := true })
  return audience

def runCommand (options : GlobalOptions) (command : CommandName) (arguments : List String) :
    Command Ending := do
  let audience ← applyOptions options
  match Request.ofArguments? command arguments with
  | none => return misuse
  | some request =>
    let (host, _) ← get
    let refused ← match request.script? with
      | some script => ExceptT.mk (pure (isUnreadable host script))
      | none => pure false
    if refused then return misuse else perform audience request

/-- Runs a command line. A failure that is not foreseen ends it with one. -/
def run (arguments : List String) : StateM (Host × Console) Ending := fun state =>
  match split? arguments with
  | none => (misuse, state)
  | some (options, command, rest) =>
    match runCommand options command rest state with
    | (.ok ending, state) => (ending, state)
    | (.error failure, state) => (⟨1, {}, some failure⟩, state)

end Console

end ScriptDeps
