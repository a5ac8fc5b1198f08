import ScriptDeps.Locations

/-!
# Logging

Which sinks log messages go to: standard error, unless it is kept for the output, and a file, if one
is asked for. What a request leaves open, the environment settles.
-/

namespace ScriptDeps

/-- Where messages go. -/
inductive SinkTarget
  | standardError
  | file (path : String)
  deriving DecidableEq, Repr

/-- A place that messages of a level and above go to. -/
structure Sink where
  number : Nat
  target : SinkTarget
  level : String
  deriving DecidableEq, Repr

/-- A request to set the sinks up. -/
structure LoggingRequest where
  level : Option String := none
  /-- Whether standard error is left out. -/
  quiet : Option Bool := none
  toFile : Option Bool := none
  deriving DecidableEq, Repr

def LoggingRequest.isOpen (request : LoggingRequest) : Bool :=
  request.level.isNone && request.quiet.isNone && request.toFile.isNone

/-- The sinks, and the number of the next one. -/
structure Logging where
  isSetUp : Bool := false
  sinks : List Sink := []
  next : Nat := 1
  deriving DecidableEq, Repr

namespace Logging

/-- Whether a variable is set to a word for "yes". -/
def isOn (environment : Environment) (name : String) : Bool :=
  Environment.isYes ((environment.get? name).getD "")

def level (request : LoggingRequest) (environment : Environment) : String :=
  request.level.getD (Text.upper ((environment.get? "SCRIPTLENS_LOG_LEVEL").getD "INFO"))

def levels : List String :=
  ["TRACE", "DEBUG", "INFO", "SUCCESS", "WARNING", "ERROR", "CRITICAL"]

def isQuiet (request : LoggingRequest) (environment : Environment) : Bool :=
  request.quiet.getD (isOn environment "SCRIPTLENS_MACHINE_MODE")

def isToFile (request : LoggingRequest) (environment : Environment) : Bool :=
  request.toFile.getD (isOn environment "SCRIPTLENS_FILE_LOGGING")

/-- Whether messages for standard error, if it gets any, have a level that there is. -/
def hasKnownLevel (request : LoggingRequest) (environment : Environment) : Bool :=
  isQuiet request environment || levels.contains (level request environment)

def number (first : Nat) : List (SinkTarget × String) → List Sink
  | [] => []
  | (target, level) :: rest => ⟨first, target, level⟩ :: number (first + 1) rest

/-- The sinks set up anew. Once they are, a request that leaves everything open changes nothing. -/
def setUp (locations : Locations) (request : LoggingRequest) (logging : Logging) :
    Action Logging := do
  if logging.isSetUp && request.isOpen then return logging
  let environment := (← get).environment
  let console := if isQuiet request environment then []
    else [(SinkTarget.standardError, level request environment)]
  let file ← if isToFile request environment then do
      let directory ← Action.ofExcept (locations.logs environment)
      Action.ensureDirectory directory
      pure [(SinkTarget.file (directory.child "scriptlens.log").text, "DEBUG")]
    else pure []
  let targets := console ++ file
  return { isSetUp := true
           sinks := number logging.next targets
           next := logging.next + targets.length }

end Logging

end ScriptDeps
