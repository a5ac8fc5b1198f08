import ScriptDeps.Assembly.Name
import ScriptDeps.Host
import ScriptDeps.Json.Writer

/-!
# The identity worker

A separate process that reads the names which libraries declare, so that none of them is ever
loaded into this one. It is given a list of paths and answers with a report on each; a `Probe`
starts it and reads what it says.
-/

namespace ScriptDeps.Library

/-! ### What the worker does -/

/-- What is said about a file: the name that it declares, or why there is none. -/
structure Report where
  path : String
  name : Option String
  error : Option String
  deriving DecidableEq, Repr

def textOrNull : Option String → Json
  | some text => .text text
  | none => .null

def Report.toJson (r : Report) : Json :=
  .object [("path", .text r.path), ("name", textOrNull r.name), ("error", textOrNull r.error)]

def report (fs : FileSystem) (path : String) : Except Failure Report :=
  match fs.readBytes path with
  | .ok image => match Assembly.Image.assemblyName image with
    | .ok name => .ok ⟨path, some name, none⟩
    | .error fault => .ok ⟨path, none, some fault.message⟩
  | .error (.file fault refused) => .ok ⟨path, none, some (fault.message refused)⟩
  | .error failure => .error failure

/-- How a process ends: its code and what it wrote. -/
structure Outcome where
  code : Int
  output : String
  errors : String
  deriving DecidableEq, Repr

def readJson (text : String) : Except Failure Json :=
  match Json.read text with
  | .ok value => .ok value
  | .error fault => .error (.json fault)

def work (fs : FileSystem) (input : String) : Except Failure Outcome := do
  match ← readJson input with
  | .list items =>
    let reports ← items.mapM fun item => match item.shown.toString? with
      | some path => report fs path
      | none => .error .unspeakablePath
    return ⟨0, (Json.list (reports.map Report.toJson)).write .spaced, ""⟩
  | _ => return ⟨2, "", "expected a JSON list of paths on stdin\n"⟩

/-! ### Asking it -/

/-- How a started worker ends on an input; none if it does not end in time. -/
def outcome? (fs : FileSystem) (input : String) : WorkerMode → Option Outcome
  | .answers => some ((work fs input).toOption.getD ⟨1, "", ""⟩)
  | .missing => none
  | .hangs => none
  | .exits code => some ⟨code, "", "worker died"⟩
  | .writes output => some ⟨0, output, ""⟩

/-- The names of libraries by their paths, as a worker gives them. -/
abbrev Names := List (Json × Json)

namespace Names

/-- The names with that of a path bound: in its place if it is bound, else at the end. -/
def put (path name : Json) : Names → Names
  | [] => [(path, name)]
  | (other, old) :: rest =>
    if path.sameAtom other then (other, name) :: rest else (other, old) :: put path name rest

/-- The name of the library at a path; none if there is none or it is null. -/
def name? (names : Names) (path : String) : Option Json :=
  ((names.find? fun entry => entry.1.text? == some path).map (·.2)).filter fun
    | .null => false
    | _ => true

def add (names : Names) : Json → Except Failure Names
  | .object members =>
    match Json.lookup? "path" members with
    | none => .error .reportWithoutPath
    | some path =>
      if path.isAtomic then .ok (names.put path ((Json.lookup? "name" members).getD .null))
      else .error .notAtomic
  | _ => .error .reportNotObject

/-- The names that an answer of a worker gives. -/
def ofAnswer : Json → Except Failure Names
  | .list reports => reports.foldlM add []
  | .text text => if text.isEmpty then .ok [] else .error .reportNotObject
  | .object members => if members.isEmpty then .ok [] else .error .reportNotObject
  | _ => .error .notAList

end Names

/-- A way to ask the worker. -/
structure Probe where
  /-- How many seconds the worker may take. -/
  timeout : Json
  /-- How the worker that is running behaves, if one is. -/
  running : Option WorkerMode := none

namespace Probe

/-- The number of seconds that the worker may take if nothing else is said. -/
def defaultTimeout : Json := .integer 30

def start (probe : Probe) : WorkerMode → Except Failure Probe
  | .missing => .error (.file .missing "python")
  | mode => .ok { probe with running := some mode }

def stop (probe : Probe) : Probe :=
  { probe with running := none }

def identities (probe : Probe) (fs : FileSystem) (paths : Json) : Except Failure Names :=
  match probe.running with
  | none => .error (.worker .notRunning)
  | some mode =>
    match outcome? fs (paths.write .spaced) mode with
    | none => .error (.worker (.timedOut probe.timeout.shown.escaped))
    | some outcome =>
      if outcome.code != 0 then .error (.worker (.exited outcome.code outcome.errors))
      else match Json.read outcome.output with
        | .ok answer => Names.ofAnswer answer
        | .error .tooDeep => .error (.json .tooDeep)
        | .error _ => .error (.worker (.unreadable outcome.errors))

end Probe

end ScriptDeps.Library
