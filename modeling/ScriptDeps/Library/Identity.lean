import ScriptDeps.Distinct
import ScriptDeps.Library.Worker

/-!
# Identities of libraries

Two files may be the same library. Which ones are is told by the file names or by the names that
the libraries declare, and only the first file of each identity is kept.
-/

namespace ScriptDeps.Library

/-- What tells libraries apart. -/
inductive Strategy
  /-- The file name without its suffix. -/
  | filename
  /-- The declared name. -/
  | load
  deriving DecidableEq, Repr

namespace Strategy

def text : Strategy → String
  | filename => "filename"
  | load => "load"

def ofText? (name : String) : Option Strategy :=
  if name == "filename" then some .filename
  else if name == "load" then some .load
  else none

def ofValue (value : Json) : Except Failure Strategy :=
  match value.text?.bind ofText? with
  | some strategy => .ok strategy
  | none => .error .unknownStrategy

end Strategy

/-- The file name of a path without its suffix, if there is one. -/
def fileIdentity (path : String) : Option String :=
  let stem := (Path.ofText path).stem
  if stem.isEmpty then none else some stem

def firstByFileName (paths : List String) : List String :=
  keepFirst (· == ·) fileIdentity [] paths

/-- The first path for each declared name. A list or an object is no name. -/
def firstByDeclaredName (names : Names) (paths : List String) : Except Failure (List String) :=
  if paths.all fun path => (names.name? path).all Json.isAtomic then
    .ok (keepFirst Json.sameAtom names.name? [] paths)
  else .error .notAtomic

/-- A way to keep one path for each library. -/
inductive Deduplicator
  | byFileName
  | byDeclaredName (timeout : Json)

/-- The paths that are kept, and what told the libraries apart. -/
structure Deduped where
  paths : List String
  used : Strategy
  deriving DecidableEq, Repr

namespace Deduplicator

def ofStrategy (strategy : Strategy) (timeout : Json) : Deduplicator :=
  match strategy with
  | .filename => byFileName
  | .load => byDeclaredName timeout

def strategy : Deduplicator → Strategy
  | byFileName => .filename
  | byDeclaredName _ => .load

/-- How many seconds the worker may take, where there is one. -/
def timeout? : Deduplicator → Option Json
  | byFileName => none
  | byDeclaredName timeout => some timeout

/-- The names that a worker started for these paths gives. -/
def askWorker (timeout : Json) (paths : List String) (host : Host) : Except Failure Names := do
  let probe ← Probe.start { timeout } host.worker
  probe.identities host.files (.ofTexts paths)

end Deduplicator

/-! ### Keeping one path for each library -/

/-- What runs on the strategy that a deduplicator records, and keeps what it had become before it
failed. -/
abbrev Recording (α : Type) := ExceptT Failure (StateM Strategy) α

/-- A value or a failure that does not depend on what is recorded. -/
def Recording.ofExcept {α : Type} (result : Except Failure α) : Recording α :=
  fun recorded => (result, recorded)

namespace Deduplicator

/-- The strategy that was used last. One that asks no worker uses nothing but the file names. -/
def used (deduplicator : Deduplicator) (recorded : Strategy) : Strategy :=
  match deduplicator with
  | byFileName => .filename
  | byDeclaredName _ => recorded

/-- The paths kept when the worker is asked. Without its answer the file names tell. -/
def recordByWorker (timeout : Json) (paths : List String) (host : Host) :
    Recording (List String) := do
  set Strategy.load
  if paths.isEmpty then return []
  match askWorker timeout paths host with
  | .ok names => .ofExcept (firstByDeclaredName names paths)
  | .error (.worker _) | .error (.file _ _) =>
    set Strategy.filename
    return firstByFileName paths
  | .error failure => throw failure

/-- One path for each library, with the strategy recorded that tells them apart. What is no text has
no file name, but can be shown as a path to the worker. -/
def record (deduplicator : Deduplicator) (items : List Json) (host : Host) :
    Recording (List String) :=
  match deduplicator with
  | byFileName => return firstByFileName (items.filterMap Json.text?)
  | byDeclaredName timeout => recordByWorker timeout (items.map (·.shown.escaped)) host

/-- One path for each library, and what told them apart. -/
def dedupe (deduplicator : Deduplicator) (items : List Json) (host : Host) :
    Except Failure Deduped := do
  let (result, recorded) := deduplicator.record items host .load
  return ⟨← result, deduplicator.used recorded⟩

end Deduplicator

end ScriptDeps.Library
