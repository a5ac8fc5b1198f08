import ScriptDeps.Closure

/-!
# Builders that serve many scripts

A builder is made once and asked again and again, while the machine changes. What it keeps from one
script for the next is the companion library once that has been located, the strategy that its
deduplicator records, and the index that it was given, if it was given one.
-/

namespace ScriptDeps

open Library

/-- A builder with what it keeps. -/
structure ClosureService where
  builder : ClosureBuilder
  /-- The index that libraries are looked up in; a fresh one for each script if none is given. -/
  index : Option LibraryIndex := none
  companion : Companion := {}
  /-- The strategy that the deduplicator records. -/
  recorded : Strategy := .load

/-- What runs on a host and a builder, and keeps what either had become before it failed. -/
abbrev Serving (α : Type) := ExceptT Failure (StateM (Host × ClosureService)) α

namespace Serving

def onHost {α : Type} (action : Action α) : Serving α := fun (host, service) =>
  let (result, host) := action host
  (result, host, service)

/-- What runs on an index that the builder was given. -/
def onIndex {α : Type} (index : LibraryIndex) (gathering : Gathering α) : Serving α :=
  fun (host, service) =>
    let (result, host, index) := gathering (host, index)
    (result, host, { service with index := some index })

/-- What runs on the strategy that the deduplicator records. -/
def onRecorded {α : Type} (recording : Host → Recording α) : Serving α := fun (host, service) =>
  let (result, recorded) := recording host service.recorded
  (result, host, { service with recorded })

end Serving

namespace ClosureService

/-- A builder that was made without an index, for hosts of a name. -/
def fresh (builder : ClosureBuilder) (hostName : Json) (recorded : Strategy) : ClosureService where
  builder
  companion := { hostName }
  recorded

/-- The candidates of a script that has been read. -/
def candidates (p : ClosureBuilder.Prepared) : Serving (List Candidate) := do
  let (_, service) ← get
  match service.index with
  | some index => Serving.onIndex index (ClosureBuilder.candidates p)
  | none => Serving.onHost do
    let index ← Action.ofExcept service.builder.freshIndex
    Gathering.startingFrom index (ClosureBuilder.candidates p)

/-- Where the companion library lies; it is located the first time. -/
def locate : Serving (Option String) := do
  let (host, service) ← get
  set (host, { service with companion := service.companion.lookedUp host.modules })
  return service.companion.path host.modules

def resolve (script : String) : Serving Closure := do
  let (_, service) ← get
  let p ← Serving.onHost (service.builder.prepare script)
  let found ← candidates p
  let paths ← Serving.onRecorded
    (service.builder.deduplicator.record (found.map fun c => .text c.path))
  let companion ← locate
  let (_, service) ← get
  return { script := p.graph.root.path.text
           sources := p.sources
           libraries := paths ++ companion.toList
           searchDirs := p.searchDirs
           strategy := service.builder.deduplicator.used service.recorded }

/-- What comes of asking for the closure of a script: the answer, and the host afterwards. -/
def answer (service : ClosureService) (script : String) (host : Host) :
    Except Failure Closure × Host :=
  let (result, host, _) := resolve script (host, service)
  (result, host)

/-! ### Histories -/

/-- What can happen to a builder and its host. -/
inductive Event
  /-- The builder is asked for the closure of a script, and may fail. -/
  | resolve (script : String)
  /-- The host becomes another one. -/
  | change (host : Host)
  /-- Somebody else asks the companion. -/
  | locate
  /-- Somebody else uses the deduplicator. -/
  | dedupe (items : List Json)

/-- The host and the builder after an event, whatever came of it. -/
def Event.next : Event → Host × ClosureService → Host × ClosureService
  | .resolve script, state => (ClosureService.resolve script state).2
  | .change host, (_, service) => (host, service)
  | .locate, state => (ClosureService.locate state).2
  | .dedupe items, (host, service) =>
    (Serving.onRecorded (service.builder.deduplicator.record items) (host, service)).2

def after (history : List Event) (start : Host × ClosureService) : Host × ClosureService :=
  history.foldl (fun state event => event.next state) start

end ClosureService

end ScriptDeps
