import ScriptDeps.Proofs.Closure.Strategies
import ScriptDeps.Proofs.Library.PlainPass

/-!
# Closures and the downloader

A closure takes the packages of its script from the roots as they stand. `fetches_nothing` says so of
builders that serve many scripts: none of them ever hands a package to its downloader, and each
answers as it would without one.
-/

namespace ScriptDeps

open Library

/-! ### Packages that lie under some roots -/

namespace Action

variable {α β : Type}

/-- Asking one thing of a host after another is asking both at once. -/
theorem ofHost_then (f : Host → Except Failure α) (g : Host → α → Except Failure β) :
    (do
      let a ← ofHost f
      ofHost (g · a)) = ofHost fun host => f host >>= g host := by
  funext host
  rw [run_bind]
  simp only [ofHost]
  cases f host <;> rfl

theorem mapM_ofHost (f : Host → α → Except Failure β) (items : List α) :
    items.mapM (fun item => ofHost (f · item)) = ofHost fun host => items.mapM (f host) := by
  induction items with
  | nil => rfl
  | cons item rest ih =>
    have joined : ∀ first : β, (do
        let others ← ofHost fun host => rest.mapM (f host)
        return first :: others) = ofHost fun host => do
          return first :: (← rest.mapM (f host)) := fun first =>
      ofHost_then (fun host => rest.mapM (f host)) fun _ others => .ok (first :: others)
    simp only [List.mapM_cons, ih, joined]
    exact ofHost_then (f · item) fun host first => do
      return first :: (← rest.mapM (f host))

end Action

namespace PackageStore

/-- The libraries of a package in the first of some roots that has it; none if no root does. -/
def installed (roots : List Path) (fs : FileSystem) (package : PackageReference) :
    Except Failure (List String) := do
  if package.noReference then return []
  match ← findIn fs package roots with
  | none => return []
  | some directory => libraries fs directory

def allInstalled (roots : List Path) (fs : FileSystem) (packages : List PackageReference) :
    Except Failure (List String) := do
  return distinct (← packages.mapM (installed roots fs)).flatten

variable (store : PackageStore)

theorem obtain_suppressed (package : PackageReference) :
    store.obtain true package = Action.ofHost fun host => findIn host.files package store.roots := by
  funext host
  have asked : store.find host.files package = findIn host.files package store.roots := rfl
  unfold obtain
  rw [run_bind]
  simp only [Action.ofHost, asked]
  cases findIn host.files package store.roots with
  | error failure => rfl
  | ok found =>
    cases found with
    | some directory => rfl
    | none => cases store.deliveries <;> rfl

theorem librariesOf_suppressed (package : PackageReference) :
    store.librariesOf true package =
      Action.ofHost fun host => installed store.roots host.files package := by
  unfold librariesOf installed
  rw [obtain_suppressed]
  split
  · rfl
  · rw [← Action.ofHost_then (fun host => findIn host.files package store.roots)]
    refine bind_congr fun found => ?_
    cases found <;> rfl

theorem resolve_suppressed (packages : List PackageReference) :
    store.resolve true packages =
      Action.ofHost fun host => allInstalled store.roots host.files packages := by
  have each : packages.mapM (store.librariesOf true) =
      Action.ofHost fun host => packages.mapM (installed store.roots host.files) := by
    rw [← Action.mapM_ofHost, funext store.librariesOf_suppressed]
  unfold resolve
  rw [each]
  exact Action.ofHost_then (fun host => packages.mapM (installed store.roots host.files))
    fun _ lists => .ok (distinct lists.flatten)

/-- The store without its downloader. -/
def offline : PackageStore := { store with deliveries := none }

theorem ofEnvironment_offline {environment : Environment} {store : PackageStore}
    (made : ofEnvironment environment = .ok store) : store.offline = store := by
  obtain ⟨roots, _, made⟩ := bind_ok made
  rw [pure_ok made]
  rfl

end PackageStore

/-! ### Candidates -/

namespace Library

theorem gather_congr {packages others : Bool → Action (List String)}
    (same : packages suppressDownloads = others suppressDownloads) (wanted : Wanted)
    (sources : List Source) : gather packages wanted sources = gather others wanted sources := by
  have each : ofSource packages wanted = ofSource others wanted := by
    funext source
    cases source with
    | usedNamespace => rfl
    | reference => rfl
    | package => rw [ofSource, ofSource, same]
  rw [gather, gather, each]

/-- The candidates that no package gives come first, and then all that the packages list, but what has
been found before. -/
theorem gather_listed {packages : Bool → Action (List String)}
    {listed : Host → Except Failure (List String)}
    (asked : packages suppressDownloads = Action.ofHost listed) {wanted : Wanted}
    {found : List Candidate} {state next : Host × LibraryIndex}
    (ran : gather packages wanted Source.all state = (.ok found, next)) :
    ∃ named paths, (∀ candidate ∈ named, candidate.source ≠ .package) ∧
      listed state.1 = .ok paths ∧
      found = distinctBy (·.path) (named ++ candidatesAt .package "" paths) := by
  have quiet : Moves Eq (packages suppressDownloads) := by
    rw [asked]
    exact Action.ofHost_moves _
  have sources : Source.all = [.usedNamespace, .reference] ++ [.package] := rfl
  rw [gather, sources, List.mapM_append] at ran
  obtain ⟨lists, _, ran, made⟩ := run_ok ran
  obtain ⟨named, middle, ofNames, ran⟩ := run_ok ran
  obtain ⟨last, _, ran, joined⟩ := run_ok ran
  rw [List.mapM_cons, List.mapM_nil] at ran
  obtain ⟨packaged, after, ran, single⟩ := run_ok ran
  rw [ofSource, asked] at ran
  obtain ⟨paths, _, answered, ofPackages⟩ := run_ok ran
  obtain rfl : [packaged] = last := Except.ok.inj (Prod.mk.inj single).1
  obtain rfl : candidatesAt .package "" paths = packaged := Except.ok.inj (Prod.mk.inj ofPackages).1
  obtain rfl : named ++ [_] = lists := Except.ok.inj (Prod.mk.inj joined).1
  refine ⟨named.flatten, paths, ?_, ?_, ?_⟩
  · intro candidate member packaged
    have asked := ofSources_source ofNames candidate member
    rw [packaged] at asked
    simp at asked
  · -- nothing before has touched the host
    have still : Moves (Hosts Eq)
        ([Source.usedNamespace, .reference].mapM (ofSource packages wanted)) :=
      moves_mapM fun source _ => ofSource_moves quiet wanted source
    have moves := still state
    rw [ofNames] at moves
    have unchanged : state.1 = middle.1 := moves
    rw [unchanged]
    exact (Prod.mk.inj answered).1
  · have whole := Except.ok.inj (Prod.mk.inj made).1
    rw [← whole, List.flatten_append, List.flatten_singleton]

end Library

namespace ClosureBuilder

/-- The packages among the candidates are those that lie under the roots on the host. -/
theorem candidates_installed {p : Prepared} {found : List Candidate}
    {state next : Host × LibraryIndex} (ran : candidates p state = (.ok found, next)) :
    ∃ named packaged, (∀ candidate ∈ named, candidate.source ≠ .package) ∧
      PackageStore.allInstalled p.packages.roots state.1.files p.graph.packages = .ok packaged ∧
      found = distinctBy (·.path) (named ++ candidatesAt .package "" packaged) :=
  gather_listed (p.packages.resolve_suppressed p.graph.packages) ran

/-! ### Builders without a downloader -/

/-- The builder without the downloader of its packages. -/
def offline (b : ClosureBuilder) : ClosureBuilder :=
  { b with packages := b.packages.map PackageStore.offline }

def Prepared.offline (p : Prepared) : Prepared := { p with packages := p.packages.offline }

end ClosureBuilder

theorem openScript_offline (packages : Option PackageStore) (extraDirs : List String)
    (script : String) (host : Host) :
    openScript (packages.map PackageStore.offline) extraDirs script host = (do
      let (packages, graph) ← openScript packages extraDirs script host
      return (packages.offline, graph)) := by
  unfold openScript
  cases host.files.resolvePath (.ofText script) with
  | error failure => rfl
  | ok path =>
    rw [ok_bind, ok_bind]
    cases packages with
    | some store =>
      simp only [Option.map_some, pure_bind, bind_assoc]
    | none =>
      simp only [Option.map_none, bind_assoc]
      cases made : PackageStore.ofEnvironment host.environment with
      | error failure => rfl
      | ok store =>
        simp only [ok_bind, pure_bind]
        rw [PackageStore.ofEnvironment_offline made]

/-- The store that packages are taken from: the given one, or else the host's own. -/
def PackageStore.chosen (given : Option PackageStore) (environment : Environment) :
    Except Failure PackageStore :=
  match given with
  | some store => .ok store
  | none => ofEnvironment environment

theorem openScript_store {packages : Option PackageStore} {extraDirs : List String}
    {script : String} {host : Host} {store : PackageStore} {graph : ImportGraph}
    (opened : openScript packages extraDirs script host = .ok (store, graph)) :
    PackageStore.chosen packages host.environment = .ok store := by
  obtain ⟨path, _, opened⟩ := bind_ok opened
  cases packages with
  | some given =>
    obtain ⟨usual, made, opened⟩ := bind_ok opened
    obtain ⟨_, _, opened⟩ := bind_ok opened
    rw [(Prod.mk.inj (pure_ok opened)).1, pure_ok made]
    rfl
  | none =>
    obtain ⟨usual, made, opened⟩ := bind_ok opened
    obtain ⟨_, _, opened⟩ := bind_ok opened
    rw [(Prod.mk.inj (pure_ok opened)).1]
    exact made

namespace ClosureBuilder

theorem prepare_store {b : ClosureBuilder} {script : String} {host later : Host} {p : Prepared}
    (ran : b.prepare script host = (.ok p, later)) :
    PackageStore.chosen b.packages host.environment = .ok p.packages := by
  obtain ⟨⟨packages, graph⟩, _, opened, ran⟩ := run_ok ran
  obtain ⟨searchDirs, _, _, ran⟩ := run_ok ran
  obtain ⟨saved, _, _, ran⟩ := run_ok ran
  obtain rfl := Except.ok.inj (Prod.mk.inj ran).1
  exact openScript_store (Prod.mk.inj opened).1

theorem prepare_offline (b : ClosureBuilder) (script : String) :
    b.offline.prepare script = (do
      let p ← b.prepare script
      return p.offline) := by
  funext host
  have opened := openScript_offline b.packages [] script host
  unfold prepare
  rw [bind_assoc, run_bind, run_bind]
  unfold Action.ofHost offline
  dsimp only
  rw [opened]
  cases openScript b.packages [] script host with
  | error failure => rfl
  | ok read =>
    simp only [ok_bind, bind_assoc, pure_bind]
    rfl

theorem candidates_offline (p : Prepared) : candidates p.offline = candidates p := by
  have same : p.packages.offline.resolve suppressDownloads p.graph.packages =
      p.packages.resolve suppressDownloads p.graph.packages := by
    rw [suppressDownloads, PackageStore.resolve_suppressed, PackageStore.resolve_suppressed]
    rfl
  exact gather_congr same _ _

end ClosureBuilder

namespace ClosureService

def offline (service : ClosureService) : ClosureService :=
  { service with builder := service.builder.offline }

theorem candidates_offline (p : ClosureBuilder.Prepared) (host : Host) (service : ClosureService) :
    candidates p.offline (host, service.offline) =
      ((candidates p (host, service)).1, (candidates p (host, service)).2.1,
        (candidates p (host, service)).2.2.offline) := by
  unfold candidates
  rw [run_bind, run_get, run_bind, run_get, ClosureBuilder.candidates_offline]
  dsimp only
  have same : service.offline.index = service.index := rfl
  rw [same]
  cases service.index <;> rfl

/-- A builder with a downloader answers as the same builder without one. -/
theorem answer_offline (service : ClosureService) (script : String) (host : Host) :
    service.offline.answer script host = service.answer script host := by
  unfold answer resolve
  simp only [run_bind, run_get]
  have prepared : Serving.onHost (service.offline.builder.prepare script) (host, service.offline) =
      match service.builder.prepare script host with
      | (.ok p, later) => (.ok p.offline, later, service.offline)
      | (.error failure, later) => (.error failure, later, service.offline) := by
    rw [Serving.onHost]
    have whole := congrFun (ClosureBuilder.prepare_offline service.builder script) host
    rw [run_bind] at whole
    dsimp only [offline]
    rw [whole]
    rcases service.builder.prepare script host with ⟨_ | p, later⟩ <;> rfl
  rw [prepared, Serving.onHost]
  rcases service.builder.prepare script host with ⟨_ | p, later⟩
  · rfl
  dsimp only
  rw [candidates_offline]
  rcases candidates p (later, service) with ⟨_ | found, after, kept⟩
  · rfl
  dsimp only
  have deduplicators : service.offline.builder.deduplicator = service.builder.deduplicator := rfl
  rw [Serving.onRecorded, Serving.onRecorded, deduplicators]
  have recorded : kept.offline.recorded = kept.recorded := rfl
  rw [recorded]
  generalize service.builder.deduplicator.record _ after kept.recorded = outcome
  rcases outcome with ⟨_ | paths, used⟩ <;> rfl

end ClosureService

/-! ### What is fetched -/

/-- No more packages have been handed to the downloader. -/
def Host.SameFetched (host later : Host) : Prop :=
  later.fetched = host.fetched

instance : IsPreorder Host Host.SameFetched where
  refl _ := rfl
  trans _ _ _ first next := Eq.trans next first

theorem Action.makeDirectory_sameFetched (path : String) :
    Moves Host.SameFetched (makeDirectory path) := by
  intro host
  rw [makeDirectory]
  split <;> rfl

theorem Action.writeText_sameFetched (path text : String) :
    Moves Host.SameFetched (writeText path text) := by
  intro host
  rw [writeText]
  split <;> rfl

namespace ClosureService

/-- The host that somebody has last put in the place of another one. -/
def lastGiven : List Event → Host → Host
  | [], host => host
  | .change other :: rest, _ => lastGiven rest other
  | _ :: rest, host => lastGiven rest host

theorem lastGiven_fetched {host other : Host} (history : List Event)
    (same : host.fetched = other.fetched) :
    (lastGiven history host).fetched = (lastGiven history other).fetched := by
  induction history with
  | nil => exact same
  | cons event rest ih =>
    cases event with
    | change given => rfl
    | _ => exact ih

theorem after_fetched (history : List Event) (start : Host × ClosureService) :
    (after history start).1.fetched = (lastGiven history start.1).fetched := by
  induction history generalizing start with
  | nil => rfl
  | cons event rest ih =>
    have next := ih (event.next start)
    cases event with
    | change other => exact next
    | resolve script =>
      have kept : (Event.next (.resolve script) start).1.fetched = start.1.fetched :=
        resolve_moves (start.2.builder.prepare_moves script Action.makeDirectory_sameFetched
          Action.writeText_sameFetched)
      exact next.trans (lastGiven_fetched rest kept)
    | locate => exact next
    | dedupe items => exact next

/-- A builder gathers candidates with the index that it was given, or with a fresh one. -/
theorem candidates_gathered {p : ClosureBuilder.Prepared} {found : List Candidate}
    {state next : Host × ClosureService} (searched : candidates p state = (.ok found, next)) :
    ∃ index later, ClosureBuilder.candidates p (state.1, index) = (.ok found, later) := by
  obtain ⟨host, service⟩ := state
  rw [candidates, run_bind, run_get] at searched
  dsimp only at searched
  cases given : service.index with
  | some index =>
    rw [given] at searched
    rcases ran : ClosureBuilder.candidates p (host, index) with ⟨result, later⟩
    simp only [Serving.onIndex, ran] at searched
    exact ⟨index, later, by rw [ran, (Prod.mk.inj searched).1]⟩
  | none =>
    rw [given] at searched
    simp only [Serving.onHost, run_bind, Action.ofExcept] at searched
    cases made : service.builder.freshIndex with
    | error failure =>
      rw [made] at searched
      cases searched
    | ok index =>
      rw [made] at searched
      rcases ran : ClosureBuilder.candidates p (host, index) with ⟨result, later⟩
      simp only [Gathering.startingFrom, ran] at searched
      exact ⟨index, later, by rw [ran, (Prod.mk.inj searched).1]⟩

/-- Whatever has happened to a builder and its host, nothing has been handed to the downloader of
packages, and nothing is for the next closure: the answer is that of a builder without a downloader,
and the packages among the candidates are those under the roots as they stand. -/
theorem fetches_nothing (history : List Event) (start : Host × ClosureService) :
    (after history start).1.fetched = (lastGiven history start.1).fetched ∧
      ∀ script,
        (after history start).2.offline.answer script (after history start).1 =
            (after history start).2.answer script (after history start).1 ∧
        ∀ closure next, resolve script (after history start) = (.ok closure, next) →
          ∃ p prepared found gathered kept recorded named packaged,
            Serving.onHost (start.2.builder.prepare script) (after history start) =
                (.ok p, prepared) ∧
            PackageStore.chosen start.2.builder.packages (after history start).1.environment =
                .ok p.packages ∧
            candidates p prepared = (.ok found, gathered) ∧
            PackageStore.allInstalled p.packages.roots prepared.1.files p.graph.packages =
                .ok packaged ∧
            found = distinctBy (·.path) (named ++ candidatesAt .package "" packaged) ∧
            (∀ candidate ∈ named, candidate.source ≠ .package) ∧
            start.2.builder.deduplicator.record (Deduplicator.itemsOf (found.map (·.path)))
                gathered.1 gathered.2.recorded = (.ok kept, recorded) ∧
            closure.libraries =
              kept ++ (gathered.2.companion.path gathered.1.modules).toList := by
  refine ⟨after_fetched history start, fun script => ⟨answer_offline _ script _, ?_⟩⟩
  intro closure next returned
  have same : (after history start).2.builder = start.2.builder := after_sameBuilder history start
  obtain ⟨p, prepared, found, gathered, kept, recorded, read, searched, recording, -, libraries, -⟩ :=
    resolve_ok returned
  rw [same] at read recording
  have packages : ∃ named packaged, (∀ candidate ∈ named, candidate.source ≠ .package) ∧
      PackageStore.allInstalled p.packages.roots prepared.1.files p.graph.packages =
        .ok packaged ∧
      found = distinctBy (·.path) (named ++ candidatesAt .package "" packaged) := by
    obtain ⟨index, after, ran⟩ := candidates_gathered searched
    exact ClosureBuilder.candidates_installed ran
  obtain ⟨named, packaged, others, installed, rfl⟩ := packages
  have store : PackageStore.chosen start.2.builder.packages (after history start).1.environment =
      .ok p.packages := by
    rcases ran : start.2.builder.prepare script (after history start).1 with ⟨result, later⟩
    simp only [Serving.onHost, ran] at read
    rw [(Prod.mk.inj read).1] at ran
    exact ClosureBuilder.prepare_store ran
  exact ⟨p, prepared, _, gathered, kept, recorded, named, packaged, read, store, searched,
    installed, rfl, others, recording, libraries⟩

end ClosureService

end ScriptDeps
