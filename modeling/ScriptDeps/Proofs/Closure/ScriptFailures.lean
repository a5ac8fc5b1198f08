import ScriptDeps.ClosureService
import ScriptDeps.Proofs.FileSystem.Faults
import ScriptDeps.Proofs.Library.Reports

/-!
# Failing for the script

That a script or one of its imports cannot be read or found comes out when the script is opened, or
not at all: nothing that is done for a closure afterwards fails for this reason.
-/

namespace ScriptDeps

/-- A script cannot be read, or one of its imports cannot be read or found. -/
inductive Failure.OfScript : Failure → Prop
  | unreadable (path : String) (cause : ReadCause) : OfScript (.unreadableScript path cause)
  | notFound (importer name : String) (probed : List String) :
      OfScript (.importNotFound importer name probed)

abbrev Failure.Elsewhere (failure : Failure) : Prop := ¬failure.OfScript

open Failure (OfFiles Elsewhere)

theorem Failure.OfFiles.elsewhere {failure : Failure} (files : OfFiles failure) :
    Elsewhere failure := by
  cases files <;> nofun

section Results

variable {α β : Type}

theorem FailsIn.elsewhere {result : Except Failure α} (fails : FailsIn OfFiles result) :
    FailsIn Elsewhere result :=
  fails.mono fun _ => OfFiles.elsewhere

theorem RunsFailIn.elsewhere {σ : Type} {x : ExceptT Failure (StateM σ) α}
    (fails : RunsFailIn OfFiles x) : RunsFailIn Elsewhere x :=
  fun s => (fails s).elsewhere

end Results

/-! ### Directories -/

namespace SearchPath

theorem listedText_elsewhere (content : ByteArray) : FailsIn Elsewhere (listedText content) := by
  unfold listedText
  split
  · exact failsIn_ok _
  · exact failsIn_ok _
  · exact failsIn_error nofun
  · exact failsIn_error nofun
  · exact failsIn_error nofun

theorem listedDirs_elsewhere (fs : FileSystem) (environment : Environment) (file : String) :
    FailsIn Elsewhere (listedDirs fs environment file) := by
  refine (fs.isFile_fails file).elsewhere.bind fun found => ?_
  split
  · exact failsIn_ok _
  · split
    · exact failsIn_ok _
    · refine (listedText_elsewhere _).bind fun listed => ?_
      split
      · exact failsIn_ok _
      · exact failsIn_ok _

theorem globalDirs_elsewhere (fs : FileSystem) (environment : Environment) :
    FailsIn Elsewhere (globalDirs fs environment) := by
  unfold globalDirs
  split
  · exact failsIn_ok _
  · exact (listedDirs_elsewhere fs environment _).map _

end SearchPath

namespace Locations

theorem home_elsewhere (l : Locations) (environment : Environment) :
    FailsIn Elsewhere (l.home environment) := by
  unfold home
  split
  · exact failsIn_ok _
  · unfold homeDirectory
    dsimp only
    split
    · exact failsIn_error nofun
    · exact failsIn_ok _
    · exact failsIn_ok _

theorem userScripts_elsewhere (l : Locations) (environment : Environment) :
    FailsIn Elsewhere (l.userScripts environment) := by
  have documents : FailsIn Elsewhere (l.documents environment) := by
    unfold Locations.documents
    split
    · exact failsIn_ok _
    · exact (l.home_elsewhere environment).map _
  exact documents.map _

theorem ensureUserScripts_elsewhere (l : Locations) :
    RunsFailIn Elsewhere l.ensureUserScripts := by
  refine (Action.ofHost_fails fun host => l.userScripts_elsewhere host.environment).bind
    fun directory => ?_
  refine (Action.ofHost_fails fun host =>
    (host.files.isPresent_fails directory.text).elsewhere).bind fun there => ?_
  split
  · exact (Action.ensureDirectory_runs directory).elsewhere.bind fun _ => runsFailIn_pure _
  · exact runsFailIn_pure _

end Locations

theorem ClosureBuilder.searchPath_elsewhere (b : ClosureBuilder) (graph : ImportGraph) :
    RunsFailIn Elsewhere (b.searchPath graph) := by
  refine (Action.ofHost_fails fun host => SearchPath.globalDirs_elsewhere host.files _).bind
    fun shared => ?_
  exact b.locations.ensureUserScripts_elsewhere.bind fun _ => runsFailIn_pure _

/-! ### Copies -/

namespace Script

theorem isCurrent_fails (fs : FileSystem) (copy source : Path) (text : String) :
    FailsIn OfFiles (isCurrent fs copy source text) := by
  refine (fs.isPresent_fails copy.text).bind fun there => ?_
  split
  · exact failsIn_ok _
  · refine (fs.modifiedAt_checked copy.text).fails.bind fun copied => ?_
    refine (fs.modifiedAt_checked source.text).fails.bind fun changed => ?_
    split
    · exact failsIn_ok _
    · exact (fs.readText_fails copy.text).map _

theorem materialize_fails (cache : Path) (file : ScriptFile) :
    RunsFailIn OfFiles (materialize cache file) := by
  unfold materialize
  split
  · exact runsFailIn_pure _
  · refine (Action.ofHost_fails fun host => isCurrent_fails host.files _ _ _).bind fun current => ?_
    split
    · refine (Action.ensureDirectory_runs _).bind fun _ => ?_
      exact (Action.writeText_runs _ _).bind fun _ => runsFailIn_pure _
    · exact runsFailIn_pure _

theorem materializeAll_fails (cache : Path) (graph : ImportGraph) :
    RunsFailIn OfFiles (materializeAll cache graph) :=
  (runsFailIn_mapM (materialize_fails cache) _).bind fun _ => runsFailIn_pure _

end Script

/-! ### Looking libraries up -/

namespace LibraryIndex

theorem ofValues_elsewhere (extensions ignored : List Json) :
    FailsIn Elsewhere (ofValues extensions ignored) := by
  refine FailsIn.bind (failsIn_mapM (fun value => ?_) _) fun known => ?_
  · split
    · exact failsIn_ok _
    · exact failsIn_error nofun
  · split
    · exact failsIn_ok _
    · exact failsIn_error nofun

theorem listDirectory_elsewhere (index : LibraryIndex) (fs : FileSystem) (directory : String) :
    FailsIn Elsewhere (index.listDirectory fs directory) := by
  unfold listDirectory
  split
  · exact failsIn_ok _
  · exact failsIn_ok _
  · rename_i failure _ failed
    exact failsIn_error ((fs.list_checked directory).fails.elsewhere failure failed)

theorem listing_elsewhere (fs : FileSystem) (directory : String) :
    RunsFailIn Elsewhere (listing fs directory) := by
  intro index
  unfold listing
  split
  · exact failsIn_ok _
  · split
    · exact failsIn_ok _
    · rename_i failure failed
      exact failsIn_error (index.listDirectory_elsewhere fs directory failure failed)

theorem findBase_elsewhere (fs : FileSystem) (name : String) (dirs : List String) :
    RunsFailIn Elsewhere (findBase fs name dirs) := by
  refine (runsFailIn_mapM (fun directory => ?_) dirs).bind fun _ => runsFailIn_pure _
  exact (listing_elsewhere fs directory).bind fun _ => runsFailIn_pure _

theorem findFirst_elsewhere (fs : FileSystem) (dirs names : List String) :
    RunsFailIn Elsewhere (findFirst fs dirs names) := by
  induction names with
  | nil => exact runsFailIn_pure _
  | cons name rest ih =>
    refine (findBase_elsewhere fs name dirs).bind fun found => ?_
    split
    · exact ih
    · exact runsFailIn_pure _

theorem findFile?_fails (index : LibraryIndex) (fs : FileSystem) (name : String)
    (dirs : List String) : FailsIn OfFiles (index.findFile? fs name dirs) := by
  unfold findFile?
  split
  · exact failsIn_ok none
  · dsimp only
    split
    · exact fs.firstFile?_fails _
    · exact fs.firstFile?_fails _

theorem find_elsewhere (fs : FileSystem) (name : String) (dirs : List String) :
    RunsFailIn Elsewhere (find fs name dirs) := by
  unfold find
  generalize stripQuotes name = key
  dsimp only
  split
  · exact runsFailIn_pure _
  · refine (runsFailIn_of_ok fun index => ⟨index, rfl⟩).bind fun index => ?_
    have file := (index.findFile?_fails fs key dirs).elsewhere
    have named : ∀ (slashed : Bool) names, RunsFailIn Elsewhere
        (if slashed then return [] else findFirst fs dirs names : Lookup (List String)) := by
      intro slashed names
      split
      · exact runsFailIn_pure _
      · exact findFirst_elsewhere fs dirs names
    refine RunsFailIn.bind (fun _ => file) fun found => ?_
    split
    · exact runsFailIn_pure _
    · exact named _ _

end LibraryIndex

/-! ### Packages -/

namespace Package

theorem VersionKey.ofText_elsewhere (version : String) : FailsIn Elsewhere (ofText version) := by
  refine (failsIn_mapM (fun part => ?_) _).map _
  unfold partNumber
  split
  · split
    · exact failsIn_ok _
    · exact failsIn_error nofun
  · exact failsIn_ok _

theorem FrameworkKey.ofName_elsewhere (name : String) : FailsIn Elsewhere (ofName name) := by
  have dotted : ∀ text, FailsIn Elsewhere (dottedNumbers text) := by
    refine fun text => failsIn_mapM (fun part => ?_) _
    split
    · exact failsIn_ok _
    · exact failsIn_error nofun
  unfold ofName
  dsimp only
  split
  · exact (dotted _).map _
  · split
    · split
      · exact failsIn_ok _
      · exact failsIn_ok _
    · exact failsIn_ok _

theorem sortFrameworks_elsewhere (names : List String) :
    FailsIn Elsewhere (sortFrameworks names) :=
  (failsIn_mapM (fun name => (FrameworkKey.ofName_elsewhere name).map _) names).map _

end Package

namespace PackageStore

theorem listOrNone_elsewhere (fs : FileSystem) (path : Path) :
    FailsIn Elsewhere (listOrNone fs path) := by
  unfold listOrNone
  split
  · exact failsIn_ok _
  · exact failsIn_ok _
  · rename_i failure _ failed
    exact failsIn_error ((fs.list_checked path.text).fails.elsewhere failure failed)

theorem offered_elsewhere (fs : FileSystem) (root : Path) (wanted entry : String) :
    FailsIn Elsewhere (offered fs root wanted entry) := by
  refine (fs.isDirectory_fails _).elsewhere.bind fun there => ?_
  split
  · exact failsIn_ok _
  · split
    · exact (listOrNone_elsewhere fs _).map _
    · split
      · exact failsIn_ok _
      · exact failsIn_ok _

theorem versionsIn_elsewhere (fs : FileSystem) (root : Path) (name : String) :
    FailsIn Elsewhere (versionsIn fs root name) :=
  (listOrNone_elsewhere fs root).bind fun entries =>
    (failsIn_mapM (offered_elsewhere fs root _) entries).map _

theorem find_elsewhere (store : PackageStore) (fs : FileSystem) (package : PackageReference) :
    FailsIn Elsewhere (store.find fs package) := by
  have highest : ∀ installed, FailsIn Elsewhere (highest? installed) := by
    intro installed
    refine (failsIn_mapM (fun entry => ?_) installed).bind fun keyed => failsIn_ok _
    exact (Package.VersionKey.ofText_elsewhere entry.1).map _
  unfold find
  induction store.roots with
  | nil => exact failsIn_ok none
  | cons root rest ih =>
    -- whichever versions fit, the next root is asked or the highest of them is taken
    have next : ∀ fitting : List Installed, FailsIn Elsewhere
        (if fitting.isEmpty then findIn fs package rest else highest? fitting) := by
      intro fitting
      split
      · exact ih
      · exact highest fitting
    exact (versionsIn_elsewhere fs root package.name).bind fun installed => next _

theorem libraries_elsewhere (fs : FileSystem) (package : Path) :
    FailsIn Elsewhere (libraries fs package) := by
  have inside : ∀ directory, FailsIn Elsewhere (librariesIn fs directory) := by
    refine fun directory => (fs.list_checked directory.text).fails.elsewhere.bind fun names => ?_
    exact (failsIn_filterM (fun name => (fs.isFile_fails _).elsewhere.map _) names).map _
  refine (fs.isDirectory_fails _).elsewhere.bind fun there => ?_
  split
  · exact failsIn_ok _
  · refine (fs.list_checked _).fails.elsewhere.bind fun names => ?_
    refine (failsIn_filterM (fun name => (fs.isDirectory_fails _).elsewhere) names).bind
      fun folders => ?_
    refine (Package.sortFrameworks_elsewhere folders).bind fun frameworks => ?_
    exact (failsIn_mapM inside _).map _

theorem resolve_elsewhere (store : PackageStore) (packages : List PackageReference) :
    RunsFailIn Elsewhere (store.resolve Library.suppressDownloads packages) := by
  have obtain_ : ∀ package, RunsFailIn Elsewhere (store.obtain Library.suppressDownloads package) := by
    intro package
    refine (Action.ofHost_fails fun host => store.find_elsewhere host.files package).bind
      fun found => ?_
    split
    · exact runsFailIn_pure _
    · split
      · exact runsFailIn_pure _
      · exact runsFailIn_pure _
  refine (runsFailIn_mapM (fun package => ?_) packages).bind fun _ => runsFailIn_pure _
  unfold librariesOf
  split
  · exact runsFailIn_pure _
  · refine (obtain_ package).bind fun found => ?_
    split
    · exact runsFailIn_pure _
    · exact Action.ofHost_fails fun host => libraries_elsewhere host.files _

end PackageStore

/-! ### Candidates -/

namespace Library

theorem Gathering.onIndex_elsewhere {α : Type} {lookup : FileSystem → LibraryIndex.Lookup α}
    (fails : ∀ fs, RunsFailIn Elsewhere (lookup fs)) : RunsFailIn Elsewhere (onIndex lookup) :=
  fun (host, index) => fails host.files index

theorem ofSource_elsewhere {packages : Bool → Action (List String)}
    (fails : RunsFailIn Elsewhere (packages suppressDownloads)) (wanted : Wanted) (source : Source) :
    RunsFailIn Elsewhere (ofSource packages wanted source) := by
  cases source with
  | usedNamespace =>
    refine (runsFailIn_mapM (fun name => ?_) _).bind fun _ => runsFailIn_pure _
    refine (runsFailIn_of_ok fun state => ⟨state, rfl⟩).bind fun (_, index) => ?_
    dsimp only
    split
    · exact runsFailIn_pure _
    · exact (Gathering.onIndex_elsewhere fun fs => LibraryIndex.find_elsewhere fs name _).bind
        fun _ => runsFailIn_pure _
  | reference =>
    refine (runsFailIn_mapM (fun reference => ?_) _).bind fun _ => runsFailIn_pure _
    exact (Gathering.onIndex_elsewhere fun fs => LibraryIndex.find_elsewhere fs _ _).bind
      fun _ => runsFailIn_pure _
  | package => exact RunsFailIn.bind (fun (host, _) => fails host) fun _ => runsFailIn_pure _

end Library

open Library

theorem ClosureBuilder.candidates_elsewhere (p : ClosureBuilder.Prepared) :
    RunsFailIn Elsewhere (ClosureBuilder.candidates p) :=
  (runsFailIn_mapM (ofSource_elsewhere (p.packages.resolve_elsewhere p.graph.packages) _) _).bind
    fun _ => runsFailIn_pure _

/-! ### The worker -/

namespace Library

theorem Names.ofAnswer_elsewhere (answer : Json) : FailsIn Elsewhere (ofAnswer answer) := by
  refine (ofAnswer_fails answer).mono fun failure shape => ?_
  cases shape <;> nofun

theorem Deduplicator.askWorker_elsewhere (timeout : Json) (paths : List String) (host : Host) :
    FailsIn Elsewhere (askWorker timeout paths host) := by
  refine FailsIn.bind ?_ fun probe => ?_
  · unfold Probe.start
    split
    · exact failsIn_error nofun
    · exact failsIn_ok _
  · unfold Probe.identities
    split
    · exact failsIn_error nofun
    · split
      · exact failsIn_error nofun
      · split
        · exact failsIn_error nofun
        · split
          · exact Names.ofAnswer_elsewhere _
          · exact failsIn_error nofun
          · exact failsIn_error nofun

theorem Deduplicator.record_elsewhere (d : Deduplicator) (items : List Json) (host : Host) :
    RunsFailIn Elsewhere (d.record items host) := by
  cases d with
  | byFileName => exact runsFailIn_pure _
  | byDeclaredName timeout =>
    refine (runsFailIn_of_ok fun recorded => ⟨⟨⟩, rfl⟩).bind fun _ => ?_
    split
    · exact runsFailIn_pure _
    · have asked := askWorker_elsewhere timeout (items.map (·.shown.escaped)) host
      split
      · intro recorded
        unfold Recording.ofExcept firstByDeclaredName
        split
        · exact failsIn_ok _
        · exact failsIn_error nofun
      · exact (runsFailIn_of_ok fun recorded => ⟨⟨⟩, rfl⟩).bind fun _ => runsFailIn_pure _
      · exact (runsFailIn_of_ok fun recorded => ⟨⟨⟩, rfl⟩).bind fun _ => runsFailIn_pure _
      · rename_i failure _ _ failed
        exact runsFailIn_throw (asked failure failed)

end Library

/-! ### Closures -/

namespace ClosureBuilder

theorem prepare_clean (b : ClosureBuilder) (script : String) :
    CleanOn Failure.OfScript (b.prepare script) := by
  refine CleanOn.before (fun _ _ _ _ => rfl) fun (packages, graph) => ?_
  refine (b.searchPath_elsewhere graph).bind fun searchDirs => ?_
  exact (Script.materializeAll_fails _ graph).elsewhere.bind fun _ => runsFailIn_pure _

end ClosureBuilder

namespace ClosureService

theorem candidates_elsewhere (p : ClosureBuilder.Prepared) :
    RunsFailIn Elsewhere (candidates p) := by
  refine (runsFailIn_of_ok fun state => ⟨state, rfl⟩).bind fun (_, service) => ?_
  dsimp only
  split
  · exact fun (host, _) => ClosureBuilder.candidates_elsewhere p (host, _)
  · intro (host, _)
    have fresh : RunsFailIn Elsewhere (Action.ofExcept service.builder.freshIndex) :=
      fun _ => LibraryIndex.ofValues_elsewhere _ _
    exact (fresh.bind fun index host => ClosureBuilder.candidates_elsewhere p (host, index)) host

/-- A closure that fails for the script or one of its imports has left everything as it was. -/
theorem resolve_clean (script : String) : CleanOn Failure.OfScript (resolve script) := by
  refine CleanOn.after (fun _ => rfl) fun (_, service) => ?_
  refine CleanOn.before (fun (host, _) failure failed among => ?_) fun p => ?_
  · have clean := service.builder.prepare_clean script host failure failed among
    exact Prod.ext clean rfl
  · refine (candidates_elsewhere p).bind fun found => ?_
    refine RunsFailIn.bind (fun (host, service) =>
      Deduplicator.record_elsewhere _ _ host service.recorded) fun paths => ?_
    refine RunsFailIn.bind (runsFailIn_of_ok fun _ => ⟨_, rfl⟩) fun companion => ?_
    exact RunsFailIn.bind (runsFailIn_of_ok fun state => ⟨state, rfl⟩) fun _ => runsFailIn_pure _

end ClosureService

end ScriptDeps
