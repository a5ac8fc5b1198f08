import ScriptDeps.Proofs.Closure.Configured
import ScriptDeps.Proofs.Closure.OnePass
import ScriptDeps.Proofs.Closure.Opening
import ScriptDeps.Proofs.Closure.Sources
import ScriptDeps.Proofs.Library.Silent
import ScriptDeps.Proofs.Package.Numbers
import ScriptDeps.Proofs.SearchPath.GlobalDirs

/-!
# Surprises on the way to a closure

A closure is made in stages: the script is opened, its search path is settled, its imports are put
in place, libraries are gathered, and one is kept for each identity. For each stage it is said
exactly when it ends in a failure that no command foresees, and `surprises_resolve` puts the
stages together.
-/

namespace ScriptDeps

open Failure (OfFiles OfPath OfScript)

open Script

/-! ### Opening a script -/

/-- What opening a script can fail with. -/
inductive Failure.OfOpening : Failure → Prop
  | script {failure : Failure} (among : OfScript failure) : OfOpening failure
  | files {failure : Failure} (among : OfFiles failure) : OfOpening failure
  | homeless : OfOpening .homeless
  | nameless : OfOpening .namelessPath
  | tooDeep : OfOpening .importsTooDeep

open Failure (OfOpening)

theorem FailsIn.ofOpening {α : Type} {result : Except Failure α} (fails : FailsIn OfFiles result) :
    FailsIn OfOpening result :=
  fails.mono fun _ => .files

theorem Failure.OfOpening.foreseen_iff {failure : Failure} (among : OfOpening failure) :
    failure.isForeseen = true ↔ OfScript failure ∨ OfPath failure := by
  cases among with
  | script among => exact iff_of_true (by cases among <;> rfl) (Or.inl among)
  | files among =>
    cases among with
    | file fault path => exact iff_of_true rfl (Or.inr (.file fault path))
    | _ => exact iff_of_false nofun fun either => either.elim nofun nofun
  | _ => exact iff_of_false nofun fun either => either.elim nofun nofun

section

variable {fs : FileSystem}

theorem readScript_ofOpening (path : Path) : FailsIn OfOpening (readScript fs path) := by
  have fails := fs.readUnmarked_fails path.text
  unfold readScript
  split
  · exact failsIn_ok _
  · exact failsIn_error (.script (.unreadable _ _))
  · exact failsIn_error (.script (.unreadable _ _))
  · rename_i failure _ _ failed
    exact failsIn_error (.files (fails failure failed))

theorem scriptFile_ofOpening {path : Path} {content : String} {renamings : List Renaming}
    (dotted : Dotted renamings) : FailsIn OfOpening (scriptFile fs path content renamings) := by
  obtain ⟨generated, made⟩ := generate_returns dotted content
  rw [scriptFile, made, ok_bind]
  exact (failsIn_mapM (fun dir => (fs.resolvePath_fails _).ofOpening.map _) _).bind fun _ =>
    failsIn_ok _

theorem locate_ofOpening (dirs : List String) (importer : Path) (name : String) :
    FailsIn OfOpening (locate fs dirs importer name) := by
  have meant : ∀ name, FailsIn OfOpening (namesMeant name) := by
    intro name
    unfold namesMeant
    split
    · exact failsIn_ok _
    · split
      · exact failsIn_ok _
      · exact failsIn_error .nameless
  have probes : FailsIn OfOpening (probesFor dirs (.ofText name)) := by
    refine (meant _).bind fun names => ?_
    split
    · exact failsIn_ok _
    · exact failsIn_ok _
  refine probes.bind fun probes => (fs.firstFile?_fails probes).ofOpening.bind fun found => ?_
  cases found with
  | some path => exact (fs.resolvePath_fails path).ofOpening
  | none => exact failsIn_error (.script (.notFound _ _ _))

theorem ImportGraph.ofPath_ofOpening (extraDirs : List String) (path : Path) :
    FailsIn OfOpening (ofPath fs extraDirs path) := by
  intro failure failed
  obtain refused | ⟨root, parsed, s, comes, stops⟩ := ofPath_error_iff.mp failed
  · refine FailsIn.bind (readScript_ofOpening path) (fun content => ?_) failure refused
    exact scriptFile_ofOpening nofun
  · obtain ⟨content, _, parsed⟩ := bind_ok parsed
    have dotted : Dotted s.imported.renamings :=
      comes.imported (fun imported => Dotted imported.renamings) scriptFile_imports_dotted
        (scriptFile_imports_dotted parsed)
    cases stops with
    | lost missed => exact locate_ofOpening _ _ _ failure missed
    | tooDeep located spent => exact .tooDeep
    | unread located room refused => exact readScript_ofOpening _ failure refused
    | unparsed located room read new refused => exact scriptFile_ofOpening dotted failure refused

end

theorem openScript_ofOpening (packages : Option PackageStore) (extraDirs : List String)
    (script : String) (host : Host) :
    FailsIn OfOpening (openScript packages extraDirs script host) := by
  intro failure failed
  obtain refused | ⟨path, _, ⟨_, homeless⟩ | ⟨_, failed⟩⟩ := openScript_error_iff.mp failed
  · exact .files (host.files.resolvePath_fails _ failure refused)
  · have fails := (PackageStore.ofEnvironment_fails homeless).fails
    rw [Except.error.inj (homeless.symm.trans fails)]
    exact .homeless
  · exact ImportGraph.ofPath_ofOpening extraDirs path failure failed

theorem surprises_openScript {packages : Option PackageStore} {extraDirs : List String}
    {script : String} {host : Host} :
    Surprises (openScript packages extraDirs script host) ↔
      Escapes packages extraDirs script host ∧ ∀ fault path,
        openScript packages extraDirs script host ≠ .error (.file fault path) := by
  have kinds := openScript_ofOpening packages extraDirs script host
  rw [← openScript_elsewhere_iff]
  constructor
  · rintro ⟨failure, failed, surprise⟩
    have other := mt (kinds failure failed).foreseen_iff.mpr (by simp [surprise])
    refine ⟨⟨failure, failed, fun among => other (Or.inl among)⟩, fun fault path refused => ?_⟩
    obtain rfl := Except.error.inj (failed.symm.trans refused)
    exact other (Or.inr (.file fault path))
  · rintro ⟨⟨failure, failed, elsewhere⟩, unrefused⟩
    refine ⟨failure, failed, Bool.eq_false_iff.mpr fun foreseen => ?_⟩
    obtain among | ⟨fault, path⟩ := (kinds failure failed).foreseen_iff.mp foreseen
    · exact elsewhere among
    · exact unrefused fault path failed

/-! ### The search path -/

theorem SearchPath.surprises_listedDirs {fs : FileSystem} {environment : Environment}
    {file : String} : Surprises (listedDirs fs environment file) ↔ Undecodable fs file := by
  constructor
  · rintro ⟨failure, failed, surprise⟩
    refine (listedDirs_fails_iff.mp ⟨failure, failed⟩).resolve_left fun long => ?_
    -- whether the file is there is asked first, and that is refused by the file system only
    obtain ⟨other, refused⟩ := FileSystem.isFile_fails_iff.mpr long
    rw [listedDirs, refused, error_bind] at failed
    obtain rfl := Except.error.inj failed
    rw [(fs.isFile_refused file other refused).foreseen] at surprise
    cases surprise
  · rintro ⟨there, content, read, named⟩
    rw [listedDirs_of_content there read, surprises_map]
    obtain ⟨failure, failed⟩ := (listedText_fails_iff content).mpr named
    refine ⟨failure, failed, ?_⟩
    unfold listedText at failed
    split at failed <;> cases failed <;> rfl

theorem SearchPath.surprises_globalDirs {fs : FileSystem} {environment : Environment} :
    Surprises (globalDirs fs environment) ↔ ∃ root, engineRoot? environment = some root ∧
      Undecodable fs (settingsFile root) := by
  cases known : engineRoot? environment with
  | none =>
    rw [globalDirs, known]
    exact iff_of_false (surprises_ok _) (by simp)
  | some root =>
    rw [globalDirs_of_root known, surprises_map, surprises_listedDirs]
    simp

namespace Locations

variable {l : Locations}

theorem userScripts_fails (l : Locations) (environment : Environment) :
    FailsIn (· = .homeless) (l.userScripts environment) := by
  have documents : FailsIn (· = .homeless) (l.documents environment) := by
    unfold Locations.documents
    split
    · exact failsIn_ok _
    · exact (l.home_fails environment).map _
  exact documents.map _

/-- There is no telling where the user's scripts are: the environment names no home, or a directory
with a null character in its path. -/
inductive Nowhere (l : Locations) (environment : Environment) : Prop
  | homeless (homeless : l.userScripts environment = .error .homeless)
  | null {directory : Path} (named : l.userScripts environment = .ok directory)
      (null : '\x00' ∈ directory.text.toList)

theorem surprises_ensureUserScripts {host : Host} :
    Surprises (l.ensureUserScripts host).1 ↔ l.Nowhere host.environment := by
  have asked : ∀ directory : Path, Surprises ((do
      if !(← Action.ofHost (·.files.isPresent directory.text)) then
        Action.ensureDirectory directory
      return directory : Action Path) host).1 ↔ '\x00' ∈ directory.text.toList := by
    intro directory
    rw [surprises_ofHost_bind, or_iff_right ((host.files.isPresent_refused _).not_surprises
      fun _ => OfPath.foreseen)]
    constructor
    · rintro ⟨there, _, surprised⟩
      cases there with
      | true => exact absurd surprised (surprises_ok _)
      | false =>
        rw [Bool.not_false, if_pos rfl] at surprised
        obtain surprised | ⟨_, _, _, surprised⟩ := run_surprises_bind.mp surprised
        · exact Action.surprises_ensureDirectory.mp surprised
        · exact absurd surprised (surprises_ok _)
    · intro null
      refine ⟨false, ?_, ?_⟩
      · rw [FileSystem.isPresent, FileSystem.node?At, if_pos (by simpa using null)]
        rfl
      · rw [Bool.not_false, if_pos rfl]
        exact run_surprises_bind.mpr (Or.inl (Action.surprises_ensureDirectory.mpr null))
  rw [ensureUserScripts, surprises_ofHost_bind]
  simp only [asked]
  constructor
  · rintro (⟨failure, failed, _⟩ | ⟨directory, named, null⟩)
    · exact .homeless (userScripts_fails l _ failure failed ▸ failed)
    · exact .null named null
  · rintro (homeless | ⟨named, null⟩)
    · exact Or.inl ⟨_, homeless, rfl⟩
    · exact Or.inr ⟨_, named, null⟩

end Locations

namespace ClosureBuilder

variable {b : ClosureBuilder} {graph : ImportGraph} {host : Host}

/-- Settling the search path ends in a surprise: the engine's settings name an encoding that cannot
be had, or there is no telling where the user's scripts are. -/
inductive Misled (b : ClosureBuilder) (host : Host) : Prop
  | engine {root : String} (known : engineRoot? (b.engineEnv.getD host.environment) = some root)
      (undecodable : SearchPath.Undecodable host.files (SearchPath.settingsFile root))
  | user {shared : List String}
      (settled : SearchPath.globalDirs host.files (b.engineEnv.getD host.environment) = .ok shared)
      (nowhere : b.locations.Nowhere host.environment)

theorem surprises_searchPath :
    Surprises (b.searchPath graph host).1 ↔ b.Misled host := by
  rw [searchPath, surprises_ofHost_bind, SearchPath.surprises_globalDirs]
  simp only [run_surprises_map, Locations.surprises_ensureUserScripts]
  constructor
  · rintro (⟨root, known, undecodable⟩ | ⟨shared, settled, nowhere⟩)
    · exact .engine known undecodable
    · exact .user settled nowhere
  · rintro (⟨known, undecodable⟩ | ⟨settled, nowhere⟩)
    · exact Or.inl ⟨_, known, undecodable⟩
    · exact Or.inr ⟨_, settled, nowhere⟩

end ClosureBuilder

/-! ### Copies of imports -/

theorem FileSystem.isPresent_of_modifiedAt {fs : FileSystem} {path : String} {time : Int}
    (changed : fs.modifiedAt path = .ok time) : fs.isPresent path = .ok true := by
  obtain ⟨_, checked, changed⟩ := bind_ok changed
  obtain ⟨node, found, _⟩ := bind_ok changed
  have spoken := checkPath_spoken checked
  rw [isPresent, node?At, if_neg (by simpa using spoken), orFail_ok found]
  rfl

namespace Script

variable {fs : FileSystem} {cache : Path} {host : Host}

theorem surprises_isCurrent {copy source : Path} {text : String}
    (spoken : '\x00' ∉ copy.text.toList) (sourceSpoken : '\x00' ∉ source.text.toList) :
    Surprises (isCurrent fs copy source text) ↔
      UpToDate fs copy source ∧ fs.Illegible copy.text := by
  have foreseen : ∀ {α : Type} {result : Except Failure α}, FailsIn OfPath result →
      ¬Surprises result := fun refused => refused.not_surprises fun _ => OfPath.foreseen
  have copied := foreseen ((fs.modifiedAt_checked copy.text).refused spoken)
  have changed := foreseen ((fs.modifiedAt_checked source.text).refused sourceSpoken)
  have read : Surprises (do return (← fs.readText copy.text) == text) ↔ fs.Illegible copy.text := by
    rw [surprises_map, FileSystem.surprises_readText, or_iff_right spoken]
  unfold isCurrent
  -- The copy is only read once it and the file have told when they were changed.
  rw [surprises_bind, or_iff_right (foreseen (fs.isPresent_refused _))]
  constructor
  · rintro ⟨present, _, surprised⟩
    cases present with
    | false => exact absurd surprised (surprises_ok _)
    | true =>
      obtain surprised | ⟨copiedAt, one, surprised⟩ := surprises_bind.mp surprised
      · exact absurd surprised copied
      obtain surprised | ⟨changedAt, two, surprised⟩ := surprises_bind.mp surprised
      · exact absurd surprised changed
      split at surprised
      · exact absurd surprised (surprises_ok _)
      · rename_i order
        exact ⟨⟨copiedAt, changedAt, one, two, Int.not_lt.mp order⟩, read.mp surprised⟩
  · rintro ⟨⟨copiedAt, changedAt, one, two, order⟩, illegible⟩
    refine ⟨true, FileSystem.isPresent_of_modifiedAt one, ?_⟩
    simp only [one, two, ok_bind, Bool.not_true, Bool.false_eq_true, if_false,
      if_neg (Int.not_lt.mpr order)]
    exact read.mpr illegible

/-- Writing a copy anew, if it is not current, is refused by the file system only. -/
theorem not_surprises_renew {copy : Path} (spoken : '\x00' ∉ copy.text.toList) (text : String)
    (current : Bool) : ¬Surprises ((do
      if !current then
        Action.ensureDirectory copy.parent
        Action.writeText copy.text text
      return copy.text : Action String) host).1 := by
  intro surprised
  cases current with
  | true => exact surprises_ok _ surprised
  | false =>
    rw [Bool.not_false, if_pos rfl] at surprised
    obtain surprised | ⟨_, ready, _, surprised⟩ := run_surprises_bind.mp surprised
    · obtain ⟨name, member, null⟩ :=
        Path.null_mem_text.mp (Action.surprises_ensureDirectory.mp surprised)
      exact spoken (Path.null_mem_text.mpr ⟨name, List.mem_of_mem_dropLast member, null⟩)
    obtain surprised | ⟨_, _, _, surprised⟩ := run_surprises_bind.mp surprised
    · exact spoken ((Action.writeText_checked _ text ready).surprises_iff.mp surprised)
    · exact surprises_ok _ surprised

/-- An import with renamings has a copy that is up to date, and that copy is not UTF-8. -/
structure Spoiled (fs : FileSystem) (cache : Path) (file : ScriptFile) : Prop where
  renamed : file.generated.isSome = true
  recent : UpToDate fs (copyPath cache file) file.path
  illegible : fs.Illegible (copyPath cache file).text

theorem surprises_materialize {file : ScriptFile}
    (spoken : '\x00' ∉ (copyPath cache file).text.toList)
    (sourceSpoken : '\x00' ∉ file.path.text.toList) :
    Surprises (materialize cache file host).1 ↔ Spoiled host.files cache file := by
  cases made : file.generated with
  | none =>
    rw [materialize, made]
    refine iff_of_false (surprises_ok _) fun spoiled => ?_
    have renamed := spoiled.renamed
    rw [made] at renamed
    cases renamed
  | some text =>
    unfold materialize
    rw [made]
    dsimp only
    have renewed := @not_surprises_renew host _ spoken text
    have renamed : file.generated.isSome = true := by rw [made]; rfl
    rw [surprises_ofHost_bind, surprises_isCurrent spoken sourceSpoken, or_iff_left (by
      rintro ⟨current, _, surprised⟩
      exact renewed current surprised)]
    constructor
    · rintro ⟨recent, illegible⟩
      exact ⟨renamed, recent, illegible⟩
    · intro spoiled
      exact ⟨spoiled.recent, spoiled.illegible⟩

theorem copyDigits_spoken (path : String) (renamings : List Renaming) :
    '\x00' ∉ copyDigits path renamings := by
  have digits : ∀ byte : Fin 256, '\x00' ∉ Text.hexDigits 2 byte := by decide +kernel
  intro null
  obtain ⟨byte, _, null⟩ := List.mem_flatMap.mp (List.mem_of_mem_take null)
  exact digits ⟨byte.toNat, byte.toNat_lt⟩ null

theorem copyPath_spoken {file : ScriptFile} (cacheSpoken : '\x00' ∉ cache.text.toList)
    (spoken : '\x00' ∉ file.path.text.toList) : '\x00' ∉ (copyPath cache file).text.toList := by
  have name : '\x00' ∉ file.path.name.toList := by
    intro null
    unfold Path.name at null
    cases last : file.path.names.getLast? with
    | none => rw [last] at null; cases null
    | some name =>
      rw [last] at null
      exact spoken (Path.null_mem_text.mpr ⟨name, List.mem_of_getLast? last, null⟩)
  -- A copy is named by the two parts of the file's name, with digits between them.
  rw [← cutName_append file.path.name.toList, List.mem_append, not_or] at name
  intro null
  have named := (Path.null_mem_child null).resolve_left cacheSpoken
  simp only [String.toList_append, String.toList_ofList, List.mem_append, Path.stem, Path.suffix,
    name.1, name.2, copyDigits_spoken, or_false, false_or] at named
  exact absurd named (by decide)

theorem ReadFrom.spoken {file : ScriptFile} (read : ReadFrom fs file) :
    '\x00' ∉ file.path.text.toList := by
  obtain ⟨_, content, read, _⟩ := read
  intro null
  have refused : ∃ failure, readScript fs file.path = .error failure ∧ failure.Elsewhere :=
    readScript_elsewhere_iff.mpr null
  obtain ⟨failure, failed, _⟩ := refused
  cases failed.symm.trans read

/-- Putting the imports of a script in place ends in a surprise exactly at an import whose copy is
spoiled when it is come to. -/
theorem surprises_materializeAll {graph : ImportGraph} {origin : FileSystem}
    (cacheSpoken : '\x00' ∉ cache.text.toList) (read : ∀ file ∈ graph.imports, ReadFrom origin file) :
    Surprises (materializeAll cache graph host).1 ↔ ∃ before file after saved reached,
      graph.imports = before ++ file :: after ∧
        before.mapM (materialize cache) host = (.ok saved, reached) ∧
        Spoiled reached.files cache file := by
  rw [materializeAll, run_surprises_map, run_surprises_mapM]
  refine exists_congr fun before => exists_congr fun file => exists_congr fun after =>
    exists_congr fun saved => exists_congr fun reached => and_congr_right fun same =>
      and_congr_right fun _ => ?_
  have spoken := (read file (same ▸ List.mem_append_right before List.mem_cons_self)).spoken
  exact surprises_materialize (copyPath_spoken cacheSpoken spoken) spoken

end Script

/-! ### Telling libraries apart -/

namespace Library.Deduplicator

variable {host : Host} {paths : List String}

theorem askWorker_fails (timeout : Json) (paths : List String) (host : Host) :
    FailsIn (fun failure => failure.isCaught = true ∨ failure.isForeseen = false)
      (askWorker timeout paths host) := by
  have start : FailsIn (fun failure => failure.isCaught = true ∨ failure.isForeseen = false)
      (Probe.start { timeout } host.worker) := by
    unfold Probe.start
    split
    · exact failsIn_error (Or.inl rfl)
    · exact failsIn_ok _
  refine start.bind fun probe => ?_
  unfold Probe.identities
  split
  · exact failsIn_error (Or.inl rfl)
  · split
    · exact failsIn_error (Or.inl rfl)
    · split
      · exact failsIn_error (Or.inl rfl)
      · split
        -- An answer that is JSON, but no list of reports, is what no handler is there for.
        · exact (Names.ofAnswer_fails _).mono fun failure shape => Or.inr (by cases shape <;> rfl)
        · exact failsIn_error (Or.inr rfl)
        · exact failsIn_error (Or.inl rfl)

/-- No deduplicator fails in a way that a command foresees: what is not caught is a surprise. -/
theorem dedupe_fails (d : Deduplicator) (paths : List String) (host : Host) :
    FailsIn (·.isForeseen = false) (d.dedupe (itemsOf paths) host) := by
  cases d with
  | byFileName =>
    rw [dedupe_byFileName]
    exact failsIn_ok _
  | byDeclaredName timeout =>
    by_cases asked : paths = []
    · subst asked
      exact failsIn_ok _
    rcases ran : recordByWorker timeout paths host .load with ⟨result, recorded⟩
    rw [dedupe_byDeclaredName ran]
    have fails : FailsIn (·.isForeseen = false) result := by
      rw [recordByWorker_asked asked] at ran
      cases answered : askWorker timeout paths host with
      | ok names =>
        rw [answered] at ran
        obtain ⟨rfl, -⟩ := Prod.mk.inj ran
        unfold firstByDeclaredName
        split
        · exact failsIn_ok _
        · exact failsIn_error rfl
      | error failure =>
        have kinds := askWorker_fails timeout paths host failure answered
        rw [answered] at ran
        dsimp only at ran
        split at ran
        · obtain ⟨rfl, -⟩ := Prod.mk.inj ran
          exact failsIn_ok _
        · rename_i uncaught
          obtain ⟨rfl, -⟩ := Prod.mk.inj ran
          exact failsIn_error (kinds.resolve_left uncaught)
    exact fails.map _

theorem surprises_dedupe {d : Deduplicator} :
    Surprises (d.dedupe (itemsOf paths) host) ↔
      d.strategy = .load ∧ paths ≠ [] ∧ Garbles host paths := by
  rw [surprises_iff_not_returns (dedupe_fails d paths host)]
  cases d with
  | byFileName =>
    rw [dedupe_byFileName]
    exact iff_of_false (fun none => none ⟨_, rfl⟩) nofun
  | byDeclaredName timeout =>
    rw [byDeclaredName_returns_iff, Classical.not_imp]
    exact ⟨fun ⟨garbles, asked⟩ => ⟨rfl, asked, garbles⟩, fun ⟨_, asked, garbles⟩ => ⟨garbles, asked⟩⟩

end Library.Deduplicator

/-! ### Resolving a script -/

namespace ClosureBuilder

open Library

variable {b : ClosureBuilder} {companion : Companion} {script : String} {host later : Host}
  {p : Prepared} {index : LibraryIndex}

/-- What is looked for on behalf of a script that has been read. -/
def Prepared.wanted (p : Prepared) : Wanted where
  namespaces := p.graph.namespaces
  ignored := p.graph.ignored
  references := p.graph.references
  searchDirs := p.searchDirs

/-- Gathering candidates leaves the host as it is, and their paths are those of a plain pass. -/
theorem startingFrom_candidates (start : index.Remembers host.files index) :
    ∃ result, Gathering.startingFrom index (candidates p) host = (result, host) ∧
      (do return (← result).map Candidate.path) =
        (do return distinct (← plainPaths p index host)) := by
  let packages : Bool → Action (List String) := fun suppress =>
    p.packages.resolve suppress p.graph.packages
  have quiet : (packages suppressDownloads host).2 = host :=
    (p.packages.resolve_moves (R := Eq) p.graph.packages host).symm
  obtain ⟨next, gathered, unchanged, _⟩ :=
    @gather_yields index host p.wanted packages quiet start Source.all (host, index) ⟨rfl, start, rfl⟩
  have gathered : candidates p (host, index) = (_, next) := gathered
  refine ⟨_, by rw [Gathering.startingFrom, gathered]; exact Prod.ext rfl unchanged, ?_⟩
  rw [bind_assoc]
  exact sourcesAlone_paths packages index host p.wanted

/-- Gathering the libraries of a script ends in a surprise: at a name that is looked up in a
directory with a null character, or at a package whose libraries cannot be told. -/
inductive Bewildered (p : Prepared) (index : LibraryIndex) (host : Host) : Prop
  | name {before : List String} {name : String} {after : List String}
      (names : p.wanted.names index = before ++ name :: after)
      (returned : ∀ other ∈ before, ∃ found,
        index.lookUp host.files other p.searchDirs = .ok found)
      (silences : index.Silences host.files p.searchDirs name) : Bewildered p index host
  | package {before : List PackageReference} {package : PackageReference}
      {after : List PackageReference}
      (looked : ∀ name ∈ p.wanted.names index, ∃ found,
        index.lookUp host.files name p.searchDirs = .ok found)
      (packages : p.graph.packages = before ++ package :: after)
      (returned : ∀ other ∈ before, ∃ libraries,
        PackageStore.installed p.packages.roots host.files other = .ok libraries)
      (untold : PackageStore.Untold p.packages.roots host.files package) :
      Bewildered p index host

theorem surprises_plainPaths (start : index.Remembers host.files index) :
    Surprises (plainPaths p index host) ↔ Bewildered p index host := by
  have stored : Surprises (p.packages.resolve suppressDownloads p.graph.packages host).1 ↔
      Surprises (PackageStore.allInstalled p.packages.roots host.files p.graph.packages) := by
    rw [suppressDownloads, PackageStore.resolve_suppressed]
    rfl
  change Surprises (plainPass _ index host p.wanted) ↔ _
  rw [surprises_plainPass start, stored, PackageStore.surprises_allInstalled]
  constructor
  · rintro (⟨before, name, after, names, returned, silences⟩ |
      ⟨looked, before, package, after, packages, returned, untold⟩)
    · exact .name names returned silences
    · exact .package looked packages returned untold
  · rintro (⟨names, returned, silences⟩ | ⟨looked, packages, returned, untold⟩)
    · exact Or.inl ⟨_, _, _, names, returned, silences⟩
    · exact Or.inr ⟨looked, _, _, _, packages, returned, untold⟩

/-- Resolving a script ends in a surprise: when it is opened, when its search path is settled, at a
copy of an import, for the builder's values, when libraries are gathered, or when they are told
apart. -/
inductive Surprised (b : ClosureBuilder) (script : String) (host : Host) : Prop
  | opening (escapes : Escapes b.packages [] script host)
      (unrefused : ∀ fault path,
        openScript b.packages [] script host ≠ .error (.file fault path)) : Surprised b script host
  | searching {packages : PackageStore} {graph : ImportGraph}
      (opened : openScript b.packages [] script host = .ok (packages, graph))
      (misled : b.Misled host) : Surprised b script host
  | copying {packages : PackageStore} {graph : ImportGraph} {dirs : List String}
      {searched reached : Host} {before : List ScriptFile} {file : ScriptFile}
      {after : List ScriptFile} {saved : List String}
      (opened : openScript b.packages [] script host = .ok (packages, graph))
      (settled : b.searchPath graph host = (.ok dirs, searched))
      (imports : graph.imports = before ++ file :: after)
      (copied : before.mapM (materialize b.locations.importsCache) searched = (.ok saved, reached))
      (spoiled : Spoiled reached.files b.locations.importsCache file) : Surprised b script host
  | values {p : Prepared} {later : Host} (prepared : b.prepare script host = (.ok p, later))
      (unusable : ¬LibraryIndex.Usable b.extensions b.ignored) : Surprised b script host
  | gathering {p : Prepared} {later : Host} {index : LibraryIndex}
      (prepared : b.prepare script host = (.ok p, later)) (made : b.freshIndex = .ok index)
      (bewildered : Bewildered p index later) : Surprised b script host
  | telling {p : Prepared} {later : Host} {index : LibraryIndex} {paths : List String}
      (prepared : b.prepare script host = (.ok p, later)) (made : b.freshIndex = .ok index)
      (plain : plainPaths p index later = .ok paths) (asked : b.deduplicator.strategy = .load)
      (some : paths ≠ []) (garbles : Deduplicator.Garbles later (distinct paths)) :
      Surprised b script host

theorem surprises_prepare (spoken : '\x00' ∉ b.locations.importsCache.text.toList) :
    Surprises (b.prepare script host).1 ↔
      Surprises (openScript b.packages [] script host) ∨ ∃ packages graph,
        openScript b.packages [] script host = .ok (packages, graph) ∧
          (b.Misled host ∨ ∃ dirs searched, b.searchPath graph host = (.ok dirs, searched) ∧
            ∃ before file after saved reached, graph.imports = before ++ file :: after ∧
              before.mapM (materialize b.locations.importsCache) searched = (.ok saved, reached) ∧
              Spoiled reached.files b.locations.importsCache file) := by
  rw [prepare, surprises_ofHost_bind, Prod.exists]
  refine or_congr_right (exists_congr fun packages => exists_congr fun graph =>
    and_congr_right fun opened => ?_)
  obtain ⟨path, _, made⟩ := openScript_ok opened
  rw [run_surprises_bind, surprises_searchPath]
  refine or_congr_right (exists_congr fun dirs => exists_congr fun searched =>
    and_congr_right fun _ => ?_)
  rw [run_surprises_map]
  exact surprises_materializeAll spoken (within_readFrom made)

theorem surprises_freshIndex :
    Surprises b.freshIndex ↔ ¬LibraryIndex.Usable b.extensions b.ignored := by
  have fails : FailsIn (·.isForeseen = false) b.freshIndex :=
    (LibraryIndex.ofValues_fails _ _).mono fun failure among => by
      rcases among with rfl | rfl <;> rfl
  rw [surprises_iff_not_returns fails]
  exact not_congr LibraryIndex.ofValues_returns_iff

theorem surprises_finish {found : List Candidate} :
    Surprises (b.finish companion p found host).1 ↔ b.deduplicator.strategy = .load ∧
      found.map Candidate.path ≠ [] ∧
        Deduplicator.Garbles host (found.map Candidate.path) := by
  rw [finish, surprises_ofHost_bind, ← Deduplicator.surprises_dedupe, Deduplicator.itemsOf,
    List.map_map]
  refine or_iff_left ?_
  rintro ⟨_, _, surprised⟩
  exact surprises_ok _ surprised

/-- What is left to do once a script has been read and an index made. -/
theorem surprises_gather (made : b.freshIndex = .ok index) :
    Surprises ((do
      let found ← Gathering.startingFrom index (candidates p)
      b.finish companion p found) host).1 ↔
    Bewildered p index host ∨ ∃ paths, plainPaths p index host = .ok paths ∧
      b.deduplicator.strategy = .load ∧ paths ≠ [] ∧
        Deduplicator.Garbles host (distinct paths) := by
  obtain ⟨extensions, ignored, rfl⟩ := freshIndex_ok made
  have start := @LibraryIndex.remembers_fresh host.files extensions ignored
  obtain ⟨result, ran, same⟩ := startingFrom_candidates (p := p) start
  rw [← surprises_plainPaths start, surprises_bind_of_run ran,
    ← @surprises_map _ _ result (List.map Candidate.path), same, surprises_map]
  refine or_congr_right ?_
  cases plain : plainPaths p (.fresh extensions ignored) host with
  | error failure =>
    rw [plain] at same
    obtain rfl : result = .error failure := by cases result <;> cases same; rfl
    simp
  | ok listed =>
    rw [plain] at same
    obtain ⟨found, rfl, paths⟩ : ∃ found, result = .ok found ∧ found.map Candidate.path =
        distinct listed := by
      cases result with
      | error failure => cases same
      | ok found => exact ⟨found, rfl, Except.ok.inj same⟩
    have some : distinct listed ≠ [] ↔ listed ≠ [] := by
      simp [List.eq_nil_iff_forall_not_mem, mem_distinct]
    simp only [Except.ok.injEq, exists_eq_left', surprises_finish, paths, some]

/-- Resolving a script ends in a surprise exactly in the ways that `Surprised` lists. -/
theorem surprises_resolve (spoken : '\x00' ∉ b.locations.importsCache.text.toList) :
    Surprises (b.resolve companion script host).1 ↔ b.Surprised script host := by
  have later : ∀ p later, Surprises ((do
      let index ← Action.ofExcept b.freshIndex
      let found ← Gathering.startingFrom index (candidates p)
      b.finish companion p found) later).1 ↔
        ¬LibraryIndex.Usable b.extensions b.ignored ∨ ∃ index, b.freshIndex = .ok index ∧
          (Bewildered p index later ∨ ∃ paths, plainPaths p index later = .ok paths ∧
            b.deduplicator.strategy = .load ∧ paths ≠ [] ∧
              Deduplicator.Garbles later (distinct paths)) := by
    intro p later
    have made : Action.ofExcept b.freshIndex later = (b.freshIndex, later) := rfl
    rw [surprises_bind_of_run made, surprises_freshIndex]
    exact or_congr_right (exists_congr fun index => and_congr_right surprises_gather)
  rw [resolve, run_surprises_bind, surprises_prepare spoken, surprises_openScript]
  simp only [later]
  constructor
  · rintro ((⟨escapes, unrefused⟩ | ⟨packages, graph, opened, misled | ⟨dirs, searched, settled,
      before, file, after, saved, reached, imports, copied, spoiled⟩⟩) | ⟨p, later, prepared,
      unusable | ⟨index, made, bewildered | ⟨paths, plain, asked, some, garbles⟩⟩⟩)
    · exact .opening escapes unrefused
    · exact .searching opened misled
    · exact .copying opened settled imports copied spoiled
    · exact .values prepared unusable
    · exact .gathering prepared made bewildered
    · exact .telling prepared made plain asked some garbles
  · intro surprised
    cases surprised with
    | opening escapes unrefused => exact Or.inl (Or.inl ⟨escapes, unrefused⟩)
    | searching opened misled => exact Or.inl (Or.inr ⟨_, _, opened, Or.inl misled⟩)
    | copying opened settled imports copied spoiled =>
      exact Or.inl (Or.inr ⟨_, _, opened, Or.inr ⟨_, _, settled, _, _, _, _, _, imports, copied,
        spoiled⟩⟩)
    | values prepared unusable => exact Or.inr ⟨_, _, prepared, Or.inl unusable⟩
    | gathering prepared made bewildered =>
      exact Or.inr ⟨_, _, prepared, Or.inr ⟨_, made, Or.inl bewildered⟩⟩
    | telling prepared made plain asked some garbles =>
      exact Or.inr ⟨_, _, prepared, Or.inr ⟨_, made, Or.inr ⟨_, plain, asked, some, garbles⟩⟩⟩

end ClosureBuilder

end ScriptDeps
