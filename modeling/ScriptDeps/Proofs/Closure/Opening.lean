import ScriptDeps.Proofs.Script.ImportTrace
import ScriptDeps.Proofs.Script.Termination
import ScriptDeps.Proofs.Script.Tripping

/-!
# Opening scripts

A script that is opened should fail only because it or one of its imports cannot be read or found.
`Escapes` lists the other ways: links that lead back to themselves, null characters, no home to take
packages from, and an import that trips. Nothing else makes it fail differently.
-/

namespace ScriptDeps

open Failure (OfScript Elsewhere)

open Script

/-! ### Without a home -/

theorem homeDirectory_fails (environment : Environment) :
    FailsIn (· = .homeless) (homeDirectory environment) := by
  unfold homeDirectory
  dsimp only
  split
  · exact failsIn_error rfl
  · exact failsIn_ok _
  · exact failsIn_ok _

theorem Locations.home_fails (l : Locations) (environment : Environment) :
    FailsIn (· = .homeless) (l.home environment) := by
  unfold home
  split
  · exact failsIn_ok _
  · exact homeDirectory_fails environment

/-- There are packages to be taken from home, but no home. -/
structure Homeless (environment : Environment) : Prop where
  unset : environment.getSome? "NUGET_PACKAGES" = none
  home : homeDirectory environment = .error .homeless

theorem Homeless.fails {environment : Environment} (homeless : Homeless environment) :
    PackageStore.ofEnvironment environment = .error .homeless := by
  rw [PackageStore.ofEnvironment, defaultPackageRoots, homeless.unset, homeless.home]
  rfl

theorem PackageStore.ofEnvironment_fails {environment : Environment} {failure : Failure}
    (failed : PackageStore.ofEnvironment environment = .error failure) :
    Homeless environment := by
  unfold PackageStore.ofEnvironment defaultPackageRoots at failed
  cases set : environment.getSome? "NUGET_PACKAGES" with
  | some root => rw [set] at failed; cases failed
  | none =>
    cases home : homeDirectory environment with
    | ok path => rw [set, home] at failed; cases failed
    | error other => exact ⟨set, homeDirectory_fails environment other home ▸ home⟩

/-! ### Opening a script -/

/-- Why opening a script fails although it and its imports can be read and found, or breaks off
before that is known. -/
inductive Escapes (packages : Option PackageStore) (extraDirs : List String) (script : String)
    (host : Host) : Prop
  | lost (lost : host.files.Unresolvable (.ofText script))
  | homeless (own : packages = none) (homeless : Homeless host.environment)
  | null {path : Path} (resolved : host.files.resolvePath (.ofText script) = .ok path)
      (null : '\x00' ∈ path.text.toList)
  | undirected {path : Path} {content : String}
      (resolved : host.files.resolvePath (.ofText script) = .ok path)
      (read : readScript host.files path = .ok content)
      (lost : Undirected host.files path content [])
  | trips {path : Path} {root : ScriptFile} {s : Standing}
      (resolved : host.files.resolvePath (.ofText script) = .ok path)
      (parsed : ImportGraph.rootFile host.files path = .ok root)
      (comes : ComesTo host.files extraDirs maxDepth root root.directives.imports
        (({} : Traversal).enter root) s)
      (trips : Trips host.files extraDirs s)

theorem ImportGraph.ofPath_error_iff {fs : FileSystem} {extraDirs : List String} {path : Path}
    {failure : Failure} :
    ofPath fs extraDirs path = .error failure ↔ rootFile fs path = .error failure ∨
      ∃ root, rootFile fs path = .ok root ∧ ∃ s,
        ComesTo fs extraDirs maxDepth root root.directives.imports
          (({} : Traversal).enter root) s ∧ StopsWith fs extraDirs s failure := by
  rw [ofPath, within_eq, bind_error_iff]
  refine or_congr_right (exists_congr fun root => and_congr_right fun parsed => ?_)
  rw [← followImports_error_iff]
  change (do
    (followFrom fs extraDirs maxDepth root).1
    return (⟨root, (followFrom fs extraDirs maxDepth root).2.finished⟩ : ImportGraph)) = _ ↔
      (followFrom fs extraDirs maxDepth root).1 = _
  cases (followFrom fs extraDirs maxDepth root).1 with
  | ok done => exact ⟨nofun, nofun⟩
  | error other => simp

theorem ImportGraph.rootFile_elsewhere_iff {fs : FileSystem} {path : Path} :
    (∃ failure, rootFile fs path = .error failure ∧ failure.Elsewhere) ↔
      '\x00' ∈ path.text.toList ∨
        ∃ content, readScript fs path = .ok content ∧ Undirected fs path content [] := by
  have plain : Dotted [] := nofun
  rw [← readScript_elsewhere_iff]
  constructor
  · rintro ⟨failure, failed, other⟩
    obtain refused | ⟨content, read, refused⟩ := bind_error_iff.mp failed
    · exact Or.inl ⟨failure, refused, other⟩
    · exact Or.inr ⟨content, read, (scriptFile_fails_iff plain).mp ⟨failure, refused⟩⟩
  · rintro (⟨failure, refused, other⟩ | ⟨content, read, lost⟩)
    · exact ⟨failure, bind_error_iff.mpr (Or.inl refused), other⟩
    · obtain ⟨failure, refused⟩ := (scriptFile_fails_iff plain).mpr lost
      exact ⟨failure, bind_error_iff.mpr (Or.inr ⟨content, read, refused⟩),
        scriptFile_elsewhere plain failure refused⟩

theorem ImportGraph.ofPath_elsewhere_iff {fs : FileSystem} {extraDirs : List String}
    {path : Path} :
    (∃ failure, ofPath fs extraDirs path = .error failure ∧ failure.Elsewhere) ↔
      (∃ failure, rootFile fs path = .error failure ∧ failure.Elsewhere) ∨
        ∃ root, rootFile fs path = .ok root ∧ ∃ s,
          ComesTo fs extraDirs maxDepth root root.directives.imports
            (({} : Traversal).enter root) s ∧ Trips fs extraDirs s := by
  have dotted : ∀ {root s}, rootFile fs path = .ok root →
      ComesTo fs extraDirs maxDepth root root.directives.imports (({} : Traversal).enter root) s →
      Dotted s.imported.renamings := by
    intro root s parsed comes
    obtain ⟨_, _, parsed⟩ := bind_ok parsed
    exact comes.imported (fun imported => Dotted imported.renamings) scriptFile_imports_dotted
      (scriptFile_imports_dotted parsed)
  constructor
  · rintro ⟨failure, failed, other⟩
    obtain refused | ⟨root, parsed, s, comes, stops⟩ := ofPath_error_iff.mp failed
    · exact Or.inl ⟨failure, refused, other⟩
    · have trips := (stopsWith_elsewhere_iff (dotted parsed comes)).mp ⟨failure, stops, other⟩
      exact Or.inr ⟨root, parsed, s, comes, trips⟩
  · rintro (⟨failure, refused, other⟩ | ⟨root, parsed, s, comes, trips⟩)
    · exact ⟨failure, ofPath_error_iff.mpr (Or.inl refused), other⟩
    · obtain ⟨failure, stops, other⟩ := (stopsWith_elsewhere_iff (dotted parsed comes)).mpr trips
      exact ⟨failure, ofPath_error_iff.mpr (Or.inr ⟨root, parsed, s, comes, stops⟩), other⟩

theorem openScript_error_iff {packages : Option PackageStore} {extraDirs : List String}
    {script : String} {host : Host} {failure : Failure} :
    openScript packages extraDirs script host = .error failure ↔
      host.files.resolvePath (.ofText script) = .error failure ∨
        ∃ path, host.files.resolvePath (.ofText script) = .ok path ∧
          (packages = none ∧ PackageStore.ofEnvironment host.environment = .error failure ∨
            (packages = none → ∃ store, PackageStore.ofEnvironment host.environment = .ok store) ∧
              ImportGraph.ofPath host.files extraDirs path = .error failure) := by
  rw [openScript, bind_error_iff]
  refine or_congr_right (exists_congr fun path => and_congr_right fun resolved => ?_)
  have read : ∀ store : PackageStore, (do
      return (store, ← ImportGraph.ofPath host.files extraDirs path) :
        Except Failure (PackageStore × ImportGraph)) = .error failure ↔
      ImportGraph.ofPath host.files extraDirs path = .error failure := by
    intro store
    cases ImportGraph.ofPath host.files extraDirs path with
    | ok graph => exact ⟨nofun, nofun⟩
    | error other => simp
  cases packages with
  | some store => simpa using read store
  | none =>
    cases PackageStore.ofEnvironment host.environment with
    | ok store => simpa using read store
    | error other => simp

/-- With the script's place and a store settled, what escapes lies in the script or an import. -/
theorem Escapes.unread {packages : Option PackageStore} {extraDirs : List String}
    {script : String} {host : Host} {path : Path}
    (escapes : Escapes packages extraDirs script host)
    (resolved : host.files.resolvePath (.ofText script) = .ok path)
    (home : ¬(packages = none ∧ Homeless host.environment)) :
    (∃ failure, ImportGraph.rootFile host.files path = .error failure ∧ failure.Elsewhere) ∨
      ∃ root, ImportGraph.rootFile host.files path = .ok root ∧ ∃ s,
        ComesTo host.files extraDirs maxDepth root root.directives.imports
          (({} : Traversal).enter root) s ∧ Trips host.files extraDirs s := by
  have same : ∀ {other}, host.files.resolvePath (.ofText script) = .ok other → other = path :=
    fun also => Except.ok.inj (also.symm.trans resolved)
  cases escapes with
  | lost lost =>
    obtain ⟨failure, failed⟩ := FileSystem.resolvePath_fails_iff.mpr lost
    cases failed.symm.trans resolved
  | homeless own homeless => exact absurd ⟨own, homeless⟩ home
  | null also null =>
    exact Or.inl (ImportGraph.rootFile_elsewhere_iff.mpr (Or.inl (same also ▸ null)))
  | undirected also read lost =>
    obtain rfl := same also
    exact Or.inl (ImportGraph.rootFile_elsewhere_iff.mpr (Or.inr ⟨_, read, lost⟩))
  | trips also parsed comes trips =>
    obtain rfl := same also
    exact Or.inr ⟨_, parsed, _, comes, trips⟩

theorem openScript_elsewhere_iff {packages : Option PackageStore} {extraDirs : List String}
    {script : String} {host : Host} :
    (∃ failure, openScript packages extraDirs script host = .error failure ∧
      failure.Elsewhere) ↔ Escapes packages extraDirs script host := by
  constructor
  · rintro ⟨failure, failed, other⟩
    obtain refused | ⟨path, resolved, ⟨own, homeless⟩ | ⟨_, failed⟩⟩ :=
      openScript_error_iff.mp failed
    · exact .lost (FileSystem.resolvePath_fails_iff.mp ⟨failure, refused⟩)
    · exact .homeless own (PackageStore.ofEnvironment_fails homeless)
    · obtain root | ⟨root, parsed, s, comes, trips⟩ :=
        ImportGraph.ofPath_elsewhere_iff.mp ⟨failure, failed, other⟩
      · obtain null | ⟨content, read, lost⟩ := ImportGraph.rootFile_elsewhere_iff.mp root
        · exact .null resolved null
        · exact .undirected resolved read lost
      · exact .trips resolved parsed comes trips
  · intro escapes
    cases resolved : host.files.resolvePath (.ofText script) with
    | error failure =>
      exact ⟨failure, openScript_error_iff.mpr (Or.inl resolved),
        (host.files.resolvePath_fails _).elsewhere failure resolved⟩
    | ok path =>
      -- without a home nothing is read
      by_cases homeless : packages = none ∧ Homeless host.environment
      · exact ⟨.homeless, openScript_error_iff.mpr (Or.inr ⟨path, resolved,
          Or.inl ⟨homeless.1, homeless.2.fails⟩⟩), nofun⟩
      have settled : packages = none →
          ∃ store, PackageStore.ofEnvironment host.environment = .ok store := by
        intro own
        cases made : PackageStore.ofEnvironment host.environment with
        | ok store => exact ⟨store, rfl⟩
        | error failure => exact absurd ⟨own, PackageStore.ofEnvironment_fails made⟩ homeless
      obtain ⟨failure, failed, other⟩ := ImportGraph.ofPath_elsewhere_iff.mpr
        (escapes.unread resolved homeless)
      exact ⟨failure, openScript_error_iff.mpr (Or.inr ⟨path, resolved,
        Or.inr ⟨settled, failed⟩⟩), other⟩

/-- A script that imports a file without a name. -/
def namelessHost : Host where
  files := {
    nodes := [
      (["w"], .directory false),
      (["a.cs", "w"], .file "//css_inc \"\"".toUTF8 0 false)]
    workingDirectory := [] }
  environment := [("HOME", "/home/user")]
  modules := []
  worker := .missing

end ScriptDeps
