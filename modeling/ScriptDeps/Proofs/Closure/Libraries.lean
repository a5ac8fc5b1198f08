import ScriptDeps.Proofs.Closure.Effects
import ScriptDeps.Proofs.Library.Fallback

/-!
# The libraries of a closure

However the worker fares, the libraries that are kept have different identities under the strategy
that is reported. The companion library is put after them unasked, so it may repeat one of them.
-/

namespace ScriptDeps

open Library

namespace Library

/-! ### Identities -/

/-- What tells a library from others under a strategy, if anything does. -/
def Strategy.identity (strategy : Strategy) (fs : FileSystem) : String → Option String :=
  match strategy with
  | filename => fileIdentity
  | load => declaredName? fs

namespace Deduplicator

variable {host : Host} {paths : List String}

theorem firstByFileName_eq (paths : List String) :
    firstByFileName paths = firstOfEach fileIdentity paths :=
  keepFirst_eq_firstOfEach fileIdentity paths

/-- The paths kept are the first ones for each identity under the strategy that is reported. -/
theorem dedupe_kept (own : ∀ output, host.worker ≠ .writes output) (d : Deduplicator)
    {deduped : Deduped}
    (done : d.dedupe (itemsOf paths) host = .ok deduped) :
    deduped.paths = firstOfEach (deduped.used.identity host.files) paths := by
  cases d with
  | byFileName =>
    rw [dedupe_byFileName] at done
    obtain rfl := Except.ok.inj done
    exact firstByFileName_eq paths
  | byDeclaredName timeout =>
    by_cases asked : paths = []
    · subst asked
      obtain rfl := Except.ok.inj done
      rfl
    by_cases answering : host.worker = .answers ∧ ∀ path ∈ paths, '\x00' ∉ path.toList
    · rw [dedupe_byDeclaredName (recordByWorker_answers answering.1 answering.2 timeout .load)] at done
      obtain rfl := Except.ok.inj done
      rfl
    · have unheard := unheard_of_own own answering
      rw [dedupe_byDeclaredName (recordByWorker_unheard asked unheard timeout .load)] at done
      obtain rfl := Except.ok.inj done
      exact firstByFileName_eq paths

end Deduplicator

end Library

/-! ### One path for each library -/

/-- The paths are the same, or both have the same identity. -/
def SameLibrary (identity : String → Option String) (a b : String) : Prop :=
  a = b ∨ ∃ name, identity a = some name ∧ identity b = some name

def OnePerLibrary (identity : String → Option String) (paths : List String) : Prop :=
  paths.Pairwise fun a b => ¬SameLibrary identity a b

theorem onePerLibrary_firstOfEach (identity : String → Option String) (paths : List String) :
    OnePerLibrary identity (firstOfEach identity paths) := by
  refine (pairwise_firstOfEach identity paths).imp fun differ same => ?_
  obtain rfl | ⟨name, first, second⟩ := same
  · exact differ rfl
  · exact differ (first.trans second.symm)

theorem onePerLibrary_append {identity : String → Option String} {paths : List String}
    (unique : OnePerLibrary identity paths) (last : Option String) :
    OnePerLibrary identity (paths ++ last.toList) ↔
      ∀ path ∈ last, ∀ other ∈ paths, ¬SameLibrary identity other path := by
  unfold OnePerLibrary at unique ⊢
  cases last with
  | none => simpa using unique
  | some path => simp [List.pairwise_append, unique]

/-! ### Closures -/

/-- The same modules are loaded, and the worker behaves the same. -/
def Host.SameProcess (host later : Host) : Prop :=
  later.modules = host.modules ∧ later.worker = host.worker

instance : IsPreorder Host Host.SameProcess where
  refl _ := ⟨rfl, rfl⟩
  trans _ _ _ first next := ⟨next.1.trans first.1, next.2.trans first.2⟩

theorem Action.makeDirectory_sameProcess (path : String) :
    Moves Host.SameProcess (makeDirectory path) := by
  intro host
  rw [makeDirectory]
  split <;> exact ⟨rfl, rfl⟩

theorem Action.writeText_sameProcess (path text : String) :
    Moves Host.SameProcess (writeText path text) := by
  intro host
  rw [writeText]
  split <;> exact ⟨rfl, rfl⟩

namespace ClosureBuilder

variable {b : ClosureBuilder} {companion : Companion} {script : String} {host later : Host}
  {closure : Closure}

/-- The libraries of a closure are those that the deduplicator kept, and the companion. -/
theorem resolve_libraries (returned : b.resolve companion script host = (.ok closure, later)) :
    Host.SameProcess host later ∧ ∃ (paths : List String) (deduped : Deduped),
      b.deduplicator.dedupe (paths.map fun path => .text (.ofString path)) later = .ok deduped ∧
        closure.libraries = deduped.paths ++ (companion.path later.modules).toList ∧
        closure.strategy = deduped.used := by
  obtain ⟨p, host₁, prepared, returned⟩ := run_ok returned
  obtain ⟨index, host₂, made, returned⟩ := run_ok returned
  obtain ⟨found, host₃, gathered, returned⟩ := run_ok returned
  obtain ⟨deduped, host₄, kept, returned⟩ := run_ok returned
  have first : Host.SameProcess host host₁ := by
    have moves := b.prepare_moves script Action.makeDirectory_sameProcess
      Action.writeText_sameProcess
    simpa [prepared] using moves host
  have second : Host.SameProcess host₁ host₂ := by
    have moves : Moves Host.SameProcess (Action.ofExcept b.freshIndex) := b.freshIndex_moves
    simpa [made] using moves host₁
  have third : Host.SameProcess host₂ host₃ := by
    have moves : Moves Host.SameProcess (Gathering.startingFrom index (candidates p)) :=
      Gathering.startingFrom_moves (candidates_moves p) index
    simpa [gathered] using moves host₂
  obtain ⟨done, rfl⟩ := Prod.mk.inj kept
  obtain ⟨made, rfl⟩ := Prod.mk.inj returned
  obtain rfl := Except.ok.inj made
  refine ⟨trans_of _ first (trans_of _ second third), found.map (·.path), deduped, ?_, rfl, rfl⟩
  rw [List.map_map]
  exact done

/-- The libraries of a closure are unique exactly if the companion, which comes last, is none of the
others. The others are unique in any case. -/
theorem onePerLibrary_iff (own : ∀ output, host.worker ≠ .writes output)
    (returned : b.resolve companion script host = (.ok closure, later)) :
    ∃ kept, closure.libraries = kept ++ (companion.path host.modules).toList ∧
      OnePerLibrary (closure.strategy.identity later.files) kept ∧
      (OnePerLibrary (closure.strategy.identity later.files) closure.libraries ↔
        ∀ library ∈ companion.path host.modules, ∀ other ∈ kept,
          ¬SameLibrary (closure.strategy.identity later.files) other library) := by
  obtain ⟨⟨modules, worker⟩, paths, deduped, done, libraries, strategy⟩ := resolve_libraries returned
  have kept := Deduplicator.dedupe_kept (fun output => worker ▸ own output) b.deduplicator done
  have unique : OnePerLibrary (closure.strategy.identity later.files) deduped.paths := by
    rw [kept, strategy]
    exact onePerLibrary_firstOfEach _ paths
  rw [modules] at libraries
  refine ⟨deduped.paths, libraries, unique, ?_⟩
  rw [libraries]
  exact onePerLibrary_append unique _

/-- A script refers to a library, and the host was loaded from the file given. -/
def referringHost (companion : String) : Host where
  files := {
    nodes := [
      (["w"], .directory false),
      (["a.cs", "w"], .file "//css_ref nppscripts.dll".toUTF8 0 false),
      (["nppscripts.dll", "w"], .file .empty 0 false)]
    workingDirectory := ["w"] }
  environment := [("HOME", "/h")]
  modules := [("nppscripts", some companion)]
  worker := .answers

def usualBuilder : ClosureBuilder where
  engineEnv := none
  packages := none
  locations := {}
  deduplicator := .byFileName
  extensions := LibraryIndex.defaultExtensions.map fun extension => .text (.ofString extension)
  ignored := LibraryIndex.defaultIgnored.map fun name => .text (.ofString name)

theorem companion_referringHost {file : String} (named : file ≠ "") :
    ({} : Companion).path (referringHost file).modules = some file := by
  have owns : ({} : Companion).owns "nppscripts" = true := by decide +kernel
  simp [Companion.path, Companion.find?, referringHost, Option.filter, named, owns]

def referringClosure (companion : String) : Closure where
  script := "/w/a.cs"
  sources := ["/w/a.cs"]
  libraries := ["/w/nppscripts.dll", companion]
  searchDirs := ["/w", "/h/Documents/NppScripts"]
  strategy := .filename

/-- Once located, the companion need not be looked for among the modules. -/
theorem resolve_referringHost {file : String} (named : file ≠ "")
    (ran : (usualBuilder.resolve { located := some (some file) } "/w/a.cs"
      (referringHost file)).1 = .ok (referringClosure file)) :
    ∃ later, usualBuilder.resolve {} "/w/a.cs" (referringHost file) = (.ok (referringClosure file), later) := by
  have located : ({} : Companion).path (referringHost file).modules =
      ({ located := some (some file) } : Companion).path (referringHost file).modules :=
    companion_referringHost named
  exact ⟨_, (resolve_congr located).trans (Prod.ext ran rfl)⟩

theorem onePerLibrary_elsewhere : ∃ later,
    usualBuilder.resolve {} "/w/a.cs" (referringHost "/n/editor.py") =
        (.ok (referringClosure "/n/editor.py"), later) ∧
      OnePerLibrary ((referringClosure "/n/editor.py").strategy.identity later.files)
        (referringClosure "/n/editor.py").libraries := by
  obtain ⟨later, returned⟩ := resolve_referringHost (by decide : "/n/editor.py" ≠ "")
    (by decide +kernel)
  have own : ∀ output, (referringHost "/n/editor.py").worker ≠ .writes output :=
    fun output => (nofun : WorkerMode.answers ≠ .writes output)
  obtain ⟨kept, split, -, unique⟩ := onePerLibrary_iff own returned
  refine ⟨later, returned, unique.mpr ?_⟩
  rw [companion_referringHost (by decide)] at split ⊢
  obtain rfl : ["/w/nppscripts.dll"] = kept := List.append_cancel_right split
  have stems : fileIdentity "/w/nppscripts.dll" = some "nppscripts" ∧
      fileIdentity "/n/editor.py" = some "editor" := by
    decide +kernel
  simp [SameLibrary, referringClosure, Strategy.identity, stems]

/-- A script that refers to the library the host was loaded from gets it twice. -/
theorem companion_repeated : ∃ later,
    usualBuilder.resolve {} "/w/a.cs" (referringHost "/w/nppscripts.dll") =
        (.ok (referringClosure "/w/nppscripts.dll"), later) ∧
      ¬OnePerLibrary ((referringClosure "/w/nppscripts.dll").strategy.identity later.files)
        (referringClosure "/w/nppscripts.dll").libraries := by
  obtain ⟨later, returned⟩ := resolve_referringHost (by decide : "/w/nppscripts.dll" ≠ "")
    (by decide +kernel)
  refine ⟨later, returned, fun unique => ?_⟩
  exact List.rel_of_pairwise_cons unique List.mem_cons_self (.inl rfl)

end ClosureBuilder

end ScriptDeps
