import ScriptDeps.Proofs.FileSystem.Resolving
import ScriptDeps.Proofs.Script.ImportOrder
import ScriptDeps.Script.ImportCache

/-!
# Names of copies

The copy of an import has a name of its own in the cache directory. Its name is made of that of the
file, and the files that imports lead to have names without slashes: they are looked for in
directories that are spelled from the top.
-/

namespace ScriptDeps

/-- What lies in a directory can have this name. -/
structure Path.IsName (name : String) : Prop where
  nonempty : name ≠ ""
  noDot : name ≠ "."
  notUp : name ≠ ".."
  slashless : '/' ∉ name.toList

theorem Path.child_eq {name : String} (named : IsName name) (path : Path) :
    path.child name = ⟨path.root, path.names ++ [name]⟩ := by
  have relative : rootOf name.toList = .relative := by
    cases spelled : name.toList with
    | nil => rfl
    | cons c rest =>
      have other : c ≠ '/' := fun same => named.slashless (by simp [spelled, same])
      unfold rootOf
      split <;> simp_all
  have own : namesOf name.toList = [name] := by
    have nonempty : name.toList ≠ [] := fun empty => named.nonempty (String.toList_eq_nil_iff.mp empty)
    have noDot : name.toList ≠ ['.'] := fun dot => named.noDot (String.toList_injective dot)
    unfold namesOf
    rw [Text.split_of_notMem named.slashless]
    simp [nonempty, noDot]
  change path.append ⟨rootOf name.toList, namesOf name.toList⟩ = _
  rw [relative, own]
  rfl

namespace Script

/-! ### Parts of a name -/

theorem cutName_append (name : List Char) :
    (Path.cutName name).1 ++ (Path.cutName name).2 = name := by
  unfold Path.cutName
  split
  · rename_i stem suffix cut
    split
    · exact List.append_nil name
    · exact Text.cutLast?_some cut
  · exact List.append_nil name

theorem name_slashless {path : Path} (plain : Slashless path.names) : '/' ∉ path.name.toList := by
  unfold Path.name
  cases last : path.names.getLast? with
  | none => exact List.not_mem_nil
  | some name => exact plain name (List.mem_of_getLast? last)

theorem hexDigits_byte {n : Nat} (byte : n < 256) :
    (Text.hexDigits 2 n).length = 2 ∧ '/' ∉ Text.hexDigits 2 n := by
  have all : ∀ n : Fin 256, (Text.hexDigits 2 n).length = 2 ∧ '/' ∉ Text.hexDigits 2 n := by
    decide +kernel
  exact all ⟨n, byte⟩

theorem copyDigits_spec (path : String) (renamings : List Renaming) :
    (copyDigits path renamings).length = 12 ∧ '/' ∉ copyDigits path renamings := by
  unfold copyDigits
  dsimp only
  generalize bytes : Hash.digest _ = digest
  have length : digest.length = 20 := by
    rw [← bytes]
    rfl
  constructor
  · have digits : (digest.flatMap fun byte => Text.hexDigits 2 byte.toNat).length = 40 := by
      rw [List.length_flatMap, List.map_congr_left fun byte _ => (hexDigits_byte byte.toNat_lt).1]
      simp [length]
    rw [List.length_take, digits]
    rfl
  · intro member
    obtain ⟨byte, _, among⟩ := List.mem_flatMap.mp (List.mem_of_mem_take member)
    exact (hexDigits_byte byte.toNat_lt).2 among

/-- A copy lies in the cache directory itself. -/
theorem copyPath_spec {file : ScriptFile} (plain : Slashless file.path.names) (cache : Path) :
    ∃ name, Path.IsName name ∧ copyPath cache file = ⟨cache.root, cache.names ++ [name]⟩ := by
  obtain ⟨twelve, digits⟩ := copyDigits_spec file.path.text file.renamings
  have whole := name_slashless plain
  rw [← cutName_append file.path.name.toList] at whole
  obtain ⟨stem, suffix⟩ := not_or.mp (mt List.mem_append.mpr whole)
  have spelled : (file.path.stem ++ "." ++
      String.ofList (copyDigits file.path.text file.renamings) ++ file.path.suffix).toList =
        (Path.cutName file.path.name.toList).1 ++ '.' :: copyDigits file.path.text file.renamings ++
          (Path.cutName file.path.name.toList).2 := by
    simp [Path.stem, Path.suffix]
  have named : Path.IsName (file.path.stem ++ "." ++
      String.ofList (copyDigits file.path.text file.renamings) ++ file.path.suffix) := by
    have long : ∀ {name : String}, name.toList.length < 3 → name ≠ (file.path.stem ++ "." ++
        String.ofList (copyDigits file.path.text file.renamings) ++ file.path.suffix) := by
      rintro name short rfl
      rw [spelled] at short
      simp only [List.length_append, List.length_cons, twelve] at short
      omega
    refine ⟨(long (by decide)).symm, (long (by decide)).symm, (long (by decide)).symm, ?_⟩
    rw [spelled]
    simp [stem, suffix, digits]
  exact ⟨_, named, Path.child_eq named cache⟩

theorem copyPath_parent {file : ScriptFile} (plain : Slashless file.path.names) (cache : Path) :
    (copyPath cache file).parent = cache := by
  obtain ⟨name, named, copy⟩ := copyPath_spec plain cache
  rw [copy]
  simp [Path.parent]

/-! ### Where imports are found -/

variable {fs : FileSystem} {extraDirs : List String}

def AllRooted (fs : FileSystem) (dirs : List String) : Prop :=
  ∀ dir ∈ dirs, fs.Rooted (.ofText dir)

theorem allRooted_nil (fs : FileSystem) : AllRooted fs [] :=
  fun _ member => absurd member List.not_mem_nil

theorem scriptFile_rooted {path : Path} {content : String} {renamings : List Renaming}
    {file : ScriptFile} (parsed : scriptFile fs path content renamings = .ok file) :
    AllRooted fs file.searchDirs := by
  obtain ⟨generated, _, parsed⟩ := bind_ok parsed
  obtain ⟨searchDirs, resolved, parsed⟩ := bind_ok parsed
  rw [pure_ok parsed]
  have each : ∀ dir text, (do return (← fs.resolvePath (path.parent.child dir)).text :
      Except Failure String) = .ok text →
        text = (FileSystem.pathOf (fs.realPlace (path.parent.child dir))).text := by
    intro dir text ran
    obtain ⟨led, ran, made⟩ := bind_ok ran
    rw [pure_ok made, fs.resolvePath_ok ran]
  intro dir member
  rw [mapM_eq_map each resolved] at member
  obtain ⟨_, _, rfl⟩ := List.mem_map.mp member
  exact .inl (Path.isAbsolute_ofText rfl)

theorem namesMeant_slashless {name : Path} (plain : Slashless name.names) {names : List Path}
    (meant : namesMeant name = .ok names) :
    ∀ other ∈ names, other.root = name.root ∧ Slashless other.names := by
  unfold namesMeant at meant
  split at meant
  · obtain rfl := Except.ok.inj meant
    intro other member
    rw [List.mem_singleton.mp member]
    exact ⟨rfl, plain⟩
  · split at meant
    · rename_i extended renamed
      obtain rfl := Except.ok.inj meant
      unfold Path.withName? at renamed
      split at renamed
      · cases renamed
      · obtain rfl := Option.some.inj renamed
        have before : Slashless name.names.dropLast := fun other member =>
          plain other (List.dropLast_subset _ member)
        have last : Slashless [name.name ++ extension] := by
          intro other member
          rw [List.mem_singleton.mp member, String.toList_append]
          exact fun among => (List.mem_append.mp among).elim (name_slashless plain) (by decide)
        intro other member
        simp only [List.mem_cons, List.not_mem_nil, or_false] at member
        obtain rfl | rfl := member
        · exact ⟨rfl, plain⟩
        · exact ⟨rfl, before.append last⟩
    · cases meant

theorem probesFor_slashless {dirs : List String} (rooted : AllRooted fs dirs) {name : Path}
    (plain : Slashless name.names) {probes : List Path} (made : probesFor dirs name = .ok probes) :
    ∀ probe ∈ probes, fs.Rooted probe ∧ Slashless probe.names := by
  obtain ⟨names, meant, made⟩ := bind_ok made
  have each := namesMeant_slashless plain meant
  intro probe member
  split at made
  · rename_i absolute
    rw [pure_ok made] at member
    obtain ⟨root, spelled⟩ := each probe member
    refine ⟨.inl ?_, spelled⟩
    unfold Path.isAbsolute at absolute ⊢
    rw [root, absolute]
  · rename_i relative
    rw [pure_ok made] at member
    obtain ⟨dir, listed, member⟩ := List.mem_flatMap.mp member
    obtain ⟨other, meant, rfl⟩ := List.mem_map.mp member
    obtain ⟨root, spelled⟩ := each other meant
    have joined : Path.ofText dir ++ other =
        ⟨(Path.ofText dir).root, (Path.ofText dir).names ++ other.names⟩ := by
      change Path.append _ _ = _
      unfold Path.append
      rw [if_neg]
      unfold Path.isAbsolute at relative ⊢
      rw [root]
      exact relative
    rw [joined]
    exact ⟨rooted dir listed, (Path.slashless_ofText dir).append spelled⟩

theorem locate_ok {dirs : List String} {importer : Path} {name : String} {path : Path}
    (located : locate fs dirs importer name = .ok path) :
    ∃ probes, probesFor dirs (.ofText name) = .ok probes ∧
      ∃ probe ∈ probes, fs.resolvePath probe = .ok path := by
  obtain ⟨probes, made, located⟩ := bind_ok located
  obtain ⟨found, looked, located⟩ := bind_ok located
  cases found with
  | none => cases located
  | some probe =>
    refine ⟨probes, made, probe, ?_, located⟩
    exact List.mem_of_find?_eq_some (fs.firstFile?_ok looked).symm

/-- A file that is imported is found at a path from the top. -/
theorem locate_slashless {dirs : List String} (rooted : AllRooted fs dirs) {importer : Path}
    {name : String} {path : Path} (located : locate fs dirs importer name = .ok path) :
    path.isAbsolute = true ∧ Slashless path.names := by
  obtain ⟨probes, made, probe, member, resolved⟩ := locate_ok located
  obtain ⟨starts, plain⟩ := probesFor_slashless rooted (Path.slashless_ofText name) made probe member
  exact ⟨fs.resolvePath_isAbsolute resolved, fs.resolvePath_slashless starts plain resolved⟩

theorem dirsFor_rooted {t : Traversal} {file : ScriptFile} (absolute : file.path.isAbsolute = true)
    (own : AllRooted fs file.searchDirs) (declared : AllRooted fs (t.declaredDirs ++ extraDirs)) :
    AllRooted fs (t.dirsFor file extraDirs) := by
  intro dir member
  unfold Traversal.dirsFor at member
  rw [List.append_assoc, List.mem_cons, List.mem_append] at member
  obtain rfl | member | member := member
  · exact .inl (@Path.isAbsolute_ofText file.path.parent absolute)
  · exact own dir member
  · exact declared dir member

theorem Followed.slashless {file : ScriptFile} {imports : List Import} {t t' : Traversal}
    {edges : List Edge} (h : Followed fs extraDirs file imports t t' edges)
    (absolute : file.path.isAbsolute = true) (own : AllRooted fs file.searchDirs)
    (declared : AllRooted fs (t.declaredDirs ++ extraDirs)) :
    AllRooted fs (t'.declaredDirs ++ extraDirs) ∧
      ∀ other ∈ t'.finished, other ∈ t.finished ∨ Slashless other.path.names := by
  -- a directory is looked into only after a file has declared it, and then it is spelled from the top
  induction h with
  | done file t => exact ⟨declared, fun other finished => .inl finished⟩
  | again located read seen others ih => exact ih absolute own declared
  | @first file child imported rest t t₁ t' path content inner edges
      located read new parsed below others ihBelow ihOthers =>
    obtain ⟨childAbsolute, plain⟩ := locate_slashless (dirsFor_rooted absolute own declared) located
    obtain ⟨samePath, _⟩ := scriptFile_ok parsed
    rw [← samePath] at childAbsolute plain
    have entered : AllRooted fs ((t.enter child).declaredDirs ++ extraDirs) := by
      intro dir member
      rcases List.mem_append.mp member with member | member
      · rcases List.mem_append.mp (mem_distinct.mp member) with member | member
        · exact declared dir (List.mem_append_left _ member)
        · exact scriptFile_rooted parsed dir member
      · exact declared dir (List.mem_append_right _ member)
    obtain ⟨onward, inside⟩ := ihBelow childAbsolute (scriptFile_rooted parsed) entered
    obtain ⟨last, after⟩ := ihOthers absolute own onward
    refine ⟨last, fun other finished => ?_⟩
    rcases after other finished with before | spelled
    · rcases List.mem_append.mp before with before | same
      · exact inside other before
      · rw [List.mem_singleton.mp same]
        exact .inr plain
    · exact .inr spelled

end Script

open Script

theorem imports_slashless {packages : Option PackageStore} {extraDirs : List String}
    {script : String} {host : Host} {store : PackageStore} {graph : ImportGraph}
    (opened : openScript packages extraDirs script host = .ok (store, graph))
    (rooted : AllRooted host.files extraDirs) :
    ∀ file ∈ graph.imports, Slashless file.path.names := by
  obtain ⟨path, resolved, made⟩ := openScript_ok opened
  obtain ⟨content, t, _, parsed, ran, finished⟩ := within_ok made
  obtain ⟨edges, followed⟩ := followed_of_run ran
  have own := scriptFile_rooted parsed
  have absolute : graph.root.path.isAbsolute = true := by
    rw [(scriptFile_ok parsed).1]
    exact host.files.resolvePath_isAbsolute resolved
  have declared : AllRooted host.files
      ((({} : Traversal).enter graph.root).declaredDirs ++ extraDirs) := by
    intro dir member
    rcases List.mem_append.mp member with member | member
    · exact own dir (mem_distinct.mp member)
    · exact rooted dir member
  intro file member
  rw [finished] at member
  rcases (followed.slashless absolute own declared).2 file member with before | plain
  · cases before
  · exact plain

end ScriptDeps
