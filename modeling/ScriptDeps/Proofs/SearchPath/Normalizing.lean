import ScriptDeps.Proofs.Distinct
import ScriptDeps.Proofs.Library.Lookup
import ScriptDeps.SearchPath.Settings

/-!
# Directories that are named twice

A directory that is named again is listed from memory, and the file that is looked for was not in
it. So nothing but repeats is lost when every directory is looked at once: the first file that is
found, the name that is found, and the order of what is found stay the same.
-/

namespace ScriptDeps

namespace LibraryIndex

variable {index later : LibraryIndex} {fs : FileSystem} {dirs : List String}
  {directory other : String} {files : Listing}

/-- Both lookups find the same libraries up to repeats, or fail in the same way, and leave the same
index behind. -/
def FindAlike (one other : Lookup (List String)) : Prop :=
  ∀ index, (one index).1.map distinct = (other index).1.map distinct ∧
    (one index).2 = (other index).2

theorem FindAlike.bind {one other : Lookup (List String)}
    {next onward : List String → Lookup (List String)} (alike : FindAlike one other)
    (rest : ∀ found found', distinct found = distinct found' →
      FindAlike (next found) (onward found')) :
    FindAlike (one >>= next) (other >>= onward) := by
  intro index
  have first := alike index
  rw [run_bind, run_bind]
  generalize one index = outcome at first ⊢
  generalize other index = outcome' at first ⊢
  obtain ⟨failure | found, later⟩ := outcome <;> obtain ⟨failure' | found', later'⟩ := outcome'
  · exact first
  · cases first.1
  · cases first.1
  · obtain rfl : later = later' := first.2
    exact rest found found' (Except.ok.inj first.1) later

/-! ### Listings that are remembered -/

/-- The index remembers the listing of the directory. -/
def Holds (index : LibraryIndex) (directory : String) (files : Listing) : Prop :=
  (index.listings.find? (·.1 == directory)).map (·.2) = some files

theorem Holds.listing (holds : index.Holds directory files) :
    listing fs directory index = (.ok files, index) := by
  obtain ⟨entry, found, rfl⟩ := Option.map_eq_some_iff.mp holds
  rw [LibraryIndex.listing, found]

theorem holds_listing (ran : listing fs directory index = (.ok files, later)) :
    later.Holds directory files := by
  unfold listing at ran
  split at ran
  · rename_i entry listing found
    obtain ⟨same, rfl⟩ := Prod.mk.inj ran
    obtain rfl := Except.ok.inj same
    rw [Holds, found]
    rfl
  · split at ran
    · rename_i listing listed
      obtain ⟨same, rfl⟩ := Prod.mk.inj ran
      obtain rfl := Except.ok.inj same
      rw [Holds, List.find?_cons_of_pos (by simp)]
      rfl
    · cases ran

/-- What is remembered stays so. -/
theorem Holds.kept (holds : index.Holds directory files) {result : Except Failure Listing}
    (ran : LibraryIndex.listing fs other index = (result, later)) : later.Holds directory files := by
  by_cases same : other = directory
  · subst same
    rw [holds.listing] at ran
    obtain ⟨-, rfl⟩ := Prod.mk.inj ran
    exact holds
  unfold LibraryIndex.listing at ran
  split at ran
  · obtain ⟨-, rfl⟩ := Prod.mk.inj ran
    exact holds
  · split at ran
    · obtain ⟨-, rfl⟩ := Prod.mk.inj ran
      rw [Holds, List.find?_cons_of_neg (by simpa using same)]
      exact holds
    · obtain ⟨-, rfl⟩ := Prod.mk.inj ran
      exact holds

/-! ### Libraries of a base name -/

/-- The libraries of a base name in one directory. -/
def findHere (fs : FileSystem) (name directory : String) : Lookup (List String) := do
  return filesOf (Text.lower name) (← listing fs directory)

theorem findBase_cons (name : String) (index : LibraryIndex) :
    findBase fs name (directory :: dirs) index =
      match listing fs directory index with
      | (.error failure, later) => (.error failure, later)
      | (.ok files, later) =>
        ((findBase fs name dirs later).1.map (filesOf (Text.lower name) files ++ ·),
          (findBase fs name dirs later).2) := by
  have eachDirectory : ∀ dirs, findBase fs name dirs = do
      let found ← dirs.mapM (findHere fs name)
      return found.flatten := fun _ => rfl
  simp only [eachDirectory, List.mapM_cons, run_bind, findHere]
  rcases listing fs directory index with ⟨_ | files, later⟩
  · rfl
  dsimp only [run_pure]
  rcases dirs.mapM (findHere fs name) later with ⟨_ | found, last⟩
  · rfl
  · rfl

/-- The first items of what is found after `known`, when more is found in front of it. -/
theorem map_keepFirst_append (known front : List String) (found : Except Failure (List String)) :
    (found.map (front ++ ·)).map (keepFirst (· == ·) some known) =
      (found.map (keepFirst (· == ·) some (front ++ known))).map
        (keepFirst (· == ·) some known front ++ ·) := by
  cases found with
  | error failure => rfl
  | ok found => exact congrArg Except.ok (keepFirst_append known front found)

/-- Directories that the index has listed can be left out, if what it holds of them is known. -/
theorem findBase_keepFirst {name : String} {seen known : List String} {index : LibraryIndex}
    (held : ∀ directory ∈ seen, ∃ files, index.Holds directory files ∧
      filesOf (Text.lower name) files ⊆ known) :
    (findBase fs name (keepFirst (· == ·) some seen dirs) index).1.map
          (keepFirst (· == ·) some known) =
        (findBase fs name dirs index).1.map (keepFirst (· == ·) some known) ∧
      (findBase fs name (keepFirst (· == ·) some seen dirs) index).2 =
        (findBase fs name dirs index).2 := by
  induction dirs generalizing seen known index with
  | nil => exact ⟨rfl, rfl⟩
  | cons directory rest ih =>
    rw [keepFirst]
    dsimp only
    split
    · rename_i old
      have old : directory ∈ seen := by simpa using old
      obtain ⟨files, holds, among⟩ := held directory old
      obtain ⟨same, state⟩ := ih held
      rw [findBase_cons, holds.listing]
      refine ⟨same.trans ?_, state⟩
      have nothing : ∀ item, item ∈ filesOf (Text.lower name) files ++ known ↔ item ∈ known :=
        fun item => List.mem_append.trans (or_iff_right_of_imp (@among item))
      dsimp only
      rw [map_keepFirst_append, keepFirst_of_subset among]
      cases (findBase fs name rest index).1 with
      | error failure => rfl
      | ok found => exact congrArg Except.ok (keepFirst_seen nothing found).symm
    · rw [findBase_cons, findBase_cons]
      rcases ran : listing fs directory index with ⟨failure | files, later⟩
      · exact ⟨rfl, rfl⟩
      have further : ∀ other ∈ directory :: seen, ∃ files', later.Holds other files' ∧
          filesOf (Text.lower name) files' ⊆ filesOf (Text.lower name) files ++ known := by
        refine List.forall_mem_cons.mpr ⟨⟨files, holds_listing ran, ?_⟩, fun other old => ?_⟩
        · exact List.subset_append_left _ _
        · obtain ⟨files', holds, among⟩ := held other old
          exact ⟨files', holds.kept ran, List.subset_append_of_subset_right _ among⟩
      obtain ⟨same, state⟩ := ih further
      dsimp only
      rw [map_keepFirst_append, map_keepFirst_append, same]
      exact ⟨rfl, state⟩

theorem findBase_distinct (name : String) :
    FindAlike (findBase fs name (distinct dirs)) (findBase fs name dirs) := by
  intro index
  exact findBase_keepFirst fun _ none => absurd none List.not_mem_nil

/-! ### Lookups -/

theorem findFirst_distinct (names : List String) :
    FindAlike (findFirst fs (distinct dirs) names) (findFirst fs dirs names) := by
  induction names with
  | nil => exact fun _ => ⟨rfl, rfl⟩
  | cons name rest ih =>
    refine (findBase_distinct name).bind fun once all same => ?_
    have empty : once.isEmpty = all.isEmpty := by
      rw [Bool.eq_iff_iff, List.isEmpty_iff, List.isEmpty_iff, ← distinct_eq_nil, same,
        distinct_eq_nil]
    rw [empty]
    split
    · exact ih
    · exact fun _ => ⟨congrArg Except.ok same, rfl⟩

theorem firstFile?_keepFirst {seen : List String} (path : String → Path)
    (missed : ∀ directory ∈ seen, fs.isFile (path directory).text = .ok false) :
    fs.firstFile? ((keepFirst (· == ·) some seen dirs).map path) = fs.firstFile? (dirs.map path) := by
  induction dirs generalizing seen with
  | nil => rfl
  | cons directory rest ih =>
    rw [keepFirst]
    dsimp only
    split
    · rename_i old
      have old : directory ∈ seen := by simpa using old
      rw [ih missed, List.map_cons, FileSystem.firstFile?, missed directory old]
      rfl
    · rw [List.map_cons, List.map_cons, FileSystem.firstFile?, FileSystem.firstFile?]
      cases asked : fs.isFile (path directory).text with
      | error failure => rfl
      | ok there =>
        cases there with
        | true => rfl
        | false => exact ih (List.forall_mem_cons.mpr ⟨asked, missed⟩)

theorem findFile?_distinct (index : LibraryIndex) (key : String) :
    index.findFile? fs key (distinct dirs) = index.findFile? fs key dirs := by
  have relative := @firstFile?_keepFirst fs dirs []
    (fun directory => Path.ofText directory ++ Path.ofText key) (by simp)
  unfold findFile?
  dsimp only
  rw [distinct, relative]

theorem find_distinct (name : String) :
    FindAlike (find fs name (distinct dirs)) (find fs name dirs) := by
  intro index
  by_cases empty : stripQuotes name = ""
  · rw [find_of_empty empty, find_of_empty empty]
    exact ⟨rfl, rfl⟩
  rw [find_run empty rfl, find_run empty rfl, findFile?_distinct, run_bind, run_bind, run_result]
  rcases index.findFile? fs (stripQuotes name) dirs with failure | _ | file
  · exact ⟨rfl, rfl⟩
  · dsimp only
    split
    · exact ⟨rfl, rfl⟩
    · exact findFirst_distinct _ index
  · exact ⟨rfl, rfl⟩

/-! ### Search paths -/

theorem normalize_of_nonempty (nonempty : "" ∉ dirs) : SearchPath.normalize dirs = distinct dirs := by
  have all : dirs.filter (· != "") = dirs := by
    refine List.filter_eq_self.mpr fun directory member => ?_
    rw [bne_iff_ne]
    rintro rfl
    exact nonempty member
  rw [SearchPath.normalize, all]

/-- A search path without its repeats finds for every name what the whole path finds, in the same
order; it holds the same directories in the order in which they come up, and has no repeats left. -/
theorem find_normalize (fs : FileSystem) (name : String) (nonempty : "" ∉ dirs) :
    FindAlike (find fs name (SearchPath.normalize dirs)) (find fs name dirs) ∧
      (SearchPath.normalize dirs).Sublist dirs ∧ FirstsOf dirs (SearchPath.normalize dirs) ∧
      SearchPath.normalize (SearchPath.normalize dirs) = SearchPath.normalize dirs := by
  have same := normalize_of_nonempty nonempty
  have still : "" ∉ distinct dirs := fun member => nonempty (mem_distinct.mp member)
  rw [same, normalize_of_nonempty still]
  exact ⟨find_distinct name, distinct_sublist dirs, firstsOf_distinct dirs,
    (keepsFirst_keepFirst (· == ·) some dirs).again⟩

theorem find_normalize_repeated :
    "" ∉ ["/w", "/v", "/w"] ∧
      FindAlike (find shelf "A.B.C" (SearchPath.normalize ["/w", "/v", "/w"]))
        (find shelf "A.B.C" ["/w", "/v", "/w"]) ∧
      SearchPath.normalize ["/w", "/v", "/w"] = ["/w", "/v"] ∧
      (find shelf "A.B.C" ["/w", "/v", "/w"] (fresh [".dll", ".Exe"] [])).1 =
        .ok ["/w/a.B.DLL", "/w/a.b.dll", "/w/A.b.exe", "/v/A.B.dll", "/w/a.B.DLL", "/w/a.b.dll",
          "/w/A.b.exe"] := by
  have nonempty : "" ∉ ["/w", "/v", "/w"] := by decide
  have stripped : stripQuotes "A.B.C" = "A.B.C" := by decide +kernel
  have answered := @find_plain shelf ["/w", "/v", "/w"] [".dll", ".Exe"] [] "A.B.C"
    (by decide +kernel) (by decide +kernel) (by decide)
  obtain ⟨w, v, -⟩ := list_shelf
  have unnamed : (fresh [".dll", ".Exe"] []).namedFile? shelf "A.B.C" ["/w", "/v", "/w"] = none := by
    decide +kernel
  have names : (fresh [".dll", ".Exe"] []).namesFor "A.B.C" = ["A.B.C", "A.B", "A"] := by
    decide +kernel
  refine ⟨nonempty, (find_normalize shelf "A.B.C" nonempty).1, by decide, answered.trans ?_⟩
  rw [stripped, answer, unnamed, names]
  simp only [List.flatMap_cons, List.flatMap_nil, librariesIn, w, v]
  decide +kernel

end LibraryIndex

end ScriptDeps
