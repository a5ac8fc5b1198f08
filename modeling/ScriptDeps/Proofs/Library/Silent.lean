import ScriptDeps.Proofs.FileSystem.Nulls

/-!
# Search directories with null characters

A directory that cannot be listed has no libraries, and a file that cannot be asked about is foreseen.
What is not foreseen of a lookup is a search directory with a null character in its path: it surprises
every name that is looked up in the listings. A plain pass over many names is a surprise at the first
of these, if nothing was refused before.
-/

namespace ScriptDeps

namespace LibraryIndex

variable {index : LibraryIndex} {fs : FileSystem} {dirs : List String} {key name : String}

theorem surprises_listDirectory {directory : String} :
    Surprises (index.listDirectory fs directory) ↔ '\x00' ∈ directory.toList := by
  rw [← (fs.list_checked directory).surprises_iff, listDirectory]
  cases fs.list directory with
  | ok names => simp
  | error failure => cases failure <;> simp [Failure.isForeseen]

theorem listDirectory_fails (directory : String) :
    FailsIn (·.isForeseen = false) (index.listDirectory fs directory) := by
  intro failure failed
  by_cases null : '\x00' ∈ directory.toList
  · have surprised : Surprises (index.listDirectory fs directory) :=
      surprises_listDirectory.mpr null
    rw [failed] at surprised
    exact surprises_error.mp surprised
  · have returns : ∃ listing, index.listDirectory fs directory = .ok listing :=
      listDirectory_returns null
    obtain ⟨listing, listed⟩ := returns
    cases listed.symm.trans failed

/-- Some search directory holds a null character. -/
def Silent (dirs : List String) : Prop :=
  ∃ directory ∈ dirs, '\x00' ∈ directory.toList

theorem surprises_findBaseNow : Surprises (index.findBaseNow fs name dirs) ↔ Silent dirs := by
  have fails : ∀ directory, FailsIn (·.isForeseen = false)
      (do return filesOf (Text.lower name) (← index.listDirectory fs directory) :
        Except Failure (List String)) := fun directory =>
    (listDirectory_fails directory).map (filesOf (Text.lower name))
  rw [findBaseNow, surprises_map, surprises_mapM_of_fails fails, Silent]
  simp only [surprises_map, surprises_listDirectory]

theorem surprises_findFirstNow {names : List String} :
    Surprises (index.findFirstNow fs dirs names) ↔ names ≠ [] ∧ Silent dirs := by
  cases names with
  | nil => exact iff_of_false (surprises_ok _) (by simp)
  | cons name rest =>
    by_cases silent : Silent dirs
    · refine iff_of_true ?_ ⟨List.cons_ne_nil _ _, silent⟩
      exact surprises_bind.mpr (Or.inl (surprises_findBaseNow.mpr silent))
    · have spoken : ∀ directory ∈ dirs, '\x00' ∉ directory.toList := fun directory member null =>
        silent ⟨directory, member, null⟩
      have returns : ∃ found, index.findFirstNow fs dirs (name :: rest) = .ok found :=
        findFirstNow_returns spoken (name :: rest)
      obtain ⟨found, looked⟩ := returns
      rw [looked]
      exact iff_of_false (surprises_ok _) fun both => silent both.2

/-- A text names no file, and is looked up in the listings. -/
structure Listed (index : LibraryIndex) (fs : FileSystem) (key : String) (dirs : List String) :
    Prop where
  unnamed : index.findFile? fs key dirs = .ok none
  plain : '/' ∉ key.toList
  some : index.namesFor key ≠ []

theorem surprises_findNow :
    Surprises (index.findNow fs key dirs) ↔ Listed index fs key dirs ∧ Silent dirs := by
  have direct : ¬Surprises (index.findFile? fs key dirs) := by
    refine FailsIn.not_surprises ?_ fun _ => Failure.OfPath.foreseen
    unfold findFile?
    dsimp only
    split
    · exact failsIn_ok none
    · split
      · exact fs.firstFile?_refused _
      · exact fs.firstFile?_refused _
  rw [findNow, surprises_bind, or_iff_right direct]
  constructor
  · rintro ⟨found, asked, surprised⟩
    cases found with
    | some file => exact absurd surprised (surprises_ok _)
    | none =>
      dsimp only at surprised
      split at surprised
      · exact absurd surprised (surprises_ok _)
      · rename_i plain
        obtain ⟨names, silent⟩ := surprises_findFirstNow.mp surprised
        exact ⟨⟨asked, plain, names⟩, silent⟩
  · rintro ⟨listed, silent⟩
    refine ⟨none, listed.unnamed, ?_⟩
    dsimp only
    rw [if_neg listed.plain]
    exact surprises_findFirstNow.mpr ⟨listed.some, silent⟩

/-- A name is looked up in the listings of directories one of which holds a null character. -/
structure Silences (index : LibraryIndex) (fs : FileSystem) (dirs : List String) (name : String) :
    Prop where
  some : stripQuotes name ≠ ""
  listed : Listed index fs (stripQuotes name) dirs
  silent : Silent dirs

theorem surprises_lookUp (start : Remembers index fs index) :
    Surprises (index.lookUp fs name dirs) ↔ Silences index fs dirs name := by
  by_cases empty : stripQuotes name = ""
  · rw [lookUp, find_of_empty empty]
    exact iff_of_false (surprises_ok _) fun silences => silences.some empty
  · obtain ⟨later, ran, _⟩ := @find_computes index fs dirs name empty index start
    rw [lookUp, ran, surprises_findNow]
    constructor
    · rintro ⟨listed, silent⟩
      exact ⟨empty, listed, silent⟩
    · intro silences
      exact ⟨silences.listed, silences.silent⟩

end LibraryIndex

namespace Library

variable {packages : Bool → Action (List String)} {index : LibraryIndex} {host : Host}
  {wanted : Wanted}

/-- A plain pass, all names being looked up in one row. -/
theorem plainPass_eq : plainPass packages index host wanted = (do
    let found ← (wanted.names index).mapM fun name =>
      index.lookUp host.files name wanted.searchDirs
    let packaged ← (packages suppressDownloads host).1
    return found.flatten ++ packaged) := by
  simp only [plainPass, Wanted.names, List.mapM_append, bind_assoc, pure_bind, List.flatten_append]

theorem surprises_plainPass (start : index.Remembers host.files index) :
    Surprises (plainPass packages index host wanted) ↔
      (∃ before name after, wanted.names index = before ++ name :: after ∧
        (∀ other ∈ before, ∃ found,
          index.lookUp host.files other wanted.searchDirs = .ok found) ∧
        index.Silences host.files wanted.searchDirs name) ∨
      (∀ name ∈ wanted.names index, ∃ found,
        index.lookUp host.files name wanted.searchDirs = .ok found) ∧
        Surprises (packages suppressDownloads host).1 := by
  rw [plainPass_eq, surprises_bind, surprises_mapM]
  simp only [LibraryIndex.surprises_lookUp start, surprises_map]
  refine or_congr_right ?_
  rw [exists_and_right, mapM_returns_iff]

end Library

end ScriptDeps
