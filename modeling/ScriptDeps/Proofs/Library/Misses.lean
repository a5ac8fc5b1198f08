import ScriptDeps.Proofs.FileSystem.Detours
import ScriptDeps.Proofs.FileSystem.Refusals
import ScriptDeps.Proofs.Library.FirstListed

/-!
# Lookups that do not return

A name without a library is a miss: the lookup returns an empty list. So is a directory that cannot
be listed, whatever the reason. `find_error_iff` says of any index when a lookup fails nevertheless:
when it comes to a path that is too long for the file that a name names, or to list a directory with
a null character.
-/

namespace ScriptDeps.LibraryIndex

variable {index : LibraryIndex} {fs : FileSystem} {seen : String → FileSystem} {dirs : List String}
  {name : String} {failure : Failure} {query : Query}

/-! ### Listings -/

theorem listDirectory_error_iff {directory : String} :
    index.listDirectory fs directory = .error failure ↔
      '\x00' ∈ directory.toList ∧ failure = .nullInPath := by
  by_cases null : '\x00' ∈ directory.toList
  · rw [listDirectory, (fs.list_checked directory).null null]
    simp [null, eq_comm]
  · have returns : ∃ listing, index.listDirectory fs directory = .ok listing :=
      listDirectory_returns null
    obtain ⟨listing, listed⟩ := returns
    simp [listed, null]

theorem findBaseIn_error_iff :
    index.findBaseIn seen name dirs = .error failure ↔ Silent dirs ∧ failure = .nullInPath := by
  rw [findBaseIn, bind_error_iff, or_iff_left fun ⟨_, _, failed⟩ => nomatch failed]
  generalize asked : (fun directory => do
    return filesOf (Text.lower name) (← index.listDirectory (seen directory) directory) :
      String → Except Failure (List String)) = files
  have each : ∀ directory failure, files directory = .error failure ↔
      '\x00' ∈ directory.toList ∧ failure = .nullInPath := fun directory failure => by
    rw [← asked, bind_error_iff, listDirectory_error_iff]
    exact or_iff_left fun ⟨_, _, failed⟩ => nomatch failed
  have only : FailsIn (· = .nullInPath) (dirs.mapM files) :=
    failsIn_mapM (fun directory failure failed => ((each directory failure).mp failed).2) dirs
  have fails_iff : (∃ failure, dirs.mapM files = .error failure) ↔ Silent dirs := by
    simp only [mapM_fails_iff, each, exists_and_left, exists_eq, and_true]
    exact Iff.rfl
  rw [← fails_iff]
  constructor
  · exact fun failed => ⟨⟨failure, failed⟩, only failure failed⟩
  · rintro ⟨⟨other, failed⟩, rfl⟩
    rw [failed, only other failed]

theorem findFirstIn_error_iff {names : List String} :
    index.findFirstIn seen dirs names = .error failure ↔
      names ≠ [] ∧ Silent dirs ∧ failure = .nullInPath := by
  induction names with
  | nil => exact iff_of_false nofun fun fails => fails.1 rfl
  | cons name rest ih =>
    rw [findFirstIn, bind_error_iff, findBaseIn_error_iff,
      and_iff_right (List.cons_ne_nil name rest)]
    refine or_iff_left_of_imp ?_
    rintro ⟨found, -, failed⟩
    split at failed
    · exact (ih.mp failed).2
    · cases failed

/-! ### Files that a name names -/

/-- The search for the file that a name names breaks off at a path that is too long. -/
structure Query.BreaksOff (query : Query) (index : LibraryIndex) (place : Path) : Prop where
  some : stripQuotes query.name ≠ ""
  library : index.isLibrary (stripQuotes query.name) = true
  first : ∃ before after, placesFor (stripQuotes query.name) query.dirs = before ++ place :: after ∧
    ∀ other ∈ before, query.files.isFile other.text = .ok false
  overlong : query.files.Overlong place.text

theorem findFile?_error_iff {key : String} :
    index.findFile? fs key dirs = .error failure ↔ index.isLibrary key = true ∧
      ∃ before place after, placesFor key dirs = before ++ place :: after ∧
        (∀ other ∈ before, fs.isFile other.text = .ok false) ∧
          fs.Overlong place.text ∧ failure = .file .nameTooLong place.text := by
  rw [findFile?_eq]
  split
  · rename_i library
    rw [FileSystem.firstFile?_error_iff, and_iff_right library]
  · rename_i other
    exact iff_of_false nofun fun fails => other fails.1

theorem answerIn_error_iff :
    index.answerIn seen query = .error failure ↔
      (∃ place, query.BreaksOff index place ∧ failure = .file .nameTooLong place.text) ∨
        Silences index query.files query.dirs query.name ∧ failure = .nullInPath := by
  by_cases empty : stripQuotes query.name = ""
  · rw [answerIn, if_pos empty]
    refine iff_of_false (fun failed => by cases failed) ?_
    rintro (⟨place, breaks, _⟩ | ⟨silences, _⟩)
    · exact breaks.some empty
    · exact silences.some empty
  rw [answerIn, if_neg empty, findIn, bind_error_iff, findFile?_error_iff]
  refine or_congr ?_ ?_
  · constructor
    · rintro ⟨library, before, place, after, split, none, long, same⟩
      exact ⟨place, ⟨empty, library, ⟨before, after, split, none⟩, long⟩, same⟩
    · rintro ⟨place, ⟨_, library, ⟨before, after, split, none⟩, long⟩, same⟩
      exact ⟨library, before, place, after, split, none, long, same⟩
  · constructor
    · rintro ⟨found, asked, failed⟩
      cases found with
      | some file => cases failed
      | none =>
        dsimp only at failed
        split at failed
        · cases failed
        · rename_i plain
          obtain ⟨names, silent, same⟩ := findFirstIn_error_iff.mp failed
          exact ⟨⟨empty, ⟨asked, plain, names⟩, silent⟩, same⟩
    · rintro ⟨⟨_, listed, silent⟩, same⟩
      refine ⟨none, listed.unnamed, ?_⟩
      dsimp only
      rw [if_neg listed.plain]
      exact findFirstIn_error_iff.mpr ⟨listed.some, silent, same⟩

/-! ### Every lookup -/

/-- The name of a library file after some number of the same character. -/
def longName (characters : Nat) : String :=
  String.ofList (List.replicate characters 'a' ++ ['.', 'd', 'l', 'l'])

theorem toList_longName (characters : Nat) :
    (longName characters).toList = List.replicate characters 'a' ++ ['.', 'd', 'l', 'l'] :=
  String.toList_ofList

theorem isName_longName (characters : Nat) : Path.IsName (longName characters) := by
  have longer : ∀ text : String, text.toList.length < 3 → longName characters ≠ text := by
    rintro _ short rfl
    simp [toList_longName] at short
    omega
  refine ⟨longer _ (by decide), longer _ (by decide), longer _ (by decide), ?_⟩
  simp [toList_longName]

theorem stripQuotes_longName : stripQuotes (longName 252) = longName 252 := by
  rw [stripQuotes, toList_longName]
  exact congrArg String.ofList (by decide +kernel)

theorem isLibrary_longName : standard.isLibrary (longName 252) = true := by
  rw [isLibrary, extensionOf, toList_longName]
  decide +kernel

theorem placesFor_longName :
    placesFor (longName 252) ["/w"] = [Path.atTop ["w", longName 252]] := by
  have relative : (Path.ofText (longName 252)).isAbsolute = false := by
    rw [Path.ofText, toList_longName]
    rfl
  rw [placesFor, relative, if_neg Bool.false_ne_true]
  exact congrArg (List.cons · []) (Path.child_eq (isName_longName 252) (.ofText "/w"))

theorem overlong_longName : shelf.Overlong (Path.atTop ["w", longName 252]).text := by
  have spoken : '\x00' ∉ (longName 252).toList := by
    generalize 252 = characters
    simp [toList_longName]
  have way : Path.IsWay ["w", longName 252] :=
    ⟨List.cons_ne_nil _ _, List.forall_mem_cons.mpr ⟨by decide, List.forall_mem_singleton.mpr
      ⟨.inr (isName_longName 252), spoken⟩⟩⟩
  exact FileSystem.overlong_atTop way (by decide +kernel) (by decide) rfl (isName_longName 252)
    (by decide +kernel)

end ScriptDeps.LibraryIndex
