import ScriptDeps.Proofs.FileSystem.Resolving
import ScriptDeps.Proofs.Library.Listings
import Mathlib.Data.List.Infix

/-!
# Lookups from memory

A lookup lists a directory when it first comes to it, and later takes the listing that it remembers.
So what it answers is told by the files in which each directory was listed, and by the files as they
are now for a text that names one of them.
-/

namespace ScriptDeps.LibraryIndex

variable {index : LibraryIndex} {seen : String → FileSystem} {now : FileSystem} {dirs : List String}

/-! ### Listings -/

theorem listDirectory_congr {later : LibraryIndex} (same : later.extensions = index.extensions) :
    later.listDirectory = index.listDirectory := by
  cases later
  cases index
  subst same
  rfl

/-- Whether the directory has been listed. -/
def Knows (index : LibraryIndex) (directory : String) : Prop :=
  ∃ entry ∈ index.listings, entry.1 = directory

/-- What is remembered of a directory is its listing in the files that are given for it. One that has
not been listed is given as it is now. -/
structure Recalls (index : LibraryIndex) (seen : String → FileSystem) (now : FileSystem)
    (later : LibraryIndex) : Prop where
  extensions : later.extensions = index.extensions
  listings : ∀ entry ∈ later.listings, index.listDirectory (seen entry.1) entry.1 = .ok entry.2
  others : ∀ directory, ¬later.Knows directory → seen directory = now

theorem find?_listings_eq_none {directory : String} :
    index.listings.find? (·.1 == directory) = none ↔ ¬index.Knows directory := by
  rw [List.find?_eq_none, Knows]
  simp only [beq_iff_eq, not_exists, not_and]

theorem listing_recalls (directory : String) :
    Yields (Recalls index seen now) (listing now directory)
      (index.listDirectory (seen directory) directory) := by
  intro before recalls
  unfold listing
  cases known : before.listings.find? (·.1 == directory) with
  | some entry =>
    have same : entry.1 = directory := by simpa using List.find?_some known
    rw [← same, recalls.listings entry (List.mem_of_find?_eq_some known)]
    exact ⟨before, rfl, recalls⟩
  | none =>
    rw [recalls.others directory (find?_listings_eq_none.mp known),
      ← listDirectory_congr recalls.extensions]
    dsimp only
    cases listed : before.listDirectory now directory with
    | error failure => exact ⟨before, rfl, recalls⟩
    | ok files =>
      refine ⟨_, rfl, recalls.extensions, ?_, ?_⟩
      · rintro entry (_ | ⟨_, member⟩)
        · rw [recalls.others directory (find?_listings_eq_none.mp known),
            ← listDirectory_congr recalls.extensions]
          exact listed
        · exact recalls.listings entry member
      · rintro other unknown
        refine recalls.others other ?_
        rintro ⟨entry, member, rfl⟩
        exact unknown ⟨entry, List.mem_cons_of_mem _ member, rfl⟩

/-! ### Lookups -/

/-- The libraries of a base name, each directory being listed in the files that are given for it. -/
def findBaseIn (index : LibraryIndex) (seen : String → FileSystem) (name : String)
    (dirs : List String) : Except Failure (List String) := do
  let found ← dirs.mapM fun directory => do
    return filesOf (Text.lower name) (← index.listDirectory (seen directory) directory)
  return found.flatten

def findFirstIn (index : LibraryIndex) (seen : String → FileSystem) (dirs : List String) :
    List String → Except Failure (List String)
  | [] => return []
  | name :: rest => do
    let found ← index.findBaseIn seen name dirs
    if found.isEmpty then findFirstIn index seen dirs rest else return found

/-- The names that are looked up for a text. -/
def namesFor (index : LibraryIndex) (key : String) : List String :=
  if index.isLibrary key then [baseOf key]
  else ((nameParts key).inits.drop 1).reverse.map fun parts => String.ofList (Text.join '.' parts)

/-- The libraries for a text: the file that it names now, or those of the first name that is listed. -/
def findIn (index : LibraryIndex) (seen : String → FileSystem) (now : FileSystem) (key : String)
    (dirs : List String) : Except Failure (List String) := do
  match ← index.findFile? now key dirs with
  | some file => return [file.text]
  | none =>
    if '/' ∈ key.toList then return [] else index.findFirstIn seen dirs (index.namesFor key)

theorem findBase_recalls (name : String) :
    Yields (Recalls index seen now) (findBase now name dirs) (index.findBaseIn seen name dirs) :=
  (yields_mapM (fun directory => (listing_recalls directory).bind fun _ => yields_pure _)
    dirs).bind fun _ => yields_pure _

theorem findFirst_recalls (names : List String) :
    Yields (Recalls index seen now) (findFirst now dirs names)
      (index.findFirstIn seen dirs names) := by
  induction names with
  | nil => exact yields_pure []
  | cons name rest ih =>
    refine (findBase_recalls name).bind fun found => ?_
    by_cases none : found.isEmpty = true
    · rw [if_pos none, if_pos none]
      exact ih
    · rw [if_neg none, if_neg none]
      exact yields_pure found

theorem candidateNames_eq (name : String) :
    candidateNames name =
      ((nameParts name).inits.drop 1).reverse.map fun parts => String.ofList (Text.join '.' parts) := by
  refine List.ext_getElem (by simp [candidateNames]) fun place inside _ => ?_
  have before : place < (nameParts name).length := by simpa [candidateNames] using inside
  simp only [candidateNames, List.getElem_map, List.getElem_range, List.getElem_reverse,
    List.getElem_drop, List.getElem_inits, List.length_drop, List.length_inits, Nat.add_sub_cancel]
  rw [show 1 + ((nameParts name).length - 1 - place) = (nameParts name).length - place by omega]

theorem slash_mem_baseOf (key : String) : '/' ∈ (baseOf key).toList ↔ '/' ∈ key.toList := by
  obtain ⟨whole, slashless⟩ := Path.splitExtension_spec key.toList
  rw [baseOf, String.toList_ofList]
  constructor
  · intro member
    rw [← whole]
    exact List.mem_append_left _ member
  · intro member
    rw [← whole] at member
    exact (List.mem_append.mp member).resolve_right slashless

theorem isLibrary_congr {later : LibraryIndex} (same : later.extensions = index.extensions) :
    later.isLibrary = index.isLibrary := by
  funext path
  rw [isLibrary, same, isLibrary]

theorem findFile?_congr {later : LibraryIndex} (same : later.extensions = index.extensions) :
    later.findFile? = index.findFile? := by
  funext fs name dirs
  rw [findFile?, isLibrary_congr same, findFile?]

theorem find_of_empty {name : String} (empty : stripQuotes name = "") :
    find now name dirs = pure [] := by
  unfold find
  dsimp only
  rw [if_pos (by rw [empty]; rfl)]

/-- What a lookup does from an index, told by the extensions alone. -/
theorem find_run {name : String} (nonempty : stripQuotes name ≠ "") {before : LibraryIndex}
    (same : before.extensions = index.extensions) :
    find now name dirs before =
      (do
        match ← ExceptT.mk (pure (index.findFile? now (stripQuotes name) dirs)) with
        | some file => return [file.text]
        | none =>
          if '/' ∈ (stripQuotes name).toList then return []
          else findFirst now dirs (index.namesFor (stripQuotes name)) : Lookup (List String))
        before := by
  unfold find
  generalize stripQuotes name = key at nonempty
  dsimp only
  rw [if_neg (by simpa using nonempty), run_bind, run_get]
  dsimp only
  rw [isLibrary_congr same, findFile?_congr same]
  refine congrFun (bind_congr fun file => ?_) before
  cases file with
  | some file => rfl
  | none =>
    have names : (if index.isLibrary key = true then
        [if index.isLibrary key = true then baseOf key else key] else candidateNames key) =
          index.namesFor key := by
      rw [candidateNames_eq, namesFor]
      split <;> rfl
    have slash : (if index.isLibrary key = true then baseOf key else key).toList.contains '/' = true ↔
        '/' ∈ key.toList := by
      split
      · simpa using slash_mem_baseOf key
      · simp
    dsimp only
    rw [names]
    by_cases separated : '/' ∈ key.toList
    · rw [if_pos (slash.mpr separated), if_pos separated]
    · rw [if_neg (mt slash.mp separated), if_neg separated]

theorem find_recalls {name : String} (nonempty : stripQuotes name ≠ "") :
    Yields (Recalls index seen now) (find now name dirs)
      (index.findIn seen now (stripQuotes name) dirs) := by
  intro before recalls
  rw [find_run nonempty recalls.extensions, findIn]
  refine Yields.bind (fun before recalls => ⟨before, rfl, recalls⟩) (fun file => ?_) before recalls
  cases file with
  | some file => exact yields_pure _
  | none =>
    by_cases separated : '/' ∈ (stripQuotes name).toList
    · dsimp only
      rw [if_pos separated, if_pos separated]
      exact yields_pure []
    · dsimp only
      rw [if_neg separated, if_neg separated]
      exact findFirst_recalls _

end ScriptDeps.LibraryIndex
