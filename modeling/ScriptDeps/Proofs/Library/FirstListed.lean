import ScriptDeps.Proofs.Library.Silent
import Mathlib.Data.List.Induction

/-!
# Directories as they were first listed

An index serves lookups while files come and go. Whether a lookup comes to the listing of a directory
does not depend on what the index remembers. So after any lookups it answers as a fresh index would if
every directory still was as it was when a lookup first came to it, and only a text that names a file
is told by the files as they are now.
-/

namespace ScriptDeps.LibraryIndex

variable {index before : LibraryIndex} {fs now : FileSystem} {dirs : List String}
  {directory name : String}

/-! ### Listing directories in turn -/

/-- The directories before the first with a null character, which cannot be listed. -/
def reached (dirs : List String) : List String :=
  dirs.takeWhile fun directory => '\x00' ∉ directory.toList

/-- No directory with a null character has been listed. -/
def Spoken (index : LibraryIndex) : Prop :=
  ∀ directory, index.Knows directory → '\x00' ∉ directory.toList

theorem spoken_of_listDirectory {listing : Listing}
    (listed : index.listDirectory fs directory = .ok listing) : '\x00' ∉ directory.toList := by
  intro null
  have surprised : Surprises (index.listDirectory fs directory) := surprises_listDirectory.mpr null
  rw [listed] at surprised
  exact surprises_ok _ surprised

theorem listing_of_knows (fs : FileSystem) (known : index.Knows directory) :
    ∃ files, listing fs directory index = (.ok files, index) := by
  unfold listing
  cases found : index.listings.find? (·.1 == directory) with
  | some entry => exact ⟨entry.2, rfl⟩
  | none => exact absurd known (find?_listings_eq_none.mp found)

theorem listing_of_null (fs : FileSystem) (spoken : index.Spoken) (null : '\x00' ∈ directory.toList) :
    ∃ failure, listing fs directory index = (.error failure, index) := by
  have unknown : ¬index.Knows directory := fun known => spoken directory known null
  unfold listing
  rw [find?_listings_eq_none.mpr unknown]
  dsimp only
  cases listed : index.listDirectory fs directory with
  | error failure => exact ⟨failure, rfl⟩
  | ok files => exact absurd null (spoken_of_listDirectory listed)

theorem listing_of_new (fs : FileSystem) (unknown : ¬index.Knows directory) (speaks : '\x00' ∉ directory.toList) :
    ∃ files, listing fs directory index =
      (.ok files, { index with listings := (directory, files) :: index.listings }) := by
  obtain ⟨files, listed⟩ : ∃ files, index.listDirectory fs directory = .ok files :=
    listDirectory_returns speaks
  unfold listing
  rw [find?_listings_eq_none.mpr unknown]
  dsimp only
  rw [listed]
  exact ⟨files, rfl⟩

theorem knows_cons {entry : String × Listing} :
    { index with listings := entry :: index.listings }.Knows directory ↔
      directory = entry.1 ∨ index.Knows directory := by
  simp [Knows, eq_comm]

/-- A directory that can be listed is known from then on, and no other one comes to be known. -/
theorem knows_listing (fs : FileSystem) (index : LibraryIndex) (speaks : '\x00' ∉ directory.toList) :
    ∃ files later, listing fs directory index = (.ok files, later) ∧
      ∀ other, later.Knows other ↔ other = directory ∨ index.Knows other := by
  by_cases known : index.Knows directory
  · obtain ⟨files, ran⟩ := listing_of_knows fs known
    refine ⟨files, index, ran, fun other => (or_iff_right_of_imp ?_).symm⟩
    rintro rfl
    exact known
  · obtain ⟨files, ran⟩ := listing_of_new fs known speaks
    exact ⟨files, _, ran, fun other => knows_cons⟩

/-- The index after directories are listed in turn, until one cannot be. -/
def listAll (fs : FileSystem) : List String → LibraryIndex → LibraryIndex
  | [], index => index
  | directory :: rest, index =>
    match listing fs directory index with
    | (.ok _, later) => listAll fs rest later
    | (.error _, later) => later

theorem knows_listAll (spoken : index.Spoken) :
    (listAll fs dirs index).Knows directory ↔ directory ∈ reached dirs ∨ index.Knows directory := by
  induction dirs generalizing index with
  | nil => simp [listAll, reached]
  | cons first rest ih =>
    rw [listAll, reached]
    by_cases null : '\x00' ∈ first.toList
    · obtain ⟨failure, ran⟩ := listing_of_null fs spoken null
      simp [ran, null]
    · obtain ⟨files, later, ran, knows⟩ := knows_listing fs index null
      have speaks : later.Spoken := by
        intro other known
        obtain rfl | old := (knows other).mp known
        · exact null
        · exact spoken other old
      rw [ran]
      dsimp only
      rw [ih speaks, knows]
      simp [reached, null, or_assoc, or_left_comm]

theorem spoken_listAll (spoken : index.Spoken) : (listAll fs dirs index).Spoken := by
  intro directory known
  obtain among | old := (knows_listAll spoken).mp known
  · simpa using List.mem_takeWhile_imp among
  · exact spoken directory old

theorem listAll_of_knows (spoken : index.Spoken)
    (known : ∀ directory ∈ reached dirs, index.Knows directory) : listAll fs dirs index = index := by
  induction dirs with
  | nil => rfl
  | cons first rest ih =>
    rw [listAll]
    by_cases null : '\x00' ∈ first.toList
    · obtain ⟨failure, ran⟩ := listing_of_null fs spoken null
      rw [ran]
    · have turn : reached (first :: rest) = first :: reached rest := by simp [reached, null]
      rw [turn] at known
      obtain ⟨here, later⟩ := List.forall_mem_cons.mp known
      obtain ⟨files, ran⟩ := listing_of_knows fs here
      rw [ran]
      exact ih later

/-! ### What a lookup lists -/

theorem state_map {α β : Type} (f : α → β) (lookup : Lookup α) :
    ((do return f (← lookup) : Lookup β) index).2 = (lookup index).2 := by
  rw [run_bind]
  rcases lookup index with ⟨_ | found, later⟩
  · rfl
  · rfl

theorem state_mapM (files : Listing → List String) :
    ((dirs.mapM fun directory => do return files (← listing fs directory) :
      Lookup (List (List String))) index).2 = listAll fs dirs index := by
  induction dirs generalizing index with
  | nil => rfl
  | cons first rest ih =>
    rw [List.mapM_cons, run_bind, run_bind, listAll]
    rcases listing fs first index with ⟨_ | found, later⟩
    · rfl
    · dsimp only [run_pure]
      rw [state_map (files found :: ·), ih]

theorem findBase_state (fs : FileSystem) (name : String) (dirs : List String) (index : LibraryIndex) :
    (findBase fs name dirs index).2 = listAll fs dirs index := by
  rw [findBase, state_map List.flatten, state_mapM]

/-- Only the first name makes a difference to what is listed. -/
theorem findFirst_state (spoken : index.Spoken) {names : List String} (some : names ≠ []) :
    (findFirst fs dirs names index).2 = listAll fs dirs index := by
  induction names generalizing index with
  | nil => exact absurd rfl some
  | cons name rest ih =>
    rw [findFirst, run_bind]
    have listed := findBase_state fs name dirs index
    generalize findBase fs name dirs index = outcome at listed ⊢
    obtain ⟨_ | found, later⟩ := outcome
    · exact listed
    obtain rfl : later = listAll fs dirs index := listed
    dsimp only
    split
    · cases rest with
      | nil => rfl
      | cons next others =>
        rw [ih (spoken_listAll spoken) (List.cons_ne_nil _ _)]
        exact listAll_of_knows (spoken_listAll spoken) fun directory among =>
          (knows_listAll spoken).mpr (.inl among)
    · rfl

/-- A lookup, and the files as they are when it is made. -/
structure Query where
  files : FileSystem
  name : String
  dirs : List String

/-- Whether a lookup comes to the listing of a directory. -/
structure Query.Reads (query : Query) (index : LibraryIndex) (directory : String) : Prop where
  nonempty : stripQuotes query.name ≠ ""
  listed : Listed index query.files (stripQuotes query.name) query.dirs
  reached : directory ∈ reached query.dirs

def Query.next (query : Query) (index : LibraryIndex) : LibraryIndex :=
  (find query.files query.name query.dirs index).2

theorem Query.next_of_listed {query : Query} (spoken : before.Spoken)
    (same : before.extensions = index.extensions) (some : stripQuotes query.name ≠ "")
    (listed : Listed index query.files (stripQuotes query.name) query.dirs) :
    query.next before = listAll query.files query.dirs before := by
  rw [next, find_run some same, listed.unnamed, run_bind, run_result]
  dsimp only
  rw [if_neg listed.plain]
  exact findFirst_state spoken listed.some

theorem Query.next_of_not_listed {query : Query} (same : before.extensions = index.extensions)
    (unread : stripQuotes query.name = "" ∨
      ¬Listed index query.files (stripQuotes query.name) query.dirs) :
    query.next before = before := by
  rw [next]
  by_cases empty : stripQuotes query.name = ""
  · rw [find_of_empty empty]
    rfl
  have unlisted := unread.resolve_left empty
  rw [find_run empty same, run_bind, run_result]
  cases asked : index.findFile? query.files (stripQuotes query.name) query.dirs with
  | error failure => rfl
  | ok found =>
    cases found with
    | some file => rfl
    | none =>
      dsimp only
      split
      · rfl
      · rename_i plain
        cases names : index.namesFor (stripQuotes query.name) with
        | nil => rfl
        | cons name rest =>
          have some : index.namesFor (stripQuotes query.name) ≠ [] := names ▸ List.cons_ne_nil _ _
          exact absurd ⟨asked, plain, some⟩ unlisted

/-- A lookup makes known what it comes to list, and nothing else. -/
theorem Query.knows_next {query : Query} (spoken : before.Spoken)
    (same : before.extensions = index.extensions) :
    (query.next before).Knows directory ↔ query.Reads index directory ∨ before.Knows directory := by
  by_cases listed : stripQuotes query.name ≠ "" ∧
      Listed index query.files (stripQuotes query.name) query.dirs
  · rw [next_of_listed spoken same listed.1 listed.2, knows_listAll spoken]
    exact or_congr_left ⟨fun among => ⟨listed.1, listed.2, among⟩, Reads.reached⟩
  · rw [next_of_not_listed same (by tauto)]
    exact (or_iff_right fun reads => listed ⟨reads.nonempty, reads.listed⟩).symm

theorem Query.spoken_next {query : Query} (spoken : before.Spoken) : (query.next before).Spoken := by
  intro directory known
  obtain reads | old := (knows_next spoken rfl).mp known
  · simpa using List.mem_takeWhile_imp reads.reached
  · exact spoken directory old

/-! ### Every history -/

theorem unnamed_iff {query : Query} :
    (index.findFile? query.files (stripQuotes query.name) query.dirs).toOption = some none ↔
      index.findFile? query.files (stripQuotes query.name) query.dirs = .ok none := by
  cases index.findFile? query.files (stripQuotes query.name) query.dirs <;> simp [Except.toOption]

instance {query : Query} : Decidable (query.Reads index directory) :=
  decidable_of_iff (stripQuotes query.name ≠ "" ∧
      ((index.findFile? query.files (stripQuotes query.name) query.dirs).toOption = some none ∧
        '/' ∉ (stripQuotes query.name).toList ∧ index.namesFor (stripQuotes query.name) ≠ []) ∧
      directory ∈ reached query.dirs)
    ⟨fun ⟨nonempty, ⟨unnamed, plain, names⟩, among⟩ =>
        ⟨nonempty, ⟨unnamed_iff.mp unnamed, plain, names⟩, among⟩,
      fun ⟨nonempty, listed, among⟩ =>
        ⟨nonempty, ⟨unnamed_iff.mpr listed.unnamed, listed.plain, listed.some⟩, among⟩⟩

/-- The index after lookups in turn. -/
def after (index : LibraryIndex) (history : List Query) : LibraryIndex :=
  history.foldl (fun index query => query.next index) index

/-- The files in which a directory was first listed by lookups, or is listed if it was not. -/
def firstListed (index : LibraryIndex) (history : List Query) (now : FileSystem)
    (directory : String) : FileSystem :=
  ((history.find? fun query => query.Reads index directory).map Query.files).getD now

/-- What a lookup answers if every directory is as it is in the files that are given for it. -/
def answerIn (index : LibraryIndex) (seen : String → FileSystem) (query : Query) :
    Except Failure (List String) :=
  if stripQuotes query.name = "" then .ok []
  else index.findIn seen query.files (stripQuotes query.name) query.dirs

variable {seen : String → FileSystem} {history : List Query} {query : Query}

theorem firstListed_of_unread (unread : ¬∃ query ∈ history, query.Reads index directory) :
    index.firstListed history now directory = now := by
  have none : history.find? (fun query => query.Reads index directory) = none := by
    simpa using unread
  rw [firstListed, none]
  rfl

theorem firstListed_append_read (read : query.Reads index directory) :
    index.firstListed (history ++ [query]) now directory =
      index.firstListed history query.files directory := by
  unfold firstListed
  rw [List.find?_append]
  cases history.find? fun query => query.Reads index directory with
  | some first => rfl
  | none => simp [read]

theorem firstListed_append_known (known : ∃ query ∈ history, query.Reads index directory)
    (files : FileSystem) :
    index.firstListed (history ++ [query]) now directory = index.firstListed history files directory := by
  unfold firstListed
  rw [List.find?_append]
  cases found : history.find? fun query => query.Reads index directory with
  | some first => rfl
  | none =>
    have unread : ∀ query ∈ history, ¬query.Reads index directory := by simpa using found
    obtain ⟨query, member, reads⟩ := known
    exact absurd reads (unread query member)

theorem find_answerIn (recalls : Recalls index seen query.files before) :
    (find query.files query.name query.dirs before).1 = index.answerIn seen query ∧
      Recalls index seen query.files (query.next before) := by
  rw [Query.next, answerIn]
  by_cases empty : stripQuotes query.name = ""
  · rw [find_of_empty empty, if_pos empty]
    exact ⟨rfl, recalls⟩
  · obtain ⟨later, ran, kept⟩ := @find_recalls index seen query.files query.dirs _ empty before recalls
    rw [ran, if_neg empty]
    exact ⟨rfl, kept⟩

/-- What is known after lookups is what one of them came to list, as it was at the first. -/
structure Remains (index : LibraryIndex) (history : List Query) (later : LibraryIndex) : Prop where
  spoken : later.Spoken
  knows : ∀ directory, later.Knows directory ↔ ∃ query ∈ history, query.Reads index directory
  recalls : ∀ now, Recalls index (index.firstListed history now) now later

theorem Remains.next (remains : Remains index history before) (query : Query) :
    Remains index (history ++ [query]) (query.next before) := by
  have same := (remains.recalls query.files).extensions
  obtain ⟨_, recalls⟩ := find_answerIn (remains.recalls query.files)
  have known : ∀ directory, (query.next before).Knows directory ↔
      query.Reads index directory ∨ ∃ other ∈ history, other.Reads index directory := by
    intro directory
    rw [Query.knows_next remains.spoken same, remains.knows]
  have knows : ∀ directory, (query.next before).Knows directory ↔
      ∃ other ∈ history ++ [query], other.Reads index directory := by
    intro directory
    rw [known]
    simp [or_and_right, exists_or, or_comm]
  refine ⟨Query.spoken_next remains.spoken, knows, fun now => ⟨recalls.extensions, ?_, ?_⟩⟩
  · intro entry member
    have first : index.firstListed (history ++ [query]) now entry.1 =
        index.firstListed history query.files entry.1 := by
      obtain reads | old := (known entry.1).mp ⟨entry, member, rfl⟩
      · exact firstListed_append_read reads
      · exact firstListed_append_known old query.files
    rw [first]
    exact recalls.listings entry member
  · intro directory unknown
    exact firstListed_of_unread (mt (knows directory).mpr unknown)

theorem recalls_fresh (extensions ignored : List String) (now : FileSystem) :
    Recalls (fresh extensions ignored) (fun _ => now) now (fresh extensions ignored) :=
  ⟨rfl, nofun, fun _ _ => rfl⟩

theorem remains_after (extensions ignored : List String) (history : List Query) :
    Remains (fresh extensions ignored) history ((fresh extensions ignored).after history) := by
  -- from the end, since the last lookup runs on what the others left
  induction history using List.reverseRecOn with
  | nil =>
    have unknown : ∀ directory, ¬(fresh extensions ignored).Knows directory := by
      rintro directory ⟨entry, member, _⟩
      cases member
    refine ⟨fun directory known => absurd known (unknown directory), ?_, ?_⟩
    · intro directory
      exact iff_of_false (unknown directory) (by simp)
    · intro now
      exact recalls_fresh extensions ignored now
  | append_singleton history query ih =>
    rw [after, List.foldl_append]
    exact ih.next query

theorem answerIn_congr {others : String → FileSystem} {other : FileSystem}
    (listed : ∀ directory ∈ query.dirs,
      index.listDirectory (others directory) directory = index.listDirectory (seen directory) directory)
    (named : index.findFile? other (stripQuotes query.name) query.dirs =
      index.findFile? query.files (stripQuotes query.name) query.dirs) :
    index.answerIn others { query with files := other } = index.answerIn seen query := by
  have bases : ∀ name, index.findBaseIn others name query.dirs = index.findBaseIn seen name query.dirs := by
    intro name
    have each : ∀ directory ∈ query.dirs,
        filesOf (Text.lower name) <$> index.listDirectory (others directory) directory =
          filesOf (Text.lower name) <$> index.listDirectory (seen directory) directory := by
      intro directory member
      rw [listed directory member]
    exact congrArg (List.flatten <$> ·) (mapM_congr each)
  have names : ∀ names, index.findFirstIn others query.dirs names = index.findFirstIn seen query.dirs names := by
    intro names
    induction names with
    | nil => rfl
    | cons name rest ih => rw [findFirstIn, findFirstIn, bases, ih]
  unfold answerIn findIn
  dsimp only
  rw [named, names]

/-- After any lookups, with the files changed between them in any way, what a fresh index knows is
what one of the lookups came to list. It answers as it would at first if every directory was as when
it was first listed, so as it would at first in any files where the directories are so. If the files
do not change, it answers as it would at first. -/
theorem find_after_history (extensions ignored : List String) (history : List Query) (query : Query) :
    let start := fresh extensions ignored
    let seen := start.firstListed history query.files
    (∀ directory, (start.after history).Knows directory ↔
        ∃ earlier ∈ history, earlier.Reads start directory) ∧
      (find query.files query.name query.dirs (start.after history)).1 = start.answerIn seen query ∧
      (∀ other : FileSystem,
        (∀ directory ∈ query.dirs,
          start.listDirectory other directory = start.listDirectory (seen directory) directory) →
        start.findFile? other (stripQuotes query.name) query.dirs =
          start.findFile? query.files (stripQuotes query.name) query.dirs →
        (find other query.name query.dirs start).1 = start.answerIn seen query) ∧
      ∀ asked : List (String × List String),
        (find query.files query.name query.dirs
            (start.after (asked.map fun (name, dirs) => ⟨query.files, name, dirs⟩))).1 =
          (find query.files query.name query.dirs start).1 := by
  intro start seen
  have remembered : ∀ history, (find query.files query.name query.dirs (start.after history)).1 =
      start.answerIn (start.firstListed history query.files) query := fun history =>
    (find_answerIn ((remains_after extensions ignored history).recalls query.files)).1
  have first : ∀ other, (find other query.name query.dirs start).1 =
      start.answerIn (fun _ => other) { query with files := other } := fun other =>
    (@find_answerIn start _ _ { query with files := other } (recalls_fresh extensions ignored other)).1
  refine ⟨(remains_after extensions ignored history).knows, remembered history, ?_, ?_⟩
  · intro other listed named
    rw [first, answerIn_congr listed named]
  · intro asked
    have same : start.firstListed (asked.map fun (name, dirs) => ⟨query.files, name, dirs⟩)
        query.files = fun _ => query.files := by
      funext directory
      unfold firstListed
      rw [List.find?_map]
      cases asked.find? _ with
      | none => rfl
      | some found => rfl
    rw [remembered, first, same]

def bareShelf : FileSystem where
  nodes := [(["w"], .directory false)]
  workingDirectory := []

def filledShelf : FileSystem where
  nodes := [(["w"], .directory false), (["A.dll", "w"], .file .empty 0 false)]
  workingDirectory := []

theorem find_bareShelf : (find bareShelf "A" ["/w"] (fresh [".dll"] [])).1 = .ok [] := by
  have listed : bareShelf.list "/w" = .ok [] := by
    have names : bareShelf.list "/w" = .ok (bareShelf.namesIn ["w"]) := rfl
    rw [names, FileSystem.namesIn, List.mergeSort_of_pairwise (by decide +kernel)]
    rfl
  have unnamed : (fresh [".dll"] []).namedFile? bareShelf (stripQuotes "A") ["/w"] = none := by
    decide +kernel
  have names : (fresh [".dll"] []).namesFor (stripQuotes "A") = ["A"] := by
    decide +kernel
  rw [find_plain (by decide +kernel) (by decide +kernel) (by decide), answer, unnamed, names]
  simp only [List.flatMap_cons, List.flatMap_nil, librariesIn, listed]
  decide +kernel

theorem find_after_delivery :
    (find filledShelf "A" ["/w"] ((fresh [".dll"] []).after [⟨bareShelf, "A", ["/w"]⟩])).1 =
      .ok [] := by
  obtain ⟨_, remembered, elsewhere, _⟩ :=
    find_after_history [".dll"] [] [⟨bareShelf, "A", ["/w"]⟩] ⟨filledShelf, "A", ["/w"]⟩
  have seen : (fresh [".dll"] []).firstListed [⟨bareShelf, "A", ["/w"]⟩] filledShelf "/w" =
      bareShelf := by
    have reads : Query.Reads ⟨bareShelf, "A", ["/w"]⟩ (fresh [".dll"] []) "/w" := by
      decide +kernel
    simp [firstListed, reads]
  have listed : ∀ directory ∈ ["/w"], (fresh [".dll"] []).listDirectory bareShelf directory =
      (fresh [".dll"] []).listDirectory
        ((fresh [".dll"] []).firstListed [⟨bareShelf, "A", ["/w"]⟩] filledShelf directory) directory := by
    intro directory member
    obtain rfl := List.mem_singleton.mp member
    rw [seen]
  exact remembered.trans ((elsewhere bareShelf listed rfl).symm.trans find_bareShelf)

end ScriptDeps.LibraryIndex
