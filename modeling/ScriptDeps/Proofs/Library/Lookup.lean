import ScriptDeps.Proofs.Library.Recalling

/-!
# What a lookup answers

A lookup answers as if every directory was listed anew, so what a fresh index finds can be said
without its memory: the file that a name names, or else all libraries of the first name that any
directory has one for.
-/

namespace ScriptDeps.LibraryIndex

variable {index : LibraryIndex} {fs : FileSystem} {dirs : List String}

/-! ### Lookups without memory -/

/-- What is remembered is what would be listed now. -/
structure Remembers (index : LibraryIndex) (fs : FileSystem) (later : LibraryIndex) : Prop where
  extensions : later.extensions = index.extensions
  listings : ∀ entry ∈ later.listings, index.listDirectory fs entry.1 = .ok entry.2

theorem remembers_fresh (extensions ignored : List String) :
    Remembers (fresh extensions ignored) fs (fresh extensions ignored) :=
  ⟨rfl, nofun⟩

/-- The lookup gives the result, whatever is remembered. -/
def Computes {α : Type} (index : LibraryIndex) (fs : FileSystem) (lookup : Lookup α)
    (result : Except Failure α) : Prop :=
  ∀ before, Remembers index fs before →
    ∃ later, lookup before = (result, later) ∧ Remembers index fs later

/-- The libraries of a base name, every directory being listed anew. -/
def findBaseNow (index : LibraryIndex) (fs : FileSystem) (name : String) (dirs : List String) :
    Except Failure (List String) := do
  let found ← dirs.mapM fun directory => do
    return filesOf (Text.lower name) (← index.listDirectory fs directory)
  return found.flatten

def findFirstNow (index : LibraryIndex) (fs : FileSystem) (dirs : List String) :
    List String → Except Failure (List String)
  | [] => return []
  | name :: rest => do
    let found ← index.findBaseNow fs name dirs
    if found.isEmpty then findFirstNow index fs dirs rest else return found

def findNow (index : LibraryIndex) (fs : FileSystem) (key : String) (dirs : List String) :
    Except Failure (List String) := do
  match ← index.findFile? fs key dirs with
  | some file => return [file.text]
  | none =>
    if '/' ∈ key.toList then return [] else index.findFirstNow fs dirs (index.namesFor key)

theorem findFirstNow_eq (names : List String) :
    index.findFirstNow fs dirs names = index.findFirstIn (fun _ => fs) dirs names := by
  induction names with
  | nil => rfl
  | cons name rest ih =>
    rw [findFirstNow, ih]
    rfl

theorem findNow_eq (key : String) :
    index.findNow fs key dirs = index.findIn (fun _ => fs) fs key dirs := by
  rw [findNow, findFirstNow_eq]
  rfl

theorem remembers_iff {later : LibraryIndex} :
    Remembers index fs later ↔ Recalls index (fun _ => fs) fs later :=
  ⟨fun remembers => ⟨remembers.extensions, remembers.listings, fun _ _ => rfl⟩,
    fun recalls => ⟨recalls.extensions, recalls.listings⟩⟩

theorem find_computes {name : String} (nonempty : stripQuotes name ≠ "") :
    Computes index fs (find fs name dirs) (index.findNow fs (stripQuotes name) dirs) := by
  intro before remembers
  obtain ⟨later, ran, recalls⟩ := find_recalls nonempty before (remembers_iff.mp remembers)
  exact ⟨later, findNow_eq (stripQuotes name) ▸ ran, remembers_iff.mpr recalls⟩

/-! ### The answer -/

/-- Where the file that a text names may be: where the text says, or in the directories. -/
def placesFor (key : String) (dirs : List String) : List Path :=
  if (Path.ofText key).isAbsolute then [.ofText key]
  else dirs.map fun directory => .ofText directory ++ .ofText key

/-- The first regular file that a text with the extension of a library names. -/
def namedFile? (index : LibraryIndex) (fs : FileSystem) (key : String) (dirs : List String) :
    Option Path :=
  if index.isLibrary key then (placesFor key dirs).find? fun place => fs.isFile place.text = .ok true
  else none

/-- The libraries for a text: the file that it names, or none if the text has a slash, or those that
the directories have, in their order, for the first name that they have any for. -/
def answer (index : LibraryIndex) (fs : FileSystem) (key : String) (dirs : List String) :
    List String :=
  match index.namedFile? fs key dirs with
  | some file => [file.text]
  | none =>
    if '/' ∈ key.toList then []
    else
      (((index.namesFor key).map fun name => dirs.flatMap (index.librariesIn fs name)).find?
        (· ≠ [])).getD []

theorem findBaseNow_ok {name : String} {found : List String}
    (returned : index.findBaseNow fs name dirs = .ok found) :
    found = dirs.flatMap (index.librariesIn fs name) := by
  obtain ⟨lists, each, returned⟩ := bind_ok returned
  rw [pure_ok returned, List.flatMap_def]
  refine congrArg List.flatten (mapM_eq_map (fun directory files ran => ?_) each)
  obtain ⟨listing, listed, ran⟩ := bind_ok ran
  rw [pure_ok ran, filesOf_listDirectory listed]

theorem findFirstNow_ok {names found : List String}
    (returned : index.findFirstNow fs dirs names = .ok found) :
    found = ((names.map fun name => dirs.flatMap (index.librariesIn fs name)).find? (· ≠ [])).getD [] := by
  induction names with
  | nil => exact pure_ok returned
  | cons name rest ih =>
    obtain ⟨first, looked, returned⟩ := bind_ok returned
    rw [List.map_cons, ← findBaseNow_ok looked]
    cases first with
    | nil => exact ih returned
    | cons file files => exact pure_ok returned

theorem findFile?_eq (key : String) :
    index.findFile? fs key dirs =
      if index.isLibrary key then fs.firstFile? (placesFor key dirs) else .ok none := by
  unfold findFile? placesFor
  cases index.isLibrary key with
  | false => rfl
  | true => by_cases absolute : (Path.ofText key).isAbsolute = true <;> simp [absolute]

theorem findFile?_ok {key : String} {found : Option Path}
    (returned : index.findFile? fs key dirs = .ok found) : found = index.namedFile? fs key dirs := by
  rw [findFile?_eq] at returned
  unfold namedFile?
  split at returned
  · rename_i library
    rw [if_pos library]
    exact fs.firstFile?_ok returned
  · rename_i other
    rw [if_neg other]
    exact (Except.ok.inj returned).symm

theorem findNow_ok {key : String} {found : List String}
    (returned : index.findNow fs key dirs = .ok found) : found = index.answer fs key dirs := by
  obtain ⟨file, direct, returned⟩ := bind_ok returned
  rw [answer, ← findFile?_ok direct]
  cases file with
  | some file => exact pure_ok returned
  | none =>
    dsimp only at returned ⊢
    split at returned
    · rename_i separated
      rw [if_pos separated]
      exact pure_ok returned
    · rename_i plain
      rw [if_neg plain]
      exact findFirstNow_ok returned

theorem findBaseNow_returns (spoken : ∀ directory ∈ dirs, '\x00' ∉ directory.toList) (name : String) :
    ∃ found, index.findBaseNow fs name dirs = .ok found := by
  have each : ∀ directory ∈ dirs, ∃ files, (do
      return filesOf (Text.lower name) (← index.listDirectory fs directory) :
        Except Failure (List String)) = .ok files := fun directory member => by
    obtain ⟨listing, listed⟩ := listDirectory_returns (spoken directory member)
    exact ⟨_, by rw [listed, ok_bind]; rfl⟩
  obtain ⟨lists, ran⟩ := mapM_returns each
  exact ⟨lists.flatten, by rw [findBaseNow, ran]; rfl⟩

theorem findFirstNow_returns (spoken : ∀ directory ∈ dirs, '\x00' ∉ directory.toList)
    (names : List String) : ∃ found, index.findFirstNow fs dirs names = .ok found := by
  induction names with
  | nil => exact ⟨[], rfl⟩
  | cons name rest ih =>
    obtain ⟨found, looked⟩ := findBaseNow_returns spoken name
    rw [findFirstNow, looked, ok_bind]
    cases found with
    | nil => exact ih
    | cons file files => exact ⟨file :: files, rfl⟩

/-- What a lookup with a fresh index answers, when it does not fail. -/
theorem find_answers {extensions ignored : List String} {name : String}
    (nonempty : stripQuotes name ≠ "") {found : List String} {later : LibraryIndex}
    (returned : find fs name dirs (fresh extensions ignored) = (.ok found, later)) :
    found = (fresh extensions ignored).answer fs (stripQuotes name) dirs := by
  obtain ⟨_, ran, -⟩ := find_computes nonempty (fresh extensions ignored)
    (remembers_fresh extensions ignored)
  rw [returned] at ran
  exact findNow_ok (Prod.mk.inj ran).1.symm

/-- A lookup that names no file returns, wherever it looks. -/
theorem find_returns {extensions ignored : List String} {name : String}
    (nonempty : stripQuotes name ≠ "")
    (unnamed : (fresh extensions ignored).isLibrary (stripQuotes name) = false)
    (spoken : ∀ directory ∈ dirs, '\x00' ∉ directory.toList) :
    ∃ found later, find fs name dirs (fresh extensions ignored) = (.ok found, later) := by
  obtain ⟨later, ran, -⟩ := find_computes nonempty (fresh extensions ignored)
    (remembers_fresh extensions ignored)
  obtain ⟨found, looked⟩ : ∃ found,
      (fresh extensions ignored).findNow fs (stripQuotes name) dirs = .ok found := by
    rw [findNow, findFile?, unnamed]
    by_cases separated : '/' ∈ (stripQuotes name).toList
    · exact ⟨[], by simp [separated]; rfl⟩
    · simpa [separated] using findFirstNow_returns spoken _
  exact ⟨found, later, looked ▸ ran⟩

theorem find_plain {extensions ignored : List String} {name : String}
    (nonempty : stripQuotes name ≠ "")
    (unnamed : (fresh extensions ignored).isLibrary (stripQuotes name) = false)
    (spoken : ∀ directory ∈ dirs, '\x00' ∉ directory.toList) :
    (find fs name dirs (fresh extensions ignored)).1 =
      .ok ((fresh extensions ignored).answer fs (stripQuotes name) dirs) := by
  obtain ⟨found, later, returned⟩ := @find_returns fs _ extensions ignored _ nonempty unnamed spoken
  obtain ⟨_, ran, -⟩ := find_computes nonempty (fresh extensions ignored)
    (remembers_fresh extensions ignored)
  rw [ran] at returned ⊢
  have looked := (Prod.mk.inj returned).1
  rw [looked, findNow_ok looked]

/-- Two directories with libraries of one name, in several letter cases. -/
def shelf : FileSystem where
  nodes := [
    (["v"], .directory false), (["w"], .directory false),
    (["A.B.C.dll", "w"], .directory false),
    (["A.b.exe", "w"], .file .empty 0 false),
    (["a.B.DLL", "w"], .file .empty 0 false),
    (["a.b.dll", "w"], .file .empty 0 false),
    (["A.B.dll", "v"], .file .empty 0 false)]
  workingDirectory := []

theorem list_shelf :
    shelf.list "/w" = .ok ["A.B.C.dll", "A.b.exe", "a.B.DLL", "a.b.dll"] ∧
      shelf.list "/v" = .ok ["A.B.dll"] ∧ shelf.list "/x" = .error (.file .missing "/x") := by
  have w : shelf.list "/w" = .ok (shelf.namesIn ["w"]) := rfl
  have v : shelf.list "/v" = .ok (shelf.namesIn ["v"]) := rfl
  rw [w, v, FileSystem.namesIn, FileSystem.namesIn, List.mergeSort_of_pairwise (by decide +kernel),
    List.mergeSort_of_pairwise (by decide +kernel)]
  exact ⟨rfl, rfl, rfl⟩

theorem answer_shelf :
    (fresh [".dll", ".Exe"] []).answer shelf "A.B.C" ["/w", "/x", "/v"] =
      ["/w/a.B.DLL", "/w/a.b.dll", "/w/A.b.exe", "/v/A.B.dll"] := by
  obtain ⟨w, v, x⟩ := list_shelf
  have unnamed : (fresh [".dll", ".Exe"] []).namedFile? shelf "A.B.C" ["/w", "/x", "/v"] = none := by
    decide +kernel
  have names : (fresh [".dll", ".Exe"] []).namesFor "A.B.C" = ["A.B.C", "A.B", "A"] := by
    decide +kernel
  unfold answer
  rw [unnamed, names]
  simp only [List.flatMap_cons, List.flatMap_nil, librariesIn, w, v, x]
  decide +kernel

theorem find_answers_shelf : ∃ later,
    find shelf "'A.B.C' " ["/w", "/x", "/v"] (fresh [".dll", ".Exe"] []) =
      (.ok ["/w/a.B.DLL", "/w/a.b.dll", "/w/A.b.exe", "/v/A.B.dll"], later) := by
  have stripped : stripQuotes "'A.B.C' " = "A.B.C" := by decide +kernel
  have nonempty : stripQuotes "'A.B.C' " ≠ "" := by decide +kernel
  obtain ⟨found, later, returned⟩ := find_returns nonempty
    (by decide +kernel : (fresh [".dll", ".Exe"] []).isLibrary (stripQuotes "'A.B.C' ") = false)
    (by decide : ∀ directory ∈ ["/w", "/x", "/v"], '\x00' ∉ directory.toList)
  have answered := find_answers nonempty returned
  rw [stripped, answer_shelf] at answered
  exact ⟨later, answered ▸ returned⟩

end ScriptDeps.LibraryIndex
