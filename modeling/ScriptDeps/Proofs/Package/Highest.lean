import ScriptDeps.Proofs.FileSystem.Detours
import ScriptDeps.Proofs.FileSystem.Refusals
import ScriptDeps.Proofs.Package.Layouts
import ScriptDeps.Proofs.Package.Numbers
import ScriptDeps.Proofs.Package.Order

/-!
# The highest version

Which directory is found for a package: in the first root that offers a match, in either layout, the
first of those with the highest version. That is said of the matches that are seen. A version after
one that cannot be asked about, in a folder of versions, is overlooked.
-/

namespace ScriptDeps.PackageStore

open Package (VersionKey)

/-! ### What a root offers -/

/-- The names in a directory. One that cannot be listed has none. -/
def listed (fs : FileSystem) (directory : Path) : List String :=
  (fs.list directory.text).toOption.getD []

/-- A root has a version of a package in a directory: in a folder of versions that is named like
the package, or in a directory whose name spells both. -/
inductive HasVersion (fs : FileSystem) (root : Path) (name : String) : String → Path → Prop
  | inFolder {folder version : String} (entry : folder ∈ listed fs root)
      (isFolder : fs.isDirectory (inside root folder).text = .ok true)
      (named : Text.lower folder = Text.lower name) (within : version ∈ listed fs (inside root folder))
      (there : fs.isDirectory (inside (inside root folder) version).text = .ok true) :
      HasVersion fs root name version (inside (inside root folder) version)
  | byName {directory id version : String} (entry : directory ∈ listed fs root)
      (there : fs.isDirectory (inside root directory).text = .ok true)
      (spelled : Spells directory id version) (named : Text.lower id = Text.lower name) :
      HasVersion fs root name version (inside root directory)

/-- The version is the one that the reference names, if it names one. -/
def Fits (package : PackageReference) (version : String) : Prop :=
  ∀ wanted, package.version = some wanted → wanted ≠ "" → version = wanted

def isFolder (fs : FileSystem) (path : Path) : Bool :=
  (fs.isDirectory path.text).toOption.getD false

/-- Whether the file system says what is at the path. -/
def isAnswered (fs : FileSystem) (path : Path) : Bool :=
  (fs.isDirectory path.text).toOption.isSome

def foldersAmong (fs : FileSystem) (directory : Path) (names : List String) : List Installed :=
  (names.filter fun name => isFolder fs (inside directory name)).map fun name =>
    (name, inside directory name)

/-- The versions in a folder, each with whether it is overlooked. -/
def versionsOf (fs : FileSystem) (folder : Path) : List (Installed × Bool) :=
  let answered := fun name => isAnswered fs (inside folder name)
  (foldersAmong fs folder ((listed fs folder).takeWhile answered)).map (·, false) ++
    (foldersAmong fs folder ((listed fs folder).dropWhile answered)).map (·, true)

def offersOf (fs : FileSystem) (root : Path) (name entry : String) : List (Installed × Bool) :=
  if !isFolder fs (inside root entry) then []
  else if Text.lower entry == Text.lower name then versionsOf fs (inside root entry)
  else match splitVersion? entry with
    | some (id, version) =>
      if Text.lower id == Text.lower name then [((version, inside root entry), false)] else []
    | none => []

/-- What a root offers, as it is listed, each with whether it is overlooked. -/
def offersIn (fs : FileSystem) (root : Path) (name : String) : List (Installed × Bool) :=
  (listed fs root).flatMap (offersOf fs root name)

def fits (package : PackageReference) (version : String) : Bool :=
  match package.version.filter (· != "") with
  | some wanted => version == wanted
  | none => true

/-- The matches of a reference in a root, as they are listed, each with whether it is overlooked. -/
def matchesIn (fs : FileSystem) (package : PackageReference) (root : Path) : List (Installed × Bool) :=
  (offersIn fs root package.name).filter fun offer => fits package offer.1.1

def allIn (fs : FileSystem) (package : PackageReference) (root : Path) : List Installed :=
  (matchesIn fs package root).map (·.1)

def seen (offers : List (Installed × Bool)) : List Installed :=
  (offers.filter (!·.2)).map (·.1)

def seenIn (fs : FileSystem) (package : PackageReference) (root : Path) : List Installed :=
  seen (matchesIn fs package root)

/-- Of some directories with versions, the first of those whose version is highest. -/
def FirstHighest (installed : List Installed) (directory : Path) : Prop :=
  ∃ earlier version later key, installed = earlier ++ (version, directory) :: later ∧
    VersionKey.ofText version = .ok key ∧
    (∀ other ∈ earlier, ∃ lower, VersionKey.ofText other.1 = .ok lower ∧ lower.compare key = .lt) ∧
    ∀ other ∈ later, ∃ atMost, VersionKey.ofText other.1 = .ok atMost ∧ atMost.compare key ≠ .gt

/-- The answer that some matches in roots make right: none if no root has one, else the first with
the highest version in the first root that has one. -/
def IsAnswer (matchesOf : Path → List Installed) (roots : List Path) : Option Path → Prop
  | none => ∀ root ∈ roots, matchesOf root = []
  | some directory => ∃ before root after, roots = before ++ root :: after ∧
    (∀ other ∈ before, matchesOf other = []) ∧ FirstHighest (matchesOf root) directory

/-- Nothing is overlooked in the first root in which something is seen, and in those before it. -/
def NoneOverlooked (fs : FileSystem) (package : PackageReference) (roots : List Path) : Prop :=
  ∀ before root after, roots = before ++ root :: after →
    (∀ other ∈ before, seenIn fs package other = []) →
    ∀ offer ∈ matchesIn fs package root, offer.2 = false

section

variable {fs : FileSystem} {package : PackageReference} {root : Path}

theorem isFolder_iff {path : Path} : isFolder fs path = true ↔ fs.isDirectory path.text = .ok true := by
  unfold isFolder
  cases fs.isDirectory path.text with
  | ok there => simp [Except.toOption]
  | error failure => simp [Except.toOption]

/-- What cannot be asked about is too long, or has a name on its way that is. -/
theorem isAnswered_eq_false_iff {path : Path} :
    isAnswered fs path = false ↔ fs.Overlong path.text := by
  rw [← FileSystem.node?At_fails_iff, isAnswered, FileSystem.isDirectory]
  cases fs.node?At path.text with
  | ok node =>
    constructor
    · intro unanswered
      cases unanswered
    · rintro ⟨failure, failed⟩
      cases failed
  | error failure => exact iff_of_true rfl ⟨failure, rfl⟩

theorem fits_iff {version : String} : fits package version = true ↔ Fits package version := by
  unfold fits Fits
  cases package.version with
  | none => simp
  | some wanted =>
    by_cases empty : wanted = ""
    · simp [empty, Option.filter]
    · simp [empty, Option.filter]

theorem mem_foldersAmong {directory path : Path} {names : List String} {version : String} :
    (version, path) ∈ foldersAmong fs directory names ↔ version ∈ names ∧
      path = inside directory version ∧ fs.isDirectory (inside directory version).text = .ok true := by
  rw [foldersAmong, List.mem_map, ← isFolder_iff]
  constructor
  · rintro ⟨name, kept, same⟩
    obtain ⟨rfl, rfl⟩ := Prod.mk.inj same
    obtain ⟨member, there⟩ := List.mem_filter.mp kept
    exact ⟨member, rfl, there⟩
  · rintro ⟨member, rfl, there⟩
    exact ⟨version, List.mem_filter.mpr ⟨member, there⟩, rfl⟩

theorem map_versionsOf (folder : Path) :
    (versionsOf fs folder).map (·.1) = foldersAmong fs folder (listed fs folder) := by
  have plain : ∀ (flag : Bool) (installed : List Installed),
      (installed.map (·, flag)).map (·.1) = installed := by
    intro flag installed
    rw [List.map_map]
    exact List.map_id _
  rw [versionsOf, List.map_append, plain, plain, foldersAmong, foldersAmong, ← List.map_append,
    ← List.filter_append, List.takeWhile_append_dropWhile]
  rfl

theorem mem_map_offersOf {name entry version : String} {path : Path} :
    (version, path) ∈ (offersOf fs root name entry).map (·.1) ↔
      fs.isDirectory (inside root entry).text = .ok true ∧
        ((Text.lower entry = Text.lower name ∧ version ∈ listed fs (inside root entry) ∧
            path = inside (inside root entry) version ∧
            fs.isDirectory (inside (inside root entry) version).text = .ok true) ∨
          ∃ id, Spells entry id version ∧ Text.lower id = Text.lower name ∧
            path = inside root entry) := by
  unfold offersOf
  rw [← isFolder_iff]
  by_cases there : isFolder fs (inside root entry) = true
  swap
  · simp [there]
  rw [there, Bool.not_true, if_neg Bool.false_ne_true, eq_self, true_and]
  by_cases named : Text.lower entry = Text.lower name
  · rw [if_pos (by simpa using named), map_versionsOf, mem_foldersAmong]
    -- a folder named like the package spells no version of it
    constructor
    · exact fun member => .inl ⟨named, member⟩
    · rintro (⟨-, member⟩ | ⟨id, spelled, same, -⟩)
      · exact member
      · exact absurd (named.trans same.symm) spelled.lower_ne
  · rw [if_neg (by simpa using named), or_iff_right fun folder => named folder.1]
    cases split : splitVersion? entry with
    | none =>
      refine iff_of_false List.not_mem_nil ?_
      rintro ⟨id, spelled, -⟩
      rw [splitVersion?_eq_some_iff.mpr spelled] at split
      cases split
    | some parts =>
      obtain ⟨id, spelledVersion⟩ := parts
      have spelled := splitVersion?_eq_some_iff.mp split
      dsimp only
      split
      · rename_i same
        rw [List.map_singleton, List.mem_singleton]
        constructor
        · intro equal
          obtain ⟨rfl, rfl⟩ := Prod.mk.inj equal
          exact ⟨id, spelled, eq_of_beq same, rfl⟩
        · rintro ⟨other, otherSpelled, -, rfl⟩
          rw [(spelled.unique otherSpelled).2]
      · rename_i other
        refine iff_of_false List.not_mem_nil ?_
        rintro ⟨otherId, otherSpelled, same, -⟩
        obtain ⟨rfl, -⟩ := spelled.unique otherSpelled
        exact other (beq_iff_eq.mpr same)

theorem mem_allIn {version : String} {directory : Path} :
    (version, directory) ∈ allIn fs package root ↔
      HasVersion fs root package.name version directory ∧ Fits package version := by
  have offered : (∃ overlooked, ((version, directory), overlooked) ∈ offersIn fs root package.name) ↔
      HasVersion fs root package.name version directory := by
    have entrywise : (∃ overlooked, ((version, directory), overlooked) ∈ offersIn fs root package.name) ↔
        ∃ entry ∈ listed fs root,
          (version, directory) ∈ (offersOf fs root package.name entry).map (·.1) := by
      simp only [offersIn, List.mem_flatMap, List.mem_map]
      constructor
      · rintro ⟨overlooked, entry, among, member⟩
        exact ⟨entry, among, _, member, rfl⟩
      · rintro ⟨entry, among, ⟨installed, overlooked⟩, member, rfl⟩
        exact ⟨overlooked, entry, among, member⟩
    rw [entrywise]
    simp only [mem_map_offersOf]
    constructor
    · rintro ⟨entry, among, there, ⟨named, within, rfl, isVersion⟩ | ⟨id, spelled, named, rfl⟩⟩
      · exact .inFolder among there named within isVersion
      · exact .byName among there spelled named
    · rintro (⟨among, there, named, within, isVersion⟩ | ⟨among, there, spelled, named⟩)
      · exact ⟨_, among, there, .inl ⟨named, within, rfl, isVersion⟩⟩
      · exact ⟨_, among, there, .inr ⟨_, spelled, named, rfl⟩⟩
  rw [← offered, ← fits_iff, allIn, matchesIn, List.mem_map]
  constructor
  · rintro ⟨⟨_, overlooked⟩, member, rfl⟩
    obtain ⟨among, fit⟩ := List.mem_filter.mp member
    exact ⟨⟨overlooked, among⟩, fit⟩
  · rintro ⟨⟨overlooked, among⟩, fit⟩
    exact ⟨_, List.mem_filter.mpr ⟨among, fit⟩, rfl⟩

/-! ### What is seen -/

theorem listOrNone_ok {path : Path} {names : List String} (ran : listOrNone fs path = .ok names) :
    names = listed fs path := by
  unfold listOrNone at ran
  unfold listed
  split at ran
  · rename_i found asked
    rw [asked]
    exact (Except.ok.inj ran).symm
  · rename_i asked
    rw [asked]
    exact (Except.ok.inj ran).symm
  · cases ran

theorem directoriesUntilFault_eq (directory : Path) (names : List String) :
    directoriesUntilFault fs directory names =
      foldersAmong fs directory (names.takeWhile fun name => isAnswered fs (inside directory name)) := by
  induction names with
  | nil => rfl
  | cons name rest ih =>
    rw [directoriesUntilFault, List.takeWhile_cons, ih]
    cases asked : fs.isDirectory (inside directory name).text with
    | error failure => simp [isAnswered, asked, Except.toOption, foldersAmong]
    | ok there => cases there <;> simp [isAnswered, isFolder, asked, Except.toOption, foldersAmong]

theorem seen_versionsOf (folder : Path) :
    seen (versionsOf fs folder) = directoriesUntilFault fs folder (listed fs folder) := by
  rw [directoriesUntilFault_eq, versionsOf, seen, List.filter_append, List.filter_map, List.filter_map]
  simp [Function.comp_def]

theorem offered_ok {name entry : String} {installed : List Installed}
    (ran : offered fs root (Text.lower name) entry = .ok installed) :
    installed = seen (offersOf fs root name entry) := by
  obtain ⟨there, asked, ran⟩ := bind_ok ran
  unfold offersOf isFolder
  rw [asked]
  cases there with
  | false => exact pure_ok ran
  | true =>
    rw [if_neg (by simp)] at ran
    rw [if_neg (by simp [Except.toOption])]
    split at ran
    · rename_i named
      obtain ⟨names, found, ran⟩ := bind_ok ran
      rw [if_pos named, seen_versionsOf, ← listOrNone_ok found]
      exact pure_ok ran
    · rename_i other
      rw [if_neg other]
      cases spelled : splitVersion? entry with
      | none =>
        rw [spelled] at ran
        exact pure_ok ran
      | some parts =>
        rw [spelled] at ran
        rw [pure_ok ran]
        dsimp only
        split
        · rfl
        · rfl

theorem versionsIn_ok {name : String} {installed : List Installed}
    (ran : versionsIn fs root name = .ok installed) : installed = seen (offersIn fs root name) := by
  obtain ⟨entries, found, ran⟩ := bind_ok ran
  obtain ⟨each, offers, ran⟩ := bind_ok ran
  rw [pure_ok ran, mapM_eq_map (fun _ _ => offered_ok) offers, listOrNone_ok found, seen, offersIn,
    List.filter_flatMap, List.map_flatMap]
  rfl

theorem fitting_eq (installed : List Installed) :
    fitting package installed = installed.filter fun entry => fits package entry.1 := by
  unfold fitting fits
  cases package.version.filter (· != "") with
  | some wanted => rfl
  | none => exact (List.filter_true installed).symm

theorem fitting_ok {installed : List Installed}
    (ran : versionsIn fs root package.name = .ok installed) :
    fitting package installed = seenIn fs package root := by
  rw [fitting_eq, versionsIn_ok ran, seen, seenIn, seen, matchesIn, List.filter_map,
    List.filter_filter, List.filter_filter]
  refine congrArg (List.map _) (List.filter_congr fun offer _ => ?_)
  exact Bool.and_comm _ _

theorem seen_eq {offers : List (Installed × Bool)} (none : ∀ offer ∈ offers, offer.2 = false) :
    seen offers = offers.map (·.1) := by
  rw [seen, List.filter_eq_self.mpr fun offer member => ?_]
  rw [none offer member]
  rfl

/-! ### What is found -/

theorem mem_keyed {installed : List Installed} {keyed : List (VersionKey × Path)}
    (each : installed.mapM (fun entry => return (← VersionKey.ofText entry.1, entry.2)) = .ok keyed)
    {entry : Installed} (member : entry ∈ installed) :
    ∃ key, VersionKey.ofText entry.1 = .ok key ∧ (key, entry.2) ∈ keyed := by
  obtain ⟨made, ran⟩ := mapM_returns_iff.mp ⟨keyed, each⟩ entry member
  obtain ⟨key, ofText, ran'⟩ := bind_ok ran
  rw [pure_ok ran'] at ran
  exact ⟨key, ofText, (mem_mapM each).mpr ⟨entry, member, ran⟩⟩

theorem highest?_ok {installed : List Installed} {answer : Option Path} (filled : installed ≠ [])
    (ran : highest? installed = .ok answer) :
    ∃ directory, answer = some directory ∧ FirstHighest installed directory := by
  obtain ⟨keyed, each, ran⟩ := bind_ok ran
  obtain rfl := pure_ok ran
  cases head : (Package.sortDown VersionKey.compare keyed).head? with
  | none =>
    obtain ⟨entry, member⟩ := List.exists_mem_of_ne_nil installed filled
    obtain ⟨key, -, among⟩ := mem_keyed each member
    -- sorting keeps what there is, so the list has a head
    have empty := List.head?_eq_none_iff.mp head
    rw [← List.mem_mergeSort, ← Package.sortDown, empty] at among
    cases among
  | some first =>
    obtain ⟨before, after, rfl, less, notGreater⟩ := Package.head?_sortDown head
    obtain ⟨earlier, top, later, rfl, earlierRan, made, laterRan⟩ := mapM_split each
    obtain ⟨key, ofText, made⟩ := bind_ok made
    obtain rfl := pure_ok made
    refine ⟨top.2, rfl, earlier, top.1, later, key, rfl, ofText, fun other member => ?_,
      fun other member => ?_⟩
    · obtain ⟨lower, ofText, among⟩ := mem_keyed earlierRan member
      exact ⟨lower, ofText, less _ among⟩
    · obtain ⟨atMost, ofText, among⟩ := mem_keyed laterRan member
      exact ⟨atMost, ofText, notGreater _ among⟩

theorem findIn_isAnswer {roots : List Path} {answer : Option Path}
    (found : findIn fs package roots = .ok answer) : IsAnswer (seenIn fs package) roots answer := by
  induction roots with
  | nil =>
    obtain rfl := Except.ok.inj found
    exact fun _ => nofun
  | cons root rest ih =>
    rw [findIn_cons] at found
    obtain ⟨installed, offers, found⟩ := bind_ok found
    rw [fitting_ok offers] at found
    split at found
    · rename_i empty
      have nothing := List.isEmpty_iff.mp empty
      cases answer with
      | none => exact List.forall_mem_cons.mpr ⟨nothing, ih found⟩
      | some directory =>
        obtain ⟨before, first, after, rfl, nothingBefore, highest⟩ := ih found
        exact ⟨root :: before, first, after, rfl, List.forall_mem_cons.mpr ⟨nothing, nothingBefore⟩,
          highest⟩
    · rename_i filled
      have some : seenIn fs package root ≠ [] := fun empty => filled (List.isEmpty_iff.mpr empty)
      obtain ⟨directory, rfl, highest⟩ := highest?_ok some found
      exact ⟨[], root, rest, rfl, nofun, highest⟩

theorem seenIn_eq (none : ∀ offer ∈ matchesIn fs package root, offer.2 = false) :
    seenIn fs package root = allIn fs package root :=
  seen_eq none

/-- Nothing is overlooked where everything in the folders of the roots can be asked about. -/
theorem noneOverlooked {roots : List Path} (answered : ∀ root ∈ roots, ∀ folder ∈ listed fs root,
    ∀ version ∈ listed fs (inside root folder),
      isAnswered fs (inside (inside root folder) version) = true) :
    NoneOverlooked fs package roots := by
  intro before root after same _ offer member
  obtain ⟨member, -⟩ := List.mem_filter.mp member
  obtain ⟨entry, among, member⟩ := List.mem_flatMap.mp member
  unfold offersOf at member
  split at member
  · cases member
  split at member
  · have all := answered root (same ▸ List.mem_append_right before List.mem_cons_self) entry among
    rw [versionsOf, List.dropWhile_eq_nil_iff.mpr all] at member
    obtain member | member := List.mem_append.mp member
    · obtain ⟨installed, -, rfl⟩ := List.mem_map.mp member
      rfl
    · cases member
  · split at member
    · split at member
      · rw [List.mem_singleton.mp member]
      · cases member
    · cases member

theorem IsAnswer.all {roots : List Path} {answer : Option Path}
    (right : IsAnswer (seenIn fs package) roots answer) (none : NoneOverlooked fs package roots) :
    IsAnswer (allIn fs package) roots answer := by
  cases answer with
  | none =>
    intro root member
    obtain ⟨before, after, rfl⟩ := List.append_of_mem member
    -- in the roots before nothing is seen, so nothing is overlooked in this one
    have noneSeen : ∀ other ∈ before, seenIn fs package other = [] := fun other among =>
      right other (List.mem_append_left _ among)
    rw [← seenIn_eq (none before root after rfl noneSeen)]
    exact right root member
  | some directory =>
    obtain ⟨before, root, after, rfl, noneSeen, highest⟩ := right
    refine ⟨before, root, after, rfl, fun other among => ?_, ?_⟩
    · obtain ⟨first, second, rfl⟩ := List.append_of_mem among
      have earlier : ∀ before ∈ first, seenIn fs package before = [] := fun before member =>
        noneSeen before (List.mem_append_left _ member)
      rw [← seenIn_eq (none first other (second ++ root :: after) (by simp) earlier)]
      exact noneSeen other among
    · rwa [← seenIn_eq (none before root after rfl noneSeen)]

end

/-- What is found is right for the matches that are seen, and for all of them if none is overlooked:
none if no root offers one, else the first with the highest version in the first root that does. -/
theorem find_isAnswer {store : PackageStore} {fs : FileSystem} {package : PackageReference}
    {answer : Option Path} (found : store.find fs package = .ok answer) :
    IsAnswer (seenIn fs package) store.roots answer ∧
      (NoneOverlooked fs package store.roots → IsAnswer (allIn fs package) store.roots answer) ∧
      ∀ root version directory, (version, directory) ∈ allIn fs package root ↔
        HasVersion fs root package.name version directory ∧ Fits package version := by
  have right := findIn_isAnswer found
  exact ⟨right, right.all, fun _ _ _ => mem_allIn⟩

/-! ### A folder of versions -/

section

open FileSystem ScriptDeps.Path

/-- A folder with versions of one package. -/
def shelf (versions : List String) : FileSystem where
  nodes := (["r"], .directory false) :: (["foo", "r"], .directory false) ::
    versions.map fun version => ([version, "foo", "r"], .directory false)
  workingDirectory := []

def foo : PackageReference where
  name := "foo"
  version := none
  noReference := false

/-- The directory that the folder lies in, by a path with detours. -/
def shelfRoot (detours : Nat) : Path :=
  atTop (around "r" detours [])

theorem walks_shelf {versions rest : List String} {found : Found} (detours : Nat)
    (walks : Walks (shelf versions) true maxLinks ["r"] rest found) :
    Walks (shelf versions) true maxLinks [] (around "r" detours rest) found := by
  have proper : IsProper "r" := by decide
  have lies : (shelf versions).node? ["r"] = some (.directory false) := rfl
  exact .directory proper lies (walks.detour proper lies detours)

theorem inside_around (detours : Nat) (rest : List String) (name : String) :
    inside (atTop (around "r" detours rest)) name = atTop (around "r" detours (rest ++ [name])) := by
  simp [inside, atTop, around]

theorem isWay_shelf (detours : Nat) {rest : List String} (steps : ∀ name ∈ rest, IsStep name) :
    IsWay (around "r" detours rest) :=
  isWay_around (by decide) detours steps

theorem shelf_folder (versions : List String) {detours : Nat} (short : 5 * detours + 6 ≤ maxPathBytes) :
    (shelf versions).list (shelfRoot detours).text = .ok ["foo"] ∧
      (shelf versions).isDirectory (inside (shelfRoot detours) "foo").text = .ok true ∧
      (shelf versions).list (inside (shelfRoot detours) "foo").text =
        .ok ((shelf versions).namesIn ["foo", "r"]) := by
  have size : bytesOf (around "r" detours []) = 5 * detours + 2 := by
    rw [bytesOf_around, show "r".utf8ByteSize = 1 by decide, bytesOf]
    simp
    omega
  have folderSize : bytesOf (around "r" detours ["foo"]) = 5 * detours + 6 := by
    rw [bytesOf_around, show "r".utf8ByteSize = 1 by decide, show bytesOf ["foo"] = 4 by decide]
    omega
  have down : Walks (shelf versions) true maxLinks ["r"] ["foo"]
      (.present ["foo", "r"] (.directory false)) :=
    .directory (by decide) rfl .done
  have folder : ∀ name ∈ ["foo"], IsStep name := by decide
  rw [shelfRoot, inside_around, List.nil_append]
  refine ⟨?_, ?_, ?_⟩
  · rw [list_atTop (isWay_shelf detours (List.forall_mem_nil _)) (by omega) (walks_shelf detours .done)]
    exact congrArg Except.ok (by simp [namesIn, shelf, List.filterMap_map])
  · exact isDirectory_atTop (isWay_shelf detours folder) (by omega) (walks_shelf detours down)
  · exact list_atTop (isWay_shelf detours folder) (by omega) (walks_shelf detours down)

theorem isWay_version (detours : Nat) {version : String} (step : IsStep version) :
    IsWay (around "r" detours ["foo", version]) :=
  isWay_shelf detours (List.forall_mem_cons.mpr ⟨by decide, List.forall_mem_singleton.mpr step⟩)

theorem bytesOf_version (detours : Nat) (version : String) :
    bytesOf (around "r" detours ["foo", version]) = 5 * detours + 7 + version.utf8ByteSize := by
  rw [bytesOf_around, show "r".utf8ByteSize = 1 by decide, bytesOf]
  simp [show "foo".utf8ByteSize = 3 by decide]
  omega

theorem inside_shelf (detours : Nat) (version : String) :
    inside (inside (shelfRoot detours) "foo") version = atTop (around "r" detours ["foo", version]) := by
  rw [shelfRoot, inside_around, inside_around]
  rfl

theorem shelf_version {versions : List String} {version : String} {detours : Nat}
    (step : IsStep version) (proper : IsProper version)
    (lies : (shelf versions).node? [version, "foo", "r"] = some (.directory false))
    (short : 5 * detours + 7 + version.utf8ByteSize ≤ maxPathBytes) :
    (shelf versions).isDirectory (inside (inside (shelfRoot detours) "foo") version).text = .ok true := by
  have walks : Walks (shelf versions) true maxLinks ["r"] ["foo", version] _ :=
    .directory (by decide) rfl (.directory proper lies .done)
  rw [inside_shelf, isDirectory_atTop (isWay_version detours step) (bytesOf_version detours _ ▸ short)
    (walks_shelf detours walks), nodeAt, lies]
  rfl

theorem shelf_version_long {versions : List String} {version : String} {detours : Nat}
    (step : IsStep version) (long : maxPathBytes < 5 * detours + 7 + version.utf8ByteSize) :
    (shelf versions).isDirectory (inside (inside (shelfRoot detours) "foo") version).text =
      .error (.file .nameTooLong (inside (inside (shelfRoot detours) "foo") version).text) := by
  rw [inside_shelf]
  exact isDirectory_atTop_long (isWay_version detours step) (bytesOf_version detours _ ▸ long)

theorem node?_shelf {versions : List String} {version : String} (member : version ∈ versions) :
    (shelf versions).node? [version, "foo", "r"] = some (.directory false) := by
  have entry : ([version, "foo", "r"], Node.directory false) ∈ (shelf versions).nodes := by
    simpa [shelf] using member
  have some : ((shelf versions).nodes.find? (·.1 == [version, "foo", "r"])).isSome = true :=
    List.find?_isSome.mpr ⟨_, entry, by simp⟩
  obtain ⟨⟨place, node⟩, first⟩ := Option.isSome_iff_exists.mp some
  have directory : ∀ entry ∈ (shelf versions).nodes, entry.2 = .directory false := by
    simp [shelf]
  obtain rfl : node = .directory false := directory _ (List.mem_of_find?_eq_some first)
  rw [node?, first, Option.map_some]
  exact fun empty => List.cons_ne_nil _ _ empty

theorem namesIn_shelf {versions : List String}
    (sorted : versions.Pairwise fun a b => (!decide (b < a)) = true) :
    (shelf versions).namesIn ["foo", "r"] = versions := by
  have kept := List.mergeSort_of_pairwise sorted
  simpa [namesIn, shelf, List.filterMap_map] using kept

theorem highest?_pair {version other : String} {directory otherDirectory : Path}
    {key otherKey : VersionKey} (made : VersionKey.ofText version = .ok key)
    (otherMade : VersionKey.ofText other = .ok otherKey) :
    highest? [(version, directory), (other, otherDirectory)] =
      .ok (some (if key.compare otherKey = .lt then otherDirectory else directory)) := by
  have top : (Package.sortDown VersionKey.compare
      [(key, directory), (otherKey, otherDirectory)]).head? =
        some (if key.compare otherKey = .lt then (otherKey, otherDirectory)
          else (key, directory)) := by
    rw [Package.sortDown, List.mergeSort]
    split <;> simp_all
  simp only [highest?, List.mapM_cons, List.mapM_nil, made, otherMade, ok_bind, pure_bind, top]
  split <;> rfl

/-- On a shelf with its versions in order the highest one is found. -/
theorem find_shelf {versions : List String} (filled : versions ≠ [])
    (sorted : versions.Pairwise fun a b => (!decide (b < a)) = true)
    (proper : ∀ version ∈ versions, IsStep version ∧ IsProper version) :
    PackageStore.find ⟨[shelfRoot 0], none⟩ (shelf versions) foo =
      highest? (versions.map fun version => (version, inside (inside (shelfRoot 0) "foo") version)) := by
  have short : 5 * 0 + 6 ≤ maxPathBytes := by decide
  obtain ⟨top, folder, within⟩ := shelf_folder versions short
  rw [namesIn_shelf sorted] at within
  have there : ∀ version ∈ versions, (shelf versions).isDirectory
      (inside (inside (shelfRoot 0) "foo") version).text = .ok true := by
    intro version member
    obtain ⟨step, proper⟩ := proper version member
    have small : version.utf8ByteSize ≤ 255 := proper.short
    have long : (255 : Nat) + 7 ≤ maxPathBytes := by decide
    exact shelf_version step proper (node?_shelf member) (by omega)
  have offers : directoriesUntilFault (shelf versions) (inside (shelfRoot 0) "foo") versions =
      versions.map fun version => (version, inside (inside (shelfRoot 0) "foo") version) := by
    have answered : ∀ version ∈ versions,
        isAnswered (shelf versions) (inside (inside (shelfRoot 0) "foo") version) = true := by
      intro version member
      rw [isAnswered, there version member]
      rfl
    have folders : ∀ version ∈ versions,
        isFolder (shelf versions) (inside (inside (shelfRoot 0) "foo") version) = true := by
      intro version member
      rw [isFolder_iff]
      exact there version member
    rw [directoriesUntilFault_eq, List.takeWhile_eq_self_iff.mpr answered, foldersAmong,
      List.filter_eq_self.mpr folders]
  simp [PackageStore.find, findIn_cons, versionsIn, listOrNone, offered, top, folder, within, foo,
    fitting, offers, filled]

/-- Of two versions that can both be asked about, the higher one is found. -/
theorem find_isAnswer_two :
    PackageStore.find ⟨[shelfRoot 0], none⟩ (shelf ["10.0", "9.0"]) foo =
        .ok (some (inside (inside (shelfRoot 0) "foo") "10.0")) ∧
      IsAnswer (allIn (shelf ["10.0", "9.0"]) foo) [shelfRoot 0]
        (some (inside (inside (shelfRoot 0) "foo") "10.0")) := by
  have short : 5 * 0 + 6 ≤ maxPathBytes := by decide
  obtain ⟨top, folder, within⟩ := shelf_folder ["10.0", "9.0"] short
  have names : (shelf ["10.0", "9.0"]).namesIn ["foo", "r"] = ["10.0", "9.0"] := by
    rw [namesIn, List.mergeSort_of_pairwise (by decide +kernel)]
    decide +kernel
  rw [names] at within
  have first : (shelf ["10.0", "9.0"]).isDirectory (inside (inside (shelfRoot 0) "foo") "10.0").text =
      .ok true := shelf_version (by decide) (by decide) rfl (by decide)
  have second : (shelf ["10.0", "9.0"]).isDirectory (inside (inside (shelfRoot 0) "foo") "9.0").text =
      .ok true := shelf_version (by decide) (by decide) rfl (by decide)
  have high : VersionKey.ofText "10.0" = .ok ⟨[10, 0], true, ""⟩ := by decide +kernel
  have low : VersionKey.ofText "9.0" = .ok ⟨[9, 0], true, ""⟩ := by decide +kernel
  have found : PackageStore.find ⟨[shelfRoot 0], none⟩ (shelf ["10.0", "9.0"]) foo =
      .ok (some (inside (inside (shelfRoot 0) "foo") "10.0")) := by
    simp [PackageStore.find, findIn_cons, versionsIn, listOrNone, offered, top, folder, within, foo,
      directoriesUntilFault, first, second, fitting, highest?, high, low, Package.sortDown]
    have above : VersionKey.compare ⟨[10, 0], true, ""⟩ ⟨[9, 0], true, ""⟩ = .gt := by decide
    rw [List.mergeSort_of_pairwise (List.pairwise_pair.mpr (by rw [above]; rfl))]
    exact ⟨_, rfl⟩
  refine ⟨found, (find_isAnswer found).2.1 (noneOverlooked ?_)⟩
  simp [listed, isAnswered, top, within, first, second, Except.toOption]

/-- The versions after one that cannot be asked about are overlooked, be they higher. -/
theorem find_breaks_off {fs : FileSystem} {root : Path}
    (top : fs.list root.text = .ok ["foo"]) (folder : fs.isDirectory (inside root "foo").text = .ok true)
    (within : fs.list (inside root "foo").text = .ok ["1.0", "2.0.0", "9.0"])
    (first : fs.isDirectory (inside (inside root "foo") "1.0").text = .ok true)
    (second : ∃ failure, fs.isDirectory (inside (inside root "foo") "2.0.0").text = .error failure)
    (third : fs.isDirectory (inside (inside root "foo") "9.0").text = .ok true) :
    PackageStore.find ⟨[root], none⟩ fs foo = .ok (some (inside (inside root "foo") "1.0")) ∧
      IsAnswer (allIn fs foo) [root] (some (inside (inside root "foo") "9.0")) ∧
      ¬IsAnswer (allIn fs foo) [root] (some (inside (inside root "foo") "1.0")) := by
  obtain ⟨failure, second⟩ := second
  have low : VersionKey.ofText "1.0" = .ok ⟨[1, 0], true, ""⟩ := by decide +kernel
  have high : VersionKey.ofText "9.0" = .ok ⟨[9, 0], true, ""⟩ := by decide +kernel
  have below : VersionKey.compare ⟨[1, 0], true, ""⟩ ⟨[9, 0], true, ""⟩ = .lt := by decide
  have above : VersionKey.compare ⟨[9, 0], true, ""⟩ ⟨[1, 0], true, ""⟩ = .gt := by decide
  have all : allIn fs foo root =
      [("1.0", inside (inside root "foo") "1.0"), ("9.0", inside (inside root "foo") "9.0")] := by
    simp [allIn, matchesIn, offersIn, offersOf, listed, isFolder, top, folder, within, foo,
      map_versionsOf, foldersAmong, fits, first, second, third, Except.toOption]
  have apart : inside (inside root "foo") "9.0" ≠ inside (inside root "foo") "1.0" := by
    simp [inside]
  refine ⟨?_, ⟨[], root, [], rfl, List.forall_mem_nil _, ?_⟩, ?_⟩
  · simp [PackageStore.find, findIn_cons, versionsIn, listOrNone, offered, top, folder, within, foo,
      directoriesUntilFault, first, second, fitting, highest?, low, Package.sortDown]
  · rw [all]
    exact ⟨[_], _, [], _, rfl, high, List.forall_mem_singleton.mpr ⟨_, low, below⟩,
      List.forall_mem_nil _⟩
  · rintro ⟨before, other, after, same, -, earlier, version, later, key, split, keyed, -, notAbove⟩
    cases before with
    | cons first rest => simp at same
    | nil =>
      obtain ⟨rfl, -⟩ := List.cons.inj same
      rw [all] at split
      cases earlier with
      | nil =>
        obtain ⟨top, rfl⟩ := List.cons.inj split
        obtain ⟨rfl, -⟩ := Prod.mk.inj top
        obtain ⟨highest, highestKeyed, notAbove⟩ := notAbove _ List.mem_cons_self
        cases low.symm.trans keyed
        cases high.symm.trans highestKeyed
        exact notAbove above
      | cons first rest =>
        obtain ⟨-, split⟩ := List.cons.inj split
        cases rest with
        | nil => exact apart (Prod.mk.inj (List.cons.inj split).1).2
        | cons second rest => simp at split

/-- At a path on which the second of three versions is too long to be asked about, the third is not
found. -/
theorem find_overlooks :
    PackageStore.find ⟨[shelfRoot 817], none⟩ (shelf ["1.0", "2.0.0", "9.0"]) foo =
        .ok (some (inside (inside (shelfRoot 817) "foo") "1.0")) ∧
      IsAnswer (allIn (shelf ["1.0", "2.0.0", "9.0"]) foo) [shelfRoot 817]
        (some (inside (inside (shelfRoot 817) "foo") "9.0")) ∧
      ¬IsAnswer (allIn (shelf ["1.0", "2.0.0", "9.0"]) foo) [shelfRoot 817]
        (some (inside (inside (shelfRoot 817) "foo") "1.0")) := by
  have short : 5 * 817 + 6 ≤ maxPathBytes := by decide
  obtain ⟨top, folder, within⟩ := shelf_folder ["1.0", "2.0.0", "9.0"] short
  have names : (shelf ["1.0", "2.0.0", "9.0"]).namesIn ["foo", "r"] = ["1.0", "2.0.0", "9.0"] := by
    rw [namesIn, List.mergeSort_of_pairwise (by decide +kernel)]
    decide +kernel
  rw [names] at within
  refine find_breaks_off top folder within ?first ?second ?third
  case first => exact shelf_version (by decide) (by decide) rfl (by decide)
  case second => exact ⟨_, shelf_version_long (by decide) (by decide)⟩
  case third => exact shelf_version (by decide) (by decide) rfl (by decide)

end

end ScriptDeps.PackageStore
