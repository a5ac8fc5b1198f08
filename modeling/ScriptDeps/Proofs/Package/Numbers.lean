import ScriptDeps.Proofs.Closure.Offline
import ScriptDeps.Proofs.FileSystem.Nulls

/-!
# Numbers of packages that count for nothing

Where packages are looked for, the file system may refuse something, which is foreseen. What is not
is a root with a null character in its path, and a version or a framework folder with a number that
has too many digits, or digits that are not decimal: it is said exactly which packages come to that.
-/

namespace ScriptDeps

open Failure (OfPath)

/-! ### Versions and frameworks -/

namespace Package

/-- Digits that count for no number: they are too many, or not decimal. -/
def Uncountable (part : List Char) : Prop :=
  part ≠ [] ∧ part.all Text.isDigit = true ∧ number? part = none

/-- A part of the release that a version names counts for no number. -/
def UncountableVersion (version : String) : Prop :=
  ∃ part ∈ Text.split '.' (Text.cutAt '-' version.toList).1, Uncountable part

theorem partNumber_fails (part : List Char) :
    FailsIn (·.isForeseen = false) (VersionKey.partNumber part) := by
  unfold VersionKey.partNumber
  split
  · split
    · exact failsIn_ok _
    · exact failsIn_error rfl
  · exact failsIn_ok _

theorem surprises_partNumber {part : List Char} :
    Surprises (VersionKey.partNumber part) ↔ Uncountable part := by
  unfold VersionKey.partNumber Uncountable
  cases part with
  | nil => simp
  | cons c rest =>
    by_cases digits : (c :: rest).all Text.isDigit = true
    · cases number? (c :: rest) with
      | none => simp [digits, Failure.isForeseen]
      | some n => simp [digits]
    · simp [digits]

theorem surprises_ofText {version : String} :
    Surprises (VersionKey.ofText version) ↔ UncountableVersion version := by
  rw [UncountableVersion, VersionKey.ofText]
  dsimp only
  rw [surprises_map, surprises_mapM_of_fails partNumber_fails]
  simp only [surprises_partNumber]

theorem ofText_fails (version : String) :
    FailsIn (·.isForeseen = false) (VersionKey.ofText version) :=
  (failsIn_mapM partNumber_fails _).map _

/-- The dotted version in a framework folder's name, after a family that has such versions. -/
def dottedVersion? (name : String) : Option (Nat × List Char) :=
  FrameworkKey.families.findSome? fun (rank, family) =>
    ((FrameworkKey.versionAfter? family (dropFinalBreak (Text.cutAt '-' (Text.lower name).toList).1)).filter
      fun version => isDotted version && (rank != 4 || version.contains '.')).map (rank, ·)

/-- A number in a framework folder's version has too many digits. -/
def UncountableFramework (name : String) : Prop :=
  ∃ rank version, dottedVersion? name = some (rank, version) ∧
    ∃ part ∈ Text.split '.' version, number? part = none

theorem dottedNumbers_fails (text : List Char) :
    FailsIn (·.isForeseen = false) (FrameworkKey.dottedNumbers text) := by
  refine failsIn_mapM (fun part => ?_) _
  split
  · exact failsIn_ok _
  · exact failsIn_error rfl

theorem surprises_dottedNumbers {text : List Char} :
    Surprises (FrameworkKey.dottedNumbers text) ↔
      ∃ part ∈ Text.split '.' text, number? part = none := by
  rw [FrameworkKey.dottedNumbers, surprises_mapM_of_fails fun part => ?_]
  · refine exists_congr fun part => and_congr_right fun _ => ?_
    cases number? part with
    | some n => simp
    | none => exact iff_of_true ⟨_, rfl, rfl⟩ rfl
  · split
    · exact failsIn_ok _
    · exact failsIn_error rfl

theorem ofName_eq (name : String) : FrameworkKey.ofName name =
    match dottedVersion? name with
    | some (rank, version) => do return ⟨rank, ← FrameworkKey.dottedNumbers version, name⟩
    | none =>
      match FrameworkKey.versionAfter? "net"
          (dropFinalBreak (Text.cutAt '-' (Text.lower name).toList).1) with
      | some digits =>
        if !digits.isEmpty && digits.all Text.isDecimal then
          return ⟨1, digits.filterMap fun c => (Text.decimalValue? c).map Int.ofNat, name⟩
        else return ⟨0, [], name⟩
      | none => return ⟨0, [], name⟩ := by
  unfold FrameworkKey.ofName dottedVersion?
  dsimp only
  -- named, so that no folder's name is computed with
  generalize List.findSome? _ FrameworkKey.families = dotted
  generalize FrameworkKey.versionAfter? "net" _ = digits
  cases dotted with
  | some known => rfl
  | none => cases digits <;> rfl

theorem surprises_ofName {name : String} :
    Surprises (FrameworkKey.ofName name) ↔ UncountableFramework name := by
  rw [ofName_eq, UncountableFramework]
  cases dottedVersion? name with
  | some dotted =>
    obtain ⟨rank, version⟩ := dotted
    rw [surprises_map, surprises_dottedNumbers]
    simp
  | none =>
    refine iff_of_false ?_ (by simp)
    dsimp only
    split
    · split
      · exact surprises_ok _
      · exact surprises_ok _
    · exact surprises_ok _

theorem ofName_fails (name : String) :
    FailsIn (·.isForeseen = false) (FrameworkKey.ofName name) := by
  rw [ofName_eq]
  split
  · exact (dottedNumbers_fails _).map _
  · split
    · split
      · exact failsIn_ok _
      · exact failsIn_ok _
    · exact failsIn_ok _

theorem surprises_sortFrameworks {names : List String} :
    Surprises (sortFrameworks names) ↔ ∃ name ∈ names, UncountableFramework name := by
  rw [sortFrameworks, surprises_map, surprises_mapM_of_fails fun name => (ofName_fails name).map (·, name)]
  simp only [surprises_map, surprises_ofName]

theorem mem_of_sortFrameworks {names sorted : List String} (ran : sortFrameworks names = .ok sorted)
    {name : String} (member : name ∈ sorted) : name ∈ names := by
  obtain ⟨keyed, each, ran⟩ := bind_ok ran
  obtain rfl := pure_ok ran
  obtain ⟨entry, placed, rfl⟩ := List.mem_map.mp member
  obtain ⟨other, among, made⟩ := of_mem_mapM each (List.mem_mergeSort.mp placed)
  obtain ⟨key, _, made⟩ := bind_ok made
  rw [pure_ok made]
  exact among

end Package

/-! ### Stores -/

namespace PackageStore

open Package (UncountableVersion UncountableFramework)

variable {fs : FileSystem} {package : PackageReference}

theorem surprises_listOrNone {path : Path} :
    Surprises (listOrNone fs path) ↔ '\x00' ∈ path.text.toList := by
  rw [← (fs.list_checked path.text).surprises_iff, listOrNone]
  cases fs.list path.text with
  | ok names => simp
  | error failure => cases failure <;> simp [Failure.isForeseen]

theorem offered_refused (fs : FileSystem) (root : Path) (wanted entry : String) :
    FailsIn OfPath (offered fs root wanted entry) := by
  unfold offered
  dsimp only
  cases asked : fs.isDirectory (inside root entry).text with
  | error failure => exact failsIn_error (fs.isDirectory_refused _ failure asked)
  | ok there =>
    cases there with
    | false => exact failsIn_ok _
    | true =>
      have spoken := FileSystem.spoken_of_isDirectory asked
      rw [ok_bind, if_neg (by simp)]
      split
      · refine FailsIn.map ?_ _
        unfold listOrNone
        split
        · exact failsIn_ok _
        · exact failsIn_ok _
        · rename_i failure _ failed
          exact failsIn_error ((fs.list_checked _).refused spoken failure failed)
      · split
        · exact failsIn_ok _
        · exact failsIn_ok _

theorem surprises_versionsIn {root : Path} {name : String} :
    Surprises (versionsIn fs root name) ↔ '\x00' ∈ root.text.toList := by
  rw [versionsIn, surprises_bind, surprises_listOrNone]
  refine or_iff_left ?_
  rintro ⟨entries, _, surprised⟩
  rw [surprises_map] at surprised
  exact (failsIn_mapM (offered_refused fs root _) entries).not_surprises
    (fun _ => OfPath.foreseen) surprised

theorem surprises_highest? {installed : List Installed} :
    Surprises (highest? installed) ↔ ∃ entry ∈ installed, UncountableVersion entry.1 := by
  have fails : ∀ entry : Installed, FailsIn (·.isForeseen = false)
      (do return (← Package.VersionKey.ofText entry.1, entry.2) : Except Failure _) := fun entry =>
    (Package.ofText_fails entry.1).map (·, entry.2)
  rw [highest?, surprises_bind, surprises_mapM_of_fails fails]
  simp only [surprises_map, Package.surprises_ofText]
  exact or_iff_left fun ⟨_, _, surprised⟩ => surprises_ok _ surprised

/-- The versions of a package that fit a reference to it: those of the version that it names, if it
names one. -/
def fitting (package : PackageReference) (installed : List Installed) : List Installed :=
  match package.version.filter (· != "") with
  | some version => installed.filter (·.1 == version)
  | none => installed

theorem findIn_cons (root : Path) (rest : List Path) : findIn fs package (root :: rest) = (do
    let installed ← versionsIn fs root package.name
    if (fitting package installed).isEmpty then findIn fs package rest
    else highest? (fitting package installed)) := by
  rw [findIn]
  unfold fitting
  cases package.version.filter (· != "") <;> rfl

/-- Looking for a package ends in a surprise: at a root with a null character in its path, or at the
first root that has fitting versions, if the number of one of them cannot be told. -/
inductive Unfindable (fs : FileSystem) (package : PackageReference) : List Path → Prop
  | null {root : Path} {rest : List Path} (null : '\x00' ∈ root.text.toList) :
      Unfindable fs package (root :: rest)
  | uncountable {root : Path} {rest : List Path} {installed : List Installed} {entry : Installed}
      (offers : versionsIn fs root package.name = .ok installed)
      (fits : entry ∈ fitting package installed) (uncountable : UncountableVersion entry.1) :
      Unfindable fs package (root :: rest)
  | later {root : Path} {rest : List Path} {installed : List Installed}
      (offers : versionsIn fs root package.name = .ok installed)
      (none : fitting package installed = []) (later : Unfindable fs package rest) :
      Unfindable fs package (root :: rest)

theorem surprises_findIn {roots : List Path} :
    Surprises (findIn fs package roots) ↔ Unfindable fs package roots := by
  induction roots with
  | nil => exact iff_of_false (surprises_ok _) nofun
  | cons root rest ih =>
    rw [findIn_cons, surprises_bind, surprises_versionsIn]
    constructor
    · rintro (null | ⟨installed, offers, surprised⟩)
      · exact .null null
      · split at surprised
        · rename_i none
          exact .later offers (List.isEmpty_iff.mp none) (ih.mp surprised)
        · obtain ⟨entry, fits, uncountable⟩ := surprises_highest?.mp surprised
          exact .uncountable offers fits uncountable
    · intro unfindable
      cases unfindable with
      | null null => exact Or.inl null
      | uncountable offers fits uncountable =>
        refine Or.inr ⟨_, offers, ?_⟩
        rw [if_neg fun none => List.ne_nil_of_mem fits (List.isEmpty_iff.mp none)]
        exact surprises_highest?.mpr ⟨_, fits, uncountable⟩
      | later offers none later =>
        refine Or.inr ⟨_, offers, ?_⟩
        rw [none]
        exact ih.mpr later

/-! ### The libraries of a package -/

/-- The folders in a directory. -/
def foldersIn (fs : FileSystem) (directory : Path) : Except Failure (List String) := do
  (← fs.list directory.text).filterM fun name => fs.isDirectory (inside directory name).text

theorem libraries_eq (fs : FileSystem) (package : Path) : libraries fs package = (do
    if !(← fs.isDirectory (package.child "lib").text) then return []
    let folders ← foldersIn fs (package.child "lib")
    let frameworks ← Package.sortFrameworks folders
    return (← (package.child "lib" :: frameworks.map (inside (package.child "lib"))).mapM
      (librariesIn fs)).flatten) := by
  unfold libraries foldersIn
  refine bind_congr fun there => ?_
  simp only [bind_assoc]

theorem librariesIn_refused {directory : Path} (spoken : '\x00' ∉ directory.text.toList) :
    FailsIn OfPath (librariesIn fs directory) := by
  refine ((fs.list_checked directory.text).refused spoken).bind fun names => ?_
  exact (failsIn_filterM (fun name => (fs.isFile_refused _).map _) names).map _

/-- The folder of a package's libraries holds a framework whose number cannot be told. -/
structure UncountableLibraries (fs : FileSystem) (package : Path) : Prop where
  there : fs.isDirectory (package.child "lib").text = .ok true
  uncountable : ∃ folders, foldersIn fs (package.child "lib") = .ok folders ∧
    ∃ folder ∈ folders, UncountableFramework folder

theorem surprises_libraries {directory : Path} :
    Surprises (libraries fs directory) ↔ UncountableLibraries fs directory := by
  rw [libraries_eq]
  cases asked : fs.isDirectory (directory.child "lib").text with
  | error failure =>
    have refused := fs.isDirectory_refused _ failure asked
    refine iff_of_false (by simp [refused.foreseen]) fun broken => ?_
    cases asked.symm.trans broken.there
  | ok there =>
    cases there with
    | false =>
      refine iff_of_false (surprises_ok _) fun broken => ?_
      cases asked.symm.trans broken.there
    | true =>
      have spoken := FileSystem.spoken_of_isDirectory asked
      have listed : ¬Surprises (foldersIn fs (directory.child "lib")) := by
        refine FailsIn.not_surprises (.bind ((fs.list_checked _).refused spoken) fun names => ?_)
          fun _ => OfPath.foreseen
        exact failsIn_filterM (fun name => fs.isDirectory_refused _) names
      rw [ok_bind, if_neg (by simp), surprises_bind, or_iff_right listed]
      have sorted : ∀ folders, foldersIn fs (directory.child "lib") = .ok folders →
          (Surprises (do
              let frameworks ← Package.sortFrameworks folders
              return (← (directory.child "lib" ::
                frameworks.map (inside (directory.child "lib"))).mapM (librariesIn fs)).flatten) ↔
            ∃ folder ∈ folders, UncountableFramework folder) := by
        intro folders found
        rw [surprises_bind, Package.surprises_sortFrameworks]
        refine or_iff_left ?_
        rintro ⟨frameworks, ordered, surprised⟩
        rw [surprises_map] at surprised
        obtain ⟨before, item, after, same, _, surprised⟩ := surprises_mapM.mp surprised
        have member : item ∈ directory.child "lib" :: frameworks.map (inside (directory.child "lib")) :=
          same ▸ List.mem_append_right before List.mem_cons_self
        have itemSpoken : '\x00' ∉ item.text.toList := by
          obtain rfl | member := List.mem_cons.mp member
          · exact spoken
          · obtain ⟨name, among, rfl⟩ := List.mem_map.mp member
            obtain ⟨names, _, kept⟩ := bind_ok found
            exact FileSystem.spoken_of_isDirectory
              (of_mem_filterM kept (Package.mem_of_sortFrameworks ordered among))
        exact (librariesIn_refused itemSpoken).not_surprises (fun _ => OfPath.foreseen) surprised
      constructor
      · rintro ⟨folders, found, surprised⟩
        exact ⟨asked, folders, found, (sorted folders found).mp surprised⟩
      · rintro ⟨_, folders, found, uncountable⟩
        exact ⟨folders, found, (sorted folders found).mpr uncountable⟩

/-! ### Packages -/

/-- The libraries of a package cannot be told: looking for it ends in a surprise, or its folder holds
a framework whose number cannot be told. -/
inductive Untold (roots : List Path) (fs : FileSystem) (package : PackageReference) : Prop
  | unfindable (needed : package.noReference = false) (unfindable : Unfindable fs package roots) :
      Untold roots fs package
  | unordered {directory : Path} (needed : package.noReference = false)
      (found : findIn fs package roots = .ok (some directory))
      (unordered : UncountableLibraries fs directory) : Untold roots fs package

theorem surprises_installed {roots : List Path} :
    Surprises (installed roots fs package) ↔ Untold roots fs package := by
  unfold installed
  cases needed : package.noReference with
  | true =>
    refine iff_of_false (surprises_ok _) ?_
    rintro (⟨also, _⟩ | ⟨also, _, _⟩) <;> cases needed.symm.trans also
  | false =>
    rw [if_neg Bool.false_ne_true, surprises_bind, surprises_findIn]
    constructor
    · rintro (unfindable | ⟨found, looked, surprised⟩)
      · exact .unfindable needed unfindable
      · cases found with
        | none => exact absurd surprised (surprises_ok _)
        | some directory => exact .unordered needed looked (surprises_libraries.mp surprised)
    · rintro (⟨_, unfindable⟩ | ⟨_, found, unordered⟩)
      · exact Or.inl unfindable
      · exact Or.inr ⟨_, found, surprises_libraries.mpr unordered⟩

/-- Packages are a surprise exactly if the libraries of one cannot be told and those before it give
theirs. -/
theorem surprises_allInstalled {roots : List Path} {packages : List PackageReference} :
    Surprises (allInstalled roots fs packages) ↔ ∃ before package after,
      packages = before ++ package :: after ∧
        (∀ other ∈ before, ∃ libraries, installed roots fs other = .ok libraries) ∧
        Untold roots fs package := by
  rw [allInstalled, surprises_map, surprises_mapM]
  simp only [surprises_installed]

end PackageStore

end ScriptDeps
