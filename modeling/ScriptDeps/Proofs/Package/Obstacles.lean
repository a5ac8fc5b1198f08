import ScriptDeps.Proofs.Package.Releases
import ScriptDeps.Proofs.Text.Lengths

/-!
# Obstacles

What stands in the way of packages that are only looked up: a root that no path can spell or that
holds something that cannot be asked about, a version with digits that are not decimal, and a folder
of libraries that cannot be listed to its end. It is said exactly when there is an answer. No name of
a framework stands in the way, nor does anything else that is not there or cannot be listed.
-/

namespace ScriptDeps

/-! ### Results -/

section Results

variable {ε α : Type}

theorem error_not_returns (e : ε) : ¬∃ a, (Except.error e : Except ε α) = .ok a := by
  rintro ⟨a, same⟩
  cases same

theorem filterM_ok_iff {p : α → Except ε Bool} {items kept : List α} :
    items.filterM p = .ok kept ↔ (∀ a ∈ items, ∃ passes, p a = .ok passes) ∧
      kept = items.filter fun a => (p a).toOption.getD false := by
  have from_ : ∀ {items before : List α} {found : List α}, items.filterAuxM p before = .ok found ↔
      (∀ a ∈ items, ∃ passes, p a = .ok passes) ∧
        found = (items.filter fun a => (p a).toOption.getD false).reverse ++ before := by
    intro items
    induction items with
    | nil => exact fun {before found} => ⟨fun ran => ⟨nofun, pure_ok ran⟩, fun same => same.2 ▸ rfl⟩
    | cons item rest ih =>
      intro before found
      rw [List.filterAuxM, List.forall_mem_cons]
      cases asked : p item with
      | error failure => simp
      | ok passes => cases passes <;> simp [ih, asked, Except.toOption]
  rw [List.filterM]
  constructor
  · intro ran
    obtain ⟨backwards, ran, turned⟩ := bind_ok ran
    obtain ⟨each, rfl⟩ := from_.mp ran
    exact ⟨each, by simpa using pure_ok turned⟩
  · rintro ⟨each, rfl⟩
    rw [from_.mpr ⟨each, rfl⟩]
    simp [pure, Except.pure]

theorem returns_iff_not_surprises {x : Except Failure α} (fails : FailsIn (·.isForeseen = false) x) :
    (∃ a, x = .ok a) ↔ ¬Surprises x := by
  cases x with
  | ok a => exact iff_of_true ⟨a, rfl⟩ (surprises_ok a)
  | error failure =>
    exact iff_of_false (error_not_returns failure) (not_not.mpr ⟨failure, rfl, fails failure rfl⟩)

end Results

/-! ### Short paths -/

theorem PackageStore.inside_text (directory : Path) (name : String) :
    ∃ front, (inside directory name).text = front ++ name := by
  obtain ⟨root, names⟩ := directory
  have whole : (inside ⟨root, names⟩ name).text = root.text ++ "/".intercalate (names ++ [name]) :=
    Path.text_of_filled (List.concat_ne_nil name names)
  rw [whole]
  cases names with
  | nil => exact ⟨root.text, by simp⟩
  | cons first rest =>
    rw [String.intercalate_append_of_ne_nil (List.cons_ne_nil _ _) (List.cons_ne_nil _ _),
      String.intercalate_singleton, ← String.append_assoc]
    exact ⟨_, rfl⟩

theorem FileSystem.short_of_isDirectory {fs : FileSystem} {path : String}
    (asked : fs.isDirectory path = .ok true) : path.utf8ByteSize ≤ maxPathBytes := by
  have spoken := spoken_of_isDirectory asked
  obtain ⟨found, answer, directory⟩ := bind_ok asked
  by_contra long
  have failed : ∃ fault, fs.stat path = .error fault := by
    rw [stat, walk]
    split
    · exact ⟨_, rfl⟩
    · rw [if_pos (Nat.lt_of_not_le long)]
      exact ⟨_, rfl⟩
  obtain ⟨fault, failed⟩ := failed
  rw [node?At, if_neg (by simpa using spoken), failed] at answer
  dsimp only at answer
  split at answer
  · rw [← Except.ok.inj answer] at directory
    cases pure_ok directory
  · cases answer

/-! ### Numbers in names -/

namespace Package

/-- A part of the version's release is all digits, but one of them is not decimal. -/
def HasOddDigits (version : String) : Prop :=
  ∃ part ∈ Text.split '.' (releaseText version),
    (∀ c ∈ part, Text.isDigit c = true) ∧ ∃ c ∈ part, Text.isDecimal c = false

theorem length_releaseText_le (version : String) :
    (releaseText version).length ≤ version.toList.length :=
  (List.takeWhile_prefix _).length_le

/-- The number of a short version cannot be told only for digits that are not decimal. -/
theorem uncountableVersion_iff {version : String} (short : version.toList.length ≤ Text.maxDigits) :
    UncountableVersion version ↔ HasOddDigits version := by
  refine exists_congr fun part => and_congr_right fun member => ?_
  have partShort : ¬Text.maxDigits < part.length := Nat.not_lt_of_le
    (((Text.length_le_of_mem_split member).trans (length_releaseText_le version)).trans short)
  rw [Uncountable, List.all_eq_true]
  constructor
  · rintro ⟨filled, digits, none⟩
    exact ⟨digits, ((number?_eq_none_iff filled).mp none).resolve_left partShort⟩
  · rintro ⟨digits, c, among, odd⟩
    have filled := List.ne_nil_of_mem among
    exact ⟨filled, digits, (number?_eq_none_iff filled).mpr (.inr ⟨c, among, odd⟩)⟩

theorem length_dropFinalBreak_le (text : List Char) : (dropFinalBreak text).length ≤ text.length := by
  unfold dropFinalBreak
  split
  · exact (List.dropLast_prefix text).length_le
  · exact Nat.le_refl _

/-- The number of a framework can be told if its name is not too long. -/
theorem countable_framework {name : String} (short : name.utf8ByteSize ≤ Text.maxDigits) :
    ¬UncountableFramework name := by
  rintro ⟨rank, version, dotted, part, member, none⟩
  obtain ⟨⟨family, suffix⟩, -, read⟩ := List.exists_of_findSome?_eq_some dotted
  obtain ⟨digits, after, same⟩ := Option.map_eq_some_iff.mp read
  obtain ⟨-, rfl⟩ := Prod.mk.inj same
  obtain ⟨after, checked⟩ := Option.filter_eq_some_iff.mp after
  have isDotted := (Bool.and_eq_true_iff.mp checked).1
  have decimal := List.all_eq_true.mp isDotted part member
  rw [Bool.and_eq_true, Bool.not_eq_true', List.isEmpty_eq_false_iff, List.all_eq_true] at decimal
  rw [number?_decimal decimal.1 decimal.2] at none
  -- what is read of a name is no longer than the name in lower case
  have within : digits.length ≤ (Text.lower name).toList.length := by
    unfold FrameworkKey.versionAfter? at after
    split at after
    · rw [← Option.some.inj after, List.length_drop]
      refine (Nat.sub_le _ _).trans ((length_dropFinalBreak_le _).trans ?_)
      exact (List.takeWhile_prefix _).length_le
    · cases after
  have partShort : part.length ≤ Text.maxDigits :=
    ((Text.length_le_of_mem_split member).trans within).trans ((Text.length_lower_le name).trans short)
  rw [if_neg (Nat.not_lt_of_le partShort)] at none
  cases none

theorem mem_sortFrameworks {names sorted : List String} (ran : sortFrameworks names = .ok sorted)
    {name : String} : name ∈ sorted ↔ name ∈ names := by
  refine ⟨mem_of_sortFrameworks ran, fun member => ?_⟩
  obtain ⟨keyed, each, ran⟩ := bind_ok ran
  obtain rfl := pure_ok ran
  obtain ⟨entry, made⟩ := mapM_returns_iff.mp ⟨keyed, each⟩ name member
  obtain ⟨key, -, pair⟩ := bind_ok made
  have placed : entry ∈ sortDown FrameworkKey.compare keyed :=
    List.mem_mergeSort.mpr ((mem_mapM each).mpr ⟨name, member, made⟩)
  rw [pure_ok pair] at placed
  exact List.mem_map.mpr ⟨_, placed, rfl⟩

theorem sortFrameworks_returns {names : List String}
    (short : ∀ name ∈ names, name.utf8ByteSize ≤ Text.maxDigits) :
    ∃ sorted, sortFrameworks names = .ok sorted := by
  have fails : FailsIn (·.isForeseen = false) (sortFrameworks names) :=
    (failsIn_mapM (fun name => (ofName_fails name).map (·, name)) names).map _
  rw [returns_iff_not_surprises fails, surprises_sortFrameworks]
  rintro ⟨name, member, uncountable⟩
  exact countable_framework (short name member) uncountable

end Package

namespace PackageStore

open Package (VersionKey)

variable {fs : FileSystem} {package : PackageReference} {root : Path}

/-! ### Roots -/

/-- A root can be searched: its path can be spelled, and all that it holds can be asked about. -/
structure Searchable (fs : FileSystem) (root : Path) : Prop where
  spoken : '\x00' ∉ root.text.toList
  answered : ∀ entry ∈ listed fs root, ¬fs.Overlong (inside root entry).text

theorem isDirectory_returns_iff {path : String} :
    (∃ there, fs.isDirectory path = .ok there) ↔ ¬fs.Overlong path := by
  rw [← FileSystem.node?At_fails_iff, FileSystem.isDirectory]
  cases fs.node?At path with
  | ok node => simp
  | error failure => simp

theorem isFile_returns_iff {path : String} :
    (∃ there, fs.isFile path = .ok there) ↔ ¬fs.Overlong path := by
  rw [← FileSystem.isFile_fails_iff]
  cases fs.isFile path with
  | ok there => simp
  | error failure => simp

/-- A directory that cannot be listed has nothing, so only a path that cannot be spelled is in the
way. -/
theorem listOrNone_eq (path : Path) : listOrNone fs path =
    if '\x00' ∈ path.text.toList then .error .nullInPath else .ok (listed fs path) := by
  have checked := fs.list_checked path.text
  rw [listOrNone, listed]
  by_cases null : '\x00' ∈ path.text.toList
  · rw [checked.null null, if_pos null]
  · have refused := checked.refused null
    rw [if_neg null]
    cases answer : fs.list path.text with
    | ok names => rfl
    | error failure =>
      rw [answer] at refused
      obtain ⟨fault, path⟩ := refused failure rfl
      rfl

theorem offered_returns_iff {wanted entry : String} :
    (∃ installed, offered fs root wanted entry = .ok installed) ↔
      ¬fs.Overlong (inside root entry).text := by
  rw [← isDirectory_returns_iff, offered]
  cases asked : fs.isDirectory (inside root entry).text with
  | error failure => exact iff_of_false (error_not_returns failure) (error_not_returns failure)
  | ok there =>
    refine iff_of_true ?_ ⟨there, rfl⟩
    cases there with
    | false => exact ⟨[], rfl⟩
    | true =>
      rw [ok_bind, if_neg (by simp), listOrNone_eq, if_neg (FileSystem.spoken_of_isDirectory asked)]
      split
      · exact ⟨_, rfl⟩
      · split <;> exact ⟨_, rfl⟩

theorem versionsIn_returns_iff {name : String} :
    (∃ installed, versionsIn fs root name = .ok installed) ↔ Searchable fs root := by
  rw [versionsIn, listOrNone_eq]
  by_cases null : '\x00' ∈ root.text.toList
  · rw [if_pos null]
    exact iff_of_false (error_not_returns _) fun searchable => searchable.spoken null
  rw [if_neg null, ok_bind]
  have each : (∃ offers, (listed fs root).mapM (offered fs root (Text.lower name)) = .ok offers) ↔
      ∀ entry ∈ listed fs root, ¬fs.Overlong (inside root entry).text := by
    rw [mapM_returns_iff]
    exact forall₂_congr fun entry _ => offered_returns_iff
  constructor
  · rintro ⟨installed, ran⟩
    obtain ⟨offers, ran, -⟩ := bind_ok ran
    exact ⟨null, each.mp ⟨offers, ran⟩⟩
  · intro searchable
    obtain ⟨offers, ran⟩ := each.mpr searchable.answered
    rw [ran]
    exact ⟨_, rfl⟩

/-! ### The search for a package -/

/-- The file system would not answer for a version with so long a name. -/
theorem HasVersion.short {name version : String} {directory : Path}
    (has : HasVersion fs root name version directory) :
    version.toList.length ≤ Text.maxDigits := by
  have enough : FileSystem.maxPathBytes ≤ Text.maxDigits := by decide
  have bounded : ∀ {parent : Path} {entry : String},
      fs.isDirectory (inside parent entry).text = .ok true → entry.toList.length ≤ Text.maxDigits := by
    intro parent entry there
    obtain ⟨front, text⟩ := inside_text parent entry
    have size := FileSystem.short_of_isDirectory there
    rw [text, String.utf8ByteSize_append] at size
    have chars := Text.length_le_utf8ByteSize entry
    omega
  cases has with
  | inFolder _ _ _ _ there => exact bounded there
  | byName _ there spelled _ =>
    obtain ⟨-, -, rest, joined, ends⟩ := spelled.1
    have whole := bounded there
    rw [joined, List.length_append, List.length_cons] at whole
    obtain rfl | rfl := ends.2
    · omega
    · rw [List.length_append] at whole
      omega

theorem uncountableVersion_iff_of_seen {entry : Installed} (seen : entry ∈ seenIn fs package root) :
    Package.UncountableVersion entry.1 ↔ Package.HasOddDigits entry.1 := by
  obtain ⟨offer, member, rfl⟩ := List.mem_map.mp seen
  have has := mem_allIn.mp (List.mem_map.mpr ⟨offer, (List.mem_filter.mp member).1, rfl⟩)
  exact Package.uncountableVersion_iff has.1.short

theorem highest?_returns_iff {installed : List Installed} :
    (∃ answer, highest? installed = .ok answer) ↔
      ∀ entry ∈ installed, ¬Package.UncountableVersion entry.1 := by
  have each : ∀ entry : Installed, FailsIn (·.isForeseen = false)
      (do return (← VersionKey.ofText entry.1, entry.2) : Except Failure _) := fun entry =>
    (Package.ofText_fails entry.1).map (·, entry.2)
  have fails : FailsIn (·.isForeseen = false) (highest? installed) :=
    (failsIn_mapM each installed).map _
  rw [returns_iff_not_surprises fails, surprises_highest?]
  simp

/-- In the first root in which a match is seen and in those before it nothing is in the way. -/
def Findable (fs : FileSystem) (package : PackageReference) (roots : List Path) : Prop :=
  ∀ before root after, roots = before ++ root :: after →
    (∀ other ∈ before, seenIn fs package other = []) →
    Searchable fs root ∧ ∀ entry ∈ seenIn fs package root, ¬Package.HasOddDigits entry.1

theorem findable_cons {rest : List Path} : Findable fs package (root :: rest) ↔
    Searchable fs root ∧ (∀ entry ∈ seenIn fs package root, ¬Package.HasOddDigits entry.1) ∧
      (seenIn fs package root = [] → Findable fs package rest) := by
  constructor
  · intro findable
    obtain ⟨searchable, countable⟩ := findable [] root rest rfl nofun
    refine ⟨searchable, countable, fun none before other after same nothing => ?_⟩
    exact findable (root :: before) other after (same ▸ rfl) (List.forall_mem_cons.mpr ⟨none, nothing⟩)
  · rintro ⟨searchable, countable, later⟩ before other after same nothing
    cases before with
    | nil =>
      obtain ⟨rfl, rfl⟩ := List.cons_eq_cons.mp same
      exact ⟨searchable, countable⟩
    | cons first before =>
      obtain ⟨rfl, rfl⟩ := List.cons_eq_cons.mp same
      obtain ⟨none, nothing⟩ := List.forall_mem_cons.mp nothing
      exact later none before other after rfl nothing

theorem findIn_returns_iff {roots : List Path} :
    (∃ answer, findIn fs package roots = .ok answer) ↔ Findable fs package roots := by
  induction roots with
  | nil =>
    refine iff_of_true ⟨none, rfl⟩ fun before root after same => ?_
    simp at same
  | cons root rest ih =>
    rw [findIn_cons, findable_cons, ← @versionsIn_returns_iff fs root package.name]
    cases offers : versionsIn fs root package.name with
    | error failure =>
      exact iff_of_false (error_not_returns failure) fun findable => error_not_returns _ findable.1
    | ok installed =>
      have countable : (∀ entry ∈ seenIn fs package root, ¬Package.HasOddDigits entry.1) ↔
          ∃ answer, highest? (seenIn fs package root) = .ok answer := by
        rw [highest?_returns_iff]
        exact forall₂_congr fun entry seen => not_congr (uncountableVersion_iff_of_seen seen).symm
      rw [ok_bind, fitting_ok offers, countable]
      by_cases none : seenIn fs package root = []
      · rw [none, List.isEmpty_nil, if_pos rfl, ih]
        simp [highest?, Package.sortDown, pure, Except.pure]
      · rw [if_neg fun empty => none (List.isEmpty_iff.mp empty)]
        simp [none]

/-! ### The libraries of a package -/

/-- A directory can be listed, and all that it holds can be asked about. -/
structure Readable (fs : FileSystem) (directory : Path) : Prop where
  lists : ∃ names, fs.list directory.text = .ok names
  answered : ∀ name ∈ listed fs directory, ¬fs.Overlong (inside directory name).text

theorem listed_of_list {directory : Path} {names : List String}
    (ran : fs.list directory.text = .ok names) : listed fs directory = names := by
  rw [listed, ran]
  rfl

theorem librariesIn_returns_iff {directory : Path} :
    (∃ found, librariesIn fs directory = .ok found) ↔ Readable fs directory := by
  rw [librariesIn]
  cases ran : fs.list directory.text with
  | error failure =>
    refine iff_of_false (error_not_returns failure) fun readable => ?_
    obtain ⟨names, ran'⟩ := readable.lists
    cases ran.symm.trans ran'
  | ok names =>
    have asked : ∀ name, (∃ passes, (do
        return (← fs.isFile (inside directory name).text) &&
          Text.lower (inside directory name).suffix == ".dll" : Except Failure Bool) = .ok passes) ↔
        ¬fs.Overlong (inside directory name).text := by
      intro name
      rw [← isFile_returns_iff]
      cases fs.isFile (inside directory name).text with
      | ok there => exact iff_of_true ⟨_, rfl⟩ ⟨there, rfl⟩
      | error failure =>
        exact iff_of_false (error_not_returns failure) (error_not_returns failure)
    rw [ok_bind]
    constructor
    · rintro ⟨found, kept⟩
      obtain ⟨kept, ran', -⟩ := bind_ok kept
      refine ⟨⟨names, ran⟩, fun name member => ?_⟩
      rw [listed_of_list ran] at member
      exact (asked name).mp ((filterM_ok_iff.mp ran').1 name member)
    · intro readable
      have each := fun name member => (asked name).mpr
        (readable.answered name ((listed_of_list ran).symm ▸ member))
      rw [filterM_ok_iff.mpr ⟨each, rfl⟩]
      exact ⟨_, rfl⟩

theorem foldersIn_ok_iff {directory : Path} {folders : List String} :
    foldersIn fs directory = .ok folders ↔ Readable fs directory ∧
      folders = (listed fs directory).filter fun name => isFolder fs (inside directory name) := by
  rw [foldersIn]
  constructor
  · intro ran
    obtain ⟨names, lists, kept⟩ := bind_ok ran
    obtain ⟨each, rfl⟩ := filterM_ok_iff.mp kept
    rw [listed_of_list lists]
    refine ⟨⟨⟨names, lists⟩, fun name member => ?_⟩, rfl⟩
    rw [listed_of_list lists] at member
    exact isDirectory_returns_iff.mp (each name member)
  · rintro ⟨readable, rfl⟩
    obtain ⟨names, ran⟩ := readable.lists
    rw [ran, listed_of_list ran]
    refine filterM_ok_iff.mpr ⟨fun name member => ?_, rfl⟩
    exact isDirectory_returns_iff.mpr (readable.answered name ((listed_of_list ran).symm ▸ member))

/-- The folder of a package's libraries can be asked about; if it is there, it and the folders in it
can be read. -/
structure Shelved (fs : FileSystem) (lib : Path) : Prop where
  answered : ¬fs.Overlong lib.text
  own : isFolder fs lib = true → Readable fs lib
  frameworks : isFolder fs lib = true → ∀ name ∈ listed fs lib,
    isFolder fs (inside lib name) = true → Readable fs (inside lib name)

theorem sortFrameworks_foldersIn {directory : Path} {folders : List String}
    (found : foldersIn fs directory = .ok folders) :
    ∃ sorted, Package.sortFrameworks folders = .ok sorted := by
  have enough : FileSystem.maxPathBytes ≤ Text.maxDigits := by decide
  refine Package.sortFrameworks_returns fun name member => ?_
  rw [(foldersIn_ok_iff.mp found).2] at member
  obtain ⟨front, text⟩ := inside_text directory name
  have size := FileSystem.short_of_isDirectory (isFolder_iff.mp (List.mem_filter.mp member).2)
  rw [text, String.utf8ByteSize_append] at size
  omega

theorem libraries_returns_iff {directory : Path} :
    (∃ found, libraries fs directory = .ok found) ↔ Shelved fs (directory.child "lib") := by
  rw [libraries_eq]
  generalize directory.child "lib" = lib
  cases asked : fs.isDirectory lib.text with
  | error failure =>
    refine iff_of_false (error_not_returns failure) fun shelved => ?_
    obtain ⟨there, answer⟩ := isDirectory_returns_iff.mpr shelved.answered
    cases asked.symm.trans answer
  | ok there =>
    have answered := isDirectory_returns_iff.mp ⟨there, asked⟩
    rw [ok_bind]
    cases there with
    | false =>
      have absent : isFolder fs lib = true → False := fun folder => by
        cases asked.symm.trans (isFolder_iff.mp folder)
      exact iff_of_true ⟨[], rfl⟩ ⟨answered, fun folder => (absent folder).elim,
        fun folder => (absent folder).elim⟩
    | true =>
      have folder := isFolder_iff.mpr asked
      rw [if_neg (by simp)]
      constructor
      · rintro ⟨found, ran⟩
        obtain ⟨folders, among, ran⟩ := bind_ok ran
        obtain ⟨frameworks, sorted, ran⟩ := bind_ok ran
        obtain ⟨each, ran, -⟩ := bind_ok ran
        have read := mapM_returns_iff.mp ⟨each, ran⟩
        refine ⟨answered, fun _ => librariesIn_returns_iff.mp (read lib List.mem_cons_self),
          fun _ name member inner => ?_⟩
        have kept : name ∈ folders := by
          rw [(foldersIn_ok_iff.mp among).2]
          exact List.mem_filter.mpr ⟨member, inner⟩
        have placed : inside lib name ∈ frameworks.map (inside lib) :=
          List.mem_map.mpr ⟨name, (Package.mem_sortFrameworks sorted).mpr kept, rfl⟩
        exact librariesIn_returns_iff.mp (read _ (List.mem_cons_of_mem lib placed))
      · intro shelved
        have among := foldersIn_ok_iff.mpr ⟨shelved.own folder, rfl⟩
        obtain ⟨frameworks, sorted⟩ := sortFrameworks_foldersIn among
        have read : ∀ path ∈ lib :: frameworks.map (inside lib),
            ∃ found, librariesIn fs path = .ok found := by
          refine List.forall_mem_cons.mpr ⟨librariesIn_returns_iff.mpr (shelved.own folder), ?_⟩
          intro path member
          obtain ⟨name, placed, rfl⟩ := List.mem_map.mp member
          obtain ⟨member, inner⟩ := List.mem_filter.mp ((Package.mem_sortFrameworks sorted).mp placed)
          exact librariesIn_returns_iff.mpr (shelved.frameworks folder name member inner)
        obtain ⟨each, ran⟩ := mapM_returns read
        rw [among, ok_bind, sorted, ok_bind, ran]
        exact ⟨_, rfl⟩

/-! ### Resolving -/

/-- The libraries of a package can be told: nothing is in the way of its directory, nor of the folder
of libraries in it. -/
structure Tellable (roots : List Path) (fs : FileSystem) (package : PackageReference) : Prop where
  findable : Findable fs package roots
  shelved : ∀ directory, findIn fs package roots = .ok (some directory) →
    Shelved fs (directory.child "lib")

theorem installed_returns_iff {roots : List Path} :
    (∃ libraries, installed roots fs package = .ok libraries) ↔
      (package.noReference = false → Tellable roots fs package) := by
  unfold installed
  cases package.noReference with
  | true => exact iff_of_true ⟨[], rfl⟩ nofun
  | false =>
    rw [if_neg Bool.false_ne_true]
    refine Iff.trans ?_ ⟨fun tellable _ => tellable, fun tellable => tellable rfl⟩
    have found := @findIn_returns_iff fs package roots
    cases search : findIn fs package roots with
    | error failure =>
      refine iff_of_false (error_not_returns failure) fun tellable => ?_
      obtain ⟨answer, ran⟩ := found.mpr tellable.findable
      cases search.symm.trans ran
    | ok answer =>
      have findable := found.mp ⟨answer, search⟩
      rw [ok_bind]
      cases answer with
      | none => exact iff_of_true ⟨[], rfl⟩ ⟨findable, fun _ none => nomatch search.symm.trans none⟩
      | some directory =>
        refine Iff.trans libraries_returns_iff ⟨fun shelved => ⟨findable, fun other same => ?_⟩,
          fun tellable => tellable.shelved directory search⟩
        obtain rfl := Option.some.inj (Except.ok.inj (search.symm.trans same))
        exact shelved

/-- A package of which no match is seen has no directory. -/
theorem findIn_missing {roots : List Path} {answer : Option Path}
    (missing : ∀ root ∈ roots, seenIn fs package root = [])
    (found : findIn fs package roots = .ok answer) : answer = none := by
  cases answer with
  | none => rfl
  | some directory =>
    obtain ⟨before, root, after, rfl, -, earlier, version, later, key, cut, -⟩ :=
      findIn_isAnswer found
    rw [missing root (List.mem_append_right before List.mem_cons_self)] at cut
    simp at cut

theorem Tellable.of_missing {roots : List Path} (findable : Findable fs package roots)
    (missing : ∀ root ∈ roots, seenIn fs package root = []) : Tellable roots fs package where
  findable := findable
  shelved _ found := nomatch findIn_missing missing found

theorem installed_missing {roots : List Path} {libraries : List String}
    (missing : ∀ root ∈ roots, seenIn fs package root = [])
    (ran : installed roots fs package = .ok libraries) : libraries = [] := by
  unfold installed at ran
  split at ran
  · exact pure_ok ran
  · obtain ⟨answer, found, ran⟩ := bind_ok ran
    rw [findIn_missing missing found] at ran
    exact pure_ok ran

theorem allInstalled_missing {roots : List Path} {before after : List PackageReference}
    {libraries : List String} (missing : ∀ root ∈ roots, seenIn fs package root = [])
    (ran : allInstalled roots fs (before ++ package :: after) = .ok libraries) :
    allInstalled roots fs (before ++ after) = .ok libraries := by
  obtain ⟨lists, each, made⟩ := bind_ok ran
  rw [List.mapM_append] at each
  obtain ⟨first, earlier, each⟩ := bind_ok each
  obtain ⟨others, later, joined⟩ := bind_ok each
  rw [List.mapM_cons] at later
  obtain ⟨own, one, later⟩ := bind_ok later
  obtain ⟨rest, later, whole⟩ := bind_ok later
  rw [pure_ok made, pure_ok joined, pure_ok whole, installed_missing missing one, allInstalled,
    List.mapM_append, earlier, ok_bind, later]
  simp [pure, Except.pure]

section

open FileSystem ScriptDeps.Path

/-- A host with a folder of versions. -/
def shelfHost (versions : List String) : Host where
  files := shelf versions
  environment := []
  modules := []
  worker := .missing

/-- A package that is not on the shelf. -/
def bar : PackageReference := { foo with name := "bar" }

end

end PackageStore

end ScriptDeps
