import ScriptDeps.Proofs.FileSystem.Tidy
import ScriptDeps.Proofs.Library.FirstOfEach
import ScriptDeps.Proofs.Package.Obstacles
import ScriptDeps.Library.Identity

/-!
# The libraries of a package in order

A package holds its libraries in one folder, and in folders in it that are named for frameworks.
`libraries_ordered` says which are listed and in which order, and which of those with one file name
is kept when each is kept once.
-/

namespace ScriptDeps

/-! ### The order of frameworks -/

namespace Package

theorem name_of_ofName {name : String} {key : FrameworkKey}
    (told : FrameworkKey.ofName name = .ok key) : key.name = name := by
  rw [ofName_eq] at told
  split at told
  · obtain ⟨numbers, -, told⟩ := bind_ok told
    rw [pure_ok told]
  · split at told
    · split at told
      · rw [pure_ok told]
      · rw [pure_ok told]
    · rw [pure_ok told]

/-- The first framework has the greater key. -/
def Newer (a b : String) : Prop :=
  ∃ key other, FrameworkKey.ofName a = .ok key ∧ FrameworkKey.ofName b = .ok other ∧
    FrameworkKey.compare key other = .gt

theorem Newer.asymm {a b : String} (newer : Newer a b) : ¬Newer b a := by
  obtain ⟨key, other, told, otherTold, greater⟩ := newer
  rintro ⟨other', key', otherTold', told', greater'⟩
  obtain rfl := Except.ok.inj (told.symm.trans told')
  obtain rfl := Except.ok.inj (otherTold.symm.trans otherTold')
  cases (Std.OrientedCmp.lt_of_gt greater).symm.trans greater'

/-- Frameworks are sorted into decreasing order, and all are kept. -/
theorem sortFrameworks_ok {names sorted : List String} (once : names.Nodup)
    (ran : sortFrameworks names = .ok sorted) : sorted.Perm names ∧ sorted.Pairwise Newer := by
  obtain ⟨keyed, each, ran⟩ := bind_ok ran
  obtain rfl := pure_ok ran
  have keys : ∀ entry ∈ keyed, FrameworkKey.ofName entry.2 = .ok entry.1 := by
    intro entry member
    obtain ⟨name, -, made⟩ := of_mem_mapM each member
    obtain ⟨key, told, pair⟩ := bind_ok made
    rw [pure_ok pair]
    exact told
  have named : keyed.map (·.2) = names := by
    refine (mapM_map_eq (g := id) (fun name entry made => ?_) each).trans names.map_id
    obtain ⟨key, -, pair⟩ := bind_ok made
    rw [pure_ok pair]
    rfl
  have permuted : (sortDown FrameworkKey.compare keyed).Perm keyed := List.mergeSort_perm keyed _
  have perm := permuted.map (·.2)
  rw [named] at perm
  refine ⟨perm, List.pairwise_map.mpr ?_⟩
  have apart := List.pairwise_map.mp (perm.nodup_iff.mpr once)
  refine ((pairwise_sortDown keyed).and apart).imp_of_mem fun {a b} first second both => ?_
  have here := keys a (permuted.mem_iff.mp first)
  have there := keys b (permuted.mem_iff.mp second)
  refine ⟨a.1, b.1, here, there, ?_⟩
  cases order : FrameworkKey.compare a.1 b.1 with
  | gt => rfl
  | lt => exact absurd order both.1
  | eq =>
    have same := FrameworkKey.name_eq_of_compare order
    rw [name_of_ofName here, name_of_ofName there] at same
    exact absurd same both.2

end Package


/-! ### Where the libraries of a package lie -/

namespace PackageStore

open Package (Newer)

variable {fs : FileSystem} {lib : Path}

/-- Where a library lies: in the folder of the libraries itself, or in a folder in it. -/
structure Spot where
  folder : Option String
  name : String
  deriving DecidableEq, Repr

namespace Spot

def directory (lib : Path) : Option String → Path
  | none => lib
  | some folder => inside lib folder

def path (lib : Path) (spot : Spot) : Path :=
  inside (directory lib spot.folder) spot.name

def text (lib : Path) (spot : Spot) : String :=
  (spot.path lib).text

/-- The file name without its suffix. -/
def stem (spot : Spot) : String :=
  String.ofList (Path.cutName spot.name.toList).1

/-- What is in the folder of the libraries itself comes first, then what is in the newer folder, and
in one folder they come by name. -/
inductive Precedes : Spot → Spot → Prop
  | own {folder first second : String} : Precedes ⟨none, first⟩ ⟨some folder, second⟩
  | newer {folder other first second : String} (newer : Newer folder other) :
      Precedes ⟨some folder, first⟩ ⟨some other, second⟩
  | name {folder : Option String} {first second : String} (less : first < second) :
      Precedes ⟨folder, first⟩ ⟨folder, second⟩

end Spot

/-- A regular file with the suffix of a library lies directly in the folder of the libraries or in a
folder in it. -/
structure IsLibrary (fs : FileSystem) (lib : Path) (spot : Spot) : Prop where
  folder : ∀ folder ∈ spot.folder, folder ∈ listed fs lib ∧ isFolder fs (inside lib folder) = true
  name : spot.name ∈ listed fs (Spot.directory lib spot.folder)
  file : fs.isFile (spot.text lib) = .ok true
  suffix : Text.lower (spot.path lib).suffix = ".dll"

/-! ### The order of the libraries -/

/-- Whether a regular file with the suffix of a library lies at a path. -/
def isLibraryAt (fs : FileSystem) (path : Path) : Bool :=
  (fs.isFile path.text).toOption.getD false && Text.lower path.suffix == ".dll"

theorem isLibraryAt_iff {path : Path} :
    isLibraryAt fs path = true ↔
      fs.isFile path.text = .ok true ∧ Text.lower path.suffix = ".dll" := by
  rw [isLibraryAt, Bool.and_eq_true, beq_iff_eq]
  cases fs.isFile path.text <;> simp [Except.toOption]

/-- The libraries in a folder, in the order of their names. -/
def spotsIn (fs : FileSystem) (lib : Path) (folder : Option String) : List Spot :=
  ((listed fs (Spot.directory lib folder)).filter fun name =>
    isLibraryAt fs (inside (Spot.directory lib folder) name)).map fun name => ⟨folder, name⟩

theorem mem_spotsIn {folder : Option String} {spot : Spot} :
    spot ∈ spotsIn fs lib folder ↔ spot.folder = folder ∧
      spot.name ∈ listed fs (Spot.directory lib folder) ∧
      fs.isFile (inside (Spot.directory lib folder) spot.name).text = .ok true ∧
      Text.lower (inside (Spot.directory lib folder) spot.name).suffix = ".dll" := by
  rw [spotsIn, List.mem_map]
  simp only [List.mem_filter, isLibraryAt_iff]
  constructor
  · rintro ⟨name, member, rfl⟩
    exact ⟨rfl, member⟩
  · rintro ⟨rfl, member⟩
    exact ⟨spot.name, member, rfl⟩

theorem librariesIn_ok {folder : Option String} {found : List String}
    (ran : librariesIn fs (Spot.directory lib folder) = .ok found) :
    found = (spotsIn fs lib folder).map (Spot.text lib) := by
  obtain ⟨names, lists, ran⟩ := bind_ok ran
  obtain ⟨kept, filtered, ran⟩ := bind_ok ran
  obtain ⟨-, rfl⟩ := filterM_ok_iff.mp filtered
  rw [pure_ok ran, spotsIn, listed_of_list lists, List.map_map]
  refine congrArg (List.map _) (List.filter_congr fun name _ => ?_)
  rw [isLibraryAt]
  dsimp only
  cases fs.isFile (inside (Spot.directory lib folder) name).text <;> rfl

theorem listed_ascends (tidy : fs.Tidy) (directory : Path) :
    (listed fs directory).Pairwise (· < ·) ∧ Slashless (listed fs directory) := by
  cases ran : fs.list directory.text with
  | ok names =>
    rw [listed_of_list ran]
    exact tidy.list_ascends ran
  | error failure =>
    rw [listed, ran]
    exact ⟨.nil, slashless_nil⟩

theorem pairwise_spotsIn (tidy : fs.Tidy) (folder : Option String) :
    (spotsIn fs lib folder).Pairwise Spot.Precedes := by
  refine List.pairwise_map.mpr (List.Pairwise.filter _ ?_)
  exact (listed_ascends tidy _).1.imp Spot.Precedes.name

theorem listed_of_not_folder {directory : Path}
    (asked : fs.isDirectory directory.text = .ok false) : listed fs directory = [] := by
  cases ran : fs.list directory.text with
  | error failure => rw [listed, ran]; rfl
  | ok names =>
    obtain ⟨spoken, place, node, walked, directory, -⟩ := FileSystem.list_ok ran
    rw [FileSystem.isDirectory, FileSystem.node?At, if_neg (by simpa using spoken),
      FileSystem.stat_of_walk walked] at asked
    cases directory.symm.trans (pure_ok asked).symm

theorem libraries_ok {package : Path} {found : List String} (tidy : fs.Tidy)
    (ran : libraries fs package = .ok found) :
    ∃ frameworks : List String, frameworks.Pairwise Newer ∧
      (∀ folder, folder ∈ frameworks ↔ folder ∈ listed fs (package.child "lib") ∧
        isFolder fs (inside (package.child "lib") folder) = true) ∧
      found = ((none :: frameworks.map some).flatMap (spotsIn fs (package.child "lib"))).map
        (Spot.text (package.child "lib")) := by
  rw [libraries_eq] at ran
  generalize package.child "lib" = lib at ran
  obtain ⟨there, asked, ran⟩ := bind_ok ran
  cases there with
  | false =>
    have empty := listed_of_not_folder asked
    refine ⟨[], .nil, fun folder => by simp [empty], ?_⟩
    rw [pure_ok ran, List.map_nil, List.flatMap_singleton, spotsIn, Spot.directory, empty]
    rfl
  | true =>
    rw [if_neg (by simp)] at ran
    obtain ⟨folders, among, ran⟩ := bind_ok ran
    obtain ⟨-, rfl⟩ := foldersIn_ok_iff.mp among
    obtain ⟨frameworks, sorted, ran⟩ := bind_ok ran
    obtain ⟨lists, read, ran⟩ := bind_ok ran
    have once : ((listed fs lib).filter fun name => isFolder fs (inside lib name)).Nodup :=
      (listed_ascends tidy lib).1.nodup.filter _
    obtain ⟨perm, newer⟩ := Package.sortFrameworks_ok once sorted
    refine ⟨frameworks, newer, fun folder => perm.mem_iff.trans List.mem_filter, ?_⟩
    have spelled : lib :: frameworks.map (inside lib) =
        (none :: frameworks.map some).map (Spot.directory lib) := by
      rw [List.map_cons, List.map_map]
      rfl
    rw [spelled, List.mapM_map] at read
    rw [pure_ok ran, mapM_eq_map (fun folder _ => librariesIn_ok) read, List.flatMap_def,
      List.map_flatten, List.map_map]
    rfl


/-! ### What the paths say -/

namespace Spot

/-- The names in a library's path after that of the folder of the libraries. -/
def names (spot : Spot) : List String :=
  spot.folder.toList ++ [spot.name]

theorem path_eq (lib : Path) (spot : Spot) :
    spot.path lib = ⟨lib.root, lib.names ++ spot.names⟩ := by
  obtain ⟨_ | folder, name⟩ := spot
  · rfl
  · exact congrArg (Path.mk lib.root) (List.append_assoc lib.names [folder] [name])

theorem text_eq (filled : lib.names ≠ []) (spot : Spot) :
    (spot.text lib).toList =
      lib.text.toList ++ '/' :: Text.join '/' (spot.names.map String.toList) := by
  have some : spot.names ≠ [] := List.concat_ne_nil spot.name _
  have whole : (spot.path lib).names ≠ [] := by
    rw [path_eq]
    exact List.append_ne_nil_of_left_ne_nil filled _
  rw [text, Path.text_of_filled whole, Path.text_of_filled filled, path_eq, String.toList_append,
    String.toList_append, Path.toList_intercalate, Path.toList_intercalate, List.map_append,
    Text.join_append (by simpa using filled) (by simpa using some), List.append_assoc]

theorem split_names {spot : Spot} (plain : Slashless spot.names) :
    Text.split '/' (Text.join '/' (spot.names.map String.toList)) =
      spot.names.map String.toList := by
  refine Text.split_join (by simp [names]) fun piece member => ?_
  obtain ⟨name, among, rfl⟩ := List.mem_map.mp member
  exact plain name among

theorem text_injective (filled : lib.names ≠ []) {spot other : Spot}
    (plain : Slashless spot.names) (otherPlain : Slashless other.names)
    (same : spot.text lib = other.text lib) : spot = other := by
  have spelled := congrArg String.toList same
  rw [text_eq filled, text_eq filled] at spelled
  have tails := (List.cons.inj (List.append_cancel_left spelled)).2
  have pieces := congrArg (Text.split '/') tails
  rw [split_names plain, split_names otherPlain] at pieces
  have names := List.map_injective_iff.mpr (fun _ _ => String.toList_injective) pieces
  obtain ⟨_ | folder, name⟩ := spot <;> obtain ⟨_ | otherFolder, otherName⟩ := other <;>
    simp_all [Spot.names]

end Spot

theorem IsLibrary.slashless (tidy : fs.Tidy) {spot : Spot} (library : IsLibrary fs lib spot) :
    Slashless spot.names := by
  refine Slashless.append (fun folder member => ?_) fun name member => ?_
  · exact (listed_ascends tidy lib).2 folder (library.folder folder (Option.mem_toList.mp member)).1
  · rw [List.mem_singleton.mp member]
    exact (listed_ascends tidy _).2 _ library.name

theorem cutName_filled {name : List Char} (cut : (Path.cutName name).2 ≠ []) :
    (Path.cutName name).1 ≠ [] := by
  revert cut
  unfold Path.cutName
  cases Text.cutLast? '.' name with
  | none => exact fun cut => absurd rfl cut
  | some parts =>
    obtain ⟨stem, suffix⟩ := parts
    dsimp only
    split
    · exact fun cut => absurd rfl cut
    · rename_i long
      rintro - rfl
      exact long rfl

/-- What tells a library apart by its file name is the name without its suffix. -/
theorem fileIdentity_text (tidy : fs.Tidy) (filled : lib.names ≠ []) {spot : Spot}
    (library : IsLibrary fs lib spot) :
    Library.fileIdentity (spot.text lib) = some spot.stem := by
  have named : (spot.path lib).name = spot.name := by
    rw [Path.name, Spot.path_eq, Spot.names, ← List.append_assoc, List.getLast?_concat]
    rfl
  have suffixed : (Path.cutName spot.name.toList).2 ≠ [] := by
    intro none
    have suffix := library.suffix
    rw [Path.suffix, named, none] at suffix
    exact absurd suffix (by decide +kernel)
  have last : (Text.split '/' (spot.text lib).toList).getLast? = some spot.name.toList := by
    rw [Spot.text_eq filled, Text.split_append_cons, Spot.split_names (library.slashless tidy),
      Spot.names, List.map_append, ← List.append_assoc]
    exact List.getLast?_concat
  have leads : ¬Path.EndsIdly (spot.text lib) := by
    rintro ⟨other, same, idle⟩
    obtain rfl := Option.some.inj (last.symm.trans same)
    obtain idle | idle := idle
    · rw [idle] at suffixed
      exact suffixed rfl
    · rw [idle] at suffixed
      exact suffixed rfl
  obtain ⟨name, ends, same⟩ := Path.ofText_ends leads
  obtain rfl : name = spot.name :=
    String.toList_injective (Option.some.inj (same.symm.trans last))
  have stem : (Path.ofText (spot.text lib)).stem = spot.stem := by
    rw [Path.stem, Path.name, ends]
    rfl
  rw [Library.fileIdentity, stem, if_neg]
  rw [String.isEmpty_iff, Spot.stem, String.ofList_eq_empty_iff]
  exact cutName_filled suffixed


/-! ### All libraries in order -/

theorem mem_spots {frameworks : List String}
    (folders : ∀ folder, folder ∈ frameworks ↔ folder ∈ listed fs lib ∧
      isFolder fs (inside lib folder) = true) {spot : Spot} :
    spot ∈ (none :: frameworks.map some).flatMap (spotsIn fs lib) ↔ IsLibrary fs lib spot := by
  obtain ⟨folder, name⟩ := spot
  have there : folder ∈ none :: frameworks.map some ↔ ∀ inner ∈ folder, inner ∈ frameworks := by
    cases folder <;> simp
  simp only [List.mem_flatMap, mem_spotsIn]
  constructor
  · rintro ⟨_, among, rfl, name, file, suffix⟩
    have inside := there.mp among
    exact ⟨fun inner member => (folders inner).mp (inside inner member), name, file, suffix⟩
  · intro library
    exact ⟨folder, there.mpr fun inner member => (folders inner).mpr (library.folder inner member),
      rfl, library.name, library.file, library.suffix⟩

theorem pairwise_spots (tidy : fs.Tidy) {frameworks : List String}
    (newer : frameworks.Pairwise Newer) :
    ((none :: frameworks.map some).flatMap (spotsIn fs lib)).Pairwise Spot.Precedes := by
  have folder_eq : ∀ {folder : Option String} {spot}, spot ∈ spotsIn fs lib folder →
      spot = ⟨folder, spot.name⟩ := fun member => by rw [← (mem_spotsIn.mp member).1]
  refine List.pairwise_flatMap.mpr ⟨fun folder _ => pairwise_spotsIn tidy folder, ?_⟩
  refine List.pairwise_cons.mpr ⟨fun folder member first own second other => ?_,
    List.pairwise_map.mpr (newer.imp fun newer first one second two => ?_)⟩
  · obtain ⟨name, -, rfl⟩ := List.mem_map.mp member
    rw [folder_eq own, folder_eq other]
    exact .own
  · rw [folder_eq one, folder_eq two]
    exact .newer newer


theorem Spot.Precedes.asymm {spot other : Spot} (before : spot.Precedes other) :
    ¬other.Precedes spot := by
  intro after
  cases before with
  | own => cases after
  | newer newer =>
    cases after with
    | newer older => exact newer.asymm older
    | name => exact newer.asymm newer
  | name less =>
    cases after with
    | newer older => exact older.asymm older
    | name more => exact String.lt_irrefl _ (String.lt_trans less more)

/-- A library that comes before all others with its file name but for the suffix. -/
structure Represents (fs : FileSystem) (lib : Path) (spot : Spot) : Prop where
  library : IsLibrary fs lib spot
  first : ∀ other, IsLibrary fs lib other → other.stem = spot.stem →
    other = spot ∨ spot.Precedes other

/-- The first of some libraries in order with its stem comes before all others with it. -/
theorem represents_of_split {spots before after : List Spot} {spot : Spot}
    (all : ∀ other, other ∈ spots ↔ IsLibrary fs lib other) (ordered : spots.Pairwise Spot.Precedes)
    (split : spots = before ++ spot :: after) (new : ∀ earlier ∈ before, earlier.stem ≠ spot.stem) :
    Represents fs lib spot := by
  subst split
  have library := (all spot).mp (List.mem_append_right before List.mem_cons_self)
  refine ⟨library, fun other library same => ?_⟩
  obtain earlier | rest := List.mem_append.mp ((all other).mpr library)
  · exact absurd same (new other earlier)
  · obtain rfl | later := List.mem_cons.mp rest
    · exact .inl rfl
    · exact .inr ((List.pairwise_cons.mp (List.pairwise_append.mp ordered).2.1).1 other later)

theorem Represents.unique {spot other : Spot} (one : Represents fs lib spot)
    (two : Represents fs lib other) (same : other.stem = spot.stem) : other = spot := by
  obtain equal | before := one.first other two.library same
  · exact equal
  · exact (two.first spot one.library same.symm).elim Eq.symm fun after => absurd after before.asymm

section

variable {spots : List Spot} (all : ∀ spot, spot ∈ spots ↔ IsLibrary fs lib spot)
  (ordered : spots.Pairwise Spot.Precedes)
include all ordered

/-- Of each file name the library is kept that comes before all others with it. -/
theorem mem_firstByFileName_iff
    (keys : ∀ spot ∈ spots, Library.fileIdentity (spot.text lib) = some spot.stem) {path : String} :
    path ∈ Library.firstByFileName (spots.map (Spot.text lib)) ↔
      ∃ spot, Represents fs lib spot ∧ path = spot.text lib := by
  rw [Library.firstByFileName, keepFirst_eq_firstOfEach, mem_firstOfEach]
  constructor
  · rintro ⟨-, before, after, split, new⟩
    obtain ⟨earlier, rest, rfl, rfl, later⟩ := List.map_eq_append_iff.mp split
    obtain ⟨spot, others, rfl, rfl, -⟩ := List.map_eq_cons_iff.mp later
    refine ⟨spot, represents_of_split all ordered rfl fun other member same => ?_, rfl⟩
    refine new _ (List.mem_map_of_mem member) ?_
    rw [keys other (List.mem_append_left _ member),
      keys spot (List.mem_append_right _ List.mem_cons_self), same]
  · rintro ⟨spot, represents, rfl⟩
    obtain ⟨before, after, rfl⟩ := List.append_of_mem ((all spot).mpr represents.library)
    have here := keys spot (List.mem_append_right before List.mem_cons_self)
    refine ⟨by rw [here]; rfl, _, _, List.map_append.trans (congrArg _ List.map_cons), ?_⟩
    intro text member
    obtain ⟨other, earlier, rfl⟩ := List.mem_map.mp member
    rw [here, keys other (List.mem_append_left _ earlier)]
    intro same
    have before := (List.pairwise_append.mp ordered).2.2 other earlier spot List.mem_cons_self
    obtain rfl | after := represents.first other
      ((all other).mp (List.mem_append_left _ earlier)) (Option.some.inj same)
    · exact before.asymm before
    · exact before.asymm after

theorem exists_represents {spot : Spot} (library : IsLibrary fs lib spot) :
    ∃ best, Represents fs lib best ∧ best.stem = spot.stem := by
  have some : (spots.find? (·.stem = spot.stem)).isSome = true :=
    List.find?_isSome.mpr ⟨spot, (all spot).mpr library, by simp⟩
  obtain ⟨best, found⟩ := Option.isSome_iff_exists.mp some
  obtain ⟨same, before, after, split, new⟩ := List.find?_eq_some_iff_append.mp found
  have same : best.stem = spot.stem := by simpa using same
  refine ⟨best, represents_of_split all ordered split fun earlier member => ?_, same⟩
  simpa [same] using new earlier member

end

/-- The libraries of a package are all that lie in its folder or in a folder in it, each once and in
order. One of each file name is kept: that in the folder itself, or else in the newest framework
that has it. -/
theorem libraries_ordered {package : Path} {found : List String} (tidy : fs.Tidy)
    (ran : libraries fs package = .ok found) :
    ∃ spots : List Spot, found = spots.map (Spot.text (package.child "lib")) ∧
      (∀ spot, spot ∈ spots ↔ IsLibrary fs (package.child "lib") spot) ∧
      spots.Pairwise Spot.Precedes ∧ found.Nodup ∧
      (∀ path, path ∈ Library.firstByFileName found ↔
        ∃ spot, Represents fs (package.child "lib") spot ∧ path = spot.text (package.child "lib")) ∧
      ∀ spot, IsLibrary fs (package.child "lib") spot →
        ∃ best, Represents fs (package.child "lib") best ∧ best.stem = spot.stem ∧
          ∀ other, Represents fs (package.child "lib") other → other.stem = spot.stem →
            other = best := by
  obtain ⟨frameworks, newer, folders, rfl⟩ := libraries_ok tidy ran
  have filled : (package.child "lib").names ≠ [] := by
    rw [Path.child_eq (by decide)]
    exact List.concat_ne_nil _ _
  generalize package.child "lib" = lib at *
  have all := fun spot => @mem_spots fs lib frameworks folders spot
  have ordered := @pairwise_spots fs lib tidy frameworks newer
  generalize (none :: frameworks.map some).flatMap (spotsIn fs lib) = spots at *
  have keys : ∀ spot ∈ spots, Library.fileIdentity (spot.text lib) = some spot.stem :=
    fun spot member => fileIdentity_text tidy filled ((all spot).mp member)
  refine ⟨spots, rfl, all, ordered, ?_, fun path => mem_firstByFileName_iff all ordered keys,
    fun spot library => ?_⟩
  · refine List.pairwise_map.mpr (ordered.imp_of_mem fun {spot other} one two before same => ?_)
    obtain rfl := Spot.text_injective filled (((all spot).mp one).slashless tidy)
      (((all other).mp two).slashless tidy) same
    exact before.asymm before
  · obtain ⟨best, represents, same⟩ := exists_represents all ordered library
    exact ⟨best, represents, same, fun other also equal =>
      represents.unique also (equal.trans same.symm)⟩

/-- A package with libraries for two frameworks, and one for all. -/
def frameworksShelf : FileSystem where
  nodes := [
    (["p"], .directory false),
    (["lib", "p"], .directory false),
    (["b.dll", "lib", "p"], .file .empty 0 false),
    (["net10.0-windows", "lib", "p"], .directory false),
    (["a.DLL", "net10.0-windows", "lib", "p"], .file .empty 0 false),
    (["b.dll", "net10.0-windows", "lib", "p"], .file .empty 0 false),
    (["net8.0", "lib", "p"], .directory false),
    (["a.dll", "net8.0", "lib", "p"], .file .empty 0 false)]
  workingDirectory := []

theorem list_frameworksShelf :
    frameworksShelf.list "/p/lib" = .ok ["b.dll", "net10.0-windows", "net8.0"] ∧
      frameworksShelf.list "/p/lib/net10.0-windows" = .ok ["a.DLL", "b.dll"] ∧
      frameworksShelf.list "/p/lib/net8.0" = .ok ["a.dll"] := by
  have lib : frameworksShelf.list "/p/lib" = .ok (frameworksShelf.namesIn ["lib", "p"]) := rfl
  have ten : frameworksShelf.list "/p/lib/net10.0-windows" =
      .ok (frameworksShelf.namesIn ["net10.0-windows", "lib", "p"]) := rfl
  have eight : frameworksShelf.list "/p/lib/net8.0" =
      .ok (frameworksShelf.namesIn ["net8.0", "lib", "p"]) := rfl
  rw [lib, ten, eight, FileSystem.namesIn, FileSystem.namesIn, FileSystem.namesIn,
    List.mergeSort_of_pairwise (by decide +kernel), List.mergeSort_of_pairwise (by decide +kernel),
    List.mergeSort_of_pairwise (by decide +kernel)]
  exact ⟨rfl, rfl, rfl⟩

theorem sortFrameworks_shelf :
    Package.sortFrameworks ["net10.0-windows", "net8.0"] = .ok ["net10.0-windows", "net8.0"] := by
  have ten : Package.FrameworkKey.ofName "net10.0-windows" =
      .ok ⟨4, [10, 0], "net10.0-windows"⟩ := by
    decide +kernel
  have eight : Package.FrameworkKey.ofName "net8.0" = .ok ⟨4, [8, 0], "net8.0"⟩ := by
    decide +kernel
  simp only [Package.sortFrameworks, List.mapM_cons, List.mapM_nil, ten, eight, ok_bind, pure_bind]
  rw [Package.sortDown, List.mergeSort_of_pairwise (by decide +kernel)]
  rfl

def shelved : List String :=
  ["/p/lib/b.dll", "/p/lib/net10.0-windows/a.DLL", "/p/lib/net10.0-windows/b.dll",
    "/p/lib/net8.0/a.dll"]

theorem libraries_frameworksShelf : libraries frameworksShelf ⟨.top, ["p"]⟩ = .ok shelved := by
  obtain ⟨lib, ten, eight⟩ := list_frameworksShelf
  have child : (⟨.top, ["p"]⟩ : Path).child "lib" = ⟨.top, ["p", "lib"]⟩ := by decide +kernel
  have texts : (⟨.top, ["p", "lib"]⟩ : Path).text = "/p/lib" ∧
      (inside ⟨.top, ["p", "lib"]⟩ "net10.0-windows").text = "/p/lib/net10.0-windows" ∧
      (inside ⟨.top, ["p", "lib"]⟩ "net8.0").text = "/p/lib/net8.0" := by
    decide +kernel
  have there : frameworksShelf.isDirectory "/p/lib" = .ok true := by decide +kernel
  have folders : foldersIn frameworksShelf ⟨.top, ["p", "lib"]⟩ =
      .ok ["net10.0-windows", "net8.0"] := by
    rw [foldersIn, texts.1, lib]
    decide +kernel
  rw [libraries_eq, child, texts.1, there, folders]
  simp only [ok_bind, sortFrameworks_shelf, List.map_cons, List.map_nil, List.mapM_cons,
    List.mapM_nil, librariesIn, texts, lib, ten, eight]
  decide +kernel

theorem libraries_ordered_shelf :
    frameworksShelf.Tidy ∧ libraries frameworksShelf ⟨.top, ["p"]⟩ = .ok shelved ∧
      ∀ path ∈ ["/p/lib/b.dll", "/p/lib/net10.0-windows/a.DLL"], ∃ spot,
        Represents frameworksShelf ((⟨.top, ["p"]⟩ : Path).child "lib") spot ∧
          path = spot.text ((⟨.top, ["p"]⟩ : Path).child "lib") := by
  have tidy : frameworksShelf.Tidy := by decide +kernel
  have kept : Library.firstByFileName shelved =
      ["/p/lib/b.dll", "/p/lib/net10.0-windows/a.DLL"] := by
    decide +kernel
  obtain ⟨spots, -, -, -, -, represented, -⟩ := libraries_ordered tidy libraries_frameworksShelf
  exact ⟨tidy, libraries_frameworksShelf, fun path member => (represented path).mp (kept ▸ member)⟩

end PackageStore

end ScriptDeps
