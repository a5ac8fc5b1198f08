import ScriptDeps.Proofs.FileSystem.Changes
import ScriptDeps.Proofs.FileSystem.Refusals
import ScriptDeps.Proofs.Settings.Merging

/-!
# Loading settings

What the answer to a key is made of: the built-in settings, those for all projects over them, and
those of the project over these. A file whose settings cannot be had should count as an empty
object. It does unless its path is too long to be asked about, or nests too deeply.
-/

namespace ScriptDeps

/-! ### Texts of files -/

namespace FileSystem

variable {fs : FileSystem} {path : String}

theorem isPresent_fails_iff : (∃ failure, fs.isPresent path = .error failure) ↔ fs.Overlong path := by
  rw [← node?At_fails_iff, isPresent]
  cases fs.node?At path with
  | ok node => exact ⟨nofun, nofun⟩
  | error failure => exact ⟨fun _ => ⟨failure, rfl⟩, fun _ => ⟨failure, rfl⟩⟩

theorem isPresent_of_readText {text : String} (read : fs.readText path = .ok text) :
    fs.isPresent path = .ok true := by
  obtain ⟨exactly, read, _⟩ := bind_ok read
  obtain ⟨content, read, _⟩ := bind_ok read
  obtain ⟨_, checked, read⟩ := bind_ok read
  obtain ⟨node, found, _⟩ := bind_ok read
  have spoken := checkPath_spoken checked
  rw [isPresent, node?At, if_neg (by simpa using spoken), orFail_ok found]
  rfl

/-- Why the text of a file that is there cannot be had. -/
theorem readText_fails_present (present : fs.isPresent path = .ok true) :
    FailsIn (fun failure => (∃ fault, failure = .file fault path) ∨
      ∃ fault, failure = .encoding fault) (fs.readText path) := by
  have spoken : '\x00' ∉ path.toList := by
    intro null
    rw [isPresent, node?At, if_pos (by simpa using null)] at present
    cases present
  have bytes : FailsIn (fun failure => ∃ fault, failure = .file fault path) (fs.readBytes path) := by
    rw [readBytes, checkPath_ok spoken, ok_bind]
    cases fs.stat path with
    | error fault => exact failsIn_error ⟨fault, rfl⟩
    | ok node =>
      cases node with
      | file content time denied =>
        cases denied with
        | true => exact failsIn_error ⟨_, rfl⟩
        | false => exact failsIn_ok content
      | directory denied => exact failsIn_error ⟨_, rfl⟩
      | link target => exact failsIn_error ⟨_, rfl⟩
  have decoded : FailsIn (fun failure => (∃ fault, failure = .file fault path) ∨
      ∃ fault, failure = .encoding fault) (fs.readExact path) := by
    refine (bytes.mono fun _ => Or.inl).bind fun content => ?_
    split
    · exact failsIn_ok _
    · exact failsIn_error (Or.inr ⟨_, rfl⟩)
  exact decoded.map _

end FileSystem

namespace UserSettings

/-! ### What a file counts as -/

/-- The object in a file; the empty one if the file is not there, cannot be read or holds none. -/
def counted (fs : FileSystem) (file : Path) : Json :=
  match fs.readText file.text with
  | .ok text => match Json.read text with
    | .ok (.object members) => .object members
    | _ => .object []
  | .error _ => .object []

theorem counted_of_overlong {fs : FileSystem} {file : Path} (long : fs.Overlong file.text) :
    counted fs file = .object [] := by
  unfold counted
  split
  · rename_i read
    obtain ⟨failure, failed⟩ := FileSystem.isPresent_fails_iff.mpr long
    rw [FileSystem.isPresent_of_readText read] at failed
    cases failed
  · rfl

/-- What the file holds is nested too deeply to be read. -/
def TooDeep (fs : FileSystem) (file : Path) : Prop :=
  ∃ text, fs.readText file.text = .ok text ∧ Json.read text = .error .tooDeep

theorem counted_proper (fs : FileSystem) (file : Path) : (counted fs file).Proper := by
  unfold counted
  split
  · split
    · rename_i read
      exact Json.read_proper read
    · exact Json.ProperMembers.nil.value
  · exact Json.ProperMembers.nil.value

theorem overrides_ok_iff {fs : FileSystem} {file : Path} {members : List (LooseText × Json)} :
    overrides fs file = .ok members ↔
      ¬fs.Overlong file.text ∧ ¬TooDeep fs file ∧ counted fs file = .object members := by
  unfold overrides
  cases asked : fs.isPresent file.text with
  | error failure =>
    have long := FileSystem.isPresent_fails_iff.mp ⟨failure, asked⟩
    exact iff_of_false nofun fun short => short.1 long
  | ok present =>
    have short : ¬fs.Overlong file.text := fun long => by
      obtain ⟨failure, failed⟩ := FileSystem.isPresent_fails_iff.mpr long
      rw [asked] at failed
      cases failed
    rw [ok_bind, and_iff_right short]
    unfold TooDeep counted
    cases present with
    | false =>
      cases read : fs.readText file.text with
      | ok text =>
        rw [FileSystem.isPresent_of_readText read] at asked
        cases asked
      | error failure => simp [pure, Except.pure]
    | true =>
      have kinds := FileSystem.readText_fails_present asked
      cases read : fs.readText file.text with
      | error failure =>
        obtain ⟨fault, rfl⟩ | ⟨fault, rfl⟩ := kinds failure read
        · simp [pure, Except.pure]
        · simp [pure, Except.pure]
      | ok text =>
        cases value : Json.read text with
        | error fault => cases fault <;> simp [value, pure, Except.pure]
        | ok json => cases json <;> simp [value, pure, Except.pure]

theorem overrides_returns_iff {fs : FileSystem} {file : Path} :
    (∃ members, overrides fs file = .ok members) ↔ ¬fs.Overlong file.text ∧ ¬TooDeep fs file := by
  obtain ⟨members, holds⟩ : ∃ members, counted fs file = .object members := by
    unfold counted
    split
    · split
      · exact ⟨_, rfl⟩
      · exact ⟨_, rfl⟩
    · exact ⟨_, rfl⟩
  constructor
  · rintro ⟨others, done⟩
    obtain ⟨short, shallow, _⟩ := overrides_ok_iff.mp done
    exact ⟨short, shallow⟩
  · rintro ⟨short, shallow⟩
    exact ⟨members, overrides_ok_iff.mpr ⟨short, shallow, holds⟩⟩

/-! ### The settings of a project -/

/-- The file with the settings for all projects, and that with those of the project. -/
def filesOf (host : Host) (project globalFile : Option Path) : Except Failure (Path × Path) := do
  let shared ← match globalFile with
    | some file => pure file
    | none => ({} : Locations).globalSettings host.environment
  let project := project.getD (FileSystem.pathOf host.files.workingDirectory)
  return (shared, (project.child ".scriptlens").child "config.json")

theorem load_eq (host : Host) (project globalFile : Option Path) :
    load host project globalFile = (do
      let files ← filesOf host project globalFile
      return ⟨files.1, files.2, ← membersOf host.files files.1 files.2⟩) := by
  unfold load filesOf
  cases globalFile with
  | some file => rfl
  | none => cases ({} : Locations).globalSettings host.environment <;> rfl

/-- The built-in settings under those for all projects under those of the project. -/
def layered (shared own : Json) : Json :=
  ((Json.object builtIn).override shared).override own

theorem membersOf_ok {fs : FileSystem} {globalFile localFile : Path}
    {members : List (LooseText × Json)} (done : membersOf fs globalFile localFile = .ok members) :
    Json.object members = layered (counted fs globalFile) (counted fs localFile) := by
  obtain ⟨shared, first, done⟩ := bind_ok done
  obtain ⟨own, second, done⟩ := bind_ok done
  obtain ⟨_, _, shares⟩ := overrides_ok_iff.mp first
  obtain ⟨_, _, owns⟩ := overrides_ok_iff.mp second
  rw [layered, shares, owns, pure_ok done, Json.override, Json.override]

theorem membersOf_returns_iff {fs : FileSystem} {globalFile localFile : Path} :
    (∃ members, membersOf fs globalFile localFile = .ok members) ↔
      ∀ file ∈ [globalFile, localFile], ¬fs.Overlong file.text ∧ ¬TooDeep fs file := by
  have both : (∀ file ∈ [globalFile, localFile], ¬fs.Overlong file.text ∧ ¬TooDeep fs file) ↔
      (∃ shared, overrides fs globalFile = .ok shared) ∧
        ∃ own, overrides fs localFile = .ok own := by
    rw [overrides_returns_iff, overrides_returns_iff]
    simp
  rw [both]
  constructor
  · rintro ⟨members, done⟩
    obtain ⟨shared, first, done⟩ := bind_ok done
    obtain ⟨own, second, _⟩ := bind_ok done
    exact ⟨⟨shared, first⟩, own, second⟩
  · rintro ⟨⟨shared, first⟩, own, second⟩
    rw [membersOf, first, ok_bind, second]
    exact ⟨_, rfl⟩

/-! ### Answers -/

/-- The names in a key. -/
def pathOf (key : String) : List LooseText :=
  (Text.split '.' key.toList).map fun name => .ofString (String.ofList name)

theorem get?_eq (settings : UserSettings) (key : String) :
    settings.get? key = (Json.object settings.members).follow? (pathOf key) := by
  rw [get?, Json.descend?_eq, List.map_map]
  rfl

/-- The first layer that says something at a path without an object there says what the answer is,
unless a layer above it has something else than an object on the way. -/
theorem layered_leaf {shared own : Json} (shares : shared.Proper) (owns : own.Proper)
    {path : List LooseText} {value : Json} (leaf : value.isObject = false) :
    (own.follow? path = some value → (layered shared own).follow? path = some value) ∧
    (own.follow? path = none → ¬own.Blocks path → shared.follow? path = some value →
      (layered shared own).follow? path = some value) ∧
    (own.follow? path = none → ¬own.Blocks path →
      shared.follow? path = none → ¬shared.Blocks path →
        (layered shared own).follow? path = (Json.object builtIn).follow? path) := by
  have first := Json.override_mergedAt shares (.object builtIn) path
  have second := Json.override_mergedAt owns ((Json.object builtIn).override shared) path
  refine ⟨fun has => ?_, fun missing open_ has => ?_, fun missing open_ lacks free => ?_⟩
  · exact second.overridden value has fun _ _ _ => leaf
  · exact (second.inherited missing open_).trans (first.overridden value has fun _ _ _ => leaf)
  · exact (second.inherited missing open_).trans (first.inherited lacks free)

/-- A machine without any files. -/
def bareHost : Host where
  files := { nodes := [(["work"], .directory false)], workingDirectory := ["work"] }
  environment := [("HOME", "/home/user")]
  modules := []
  worker := .missing

def longName : String := String.ofList (List.replicate 300 'a')

/-- The project's file in a directory with a name that is too long to be there. -/
def longFile : Path := ⟨.top, ["work", longName, ".scriptlens", "config.json"]⟩

/-- The text as a list of characters, for nothing else can be computed with at this length. -/
theorem longFile_text : longFile.text = String.ofList
    ("/work/".toList ++ List.replicate 300 'a' ++ "/.scriptlens/config.json".toList) := by
  have spelled : longName.toList = List.replicate 300 'a' := String.toList_ofList
  have joined : longFile.text =
      "/" ++ "/".intercalate ["work", longName, ".scriptlens", "config.json"] := rfl
  rw [← String.toList_inj, String.toList_ofList, joined, String.toList_append,
    String.toList_intercalate, List.map_cons, List.map_cons, spelled]
  decide +kernel

theorem longFile_overlong : bareHost.files.Overlong longFile.text := by
  have steps : FileSystem.stepsOf
      ("/work/".toList ++ List.replicate 300 'a' ++ "/.scriptlens/config.json".toList) =
        ["work", longName, ".scriptlens", "config.json"] := by
    decide +kernel
  have long : FileSystem.maxNameBytes < longName.utf8ByteSize := by decide +kernel
  have named : longName ≠ "." ∧ longName ≠ ".." := by decide +kernel
  rw [longFile_text, FileSystem.Overlong, FileSystem.stat, FileSystem.walk, Path.ofText,
    String.toList_ofList]
  refine ⟨by decide +kernel, ?_⟩
  rw [if_neg (by decide +kernel), if_neg (by decide +kernel), if_pos (by decide +kernel), steps]
  simp [FileSystem.maxLinks, FileSystem.walkLinks, FileSystem.walkNames, long, named, bareHost,
    FileSystem.node?]

end UserSettings

end ScriptDeps
