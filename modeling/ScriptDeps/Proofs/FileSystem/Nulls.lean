import ScriptDeps.Proofs.FileSystem.Texts
import ScriptDeps.Proofs.Library.Kinds
import ScriptDeps.Proofs.Surprises

/-!
# Null characters in paths

The commands foresee that the file system refuses something. What they do not foresee of it is a
path that holds a null character, which is refused before the file system is asked, and a text that
is not UTF-8. Questions of existence, which take a null character for a "no", never surprise.
-/

namespace ScriptDeps

open Failure (OfPath)

theorem Text.mem_join {separator c : Char} (other : c ≠ separator) {pieces : List (List Char)} :
    c ∈ join separator pieces ↔ ∃ piece ∈ pieces, c ∈ piece := by
  induction pieces with
  | nil => simp [join]
  | cons piece rest ih =>
    cases rest with
    | nil => simp [join]
    | cons second others => simp [join, ih, other]

namespace Path

theorem null_mem_text {path : Path} :
    '\x00' ∈ path.text.toList ↔ ∃ name ∈ path.names, '\x00' ∈ name.toList := by
  obtain ⟨root, names⟩ := path
  have rooted : '\x00' ∉ root.text.toList := by cases root <;> decide
  have named : '\x00' ∈ ("/".intercalate names).toList ↔ ∃ name ∈ names, '\x00' ∈ name.toList := by
    rw [toList_intercalate, Text.mem_join (by decide)]
    simp
  unfold text
  split
  · rename_i none
    obtain rfl : names = [] := none
    simp
  · rw [String.toList_append, List.mem_append, named]
    exact or_iff_right rooted

theorem null_mem_ofText {text name : String} (member : name ∈ (ofText text).names)
    (null : '\x00' ∈ name.toList) : '\x00' ∈ text.toList := by
  obtain ⟨piece, kept, rfl⟩ := List.mem_map.mp member
  rw [String.toList_ofList] at null
  rw [← Text.join_split '/' text.toList, Text.mem_join (by decide)]
  exact ⟨piece, (List.mem_filter.mp kept).1, null⟩

theorem null_mem_child {path : Path} {name : String} (null : '\x00' ∈ (path.child name).text.toList) :
    '\x00' ∈ path.text.toList ∨ '\x00' ∈ name.toList := by
  obtain ⟨inner, member, null⟩ := null_mem_text.mp null
  have names : inner ∈ path.names ∨ inner ∈ (ofText name).names := by
    change inner ∈ (path.append (ofText name)).names at member
    unfold append at member
    split at member
    · exact Or.inr member
    · exact List.mem_append.mp member
  exact names.imp (fun own => null_mem_text.mpr ⟨inner, own, null⟩)
    fun read => null_mem_ofText read null

end Path

namespace FileSystem

variable {fs : FileSystem} {path : String}

theorem spoken_of_isDirectory (there : fs.isDirectory path = .ok true) : '\x00' ∉ path.toList := by
  intro null
  rw [isDirectory, node?At, if_pos (by simpa using null)] at there
  cases there

theorem Checked.surprises_iff {α : Type} {result : Except Failure α} (checked : Checked path result) :
    Surprises result ↔ '\x00' ∈ path.toList := by
  by_cases null : '\x00' ∈ path.toList
  · rw [checked.null null]
    exact iff_of_true ⟨.nullInPath, rfl, rfl⟩ null
  · exact iff_of_false ((checked.refused null).not_surprises fun _ => OfPath.foreseen) null

theorem surprises_decoded {decode : ByteArray → Except Text.Utf8Fault String} :
    Surprises (do
      match decode (← fs.readBytes path) with
      | .ok text => return text
      | .error fault => throw (.encoding fault)) ↔
    '\x00' ∈ path.toList ∨
      ∃ content fault, fs.readBytes path = .ok content ∧ decode content = .error fault := by
  rw [surprises_bind, (fs.readBytes_checked path).surprises_iff]
  refine or_congr_right (exists_congr fun content => ?_)
  rw [exists_and_left]
  refine and_congr_right fun _ => ?_
  cases decode content with
  | ok text => simp [pure, Except.pure]
  | error fault => exact iff_of_true ⟨_, rfl, rfl⟩ ⟨fault, rfl⟩

/-- The file at a path can be read, but is not UTF-8. -/
def Illegible (fs : FileSystem) (path : String) : Prop :=
  ∃ content fault, fs.readBytes path = .ok content ∧ Text.decodeUtf8 content = .error fault

/-- The file at a path can be read, but is not UTF-8 after the mark that may begin it. -/
def IllegibleScript (fs : FileSystem) (path : String) : Prop :=
  ∃ content fault, fs.readBytes path = .ok content ∧
    Text.decodeUtf8 (Text.dropMark content) = .error fault

theorem surprises_readText :
    Surprises (fs.readText path) ↔ '\x00' ∈ path.toList ∨ fs.Illegible path :=
  surprises_map.trans surprises_decoded

theorem surprises_readUnmarked :
    Surprises (fs.readUnmarked path) ↔ '\x00' ∈ path.toList ∨ fs.IllegibleScript path :=
  surprises_decoded

end FileSystem

/-! ### Actions -/

namespace Action

variable {host : Host} {path : String}

/-- A directory is made with those above it, or the file system refuses, unless its path holds a
null character. -/
theorem surprises_ensureDirectory {directory : Path} :
    Surprises (ensureDirectory directory host).1 ↔ '\x00' ∈ directory.text.toList := by
  by_cases null : '\x00' ∈ directory.text.toList
  · refine iff_of_true ⟨.nullInPath, ?_, rfl⟩ null
    have refused := (makeDirectory_checked _ host).null null
    rcases made : makeDirectory directory.text host with ⟨result, later⟩
    rw [made] at refused
    obtain rfl : result = .error .nullInPath := refused
    -- the directory itself is tried before those above it
    have first : (makeDirectories directory.root directory.names.reverse host).1 =
        .error .nullInPath := by
      cases names : directory.names.reverse with
      | nil =>
        rw [makeDirectories, ← List.reverse_eq_nil_iff.mp names, run_tryCatch, made]
        rfl
      | cons name above =>
        rw [makeDirectories, ← names, List.reverse_reverse, run_tryCatch, made]
        rfl
    exact first
  · refine iff_of_false ?_ null
    have made : ∀ above, above <:+ directory.names.reverse →
        RunsFailIn OfPath (makeDirectory (Path.mk directory.root above.reverse).text) := by
      intro above ends host
      refine (makeDirectory_checked _ host).refused fun inner => null ?_
      obtain ⟨name, member, inner⟩ := Path.null_mem_text.mp inner
      exact Path.null_mem_text.mpr
        ⟨name, List.mem_reverse.mp (ends.subset (List.mem_reverse.mp member)), inner⟩
    exact FailsIn.not_surprises (makeDirectories_runs (fun _ => id) made host) fun _ => OfPath.foreseen

end Action

end ScriptDeps
