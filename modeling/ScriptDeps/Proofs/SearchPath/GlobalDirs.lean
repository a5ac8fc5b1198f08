import ScriptDeps.Proofs.FileSystem.Refusals
import ScriptDeps.Proofs.Library.Kinds
import ScriptDeps.Proofs.Library.Representatives
import ScriptDeps.Proofs.Xml.Encodings
import ScriptDeps.SearchPath.Settings

/-!
# What is searched for every script

Without an engine there are no global directories; with one they begin with its own, and a settings
file that lists none leaves it at that. To look at the settings should never fail. It does if their
path is too long to be asked about, or if they name an encoding that cannot be had.
-/

namespace ScriptDeps.SearchPath

/-- The directory of an engine's own libraries. -/
def engineDir (root : String) : String :=
  ((Path.ofText root).child "Lib").text

/-- The file that an engine's settings are kept in. -/
def settingsFile (root : String) : String :=
  ((Path.ofText root).child "css_config.xml").text

/-- The file is there and can be read, but its XML declaration names an encoding that cannot be
had. -/
def Undecodable (fs : FileSystem) (file : String) : Prop :=
  fs.isFile file = .ok true ∧ ∃ content, fs.readBytes file = .ok content ∧
    ∃ name ∈ Xml.namedEncoding? content.toList, Xml.Unusable name

/-- The file lists no directories: it is missing, cannot be read, is not well-formed, or has no list
right below its document element. -/
inductive ListsNone (fs : FileSystem) (file : String) : Prop
  | missing (missing : fs.isFile file = .ok false)
  | unreadable {failure : Failure} (there : fs.isFile file = .ok true)
      (failed : fs.readBytes file = .error failure)
  | malformed {content : ByteArray} (there : fs.isFile file = .ok true)
      (read : fs.readBytes file = .ok content) (malformed : Xml.read content = .error .malformed)
  | unlisted {content : ByteArray} {document : Xml.Tree} (there : fs.isFile file = .ok true)
      (read : fs.readBytes file = .ok content) (parsed : Xml.read content = .ok document)
      (none : document.child? "searchDirs".toList = none)

variable {fs : FileSystem} {environment : Environment} {file root : String}

/-! ### The settings -/

theorem listedText_fails_iff (content : ByteArray) :
    (∃ failure, listedText content = .error failure) ↔
      ∃ name ∈ Xml.namedEncoding? content.toList, Xml.Unusable name := by
  rw [← Xml.read_unusable_iff, listedText]
  cases Xml.read content with
  | ok document => exact iff_of_false nofun nofun
  | error fault =>
    cases fault with
    | malformed => exact iff_of_false nofun fun ⟨_, other, same⟩ => other (Except.error.inj same).symm
    | unknownEncoding => exact iff_of_true ⟨_, rfl⟩ ⟨.unknownEncoding, nofun, rfl⟩
    | wideEncoding => exact iff_of_true ⟨_, rfl⟩ ⟨.wideEncoding, nofun, rfl⟩
    | uselessEncoding => exact iff_of_true ⟨_, rfl⟩ ⟨.uselessEncoding, nofun, rfl⟩

/-- The directories in the text of a list, if there is one. -/
def dirsIn (environment : Environment) : Option (List Char) → List String
  | none => []
  | some text =>
    ((Text.split ';' text).map fun entry => String.ofList (Text.trim entry)).map
      (expand environment)

theorem listedDirs_of_content {content : ByteArray} (there : fs.isFile file = .ok true)
    (read : fs.readBytes file = .ok content) :
    listedDirs fs environment file = (do return dirsIn environment (← listedText content)) := by
  rw [listedDirs, there, read, ok_bind]
  change listedText content >>= _ = _
  cases listedText content with
  | error failure => rfl
  | ok listed => cases listed <;> rfl

theorem listedDirs_fails_iff :
    (∃ failure, listedDirs fs environment file = .error failure) ↔
      fs.Overlong file ∨ Undecodable fs file := by
  rw [← FileSystem.isFile_fails_iff, Undecodable]
  cases asked : fs.isFile file with
  | error failure =>
    refine iff_of_true ⟨failure, ?_⟩ (Or.inl ⟨failure, rfl⟩)
    rw [listedDirs, asked, error_bind]
  | ok there =>
    cases there with
    | false =>
      rw [listedDirs, asked]
      exact iff_of_false nofun (by simp)
    | true =>
      cases read : fs.readBytes file with
      | error failure =>
        rw [listedDirs, asked, read]
        exact iff_of_false nofun (by simp)
      | ok content =>
        rw [listedDirs_of_content asked read]
        have unusable := listedText_fails_iff content
        cases listed : listedText content with
        | error failure =>
          rw [listed] at unusable
          exact iff_of_true ⟨failure, rfl⟩
            (Or.inr ⟨rfl, content, rfl, unusable.mp ⟨failure, rfl⟩⟩)
        | ok text =>
          rw [listed] at unusable
          refine iff_of_false nofun ?_
          rintro (⟨_, refused⟩ | ⟨_, _, same, named⟩)
          · cases refused
          · cases same
            obtain ⟨failure, failed⟩ := unusable.mpr named
            cases failed

theorem listedDirs_of_listsNone (none : ListsNone fs file) :
    listedDirs fs environment file = .ok [] := by
  cases none with
  | missing missing => rw [listedDirs, missing]; rfl
  | unreadable there failed => rw [listedDirs, there, failed]; rfl
  | malformed there read malformed =>
    rw [listedDirs_of_content there read, listedText, malformed]
    rfl
  | unlisted there read parsed none =>
    rw [listedDirs_of_content there read, listedText, parsed]
    dsimp only
    rw [none]
    rfl

/-! ### The list -/

theorem engineDir_ne_empty (root : String) : engineDir root ≠ "" := by
  intro empty
  have names : ((Path.ofText root).child "Lib").names = (Path.ofText root).names ++ ["Lib"] := rfl
  have last : ((Path.ofText root).child "Lib").names.getLast? = some "Lib" := by
    rw [names, List.getLast?_concat]
  obtain ⟨front, _, spelled⟩ := Path.text_ends last
  rw [engineDir] at empty
  rw [empty] at spelled
  exact List.append_ne_nil_of_right_ne_nil front (by decide) spelled.symm

/-- A list of directories that begins with one that is not empty still does after the empty ones and
the repeats are gone. -/
theorem normalize_cons {first : String} (some : first ≠ "") (rest : List String) :
    (normalize (first :: rest)).Nodup ∧ "" ∉ normalize (first :: rest) ∧
      (normalize (first :: rest)).head? = .some first := by
  refine ⟨nodup_distinct _, fun member => ?_, ?_⟩
  · have kept := (distinct_sublist _).subset member
    simp at kept
  · rw [normalize, List.filter_cons_of_pos (by simpa using some)]
    rfl

theorem engineRoot?_eq_none
    (unset : environment.get? "CSSCRIPT_DIR" = none ∨ environment.get? "CSSCRIPT_DIR" = some "") :
    engineRoot? environment = none := by
  rw [engineRoot?, Environment.getSome?]
  rcases unset with unset | empty
  · rw [unset]; rfl
  · rw [empty]; rfl

theorem engineRoot?_eq_some (set : environment.get? "CSSCRIPT_DIR" = some root) (some : root ≠ "") :
    engineRoot? environment = .some root := by
  rw [engineRoot?, Environment.getSome?, set]
  simpa using some

theorem globalDirs_of_root (known : engineRoot? environment = some root) :
    globalDirs fs environment = (do
      return normalize (engineDir root :: (← listedDirs fs environment (settingsFile root)))) := by
  rw [globalDirs, known]
  rfl

def engineEnvironment : Environment := [("CSSCRIPT_DIR", "/e")]

/-- The files of an engine whose settings name an encoding that does not exist. -/
def misnamedFiles : FileSystem where
  nodes := [
    (["e"], .directory false),
    (["css_config.xml", "e"],
      .file "<?xml version=\"1.0\" encoding=\"nope\"?><a/>".toUTF8 0 false)]
  workingDirectory := []

end ScriptDeps.SearchPath
