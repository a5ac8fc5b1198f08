import ScriptDeps.Host
import ScriptDeps.Proofs.Failing
import ScriptDeps.Proofs.FileSystem.Texts

/-!
# Faults of the file system

Whatever is asked of the file system, and whatever is changed, fails for the file system only. Most
of it asks about one path: a null character in that path is an error of its own (`Checked`), and
anything else is a refusal.
-/

namespace ScriptDeps

/-- The file system refuses something about a path. -/
inductive Failure.OfPath : Failure → Prop
  | file (fault : FileFault) (path : String) : OfPath (.file fault path)

/-- The file system refuses, or what it holds is no text. -/
inductive Failure.OfFiles : Failure → Prop
  | file (fault : FileFault) (path : String) : OfFiles (.file fault path)
  | nullInPath : OfFiles .nullInPath
  | linkLoop : OfFiles .linkLoop
  | encoding (fault : Text.Utf8Fault) : OfFiles (.encoding fault)

open Failure (OfFiles OfPath)

theorem Failure.OfPath.ofFiles {failure : Failure} (refused : OfPath failure) : OfFiles failure := by
  obtain ⟨fault, path⟩ := refused
  exact .file fault path

namespace FileSystem

/-! ### Questions -/

section

variable (fs : FileSystem)

theorem orFail_refused {α : Type} (path : String) (result : Except FileFault α) :
    FailsIn OfPath (orFail path result) := by
  cases result with
  | ok a => exact failsIn_ok a
  | error fault => exact failsIn_error (.file fault path)

theorem node?At_refused (path : String) : FailsIn OfPath (fs.node?At path) := by
  unfold node?At
  split
  · exact failsIn_ok none
  · split
    · exact failsIn_ok _
    · split
      · exact failsIn_ok none
      · exact failsIn_error (.file _ path)

theorem isPresent_refused (path : String) : FailsIn OfPath (fs.isPresent path) :=
  (fs.node?At_refused path).map _

theorem isFile_refused (path : String) : FailsIn OfPath (fs.isFile path) :=
  (fs.node?At_refused path).map _

theorem isDirectory_refused (path : String) : FailsIn OfPath (fs.isDirectory path) :=
  (fs.node?At_refused path).map _

theorem firstFile?_refused (paths : List Path) : FailsIn OfPath (fs.firstFile? paths) := by
  induction paths with
  | nil => exact failsIn_ok none
  | cons path rest ih =>
    refine (fs.isFile_refused path.text).bind fun found => ?_
    split
    · exact failsIn_ok _
    · exact ih

theorem isPresent_fails (path : String) : FailsIn OfFiles (fs.isPresent path) :=
  (fs.isPresent_refused path).mono fun _ => OfPath.ofFiles

theorem isFile_fails (path : String) : FailsIn OfFiles (fs.isFile path) :=
  (fs.isFile_refused path).mono fun _ => OfPath.ofFiles

theorem isDirectory_fails (path : String) : FailsIn OfFiles (fs.isDirectory path) :=
  (fs.isDirectory_refused path).mono fun _ => OfPath.ofFiles

theorem firstFile?_fails (paths : List Path) : FailsIn OfFiles (fs.firstFile? paths) :=
  (fs.firstFile?_refused paths).mono fun _ => OfPath.ofFiles

end

/-! ### What a null character does -/

variable {path : String} {α β : Type}

theorem checkPath_null (null : '\x00' ∈ path.toList) : checkPath path = .error .nullInPath := by
  rw [checkPath, if_pos (by simpa using null)]

/-- A path with a null character is refused; any other one only by the file system. -/
structure Checked (path : String) (result : Except Failure α) : Prop where
  null : '\x00' ∈ path.toList → result = .error .nullInPath
  refused : '\x00' ∉ path.toList → FailsIn OfPath result

theorem checked_bind {next : Unit → Except Failure α} (refused : FailsIn OfPath (next ())) :
    Checked path (checkPath path >>= next) where
  null null := by rw [checkPath_null null, error_bind]
  refused spoken := by rw [checkPath_ok spoken]; exact refused

theorem Checked.map {result : Except Failure α} (checked : Checked path result) (f : α → β) :
    Checked path (result.map f) where
  null null := by rw [checked.null null]; rfl
  refused spoken := by
    have refused := checked.refused spoken
    cases result with
    | ok a => exact failsIn_ok _
    | error failure => exact failsIn_error (refused failure rfl)

theorem Checked.fails {result : Except Failure α} (checked : Checked path result) :
    FailsIn OfFiles result := by
  by_cases null : '\x00' ∈ path.toList
  · rw [checked.null null]
    exact failsIn_error .nullInPath
  · exact (checked.refused null).mono fun _ => OfPath.ofFiles

variable (fs : FileSystem)

theorem modifiedAt_checked (path : String) : Checked path (fs.modifiedAt path) :=
  checked_bind ((orFail_refused path _).map _)

theorem resolvePath_fails (path : Path) : FailsIn OfFiles (fs.resolvePath path) := by
  unfold resolvePath
  by_cases null : '\x00' ∈ path.text.toList
  · rw [checkPath_null null]
    exact failsIn_error .nullInPath
  · rw [checkPath_ok null, ok_bind]
    dsimp only
    split
    · exact failsIn_error .linkLoop
    · exact failsIn_ok _

/-! ### Reading -/

theorem list_checked (path : String) : Checked path (fs.list path) := by
  refine checked_bind ((orFail_refused path _).bind fun found => ?_)
  cases found with
  | absent place => exact failsIn_error (.file _ path)
  | present place node =>
    dsimp only
    split
    · exact failsIn_error (.file _ path)
    · split
      · exact failsIn_error (.file _ path)
      · exact failsIn_ok _

theorem readBytes_checked (path : String) : Checked path (fs.readBytes path) := by
  refine checked_bind ((orFail_refused path _).bind fun node => ?_)
  cases node with
  | file content time denied =>
    dsimp only
    split
    · exact failsIn_error (.file _ path)
    · exact failsIn_ok content
  | directory denied => exact failsIn_error (.file _ path)
  | link target => exact failsIn_error (.file _ path)

theorem decoded_fails {decode : ByteArray → Except Text.Utf8Fault String} (path : String) :
    FailsIn OfFiles (do
      match decode (← fs.readBytes path) with
      | .ok text => return text
      | .error fault => throw (.encoding fault)) := by
  refine (fs.readBytes_checked path).fails.bind fun content => ?_
  split
  · exact failsIn_ok _
  · exact failsIn_error (.encoding _)

theorem readUnmarked_fails (path : String) : FailsIn OfFiles (fs.readUnmarked path) :=
  fs.decoded_fails path

theorem readText_fails (path : String) : FailsIn OfFiles (fs.readText path) :=
  (fs.decoded_fails path : FailsIn OfFiles (fs.readExact path)).map _

/-! ### Changing -/

theorem makeDirectory_checked (path : String) : Checked path (fs.makeDirectory path) := by
  refine checked_bind ((orFail_refused path _).bind fun found => ?_)
  cases found with
  | absent place => exact failsIn_ok _
  | present place node => exact failsIn_error (.file _ path)

theorem writeText_checked (path text : String) : Checked path (fs.writeText path text) := by
  refine checked_bind ((orFail_refused path _).bind fun found => ?_)
  cases found with
  | absent place => exact failsIn_ok _
  | present place node =>
    dsimp only
    split
    · exact failsIn_error (.file _ path)
    · split
      · exact failsIn_error (.file _ path)
      · exact failsIn_ok _

end FileSystem

/-! ### Actions -/

namespace Action

theorem ofHost_fails {α : Type} {kinds : Failure → Prop} {f : Host → Except Failure α}
    (fails : ∀ host, FailsIn kinds (f host)) : RunsFailIn kinds (ofHost f) :=
  fails

theorem makeDirectory_checked (path : String) (host : Host) :
    FileSystem.Checked path (makeDirectory path host).1 := by
  have made := (host.files.makeDirectory_checked path).map fun _ => ()
  rw [makeDirectory]
  cases result : host.files.makeDirectory path <;> rwa [result] at made

theorem writeText_checked (path text : String) (host : Host) :
    FileSystem.Checked path (writeText path text host).1 := by
  have wrote := (host.files.writeText_checked path text).map fun _ => ()
  rw [writeText]
  cases result : host.files.writeText path text <;> rwa [result] at wrote

theorem writeText_runs (path text : String) : RunsFailIn OfFiles (writeText path text) :=
  fun host => (writeText_checked path text host).fails

section

variable {kinds : Failure → Prop} (files : ∀ failure, OfPath failure → kinds failure)
include files

theorem unlessDirectory_runs (path : String) {failure : Failure} (among : kinds failure) :
    RunsFailIn kinds (unlessDirectory path failure) := by
  refine (ofHost_fails fun host => (host.files.isDirectory_refused path).mono files).bind
    fun there => ?_
  split
  · exact runsFailIn_pure ()
  · exact runsFailIn_throw among

theorem makeDirectories_runs {root : PathRoot} {names : List String}
    (made : ∀ above, above <:+ names →
      RunsFailIn kinds (makeDirectory (Path.mk root above.reverse).text)) :
    RunsFailIn kinds (makeDirectories root names) := by
  induction names with
  | nil =>
    refine (made [] List.suffix_rfl).tryCatch fun failure among => ?_
    split
    · exact runsFailIn_throw among
    · exact unlessDirectory_runs files _ among
    · exact runsFailIn_throw among
  | cons name above ih =>
    have here := made (name :: above) List.suffix_rfl
    refine here.tryCatch fun failure among => ?_
    split
    · refine (ih fun other ends => made other (ends.trans (List.suffix_cons name above))).bind
        fun _ => here.tryCatch fun failure among => ?_
      split
      · exact runsFailIn_throw among
      · exact unlessDirectory_runs files _ among
      · exact runsFailIn_throw among
    · exact unlessDirectory_runs files _ among
    · exact runsFailIn_throw among

end

theorem ensureDirectory_runs (path : Path) : RunsFailIn OfFiles (ensureDirectory path) :=
  makeDirectories_runs (fun _ => OfPath.ofFiles) fun _ _ host => (makeDirectory_checked _ host).fails

end Action

end ScriptDeps
