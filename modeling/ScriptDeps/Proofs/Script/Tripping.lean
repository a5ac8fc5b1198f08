import ScriptDeps.Proofs.Closure.ScriptFailures
import ScriptDeps.Proofs.FileSystem.Refusals
import ScriptDeps.Proofs.Script.Renaming
import ScriptDeps.Proofs.Script.Stopping

/-!
# Imports that trip

A traversal should fail only because a script cannot be read or found. `Trips` lists the imports at
which it fails otherwise: those whose place cannot be asked for, those nested too deeply, and those
that declare a directory whose place cannot be told.
-/

namespace ScriptDeps

open Failure (Elsewhere)

namespace Script

variable {fs : FileSystem} {extraDirs : List String}

/-! ### Finding a file -/

theorem namesMeant_fails_iff {name : Path} :
    (∃ failure, namesMeant name = .error failure) ↔ name.names = [] := by
  unfold namesMeant Path.withName?
  split
  · rename_i spelled
    refine ⟨nofun, fun nameless => ?_⟩
    rw [Path.suffix, Path.name, nameless] at spelled
    exact absurd spelled (by decide)
  · by_cases nameless : name.names = []
    · simp [nameless]
    · simp [nameless]

theorem namesMeant_elsewhere (name : Path) : FailsIn Elsewhere (namesMeant name) := by
  unfold namesMeant
  split
  · exact failsIn_ok _
  · split
    · exact failsIn_ok _
    · exact failsIn_error nofun

theorem probesFor_fails_iff {dirs : List String} {name : Path} :
    (∃ failure, probesFor dirs name = .error failure) ↔ name.names = [] := by
  rw [← namesMeant_fails_iff, probesFor]
  cases namesMeant name with
  | error failure => exact ⟨fun _ => ⟨failure, rfl⟩, fun _ => ⟨failure, rfl⟩⟩
  | ok names =>
    rw [ok_bind]
    split
    · exact ⟨nofun, nofun⟩
    · exact ⟨nofun, nofun⟩

theorem probesFor_elsewhere (dirs : List String) (name : Path) :
    FailsIn Elsewhere (probesFor dirs name) := by
  refine (namesMeant_elsewhere name).bind fun names => ?_
  split
  · exact failsIn_ok _
  · exact failsIn_ok _

/-- Where an import may be cannot be asked: it has no name, a place that it may be at is too long,
or where the file leads that is found cannot be told. -/
inductive Unlocatable (fs : FileSystem) (dirs : List String) (name : String) : Prop
  | nameless (anonymous : (Path.ofText name).names = [])
  | overlong {before after : List Path} {place : Path}
      (tried : probesFor dirs (.ofText name) = .ok (before ++ place :: after))
      (nothing : ∀ other ∈ before, fs.isFile other.text = .ok false)
      (long : fs.Overlong place.text)
  | looped {probes : List Path} {place : Path} (tried : probesFor dirs (.ofText name) = .ok probes)
      (found : fs.firstFile? probes = .ok (some place)) (lost : fs.Unresolvable place)

theorem locate_elsewhere_iff {dirs : List String} {importer : Path} {name : String} :
    (∃ failure, locate fs dirs importer name = .error failure ∧ failure.Elsewhere) ↔
      Unlocatable fs dirs name := by
  constructor
  · rintro ⟨failure, failed, other⟩
    obtain anonymous | ⟨probes, tried, failed⟩ := bind_error_iff.mp failed
    · exact .nameless (probesFor_fails_iff.mp ⟨failure, anonymous⟩)
    obtain refused | ⟨found, asked, failed⟩ := bind_error_iff.mp failed
    · obtain ⟨before, place, after, rfl, nothing, long⟩ :=
        FileSystem.firstFile?_fails_iff.mp ⟨failure, refused⟩
      exact .overlong tried nothing long
    · cases found with
      | some place => exact .looped tried asked (FileSystem.resolvePath_fails_iff.mp ⟨_, failed⟩)
      | none =>
        obtain rfl := Except.error.inj failed
        exact absurd (.notFound _ _ _) other
  · rintro (anonymous | ⟨tried, nothing, long⟩ | ⟨tried, found, lost⟩)
    · obtain ⟨failure, failed⟩ := probesFor_fails_iff.mpr anonymous
      refine ⟨failure, ?_, probesFor_elsewhere _ _ failure failed⟩
      rw [locate, failed, error_bind]
    · obtain ⟨failure, failed⟩ := FileSystem.firstFile?_fails_iff.mpr ⟨_, _, _, rfl, nothing, long⟩
      refine ⟨failure, ?_, (fs.firstFile?_fails _).elsewhere failure failed⟩
      rw [locate, tried, ok_bind, failed, error_bind]
    · obtain ⟨failure, failed⟩ := FileSystem.resolvePath_fails_iff.mpr lost
      refine ⟨failure, ?_, (fs.resolvePath_fails _).elsewhere failure failed⟩
      rw [locate, tried, ok_bind, found]
      exact failed

/-! ### Reading a file -/

theorem readUnmarked_spoken {path : String} (spoken : '\x00' ∉ path.toList) :
    FailsIn (fun failure => (∃ fault refused, failure = .file fault refused) ∨
      ∃ fault, failure = .encoding fault) (fs.readUnmarked path) := by
  have refused : ∀ {α : Type} (fault : FileFault), FailsIn (fun failure =>
      (∃ fault refused, failure = Failure.file fault refused) ∨ ∃ fault, failure = .encoding fault)
      (.error (.file fault path) : Except Failure α) := fun fault =>
    failsIn_error (Or.inl ⟨fault, path, rfl⟩)
  unfold FileSystem.readUnmarked FileSystem.readBytes
  rw [FileSystem.checkPath_ok spoken, ok_bind]
  refine FailsIn.bind (FailsIn.bind ?_ fun node => ?_) fun content => ?_
  · cases fs.stat path with
    | ok node => exact failsIn_ok node
    | error fault => exact refused fault
  · cases node with
    | file content time denied =>
      dsimp only
      split
      · exact refused _
      · exact failsIn_ok content
    | directory denied => exact refused _
    | link target => exact refused _
  · split
    · exact failsIn_ok _
    · exact failsIn_error (Or.inr ⟨_, rfl⟩)

/-- That a script cannot be read is said of the script, but for a path that holds a null
character. -/
theorem readScript_elsewhere_iff {path : Path} :
    (∃ failure, readScript fs path = .error failure ∧ failure.Elsewhere) ↔
      '\x00' ∈ path.text.toList := by
  constructor
  · rintro ⟨failure, failed, other⟩
    by_contra spoken
    have kinds := @readUnmarked_spoken fs path.text spoken
    rw [readScript] at failed
    split at failed
    · cases failed
    · exact other (Except.error.inj failed ▸ .unreadable _ _)
    · exact other (Except.error.inj failed ▸ .unreadable _ _)
    · rename_i reason notFile notEncoding refused
      obtain ⟨fault, at_, rfl⟩ | ⟨fault, rfl⟩ := kinds reason refused
      · exact notFile fault at_ rfl
      · exact notEncoding fault rfl
  · intro null
    refine ⟨.nullInPath, ?_, fun ofScript => by cases ofScript⟩
    rw [readScript, FileSystem.readUnmarked, FileSystem.readBytes, FileSystem.checkPath,
      if_pos (by simpa using null)]
    rfl

theorem renameAll_returns {renamings : List Renaming} (dotted : Dotted renamings) (text : String) :
    ∃ renamed, renameAll text renamings = .ok renamed := by
  rw [renameAll]
  induction renamings generalizing text with
  | nil => exact ⟨text, rfl⟩
  | cons names rest ih =>
    have plain : '\\' ∉ names.2.toList := (dotted names List.mem_cons_self).2.notMem rfl
    rw [List.foldlM_cons, rename_plain plain, ok_bind]
    exact ih (fun names member => dotted names (List.mem_cons_of_mem _ member)) _

theorem generate_returns {renamings : List Renaming} (dotted : Dotted renamings)
    (content : String) : ∃ generated, generate content renamings = .ok generated := by
  rw [generate]
  split
  · exact ⟨none, rfl⟩
  · obtain ⟨renamed, done⟩ := renameAll_returns dotted content
    rw [done]
    exact ⟨some renamed, rfl⟩

/-- A file that was read is no script file if it declares a directory whose place cannot be told. -/
def Undirected (fs : FileSystem) (path : Path) (content : String) (renamings : List Renaming) :
    Prop :=
  ∃ generated, generate content renamings = .ok generated ∧
    ∃ dir ∈ (Directives.ofText (generated.getD content) path.text).searchDirs,
      fs.Unresolvable (path.parent.child dir)

theorem scriptFile_fails_iff {path : Path} {content : String} {renamings : List Renaming}
    (dotted : Dotted renamings) :
    (∃ failure, scriptFile fs path content renamings = .error failure) ↔
      Undirected fs path content renamings := by
  obtain ⟨generated, made⟩ := generate_returns dotted content
  have declared : ∀ dir, (∃ failure,
      (do return (← fs.resolvePath (path.parent.child dir)).text) = Except.error failure) ↔
        fs.Unresolvable (path.parent.child dir) := by
    intro dir
    rw [← FileSystem.resolvePath_fails_iff]
    cases fs.resolvePath (path.parent.child dir) with
    | ok place => exact ⟨nofun, nofun⟩
    | error failure => exact ⟨fun _ => ⟨failure, rfl⟩, fun _ => ⟨failure, rfl⟩⟩
  rw [scriptFile, made, ok_bind, Undirected]
  simp only [made, Except.ok.injEq, exists_eq_left', ← declared]
  rw [← mapM_fails_iff]
  constructor
  · rintro ⟨failure, failed⟩
    obtain refused | ⟨_, _, done⟩ := bind_error_iff.mp failed
    · exact ⟨failure, refused⟩
    · cases done
  · exact fun fails => bind_fails fails _

theorem scriptFile_elsewhere {path : Path} {content : String} {renamings : List Renaming}
    (dotted : Dotted renamings) : FailsIn Elsewhere (scriptFile fs path content renamings) := by
  obtain ⟨generated, made⟩ := generate_returns dotted content
  rw [scriptFile, made, ok_bind]
  exact (failsIn_mapM (fun dir => (fs.resolvePath_fails _).elsewhere.map _) _).bind fun _ =>
    failsIn_ok _

/-! ### One import -/

/-- An import at which a traversal fails, but not because a script cannot be read or found. -/
inductive Trips (fs : FileSystem) (extraDirs : List String) (s : Standing) : Prop
  | unlocatable
      (lost : Unlocatable fs (s.reached.dirsFor s.file extraDirs) s.imported.name)
  | tooDeep {path : Path} (located : s.target fs extraDirs = .ok path) (spent : s.depth = 0)
  | null {path : Path} (located : s.target fs extraDirs = .ok path)
      (null : '\x00' ∈ path.text.toList)
  | undirected {path : Path} {content : String} (located : s.target fs extraDirs = .ok path)
      (read : readScript fs path = .ok content)
      (new : (path.text, s.imported.renamings) ∉ s.reached.visited)
      (lost : Undirected fs path content s.imported.renamings)

theorem stopsWith_elsewhere_iff {s : Standing} (dotted : Dotted s.imported.renamings) :
    (∃ failure, StopsWith fs extraDirs s failure ∧ failure.Elsewhere) ↔ Trips fs extraDirs s := by
  constructor
  · rintro ⟨failure, stops, other⟩
    cases stops with
    | lost missed => exact .unlocatable (locate_elsewhere_iff.mp ⟨failure, missed, other⟩)
    | tooDeep located spent => exact .tooDeep located spent
    | unread located room refused =>
      exact .null located (readScript_elsewhere_iff.mp ⟨failure, refused, other⟩)
    | unparsed located room read new refused =>
      exact .undirected located read new ((scriptFile_fails_iff dotted).mp ⟨failure, refused⟩)
  · intro trips
    -- whatever else is wrong, an import that is too deep fails for that
    have deep : ∀ {path}, s.target fs extraDirs = .ok path → s.depth = 0 →
        ∃ failure, StopsWith fs extraDirs s failure ∧ failure.Elsewhere := fun located spent =>
      ⟨_, .tooDeep located spent, nofun⟩
    cases trips with
    | unlocatable lost =>
      obtain ⟨failure, missed, other⟩ := locate_elsewhere_iff.mpr lost
      exact ⟨failure, .lost missed, other⟩
    | tooDeep located spent => exact deep located spent
    | null located null =>
      by_cases spent : s.depth = 0
      · exact deep located spent
      · obtain ⟨failure, refused, other⟩ := readScript_elsewhere_iff.mpr null
        exact ⟨failure, .unread located spent refused, other⟩
    | undirected located read new lost =>
      by_cases spent : s.depth = 0
      · exact deep located spent
      · obtain ⟨failure, refused⟩ := (scriptFile_fails_iff dotted).mpr lost
        exact ⟨failure, .unparsed located spent read new refused,
          scriptFile_elsewhere dotted failure refused⟩

end Script

end ScriptDeps
