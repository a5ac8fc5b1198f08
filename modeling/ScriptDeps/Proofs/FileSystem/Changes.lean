import ScriptDeps.Host
import ScriptDeps.Proofs.FileSystem.Texts
import ScriptDeps.Proofs.FileSystem.Walks

/-!
# Changes

Making a directory adds one where nothing lay. Writing a text leaves it in the file that the path
leads to afterwards, and changes no other. Both keep a file system well formed.
-/

namespace ScriptDeps

namespace FileSystem

variable {fs fs' : FileSystem} {path : String}

theorem checkPath_spoken (h : checkPath path = .ok ()) : '\x00' ∉ path.toList := by
  intro member
  rw [checkPath, if_pos (by simpa using member)] at h
  cases h

theorem writeText_spoken {text : String} (h : fs.writeText path text = .ok fs') :
    '\x00' ∉ path.toList := by
  obtain ⟨_, checked, _⟩ := bind_ok h
  exact checkPath_spoken checked

theorem orFail_ok {α : Type} {result : Except FileFault α} {a : α}
    (h : orFail path result = .ok a) : result = .ok a := by
  cases result with
  | ok b => exact congrArg Except.ok (Except.ok.inj h)
  | error fault => cases h

theorem makeDirectory_ok (sound : fs.WellFormed) (h : fs.makeDirectory path = .ok fs') :
    Keeps (fun _ => False) fs fs' ∧ fs'.WellFormed := by
  obtain ⟨_, _, h⟩ := bind_ok h
  obtain ⟨found, walked, h⟩ := bind_ok h
  have meets := walk_sound sound (orFail_ok walked)
  cases found with
  | present place node => cases h
  | absent place =>
    obtain ⟨free, inside⟩ := meets
    rw [pure_ok h]
    refine ⟨keeps_put_new free _, sound.put _ ?_ inside⟩
    rw [isDirectoryAt, free]
    rfl

/-- A text that was written lies at the end of its path. -/
def Lies (fs : FileSystem) (path : String) (place : Place) (text : String) : Prop :=
  ∃ time, fs.walk true path = .ok (.present place (.file text.toUTF8 time false))

theorem put_file {place : Place} (sound : fs.WellFormed) {node : Node} (file : node.isFile = true)
    (before : ∀ old, fs.node? place = some old → old.isFile = true)
    (inside : fs.isDirectoryAt place.tail = true) :
    Keeps (· = place) fs (fs.put place node) ∧ (fs.put place node).WellFormed ∧
      (fs.put place node).node? place = some node := by
  have below : place ≠ [] := by
    rintro rfl
    cases before _ (node?_nil fs)
  refine ⟨keeps_put_file file before, sound.put node ?_ inside, node?_put_self below node⟩
  rw [isDirectoryAt]
  cases lies : fs.node? place with
  | none => rfl
  | some old =>
    have isFile := before old lies
    cases old <;> first | rfl | cases isFile

/-- The file system after one more file has been opened for writing. -/
def counted (fs : FileSystem) : FileSystem :=
  { fs with writes := fs.writes + 1 }

/-- The file that a text is written to next. -/
def written (fs : FileSystem) (text : String) : Node :=
  .file text.toUTF8 (firstWriteTime + fs.writes) false

theorem isFile_of_leaf {node : Node} (noDirectory : node.isDirectory ≠ true)
    (noLink : node.isLink = false) : node.isFile = true := by
  cases node with
  | file content time denied => rfl
  | directory denied => exact absurd rfl noDirectory
  | link target => cases noLink

/-- A text is put where the walk ended, whether a file lay there or nothing. -/
theorem writeText_puts {text : String} (sound : fs.WellFormed)
    (h : fs.writeText path text = .ok fs') :
    ∃ found, fs.walk true path = .ok found ∧ fs' = fs.counted.put found.place (fs.written text) ∧
      (∀ old, fs.node? found.place = some old → old.isFile = true) ∧
      fs.isDirectoryAt found.place.tail = true := by
  obtain ⟨_, _, h⟩ := bind_ok h
  obtain ⟨found, walked, h⟩ := bind_ok h
  have walked := orFail_ok walked
  have meets := walk_sound sound walked
  refine ⟨found, walked, ?_⟩
  cases found with
  | absent place =>
    obtain ⟨free, inside⟩ := meets
    refine ⟨pure_ok h, fun old lies => ?_, inside⟩
    cases free.symm.trans lies
  | present place node =>
    obtain ⟨lies, noLink⟩ := meets
    dsimp only at h
    split at h
    · cases h
    · rename_i noDirectory
      split at h
      · cases h
      · refine ⟨pure_ok h, fun old there => ?_, sound.inside lies⟩
        rw [← Option.some.inj (lies.symm.trans there)]
        exact isFile_of_leaf noDirectory (noLink rfl)

theorem writeText_ok {text : String} (sound : fs.WellFormed) (h : fs.writeText path text = .ok fs') :
    ∃ place, fs'.Lies path place text ∧ Keeps (· = place) fs fs' ∧ fs'.WellFormed := by
  obtain ⟨found, walked, rfl, before, inside⟩ := writeText_puts sound h
  have soundCounted : fs.counted.WellFormed := ⟨sound.parents, sound.working⟩
  obtain ⟨kept, wellFormed, lies⟩ :=
    @put_file fs.counted found.place soundCounted (fs.written text) rfl before inside
  have kept : Keeps (· = found.place) fs (fs.counted.put found.place (fs.written text)) :=
    ⟨kept.working, kept.nodes⟩
  have filled : found.Filled (fs.counted.put found.place (fs.written text)) := by
    intro place absent
    rw [absent] at lies ⊢
    exact ⟨fs.written text, lies, rfl⟩
  have ends := walk_kept walked kept filled
  rw [nodeAt, lies, Option.getD_some] at ends
  exact ⟨found.place, ⟨_, ends⟩, kept, wellFormed⟩

end FileSystem

/-! ### Actions that add directories -/

open FileSystem

/-- A host whose files were well formed has more of them, and what lay somewhere lies there. -/
def Host.Grown (host later : Host) : Prop :=
  host.files.WellFormed →
    Keeps (fun _ => False) host.files later.files ∧ later.files.WellFormed

instance : IsPreorder Host Host.Grown where
  refl _ sound := ⟨.refl _ _, sound⟩
  trans _ _ _ first next sound := by
    obtain ⟨kept, sound⟩ := first sound
    obtain ⟨keptOn, sound⟩ := next sound
    exact ⟨kept.trans keptOn, sound⟩

/-- The path is the other one, or that of a directory above it. -/
def Path.Encloses (above path : Path) : Prop :=
  above.root = path.root ∧ above.names <+: path.names

namespace Action

variable {R : Host → Host → Prop} [IsPreorder Host R]

theorem ofHost_moves {α : Type} (f : Host → Except Failure α) : Moves R (ofHost f) :=
  moves_of_same fun _ => rfl

omit [IsPreorder Host R] in
theorem ofHost_bind {α β : Type} {f : Host → Except Failure α} {next : α → Action β} {host : Host}
    (stays : R host host) (moves : ∀ a, f host = .ok a → R host (next a host).2) :
    R host ((ofHost f >>= next) host).2 := by
  rw [run_bind, ofHost]
  cases ran : f host with
  | ok a => exact moves a ran
  | error failure => exact stays

theorem unlessDirectory_moves (path : String) (failure : Failure) :
    Moves R (unlessDirectory path failure) := by
  refine (ofHost_moves _).bind fun there => ?_
  split
  · exact moves_pure _
  · exact moves_throw failure

theorem makeDirectories_moves (root : PathRoot) (names : List String)
    (made : ∀ above, above <:+ names →
      Moves R (makeDirectory (Path.mk root above.reverse).text)) :
    Moves R (makeDirectories root names) := by
  induction names with
  | nil =>
    refine (made [] (List.suffix_refl _)).tryCatch fun failure => ?_
    split
    · exact moves_throw _
    · exact unlessDirectory_moves _ _
    · exact moves_throw _
  | cons name above ih =>
    have own := made (name :: above) (List.suffix_refl _)
    refine own.tryCatch fun failure => ?_
    split
    · have parents := ih fun higher leads => made higher (leads.trans (List.suffix_cons name above))
      refine parents.bind fun _ => own.tryCatch fun failure => ?_
      split
      · exact moves_throw _
      · exact unlessDirectory_moves _ _
      · exact moves_throw _
    · exact unlessDirectory_moves _ _
    · exact moves_throw _

theorem ensureDirectory_moves (path : Path)
    (made : ∀ above : Path, above.Encloses path → Moves R (makeDirectory above.text)) :
    Moves R (ensureDirectory path) :=
  makeDirectories_moves path.root path.names.reverse fun above leads =>
    made ⟨path.root, above.reverse⟩ ⟨rfl, by simpa using List.reverse_prefix.mpr leads⟩

theorem makeDirectory_grows (path : String) : Moves Host.Grown (makeDirectory path) := by
  intro host sound
  rw [makeDirectory]
  cases made : host.files.makeDirectory path with
  | ok files => exact makeDirectory_ok sound made
  | error failure => exact ⟨.refl _ host.files, sound⟩

theorem ensureDirectory_grows (path : Path) : Moves Host.Grown (ensureDirectory path) :=
  ensureDirectory_moves path fun above _ => makeDirectory_grows above.text

end Action

end ScriptDeps
