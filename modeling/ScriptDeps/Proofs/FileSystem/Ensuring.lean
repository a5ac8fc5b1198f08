import ScriptDeps.Proofs.FileSystem.Changes
import ScriptDeps.Proofs.FileSystem.Nulls
import ScriptDeps.Proofs.FileSystem.Refusals

/-!
# Making sure of a directory

What can be told of a path can still be told when directories have been added and files written. A
directory that has been made sure of is there, and is not made sure of a second time. A text can be
written to every path that is open, and what any path meets afterwards is said by `walk_written`.
-/

namespace ScriptDeps

namespace FileSystem

variable {fs fs' : FileSystem} {followLast : Bool} {path : String} {written : Place → Prop}

/-! ### What lasts -/

/-- A name that is too long is met again: whatever leads to it is still there. -/
theorem walkNames_long_kept {onLink onLink' : Place → String → List String → Except FileFault Found}
    (kept : Keeps written fs fs')
    (atLink : ∀ {place target rest}, onLink place target rest = .error .nameTooLong →
      onLink' place target rest = .error .nameTooLong) {place : Place} {names : List String}
    (long : walkNames fs followLast onLink place names = .error .nameTooLong) :
    walkNames fs' followLast onLink' place names = .error .nameTooLong := by
  have same : ∀ {place node}, fs.node? place = some node → node.isFile = false →
      fs'.node? place = some node := fun lies other =>
    (kept.nodes _ _ lies).resolve_right fun file => Bool.false_ne_true (other.symm.trans file.2.1)
  induction names generalizing place with
  | nil => cases long
  | cons name rest ih =>
    by_cases dot : (name == ".") = true
    · rw [walkNames, if_pos dot] at long ⊢
      exact ih long
    by_cases up : (name == "..") = true
    · rw [walkNames, if_neg dot, if_pos up] at long ⊢
      exact ih long
    by_cases tooLong : maxNameBytes < name.utf8ByteSize
    · rw [walkNames, if_neg dot, if_neg up, if_pos tooLong]
    have proper : IsProper name :=
      ⟨by simpa using dot, by simpa using up, Nat.le_of_not_lt tooLong⟩
    rw [walkNames_proper proper] at long ⊢
    cases lies : fs.node? (name :: place) with
    | none =>
      rw [lies] at long
      dsimp only at long
      split at long <;> cases long
    | some node =>
      rw [lies] at long
      cases node with
      | directory denied =>
        rw [same lies rfl]
        exact ih long
      | link target =>
        rw [same lies rfl]
        dsimp only at long ⊢
        split at long
        · cases long
        · rename_i more
          rw [if_neg more]
          exact atLink long
      | file content time denied =>
        dsimp only at long
        split at long <;> cases long

theorem walkLinks_long_kept (kept : Keeps written fs fs') {links : Nat} {place : Place}
    {names : List String} (long : walkLinks fs followLast links place names = .error .nameTooLong) :
    walkLinks fs' followLast links place names = .error .nameTooLong := by
  induction links generalizing place names with
  | zero =>
    rw [walkLinks_eq] at long ⊢
    refine walkNames_long_kept kept (fun looped => ?_) long
    cases looped
  | succ links ih =>
    rw [walkLinks_eq] at long ⊢
    refine walkNames_long_kept kept (fun long => ?_) long
    rw [atLink] at long ⊢
    split at long
    · cases long
    · rename_i leads
      rw [if_neg leads]
      exact ih long

theorem Overlong.kept (long : fs.Overlong path) (kept : Keeps written fs fs') :
    fs'.Overlong path := by
  obtain ⟨spoken, long⟩ := long
  refine ⟨spoken, stat_long_iff.mpr ?_⟩
  have walked := stat_long_iff.mp long
  rw [walk_eq] at walked ⊢
  split at walked
  · cases walked
  rename_i filled
  rw [if_neg filled]
  split at walked
  · rename_i tooLong
    rw [if_pos tooLong]
  rename_i short
  rw [if_neg short]
  cases starts : fs.start? path with
  | none =>
    rw [starts] at walked
    cases walked
  | some place =>
    rw [starts] at walked
    rw [start?_kept starts kept]
    exact walkLinks_long_kept kept walked

theorem node?At_some_iff {node : Node} : fs.node?At path = .ok (some node) ↔
    '\x00' ∉ path.toList ∧ ∃ place, fs.walk true path = .ok (.present place node) := by
  rw [node?At]
  by_cases null : '\x00' ∈ path.toList
  · simp [null]
  rw [if_neg (by simpa using null), stat]
  cases fs.walk true path with
  | error fault =>
    rw [error_bind]
    dsimp only
    split <;> simp
  | ok found =>
    rw [ok_bind]
    cases found with
    | absent place => simp [throw, throwThe, MonadExceptOf.throw, FileFault.isAbsence]
    | present place other => simp [null, pure, Except.pure]

theorem isPresent_iff : fs.isPresent path = .ok true ↔ '\x00' ∉ path.toList ∧
    ∃ place node, fs.walk true path = .ok (.present place node) := by
  have told : fs.isPresent path = .ok true ↔ ∃ node, fs.node?At path = .ok (some node) := by
    rw [isPresent]
    rcases fs.node?At path with failure | _ | node <;> simp [pure, Except.pure]
  rw [told]
  simp only [node?At_some_iff, exists_and_left]
  rw [exists_comm]

theorem isDirectory_iff : fs.isDirectory path = .ok true ↔ '\x00' ∉ path.toList ∧
    ∃ place denied, fs.walk true path = .ok (.present place (.directory denied)) := by
  have told : fs.isDirectory path = .ok true ↔
      ∃ denied, fs.node?At path = .ok (some (.directory denied)) := by
    rw [isDirectory]
    rcases fs.node?At path with failure | _ | _ | _ | _ <;>
      simp [Node.isDirectory, pure, Except.pure]
  rw [told]
  simp only [node?At_some_iff, exists_and_left]
  rw [exists_comm]

theorem isDirectory_kept (sound : fs.WellFormed) (there : fs.isDirectory path = .ok true)
    (kept : Keeps written fs fs') : fs'.isDirectory path = .ok true := by
  obtain ⟨spoken, place, denied, walked⟩ := isDirectory_iff.mp there
  have lies := (walk_sound sound walked).1
  have still : fs'.node? place = some (.directory denied) :=
    (kept.nodes _ _ lies).resolve_right fun file => nomatch file.2.1
  refine isDirectory_iff.mpr ⟨spoken, place, denied, ?_⟩
  rw [walk_kept walked kept (Found.filled_present _ _ _), Found.place, nodeAt, still,
    Option.getD_some]

theorem modifiedAt_iff {time : Int} : fs.modifiedAt path = .ok time ↔ '\x00' ∉ path.toList ∧
    ∃ place node, fs.walk true path = .ok (.present place node) ∧ node.modified = time := by
  constructor
  · intro changed
    obtain ⟨_, checked, changed⟩ := bind_ok changed
    obtain ⟨node, found, changed⟩ := bind_ok changed
    obtain ⟨place, walked⟩ := walk_of_stat (orFail_ok found)
    exact ⟨checkPath_spoken checked, place, node, walked, (pure_ok changed).symm⟩
  · rintro ⟨spoken, place, node, walked, rfl⟩
    rw [modifiedAt, checkPath_ok spoken, stat_of_walk walked]
    rfl

theorem modifiedAt_kept (known : ∃ time, fs.modifiedAt path = .ok time)
    (kept : Keeps written fs fs') : ∃ time, fs'.modifiedAt path = .ok time := by
  obtain ⟨time, changed⟩ := known
  obtain ⟨spoken, place, node, walked, _⟩ := modifiedAt_iff.mp changed
  have still := walk_kept walked kept (Found.filled_present _ _ _)
  exact ⟨_, modifiedAt_iff.mpr ⟨spoken, place, _, still, rfl⟩⟩

/-! ### Making a directory -/

/-- A directory that has been made is there. -/
theorem makeDirectory_isDirectory (made : fs.makeDirectory path = .ok fs') :
    fs'.isDirectory path = .ok true := by
  obtain ⟨_, checked, made⟩ := bind_ok made
  obtain ⟨found, walked, made⟩ := bind_ok made
  cases found with
  | present place node => cases made
  | absent place =>
    obtain rfl := pure_ok made
    obtain ⟨filled, short, start, starts, walks⟩ := walk_iff.mp (orFail_ok walked)
    have free := walks.free
    have below : place ≠ [] := by
      rintro rfl
      cases free
    have lies := @node?_put_self fs _ below (.directory false)
    have kept := keeps_put_new free (.directory false)
    have later := walks.later kept fun end_ node met there => by
      obtain rfl := Found.absent.inj met
      obtain rfl := Option.some.inj (lies.symm.trans there)
      rfl
    rw [Found.later, lies] at later
    have followed := later.followed fun end_ target met => by cases met
    exact isDirectory_iff.mpr ⟨checkPath_spoken checked, place, false,
      walk_iff.mpr ⟨filled, short, start, start?_kept starts kept, followed⟩⟩

/-- A directory that is there is not made. -/
theorem makeDirectory_taken (there : fs.isDirectory path = .ok true) :
    fs.makeDirectory path = .error (.file .taken path) := by
  obtain ⟨spoken, place, denied, walked⟩ := isDirectory_iff.mp there
  obtain ⟨filled, short, start, starts, walks⟩ := walk_iff.mp walked
  obtain ⟨last, node, walks⟩ := walks.unfollowed
  rw [makeDirectory, checkPath_ok spoken, walk_iff.mpr ⟨filled, short, start, starts, walks⟩]
  rfl

/-! ### Writing a text -/

/-- Where a path ends, whether something lies there or not. -/
def endAt? (fs : FileSystem) (path : String) : Option Place :=
  match fs.walk true path with
  | .ok found => some found.place
  | .error _ => none

theorem walk_of_endAt? (ends : (fs.endAt? path).isSome = true) :
    ∃ found, fs.walk true path = .ok found ∧ fs.endAt? path = some found.place := by
  rw [endAt?] at ends ⊢
  cases walked : fs.walk true path with
  | error fault =>
    rw [walked] at ends
    cases ends
  | ok found => exact ⟨found, rfl, rfl⟩

theorem endAt?_of_walk {found : Found} (walked : fs.walk true path = .ok found) :
    fs.endAt? path = some found.place := by
  rw [endAt?, walked]

theorem endAt?_of_modifiedAt (known : ∃ time, fs.modifiedAt path = .ok time) :
    (fs.endAt? path).isSome = true := by
  obtain ⟨time, changed⟩ := known
  obtain ⟨_, place, node, walked, _⟩ := modifiedAt_iff.mp changed
  rw [endAt?_of_walk walked]
  rfl

/-- A text can be written at the path: nothing lies there, or a file that is not denied. -/
def isOpen (fs : FileSystem) (path : String) : Bool :=
  match fs.walk true path with
  | .ok (.present _ node) => node.isFile && !node.isDenied
  | .ok (.absent _) => true
  | .error _ => false

theorem writeText_of_isOpen (spoken : '\x00' ∉ path.toList) (free : fs.isOpen path = true)
    (text : String) : ∃ later, fs.writeText path text = .ok later := by
  rw [isOpen] at free
  rw [writeText, checkPath_ok spoken, ok_bind]
  cases walked : fs.walk true path with
  | error fault => simp [walked] at free
  | ok found =>
    rw [walked] at free
    cases found with
    | absent place => exact ⟨_, rfl⟩
    | present place node =>
      cases node with
      | file content time denied =>
        obtain rfl : denied = false := by simpa [Node.isFile, Node.isDenied] using free
        exact ⟨_, rfl⟩
      | directory denied => cases free
      | link target => cases free

theorem not_overlong_of_isOpen (free : fs.isOpen path = true) : ¬fs.Overlong path := by
  rintro ⟨-, long⟩
  rw [isOpen, stat_long_iff.mp long] at free
  cases free

theorem endAt?_of_isOpen (free : fs.isOpen path = true) : (fs.endAt? path).isSome = true := by
  rw [isOpen] at free
  rw [endAt?]
  cases walked : fs.walk true path with
  | error fault => simp [walked] at free
  | ok found => rfl

/-- What any path meets after a text has been written: the text, if it leads where the text was
written to, and else what it met before. -/
theorem walk_written {text other : String} {found : Found} (sound : fs.WellFormed)
    (wrote : fs.writeText path text = .ok fs') (walked : fs.walk true other = .ok found) :
    ∃ end_, fs.walk true path = .ok end_ ∧
      (found.place = end_.place →
        fs'.walk true other = .ok (.present end_.place (fs.written text))) ∧
      (found.place ≠ end_.place → fs'.walk true other = .ok found) := by
  obtain ⟨end_, leads, rfl, before, inside⟩ := writeText_puts sound wrote
  refine ⟨end_, leads, ?_⟩
  generalize end_.place = goal at before inside ⊢
  have below : goal ≠ [] := by
    rintro rfl
    cases before _ (node?_nil fs)
  have put : (fs.counted.put goal (fs.written text)).node? goal = some (fs.written text) :=
    node?_put_self below _
  have apart : ∀ {place}, place ≠ goal →
      (fs.counted.put goal (fs.written text)).node? place = fs.node? place :=
    fun {_} away => @node?_put_other fs.counted _ _ below _ away
  have kept : Keeps (· = goal) fs (fs.counted.put goal (fs.written text)) := by
    have kept := @keeps_put_file fs.counted goal (fs.written text) rfl before
    exact ⟨kept.working, kept.nodes⟩
  have meets := walk_sound sound walked
  constructor
  · rintro rfl
    have filled : found.Filled (fs.counted.put found.place (fs.written text)) := by
      rintro place rfl
      exact ⟨_, put, rfl⟩
    rw [walk_kept walked kept filled, nodeAt, put, Option.getD_some]
  · intro away
    cases found with
    | present place node =>
      have still : (fs.counted.put goal (fs.written text)).node? place = some node :=
        (apart away).trans meets.1
      rw [walk_later walked kept (Found.unlinked_present _ _ _), Found.later, nodeAt, still,
        Option.getD_some]
    | absent place =>
      have still : (fs.counted.put goal (fs.written text)).node? place = none :=
        (apart away).trans meets.1
      have unlinked : (Found.absent place).Unlinked (fs.counted.put goal (fs.written text)) := by
        intro other node met lies
        obtain rfl := Found.absent.inj met
        cases still.symm.trans lies
      rw [walk_later walked kept unlinked, Found.later, still]

section

variable {text other : String} (sound : fs.WellFormed) (wrote : fs.writeText path text = .ok fs')
include sound wrote

theorem isOpen_written (free : fs.isOpen other = true) : fs'.isOpen other = true := by
  obtain ⟨found, walked, _⟩ := walk_of_endAt? (endAt?_of_isOpen free)
  obtain ⟨end_, _, there, elsewhere⟩ := walk_written sound wrote walked
  by_cases same : found.place = end_.place
  · rw [isOpen, there same]
    rfl
  · rw [isOpen, walked] at free
    rw [isOpen, elsewhere same]
    exact free

theorem endAt?_written (ends : (fs.endAt? other).isSome = true) :
    fs'.endAt? other = fs.endAt? other := by
  obtain ⟨found, walked, before⟩ := walk_of_endAt? ends
  obtain ⟨end_, _, there, elsewhere⟩ := walk_written sound wrote walked
  by_cases same : found.place = end_.place
  · rw [before, endAt?_of_walk (there same), same]
    rfl
  · rw [before, endAt?_of_walk (elsewhere same)]

/-- Writing a text changes nothing about a path that ends elsewhere. -/
theorem stat_written (ends : (fs.endAt? other).isSome = true)
    (apart : fs.endAt? path ≠ fs.endAt? other) : fs'.stat other = fs.stat other := by
  obtain ⟨found, walked, before⟩ := walk_of_endAt? ends
  obtain ⟨end_, leads, _, elsewhere⟩ := walk_written sound wrote walked
  rw [endAt?_of_walk leads, before] at apart
  have away : found.place ≠ end_.place := fun same => apart (congrArg some same.symm)
  rw [stat, stat, elsewhere away, walked]

end

end FileSystem

namespace Action

variable {dir : Path} {host ready : Host}

theorem makeDirectory_endsIn (path : String) :
    EndsIn (fun host : Host => host.files.isDirectory path = .ok true) (makeDirectory path) := by
  intro host _ later ran
  unfold makeDirectory at ran
  cases made : host.files.makeDirectory path with
  | error failure =>
    rw [made] at ran
    cases ran
  | ok files =>
    rw [made] at ran
    obtain ⟨-, rfl⟩ := Prod.mk.inj ran
    exact FileSystem.makeDirectory_isDirectory made

theorem unlessDirectory_endsIn (path : String) (failure : Failure) :
    EndsIn (fun host : Host => host.files.isDirectory path = .ok true)
      (unlessDirectory path failure) := by
  intro host _ later ran
  obtain ⟨there, asking, asked, ran⟩ := run_ok ran
  obtain ⟨answer, rfl⟩ := Prod.mk.inj asked
  cases there with
  | false => cases ran
  | true =>
    obtain ⟨-, rfl⟩ := Prod.mk.inj ran
    exact answer

theorem makeDirectories_endsIn (root : PathRoot) (names : List String) :
    EndsIn (fun host : Host => host.files.isDirectory (Path.mk root names.reverse).text = .ok true)
      (makeDirectories root names) := by
  cases names with
  | nil =>
    refine (makeDirectory_endsIn _).tryCatch fun failure => ?_
    split
    · exact endsIn_throw _
    · exact unlessDirectory_endsIn _ _
    · exact endsIn_throw _
  | cons name above =>
    refine (makeDirectory_endsIn _).tryCatch fun failure => ?_
    split
    · refine .after _ fun _ => (makeDirectory_endsIn _).tryCatch fun failure => ?_
      split
      · exact endsIn_throw _
      · exact unlessDirectory_endsIn _ _
      · exact endsIn_throw _
    · exact unlessDirectory_endsIn _ _
    · exact endsIn_throw _

/-- A directory that has been made sure of is there. -/
theorem ensureDirectory_isDirectory (ensured : ensureDirectory dir host = (.ok (), ready)) :
    ready.files.isDirectory dir.text = .ok true := by
  have ends := makeDirectories_endsIn dir.root dir.names.reverse host () ready ensured
  rwa [List.reverse_reverse] at ends

/-- Nothing is done about a directory that is there. -/
theorem ensureDirectory_there (there : host.files.isDirectory dir.text = .ok true) :
    ensureDirectory dir host = (.ok (), host) := by
  have found : ∀ failure, unlessDirectory dir.text failure host = (.ok (), host) := by
    intro failure
    rw [unlessDirectory, run_bind, ofHost, there]
    rfl
  have taken : makeDirectory dir.text host = (.error (.file .taken dir.text), host) := by
    rw [makeDirectory, FileSystem.makeDirectory_taken there]
  obtain ⟨root, names⟩ := dir
  obtain ⟨reversed, rfl⟩ : ∃ reversed : List String, names = reversed.reverse :=
    ⟨names.reverse, names.reverse_reverse.symm⟩
  rw [ensureDirectory, List.reverse_reverse]
  cases reversed with
  | nil =>
    rw [List.reverse_nil] at taken found
    rw [makeDirectories, run_tryCatch, taken]
    exact found _
  | cons name above =>
    rw [makeDirectories, run_tryCatch, taken]
    exact found _

end Action

end ScriptDeps
