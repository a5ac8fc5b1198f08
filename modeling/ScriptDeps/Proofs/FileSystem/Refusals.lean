import ScriptDeps.Proofs.FileSystem.Faults
import ScriptDeps.Proofs.FileSystem.Texts

/-!
# Questions that are refused

Whether something lies at a path can be told unless the path is too long, and where a path leads
unless its links lead back to themselves. Both are said exactly.
-/

namespace ScriptDeps.FileSystem

variable {fs : FileSystem} {followLast : Bool}

/-! ### Faults of walks -/

/-- A fault that a walk can meet: nothing is there, or a name on the way or the whole path is too
long. -/
def FaultOfWalks (fault : FileFault) : Prop :=
  fault.isAbsence = true ∨ fault = .nameTooLong

theorem walkNames_faults {onLink : Place → String → List String → Except FileFault Found}
    (atLink : ∀ place target rest, FailsIn FaultOfWalks (onLink place target rest))
    (place : Place) (names : List String) :
    FailsIn FaultOfWalks (walkNames fs followLast onLink place names) := by
  induction names generalizing place with
  | nil => exact failsIn_ok _
  | cons name rest ih =>
    unfold walkNames
    split
    · exact ih place
    split
    · exact ih place.tail
    split
    · exact failsIn_error (Or.inr rfl)
    split
    · split
      · exact failsIn_ok _
      · exact failsIn_error (Or.inl rfl)
    · exact ih (name :: place)
    · split
      · exact failsIn_ok _
      · exact atLink place _ rest
    · split
      · exact failsIn_ok _
      · exact failsIn_error (Or.inl rfl)

theorem walkLinks_faults (links : Nat) (place : Place) (names : List String) :
    FailsIn FaultOfWalks (walkLinks fs followLast links place names) := by
  induction links generalizing place names with
  | zero => exact walkNames_faults (fun _ _ _ => failsIn_error (Or.inl rfl)) place names
  | succ links ih =>
    refine walkNames_faults (fun place target rest => ?_) place names
    split
    · exact failsIn_error (Or.inl rfl)
    · exact ih _ _

theorem stat_faults (fs : FileSystem) (path : String) : FailsIn FaultOfWalks (fs.stat path) := by
  have walk : FailsIn FaultOfWalks (fs.walk true path) := by
    unfold FileSystem.walk
    split
    · exact failsIn_error (Or.inl rfl)
    split
    · exact failsIn_error (Or.inr rfl)
    split
    · exact walkLinks_faults _ _ _
    split
    · exact failsIn_error (Or.inl rfl)
    · exact walkLinks_faults _ _ _
  refine walk.bind fun found => ?_
  cases found with
  | present place node => exact failsIn_ok node
  | absent place => exact failsIn_error (Or.inl rfl)

/-! ### Questions of existence -/

/-- The path cannot be asked about: it, or a name on its way, is too long. -/
def Overlong (fs : FileSystem) (path : String) : Prop :=
  '\x00' ∉ path.toList ∧ fs.stat path = .error .nameTooLong

theorem stat_long_iff {path : String} :
    fs.stat path = .error .nameTooLong ↔ fs.walk true path = .error .nameTooLong := by
  rw [stat]
  cases fs.walk true path with
  | error fault => simp
  | ok found => cases found <;> simp [throw, throwThe, MonadExceptOf.throw, pure, Except.pure]

theorem node?At_error_iff {path : String} {failure : Failure} :
    fs.node?At path = .error failure ↔ fs.Overlong path ∧ failure = .file .nameTooLong path := by
  unfold node?At Overlong
  by_cases null : '\x00' ∈ path.toList
  · simp [null]
  have faults := fs.stat_faults path
  rw [if_neg (by simpa using null)]
  cases answer : fs.stat path with
  | ok node => simp
  | error fault =>
    rw [answer] at faults
    obtain absent | rfl := faults fault rfl
    · have other : fault ≠ .nameTooLong := by rintro rfl; cases absent
      simp [absent, other]
    · simp [null, FileFault.isAbsence, eq_comm]

theorem node?At_fails_iff {path : String} :
    (∃ failure, fs.node?At path = .error failure) ↔ fs.Overlong path := by
  simp [node?At_error_iff]

theorem isFile_error_iff {path : String} {failure : Failure} :
    fs.isFile path = .error failure ↔ fs.Overlong path ∧ failure = .file .nameTooLong path := by
  rw [← node?At_error_iff, isFile, bind_error_iff]
  exact or_iff_left fun ⟨_, _, failed⟩ => nomatch failed

theorem isFile_fails_iff {path : String} :
    (∃ failure, fs.isFile path = .error failure) ↔ fs.Overlong path := by
  simp [isFile_error_iff]

/-- The search for a file breaks off at a path that cannot be asked about, with no file before. -/
theorem firstFile?_error_iff {places : List Path} {failure : Failure} :
    fs.firstFile? places = .error failure ↔ ∃ before place after,
      places = before ++ place :: after ∧ (∀ other ∈ before, fs.isFile other.text = .ok false) ∧
        fs.Overlong place.text ∧ failure = .file .nameTooLong place.text := by
  induction places with
  | nil =>
    refine ⟨nofun, ?_⟩
    rintro ⟨before, place, after, same, _⟩
    simp at same
  | cons first rest ih =>
    unfold firstFile?
    rw [bind_error_iff, isFile_error_iff]
    constructor
    · rintro (⟨long, rfl⟩ | ⟨found, asked, failed⟩)
      · exact ⟨[], first, rest, rfl, nofun, long, rfl⟩
      · cases found with
        | true => cases failed
        | false =>
          obtain ⟨before, place, after, rfl, none, long⟩ := ih.mp failed
          exact ⟨first :: before, place, after, rfl, List.forall_mem_cons.mpr ⟨asked, none⟩, long⟩
    · rintro ⟨before, place, after, same, none, long⟩
      cases before with
      | nil =>
        obtain ⟨rfl, rfl⟩ := List.cons_eq_cons.mp same
        exact Or.inl long
      | cons other before =>
        obtain ⟨rfl, rfl⟩ := List.cons_eq_cons.mp same
        obtain ⟨asked, none⟩ := List.forall_mem_cons.mp none
        exact Or.inr ⟨false, asked, ih.mpr ⟨before, place, after, rfl, none, long⟩⟩

theorem firstFile?_fails_iff {places : List Path} :
    (∃ failure, fs.firstFile? places = .error failure) ↔ ∃ before place after,
      places = before ++ place :: after ∧ (∀ other ∈ before, fs.isFile other.text = .ok false) ∧
        fs.Overlong place.text := by
  simp only [firstFile?_error_iff]
  constructor
  · rintro ⟨failure, before, place, after, split, none, long, _⟩
    exact ⟨before, place, after, split, none, long⟩
  · rintro ⟨before, place, after, split, none, long⟩
    exact ⟨_, before, place, after, split, none, long, rfl⟩

/-! ### Where a path leads -/

/-- Where the path leads cannot be told: it holds a null character, or its links lead back to
themselves. -/
def Unresolvable (fs : FileSystem) (path : Path) : Prop :=
  '\x00' ∈ path.text.toList ∨ fs.stat (pathOf (fs.realPlace path)).text = .error .tooManyLinks

theorem resolvePath_fails_iff {path : Path} :
    (∃ failure, fs.resolvePath path = .error failure) ↔ fs.Unresolvable path := by
  unfold resolvePath Unresolvable
  by_cases null : '\x00' ∈ path.text.toList
  · simp [checkPath, null]
  · rw [checkPath_ok null, ok_bind]
    dsimp only
    split
    · rename_i looped
      exact ⟨fun _ => Or.inr looped, fun _ => ⟨_, rfl⟩⟩
    · rename_i straight
      refine iff_of_false ?_ fun unresolvable => straight (unresolvable.resolve_left null)
      rintro ⟨failure, failed⟩
      cases failed

end ScriptDeps.FileSystem
