import ScriptDeps.Proofs.Closure.Configured
import ScriptDeps.Proofs.Closure.Opening
import ScriptDeps.Proofs.FileSystem.Nulls
import ScriptDeps.Proofs.Settings.Loading

/-!
# Surprises in settings

When the settings of a user end a command in a failure that it does not foresee: while they are
loaded, if there is no home to find them in or a file nests too deeply; once they are loaded, if
what should be a list has no items.
-/

namespace ScriptDeps

open Failure (OfPath)

namespace UserSettings

theorem surprises_overrides {fs : FileSystem} {file : Path} :
    Surprises (overrides fs file) ↔ TooDeep fs file := by
  constructor
  · rintro ⟨failure, failed, surprise⟩
    by_contra shallow
    have long : fs.Overlong file.text := by
      by_contra short
      obtain ⟨members, done⟩ := overrides_returns_iff.mpr ⟨short, shallow⟩
      cases failed.symm.trans done
    -- whether the file is there is asked first, and that is refused by the file system only
    obtain ⟨other, refused⟩ := FileSystem.isPresent_fails_iff.mpr long
    rw [overrides, refused, error_bind] at failed
    obtain rfl := Except.error.inj failed
    rw [(fs.isPresent_refused file.text other refused).foreseen] at surprise
    cases surprise
  · rintro ⟨text, read, deep⟩
    refine ⟨.json .tooDeep, ?_, rfl⟩
    rw [overrides, FileSystem.isPresent_of_readText read, ok_bind, read]
    dsimp only [Bool.not_true, Bool.false_eq_true, if_false]
    rw [deep]
    rfl

theorem surprises_membersOf {fs : FileSystem} {globalFile localFile : Path} :
    Surprises (membersOf fs globalFile localFile) ↔
      TooDeep fs globalFile ∨ ¬fs.Overlong globalFile.text ∧ TooDeep fs localFile := by
  rw [membersOf, surprises_bind, surprises_overrides]
  simp only [surprises_map, surprises_overrides, exists_and_right, overrides_returns_iff]
  constructor
  · rintro (deep | ⟨⟨short, _⟩, deep⟩)
    · exact Or.inl deep
    · exact Or.inr ⟨short, deep⟩
  · rintro (deep | ⟨short, deep⟩)
    · exact Or.inl deep
    · exact (Classical.em _).imp_right fun shallow => ⟨⟨short, shallow⟩, deep⟩

theorem filesOf_fails (host : Host) : FailsIn (· = .homeless) (filesOf host none none) :=
  (((({} : Locations).home_fails host.environment).map _).map _).map _

/-- The settings cannot be loaded, and no command foresees why: there is no home to find them in, or
one of the two files with settings nests too deeply. -/
inductive Unloadable (host : Host) : Prop
  | homeless (homeless : filesOf host none none = .error .homeless)
  | shared {files : Path × Path} (named : filesOf host none none = .ok files)
      (deep : TooDeep host.files files.1)
  | own {files : Path × Path} (named : filesOf host none none = .ok files)
      (short : ¬host.files.Overlong files.1.text) (deep : TooDeep host.files files.2)

theorem surprises_load {host : Host} : Surprises (load host none none) ↔ Unloadable host := by
  rw [load_eq, surprises_bind]
  simp only [surprises_map, surprises_membersOf]
  constructor
  · rintro (⟨failure, failed, _⟩ | ⟨files, named, deep | ⟨short, deep⟩⟩)
    · exact .homeless (filesOf_fails host failure failed ▸ failed)
    · exact .shared named deep
    · exact .own named short deep
  · rintro (homeless | ⟨named, deep⟩ | ⟨named, short, deep⟩)
    · exact Or.inl ⟨_, homeless, rfl⟩
    · exact Or.inr ⟨_, named, Or.inl deep⟩
    · exact Or.inr ⟨_, named, Or.inr ⟨short, deep⟩⟩

end UserSettings

namespace ClosureBuilder

variable {settings : UserSettings} {given : Option String} {engineEnv : Option Environment}
  {packages : Option PackageStore} {locations : Locations}

/-- The strategy is known, but one of the settings that should be lists has no items. -/
structure Unlistable (settings : UserSettings) (given : Option String) : Prop where
  known : ∃ strategy, configuredStrategy settings given = .ok strategy
  listless : ¬((extensionsOf settings).Itemized ∧ (ignoredOf settings).Itemized)

theorem ofSettings_fails : FailsIn (fun failure => Failure.OfConfiguration failure ∨
    failure = .notAList) (ofSettings settings given engineEnv packages locations) := by
  have listed : ∀ value : Json, FailsIn (fun failure => Failure.OfConfiguration failure ∨
      failure = .notAList) value.listed := by
    intro value
    cases value with
    | list items => exact failsIn_ok _
    | text points => exact failsIn_ok _
    | object members => exact failsIn_ok _
    | _ => exact failsIn_error (Or.inr rfl)
  exact ((configuredStrategy_fails settings given).mono fun _ => Or.inl).bind fun strategy =>
    (listed _).bind fun _ => (listed _).map _

theorem ofSettings_locations {b : ClosureBuilder}
    (made : ofSettings settings given engineEnv packages locations = .ok b) :
    b.locations = locations := by
  obtain ⟨strategy, _, made⟩ := bind_ok made
  obtain ⟨extensions, _, made⟩ := bind_ok made
  obtain ⟨ignored, _, made⟩ := bind_ok made
  rw [pure_ok made]

theorem surprises_ofSettings :
    Surprises (ofSettings settings given engineEnv packages locations) ↔
      Unlistable settings given := by
  have foreseen : ∀ failure, Failure.OfConfiguration failure → failure.isForeseen = true := by
    rintro _ ⟨configured, rfl⟩
    rfl
  have configured := @ofSettings_failsIn_iff settings given engineEnv packages locations
  constructor
  · rintro ⟨failure, failed, surprise⟩
    have other : ¬FailsIn Failure.OfConfiguration
        (ofSettings settings given engineEnv packages locations) := fun among => by
      rw [foreseen failure (among failure failed)] at surprise
      cases surprise
    rw [configured] at other
    simp only [Classical.not_forall] at other
    obtain ⟨strategy, known, listless⟩ := other
    exact ⟨⟨strategy, known⟩, listless⟩
  · rintro ⟨⟨strategy, known⟩, listless⟩
    have other := mt configured.mp fun all => listless (all strategy known)
    simp only [FailsIn, Classical.not_forall] at other
    obtain ⟨failure, failed, unlike⟩ := other
    obtain rfl := (ofSettings_fails failure failed).resolve_left unlike
    exact ⟨_, failed, rfl⟩

end ClosureBuilder

end ScriptDeps
