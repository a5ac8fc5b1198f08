import ScriptDeps.Proofs.Closure.Histories
import ScriptDeps.Proofs.Closure.ScriptFailures
import ScriptDeps.Proofs.Script.CopyNames

/-!
# What a closure leaves behind

Nothing happens to the files for a closure but what is recorded as changes, and these stay in
bounds: copies are put into the cache of imports, and directories are made for that cache and for
the user's scripts.
-/

namespace ScriptDeps

open FileSystem

namespace Change

def redo : Change → FileSystem → Except Failure FileSystem
  | madeDirectory path, fs => fs.makeDirectory path
  | wroteFile path text, fs => fs.writeText path text

/-- A change that may be made for a closure. -/
inductive InBounds (l : Locations) (environment : Environment) : Change → Prop
  | copy {path : Path} (text : String) (inside : path.parent = l.importsCache)
      (named : Path.IsName path.name) : InBounds l environment (.wroteFile path.text text)
  | cache {above : Path} (encloses : above.Encloses l.importsCache) :
      InBounds l environment (.madeDirectory above.text)
  | scripts {above directory : Path} (known : l.userScripts environment = .ok directory)
      (encloses : above.Encloses directory) : InBounds l environment (.madeDirectory above.text)

end Change

/-- These changes, the last first, are all that happened to the files. -/
structure Host.ChangedBy (host later : Host) (made : List Change) : Prop where
  recorded : later.changes = made ++ host.changes
  redone : made.foldrM Change.redo host.files = .ok later.files

def Host.StaysInBounds (l : Locations) (environment : Environment) (host later : Host) : Prop :=
  host.environment = environment → later.environment = environment ∧
    ∃ made, host.ChangedBy later made ∧ ∀ change ∈ made, change.InBounds l environment

/-! ### What changes leave alone -/

/-- A path that one of the changes writes to leads to the place. -/
def WrittenBy (made : List Change) (fs : FileSystem) (place : Place) : Prop :=
  ∃ path text, Change.wroteFile path text ∈ made ∧ fs.placeAt? path = some place

theorem redo_keeps {change : Change} {fs fs' : FileSystem} (sound : fs.WellFormed)
    (redone : change.redo fs = .ok fs') : Keeps (WrittenBy [change] fs') fs fs' ∧ fs'.WellFormed := by
  cases change with
  | madeDirectory path =>
    obtain ⟨kept, sound⟩ := makeDirectory_ok sound redone
    exact ⟨kept.mono nofun, sound⟩
  | wroteFile path text =>
    obtain ⟨place, ⟨_, walked⟩, kept, sound⟩ := writeText_ok sound redone
    refine ⟨kept.mono ?_, sound⟩
    rintro _ rfl
    exact ⟨path, text, List.mem_singleton_self _, placeAt?_of_walk walked⟩

/-- What lay anywhere before some changes lies there after them, but for the files that they have
written. -/
theorem redone_keeps {made : List Change} {fs fs' : FileSystem} (sound : fs.WellFormed)
    (redone : made.foldrM Change.redo fs = .ok fs') :
    Keeps (WrittenBy made fs') fs fs' ∧ fs'.WellFormed := by
  -- the last change comes first, so the induction goes back in time
  induction made generalizing fs' with
  | nil =>
    rw [pure_ok redone]
    exact ⟨.refl _ fs, sound⟩
  | cons change made ih =>
    rw [List.foldrM_cons] at redone
    obtain ⟨between, before, last⟩ := bind_ok redone
    obtain ⟨kept, sound⟩ := ih before
    obtain ⟨keptLast, sound⟩ := redo_keeps sound last
    have earlier : ∀ place, WrittenBy made between place → WrittenBy (change :: made) fs' place := by
      rintro place ⟨path, text, member, leads⟩
      exact ⟨path, text, List.mem_cons_of_mem change member, placeAt?_kept leads keptLast⟩
    have now : ∀ place, WrittenBy [change] fs' place → WrittenBy (change :: made) fs' place := by
      rintro place ⟨path, text, member, leads⟩
      obtain rfl := List.mem_singleton.mp member
      exact ⟨path, text, List.mem_cons_self, leads⟩
    exact ⟨(kept.mono earlier).trans (keptLast.mono now), sound⟩

/-! ### Bounds -/

section Bounds

variable {l : Locations} {environment : Environment}

instance : IsPreorder Host (Host.StaysInBounds l environment) where
  refl _ same := ⟨same, [], ⟨rfl, rfl⟩, fun _ member => absurd member List.not_mem_nil⟩
  trans host between later first next same := by
    obtain ⟨same, made, ⟨recorded, redone⟩, bounds⟩ := first same
    obtain ⟨same, more, ⟨recordedMore, redoneMore⟩, boundsMore⟩ := next same
    refine ⟨same, more ++ made, ⟨?_, ?_⟩, fun change member => ?_⟩
    · rw [recordedMore, recorded, List.append_assoc]
    · rw [List.foldrM_append, redone, ok_bind, redoneMore]
    · exact (List.mem_append.mp member).elim (boundsMore change) (bounds change)

theorem staysInBounds_one {host later : Host} {change : Change} (allowed : change.InBounds l environment)
    (recorded : later.changes = change :: host.changes)
    (redone : change.redo host.files = .ok later.files)
    (same : later.environment = host.environment) : host.StaysInBounds l environment later := by
  intro known
  refine ⟨same.trans known, [change], ⟨recorded, ?_⟩, ?_⟩
  · rw [List.foldrM_cons, List.foldrM_nil]
    exact redone
  · intro other member
    rw [List.mem_singleton.mp member]
    exact allowed

namespace Action

theorem makeDirectory_inBounds {path : String}
    (allowed : (Change.madeDirectory path).InBounds l environment) :
    Moves (Host.StaysInBounds l environment) (makeDirectory path) := by
  intro host
  unfold makeDirectory
  cases made : host.files.makeDirectory path with
  | ok files => exact staysInBounds_one allowed rfl made rfl
  | error failure => exact refl_of _ host

theorem writeText_inBounds {path text : String}
    (allowed : (Change.wroteFile path text).InBounds l environment) :
    Moves (Host.StaysInBounds l environment) (writeText path text) := by
  intro host
  unfold writeText
  cases wrote : host.files.writeText path text with
  | ok files => exact staysInBounds_one allowed rfl wrote rfl
  | error failure => exact refl_of _ host

end Action

theorem Script.materialize_inBounds {file : Script.ScriptFile} (plain : Slashless file.path.names) :
    Moves (Host.StaysInBounds l environment) (Script.materialize l.importsCache file) := by
  obtain ⟨name, named, copy⟩ := Script.copyPath_spec plain l.importsCache
  have inside := Script.copyPath_parent plain l.importsCache
  have last : (Script.copyPath l.importsCache file).name = name := by
    rw [copy]
    simp [Path.name]
  refine Script.materialize_moves ?_ fun text => ?_
  · rw [inside]
    exact Action.ensureDirectory_moves _ fun above encloses =>
      Action.makeDirectory_inBounds (.cache encloses)
  · exact Action.writeText_inBounds (.copy text inside (last ▸ named))

theorem ClosureBuilder.prepare_inBounds (b : ClosureBuilder) (script : String) :
    Moves (Host.StaysInBounds b.locations environment) (b.prepare script) := by
  refine b.prepare_moves_of script (fun host directory known same => ?_) ?_
  · rw [same] at known
    exact Action.ensureDirectory_moves directory
      (fun above encloses => Action.makeDirectory_inBounds (.scripts known encloses)) host same
  · intro host opened ran file member
    exact Script.materialize_inBounds (imports_slashless ran (Script.allRooted_nil _) file member)

end Bounds

/-- The files that are written for a closure, whether it succeeds or not, are put into the cache of
imports, and the directories that are made are that cache, the directory of the user's scripts and
those above them. Whatever else lay in the file system is left alone. If the script or one of its
imports cannot be read or found, nothing has happened. -/
theorem ClosureService.resolve_inBounds (script : String) (host : Host)
    (service : ClosureService) :
    (∃ made, host.ChangedBy (resolve script (host, service)).2.1 made ∧
        (∀ change ∈ made, change.InBounds service.builder.locations host.environment) ∧
        (host.files.WellFormed → Keeps (WrittenBy made (resolve script (host, service)).2.1.files)
          host.files (resolve script (host, service)).2.1.files)) ∧
      ∀ failure, (resolve script (host, service)).1 = .error failure → failure.OfScript →
        (resolve script (host, service)).2 = (host, service) := by
  have prepared : Moves (Host.StaysInBounds service.builder.locations host.environment)
      (service.builder.prepare script) := service.builder.prepare_inBounds script
  have moves := @resolve_moves _ _ script (host, service) prepared
  obtain ⟨-, made, changed, bounds⟩ := moves rfl
  exact ⟨⟨made, changed, bounds, fun sound => (redone_keeps sound changed.redone).1⟩,
    resolve_clean script (host, service)⟩

end ScriptDeps
