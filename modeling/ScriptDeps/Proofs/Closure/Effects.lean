import ScriptDeps.Closure
import ScriptDeps.Proofs.FileSystem.Changes

/-!
# Effects of resolving

Making directories and writing texts is all that preparing a script does to a host, and gathering
its candidates does nothing to it. A relation that these two keep to is one that resolving keeps to.
-/

namespace ScriptDeps

variable {R : Host → Host → Prop} [IsPreorder Host R]

/-! ### Preparing a script -/

theorem Locations.ensureUserScripts_moves (l : Locations)
    (made : ∀ host directory, l.userScripts host.environment = .ok directory →
      R host (Action.ensureDirectory directory host).2) : Moves R l.ensureUserScripts := by
  intro host
  refine Action.ofHost_bind (refl_of R host) fun directory known => ?_
  refine Action.ofHost_bind (refl_of R host) fun there _ => ?_
  split
  · have moves := made host directory known
    rw [run_bind]
    generalize Action.ensureDirectory directory host = outcome at moves ⊢
    obtain ⟨_ | _, later⟩ := outcome <;> exact moves
  · exact refl_of R host

theorem ClosureBuilder.searchPath_moves (b : ClosureBuilder) (graph : ImportGraph)
    (made : ∀ host directory, b.locations.userScripts host.environment = .ok directory →
      R host (Action.ensureDirectory directory host).2) : Moves R (b.searchPath graph) :=
  (Action.ofHost_moves _).bind fun _ =>
    (b.locations.ensureUserScripts_moves made).bind fun _ => moves_pure _

theorem Script.materialize_moves {cache : Path} {file : Script.ScriptFile}
    (made : Moves R (Action.ensureDirectory (Script.copyPath cache file).parent))
    (wrote : ∀ text, Moves R (Action.writeText (Script.copyPath cache file).text text)) :
    Moves R (Script.materialize cache file) := by
  rw [Script.materialize]
  split
  · exact moves_pure _
  · refine (Action.ofHost_moves _).bind fun current => ?_
    split
    · exact made.bind fun _ => (wrote _).bind fun _ => moves_pure _
    · exact moves_pure _

/-- Preparing a script keeps to a relation if making the directory of the user's scripts does, and
copying the imports that are found. -/
theorem ClosureBuilder.prepare_moves_of (b : ClosureBuilder) (script : String)
    (made : ∀ host directory, b.locations.userScripts host.environment = .ok directory →
      R host (Action.ensureDirectory directory host).2)
    (copied : ∀ host opened, openScript b.packages [] script host = .ok opened →
      ∀ file ∈ opened.2.imports, Moves R (Script.materialize b.locations.importsCache file)) :
    Moves R (b.prepare script) := by
  intro host
  refine Action.ofHost_bind (refl_of R host) fun opened ran => ?_
  have copies : Moves R (Script.materializeAll b.locations.importsCache opened.2) :=
    (moves_mapM (copied host opened ran)).bind fun _ => moves_pure _
  exact ((b.searchPath_moves opened.2 made).bind fun _ =>
    copies.bind fun _ => moves_pure _) host

/-- Making directories and writing texts is all that preparing a script does. -/
theorem ClosureBuilder.prepare_moves (b : ClosureBuilder) (script : String)
    (made : ∀ path, Moves R (Action.makeDirectory path))
    (wrote : ∀ path text, Moves R (Action.writeText path text)) : Moves R (b.prepare script) := by
  have ensured : ∀ path, Moves R (Action.ensureDirectory path) := fun path =>
    Action.ensureDirectory_moves path fun above _ => made above.text
  refine b.prepare_moves_of script (fun host directory _ => ensured directory host) ?_
  exact fun _ _ _ file _ => Script.materialize_moves (ensured _) (wrote _)

/-! ### Gathering candidates -/

/-- The hosts are related, whatever became of what goes with them. -/
def Hosts {κ : Type} (R : Host → Host → Prop) (state later : Host × κ) : Prop :=
  R state.1 later.1

instance {κ : Type} : IsPreorder (Host × κ) (Hosts R) where
  refl state := refl_of R state.1
  trans _ _ _ first next := trans_of R first next

theorem PackageStore.obtain_moves (store : PackageStore) (package : PackageReference) :
    Moves R (store.obtain true package) := by
  refine (Action.ofHost_moves _).bind fun found => ?_
  split
  · exact moves_pure _
  · split
    · exact moves_pure _
    · exact moves_pure _

theorem PackageStore.librariesOf_moves (store : PackageStore) (package : PackageReference) :
    Moves R (store.librariesOf true package) := by
  rw [PackageStore.librariesOf]
  split
  · exact moves_pure _
  · refine (store.obtain_moves package).bind fun found => ?_
    split
    · exact moves_pure _
    · exact Action.ofHost_moves _

theorem PackageStore.resolve_moves (store : PackageStore) (packages : List PackageReference) :
    Moves R (store.resolve true packages) :=
  (moves_mapM fun package _ => store.librariesOf_moves package).bind fun _ => moves_pure _

namespace Library

omit [IsPreorder Host R] in
theorem Gathering.onHost_moves {α : Type} {action : Action α} (moves : Moves R action) :
    Moves (Hosts R) (Gathering.onHost action) :=
  fun (host, _) => moves host

omit [IsPreorder Host R] in
theorem Gathering.startingFrom_moves {α : Type} {gathering : Gathering α}
    (moves : Moves (Hosts R) gathering) (index : LibraryIndex) :
    Moves R (Gathering.startingFrom index gathering) :=
  fun host => moves (host, index)

theorem Gathering.onIndex_moves {α : Type} (lookup : FileSystem → LibraryIndex.Lookup α) :
    Moves (Hosts R) (Gathering.onIndex lookup) :=
  fun (host, _) => refl_of R host

theorem ofNamespace_moves (wanted : Wanted) (name : String) :
    Moves (Hosts R) (ofNamespace wanted name) := by
  refine Moves.bind (moves_of_same fun _ => rfl) fun (_, index) => ?_
  dsimp only
  split
  · exact moves_pure _
  · exact (Gathering.onIndex_moves _).bind fun _ => moves_pure _

theorem ofReference_moves (wanted : Wanted) (reference : String) :
    Moves (Hosts R) (ofReference wanted reference) :=
  (Gathering.onIndex_moves _).bind fun _ => moves_pure _

theorem ofSource_moves {packages : Bool → Action (List String)} (quiet : Moves R (packages true))
    (wanted : Wanted) (source : Source) : Moves (Hosts R) (ofSource packages wanted source) := by
  cases source with
  | usedNamespace =>
    exact (moves_mapM fun name _ => ofNamespace_moves wanted name).bind fun _ => moves_pure _
  | reference =>
    exact (moves_mapM fun reference _ => ofReference_moves wanted reference).bind fun _ =>
      moves_pure _
  | package => exact (Gathering.onHost_moves quiet).bind fun _ => moves_pure _

end Library

open Library

theorem ClosureBuilder.candidates_moves (p : ClosureBuilder.Prepared) :
    Moves (Hosts R) (ClosureBuilder.candidates p) :=
  (moves_mapM fun source _ =>
    ofSource_moves (p.packages.resolve_moves p.graph.packages) _ source).bind fun _ => moves_pure _

theorem ClosureBuilder.freshIndex_moves (b : ClosureBuilder) :
    Moves R (Action.ofExcept b.freshIndex) :=
  moves_of_same fun _ => rfl

/-! ### The loaded modules -/

def Host.SameModules (host later : Host) : Prop :=
  later.modules = host.modules

instance : IsPreorder Host Host.SameModules where
  refl _ := rfl
  trans _ _ _ first next := Eq.trans next first

theorem Action.makeDirectory_sameModules (path : String) :
    Moves Host.SameModules (makeDirectory path) := by
  intro host
  rw [makeDirectory]
  split <;> rfl

theorem Action.writeText_sameModules (path text : String) :
    Moves Host.SameModules (writeText path text) := by
  intro host
  rw [writeText]
  split <;> rfl

/-- All that a companion does for a closure is to tell where its library lies among the modules
that are loaded at the start. -/
theorem ClosureBuilder.resolve_congr {b : ClosureBuilder} {companion other : Companion}
    {script : String} {host : Host} (same : companion.path host.modules = other.path host.modules) :
    b.resolve companion script host = b.resolve other script host := by
  have prepared := b.prepare_moves script Action.makeDirectory_sameModules
    Action.writeText_sameModules
  refine prepared.bind_congr fun p host₁ kept₁ => ?_
  have made : Moves Host.SameModules (Action.ofExcept b.freshIndex) := b.freshIndex_moves
  refine made.bind_congr fun index host₂ kept₂ => ?_
  have gathered : Moves Host.SameModules (Gathering.startingFrom index (candidates p)) :=
    Gathering.startingFrom_moves (candidates_moves p) index
  refine gathered.bind_congr fun found host₃ kept₃ => ?_
  have deduped : Moves Host.SameModules (Action.ofHost (b.deduplicator.dedupe
      (found.map fun c => .text c.path))) := Action.ofHost_moves _
  refine deduped.bind_congr fun libraries host₄ kept₄ => ?_
  have modules : host₄.modules = host.modules :=
    ((kept₄.trans kept₃).trans kept₂).trans kept₁
  rw [run_bind, run_bind, run_get]
  dsimp only
  rw [modules, same]

end ScriptDeps
