import ScriptDeps.FileSystem.Access
import ScriptDeps.Proofs.Running

/-!
# Nodes

A file system is well formed if whatever lies somewhere lies in a directory. What is put at a place
changes that place only, and a file put where no directory lies leaves a file system well formed.
-/

namespace ScriptDeps.FileSystem

variable {fs : FileSystem}

/-! ### What lies where -/

theorem find?_putNode (place other : Place) (node : Node) (nodes : List (Place × Node)) :
    ((putNode place node nodes).find? (·.1 == other)).map (·.2) =
      if other = place then some node else (nodes.find? (·.1 == other)).map (·.2) := by
  induction nodes with
  | nil =>
    by_cases same : other = place
    · simp [putNode, same]
    · simp [putNode, same, Ne.symm same]
  | cons entry rest ih =>
    obtain ⟨first, old⟩ := entry
    rw [putNode]
    by_cases put : first = place
    · rw [if_pos put]
      by_cases same : other = place
      · simp [same]
      · simp [same, put, Ne.symm same]
    · rw [if_neg put, List.find?_cons]
      by_cases found : first = other
      · have apart : other ≠ place := fun same => put (found.trans same)
        simp [found, apart]
      · rw [show (first == other) = false by simpa using found]
        simpa [found] using ih

@[simp]
theorem node?_nil (fs : FileSystem) : fs.node? [] = some (.directory false) := rfl

theorem node?_put {place : Place} (below : place ≠ []) (node : Node) (other : Place) :
    (fs.put place node).node? other = if other = place then some node else fs.node? other := by
  cases other with
  | nil => rw [if_neg (Ne.symm below), node?_nil, node?_nil]
  | cons name parent => exact find?_putNode place (name :: parent) node fs.nodes

theorem node?_put_self {place : Place} (below : place ≠ []) (node : Node) :
    (fs.put place node).node? place = some node := by
  rw [node?_put below, if_pos rfl]

theorem node?_put_other {place other : Place} (below : place ≠ []) (node : Node)
    (apart : other ≠ place) : (fs.put place node).node? other = fs.node? other := by
  rw [node?_put below, if_neg apart]

/-! ### Directories -/

def isDirectoryAt (fs : FileSystem) (place : Place) : Bool :=
  (fs.node? place).any Node.isDirectory

/-- Whatever lies somewhere lies in a directory, and relative paths start from one. -/
structure WellFormed (fs : FileSystem) : Prop where
  parents : ∀ entry ∈ fs.nodes, fs.isDirectoryAt entry.1.tail = true
  working : fs.isDirectoryAt fs.workingDirectory = true

instance (fs : FileSystem) : Decidable fs.WellFormed :=
  decidable_of_iff ((∀ entry ∈ fs.nodes, fs.isDirectoryAt entry.1.tail = true) ∧
      fs.isDirectoryAt fs.workingDirectory = true)
    ⟨fun h => ⟨h.1, h.2⟩, fun h => ⟨h.parents, h.working⟩⟩

theorem isDirectoryAt_of_node? {place : Place} {denied : Bool}
    (lies : fs.node? place = some (.directory denied)) : fs.isDirectoryAt place = true := by
  rw [isDirectoryAt, lies]
  rfl

theorem WellFormed.inside (sound : fs.WellFormed) {place : Place} {node : Node}
    (lies : fs.node? place = some node) : fs.isDirectoryAt place.tail = true := by
  cases place with
  | nil => rfl
  | cons name parent =>
    obtain ⟨entry, found, _⟩ := Option.map_eq_some_iff.mp lies
    have here : entry.1 = name :: parent := by simpa using List.find?_some found
    have directory := sound.parents entry (List.mem_of_find?_eq_some found)
    rwa [here] at directory

theorem WellFormed.tail (sound : fs.WellFormed) {place : Place}
    (directory : fs.isDirectoryAt place = true) : fs.isDirectoryAt place.tail = true := by
  rw [isDirectoryAt, Option.any_eq_true] at directory
  obtain ⟨node, lies, _⟩ := directory
  exact sound.inside lies

theorem mem_putNode {place : Place} {node : Node} {nodes : List (Place × Node)}
    {entry : Place × Node} (member : entry ∈ putNode place node nodes) :
    entry.1 = place ∨ entry ∈ nodes := by
  induction nodes with
  | nil => exact Or.inl (by rw [List.mem_singleton.mp member])
  | cons first rest ih =>
    obtain ⟨other, old⟩ := first
    rw [putNode] at member
    split at member
    · exact (List.mem_cons.mp member).imp (fun same => by rw [same]) (List.mem_cons_of_mem _)
    · rcases List.mem_cons.mp member with same | member
      · exact Or.inr (List.mem_cons.mpr (Or.inl same))
      · exact (ih member).imp_right (List.mem_cons_of_mem _)

/-- A node put into a directory, where no directory lies. -/
theorem WellFormed.put (sound : fs.WellFormed) {place : Place} (node : Node)
    (free : fs.isDirectoryAt place = false) (inside : fs.isDirectoryAt place.tail = true) :
    (fs.put place node).WellFormed := by
  have below : place ≠ [] := by
    rintro rfl
    cases free
  have kept : ∀ {other}, fs.isDirectoryAt other = true →
      (fs.put place node).isDirectoryAt other = true := fun {other} directory => by
    have apart : other ≠ place := by
      rintro rfl
      exact Bool.false_ne_true (free.symm.trans directory)
    rwa [isDirectoryAt, node?_put_other below node apart]
  refine ⟨fun entry member => ?_, kept sound.working⟩
  rcases mem_putNode member with here | old
  · exact kept (here ▸ inside)
  · exact kept (sound.parents entry old)

/-! ### What changes leave alone -/

/-- Links and directories are left alone, and so are files but for those at some places, which
are still files. -/
structure Keeps (written : Place → Prop) (fs fs' : FileSystem) : Prop where
  working : fs'.workingDirectory = fs.workingDirectory
  nodes : ∀ place node, fs.node? place = some node → fs'.node? place = some node ∨
    written place ∧ node.isFile = true ∧ ∃ new, fs'.node? place = some new ∧ new.isFile = true

theorem Keeps.refl (written : Place → Prop) (fs : FileSystem) : Keeps written fs fs :=
  ⟨rfl, fun _ _ lies => Or.inl lies⟩

theorem Keeps.mono {written more : Place → Prop} {fs' : FileSystem} (kept : Keeps written fs fs')
    (among : ∀ place, written place → more place) : Keeps more fs fs' :=
  ⟨kept.working, fun place node lies =>
    (kept.nodes place node lies).imp_right fun file => ⟨among place file.1, file.2⟩⟩

theorem Keeps.trans {written : Place → Prop} {fs₁ fs₂ : FileSystem} (first : Keeps written fs fs₁)
    (second : Keeps written fs₁ fs₂) : Keeps written fs fs₂ := by
  refine ⟨second.working.trans first.working, fun place node lies => ?_⟩
  rcases first.nodes place node lies with same | ⟨among, file, new, lies, stillFile⟩
  · exact second.nodes place node same
  · rcases second.nodes place new lies with same | ⟨_, _, newer, lies, stillFile⟩
    · exact Or.inr ⟨among, file, new, same, stillFile⟩
    · exact Or.inr ⟨among, file, newer, lies, stillFile⟩

theorem keeps_put_new {place : Place} (free : fs.node? place = none) (node : Node) :
    Keeps (fun _ => False) fs (fs.put place node) := by
  refine ⟨rfl, fun other old lies => Or.inl ?_⟩
  have below : place ≠ [] := by
    rintro rfl
    cases free
  have apart : other ≠ place := by
    rintro rfl
    cases free.symm.trans lies
  rwa [node?_put_other below node apart]

/-- A file put where nothing or a file lies. -/
theorem keeps_put_file {place : Place} {node : Node} (file : node.isFile = true)
    (before : ∀ old, fs.node? place = some old → old.isFile = true) :
    Keeps (· = place) fs (fs.put place node) := by
  refine ⟨rfl, fun other old lies => ?_⟩
  have below : place ≠ [] := by
    rintro rfl
    cases before _ (node?_nil fs)
  by_cases same : other = place
  · subst same
    exact Or.inr ⟨rfl, before old lies, node, node?_put_self below node, file⟩
  · exact Or.inl ((node?_put_other below node same).trans lies)

end ScriptDeps.FileSystem
