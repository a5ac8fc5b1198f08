import ScriptDeps.Proofs.FileSystem.Nodes
import ScriptDeps.Proofs.FileSystem.Resolving
import ScriptDeps.Proofs.Library.Listings

/-!
# Tidy file systems

In a file system as one finds it nothing is named twice, and no name has a slash. Whatever is put
into one leaves it so. A directory then lists every name once, in the order of the names.
-/

namespace ScriptDeps.FileSystem

variable {fs : FileSystem}

/-- Every place is named once, and by names that can stand between slashes. -/
structure Tidy (fs : FileSystem) : Prop where
  once : (fs.nodes.map (·.1)).Nodup
  named : ∀ entry ∈ fs.nodes, Slashless entry.1

instance (names : List String) : Decidable (Slashless names) :=
  inferInstanceAs (Decidable (∀ name ∈ names, '/' ∉ name.toList))

instance (fs : FileSystem) : Decidable fs.Tidy :=
  decidable_of_iff ((fs.nodes.map (·.1)).Nodup ∧ ∀ entry ∈ fs.nodes, Slashless entry.1)
    ⟨fun h => ⟨h.1, h.2⟩, fun h => ⟨h.once, h.named⟩⟩

theorem map_putNode (place : Place) (node : Node) (nodes : List (Place × Node)) :
    (putNode place node nodes).map (·.1) =
      if place ∈ nodes.map (·.1) then nodes.map (·.1) else nodes.map (·.1) ++ [place] := by
  induction nodes with
  | nil => rfl
  | cons entry rest ih =>
    obtain ⟨other, old⟩ := entry
    rw [putNode]
    by_cases same : other = place
    · simp [same]
    · rw [if_neg same, List.map_cons, ih, List.map_cons]
      split
      · rename_i member
        rw [if_pos (List.mem_cons_of_mem other member)]
      · rename_i apart
        rw [if_neg fun member => (List.mem_cons.mp member).elim (Ne.symm same) apart,
          List.cons_append]

/-- What is put where a path leads leaves the file system tidy. -/
theorem Tidy.put (tidy : fs.Tidy) {place : Place} (plain : Slashless place)
    (node : Node) : (fs.put place node).Tidy := by
  refine ⟨?_, fun entry member => ?_⟩
  · rw [FileSystem.put, map_putNode]
    split
    · exact tidy.once
    · rename_i apart
      exact List.nodup_append.mpr ⟨tidy.once, List.nodup_singleton place,
        fun other member _ here => by rintro rfl; exact apart (List.mem_singleton.mp here ▸ member)⟩
  · obtain here | old := mem_putNode member
    · exact here ▸ plain
    · exact tidy.named entry old

theorem Tidy.makeParents (tidy : fs.Tidy) {place : Place} (plain : Slashless place) :
    (fs.makeParents place).Tidy := by
  induction place with
  | nil => exact tidy
  | cons name parent ih =>
    have above := ih fun other member => plain other (List.mem_cons_of_mem name member)
    unfold FileSystem.makeParents
    dsimp only
    split
    · exact above
    · exact above.put plain _

/-- What is planted with the directories above it, too. -/
theorem Tidy.plant (tidy : fs.Tidy) {place : Place} (plain : Slashless place) (node : Node) :
    (fs.plant place node).Tidy :=
  (tidy.makeParents fun name member => plain name (List.mem_of_mem_tail member)).put plain node

/-! ### Names in a directory -/

theorem mem_namesIn {place : Place} {name : String} :
    name ∈ fs.namesIn place ↔ name :: place ∈ fs.nodes.map (·.1) := by
  rw [namesIn, List.mem_mergeSort, List.mem_filterMap, List.mem_map]
  refine exists_congr fun entry => and_congr_right fun _ => ?_
  obtain ⟨_ | ⟨first, parent⟩, node⟩ := entry
  · simp
  · by_cases same : parent = place
    · simp [same]
    · simp [same]

theorem Tidy.nodup_namesIn (tidy : fs.Tidy) (place : Place) : (fs.namesIn place).Nodup := by
  refine (List.mergeSort_perm _ _).nodup_iff.mpr ?_
  have once := List.pairwise_map.mp tidy.once
  refine once.filterMap _ fun first second apart name one other two => ?_
  rintro rfl
  -- Two entries with one name in a directory would lie at one place.
  split at one
  · rename_i firstAt
    split at two
    · rename_i secondAt
      obtain ⟨same, here⟩ := Option.ite_none_right_eq_some.mp one
      obtain ⟨again, there⟩ := Option.ite_none_right_eq_some.mp two
      refine apart (firstAt.trans (Eq.trans ?_ secondAt.symm))
      rw [eq_of_beq same, eq_of_beq again, Option.some.inj here, Option.some.inj there]
    · cases two
  · cases one

theorem Tidy.list_ascends (tidy : fs.Tidy) {path : String} {names : List String}
    (ran : fs.list path = .ok names) : names.Pairwise (· < ·) ∧ Slashless names := by
  obtain ⟨-, place, node, -, -, rfl⟩ := list_ok ran
  constructor
  · refine (List.Pairwise.and (LibraryIndex.namesIn_sorted fs place)
      (tidy.nodup_namesIn place)).imp ?_
    rintro a b ⟨atMost, apart⟩
    exact Std.lt_of_le_of_ne atMost apart
  · intro name member
    obtain ⟨entry, among, same⟩ := List.mem_map.mp (mem_namesIn.mp member)
    exact tidy.named entry among name (same ▸ List.mem_cons_self)

end ScriptDeps.FileSystem
