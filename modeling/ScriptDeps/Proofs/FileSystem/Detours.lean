import ScriptDeps.Proofs.FileSystem.Nulls
import ScriptDeps.Proofs.FileSystem.Refusals
import ScriptDeps.Proofs.FileSystem.Walks
import ScriptDeps.Proofs.Script.Copies
import ScriptDeps.Proofs.Script.CopyNames
import ScriptDeps.Proofs.Text.Trimming

/-!
# Detours

A path from the top is walked name by name, and its text is as long as its names. A detour, up from a
directory and down to it again, makes a path longer and leads nowhere else, so a directory has paths
of almost any length, and what lies in it cannot be asked about if they are too long.
-/

namespace ScriptDeps

/-! ### Paths from the top -/

namespace Path

def atTop (names : List String) : Path :=
  ⟨.top, names⟩

/-- A name that stands for itself in a text: it leads up, or is one that a directory can hold. -/
structure IsStep (name : String) : Prop where
  leads : name = ".." ∨ IsName name
  spoken : '\x00' ∉ name.toList

instance (name : String) : Decidable (IsName name) :=
  decidable_of_iff (name ≠ "" ∧ name ≠ "." ∧ name ≠ ".." ∧ '/' ∉ name.toList)
    ⟨fun ⟨nonempty, noDot, notUp, slashless⟩ => ⟨nonempty, noDot, notUp, slashless⟩,
      fun named => ⟨named.nonempty, named.noDot, named.notUp, named.slashless⟩⟩

instance (name : String) : Decidable (IsStep name) :=
  decidable_of_iff ((name = ".." ∨ IsName name) ∧ '\x00' ∉ name.toList)
    ⟨fun ⟨leads, spoken⟩ => ⟨leads, spoken⟩, fun step => ⟨step.leads, step.spoken⟩⟩

/-- The names are there and stand for themselves. -/
structure IsWay (names : List String) : Prop where
  filled : names ≠ []
  steps : ∀ name ∈ names, IsStep name

/-- The bytes of names with a slash before each. -/
def bytesOf (names : List String) : Nat :=
  (names.map fun name => name.utf8ByteSize + 1).sum

theorem text_atTop (names : List String) : (atTop names).text = "/" ++ "/".intercalate names := rfl

theorem utf8ByteSize_atTop {names : List String} (filled : names ≠ []) :
    (atTop names).text.utf8ByteSize = bytesOf names := by
  rw [text_atTop, bytesOf]
  induction names with
  | nil => exact absurd rfl filled
  | cons name rest ih =>
    have slash : "/".utf8ByteSize = 1 := by decide
    cases rest with
    | nil => simp [slash, Nat.add_comm]
    | cons second others =>
      have rest := ih (List.cons_ne_nil second others)
      rw [String.utf8ByteSize_append, slash] at rest ⊢
      rw [String.intercalate_cons_cons, String.utf8ByteSize_append, String.utf8ByteSize_append, slash,
        List.map_cons, List.sum_cons, ← rest]
      omega

theorem IsStep.plain {name : String} (step : IsStep name) :
    name.toList ≠ [] ∧ name.toList ≠ ['.'] ∧ '/' ∉ name.toList := by
  obtain rfl | named := step.leads
  · decide
  · exact ⟨fun empty => named.nonempty (String.toList_eq_nil_iff.mp empty),
      fun dot => named.noDot (String.toList_injective dot), named.slashless⟩

variable {names : List String}

theorem IsWay.split_text (way : IsWay names) :
    Text.split '/' (atTop names).text.toList = [] :: names.map String.toList := by
  rw [text_atTop, String.toList_append, toList_intercalate]
  refine (Text.split_append (List.not_mem_nil : '/' ∉ []) _).trans (congrArg (List.cons []) ?_)
  refine Text.split_join (List.map_eq_nil_iff.not.mpr way.filled) ?_
  intro piece member
  obtain ⟨name, among, rfl⟩ := List.mem_map.mp member
  exact (way.steps name among).plain.2.2

theorem IsWay.stepsOf_text (way : IsWay names) :
    FileSystem.stepsOf (atTop names).text.toList = names := by
  have named : namesOf (atTop names).text.toList = names := by
    rw [namesOf, way.split_text, List.filter_cons_of_neg (by simp), List.filter_eq_self.mpr,
      List.map_map]
    · exact (List.map_congr_left fun name _ => String.ofList_toList).trans (List.map_id names)
    · intro piece member
      obtain ⟨name, among, rfl⟩ := List.mem_map.mp member
      simp [(way.steps name among).plain]
  obtain ⟨last, ends⟩ : ∃ last, names.getLast? = some last :=
    ⟨_, List.getLast?_eq_some_getLast way.filled⟩
  obtain ⟨nonempty, noDot, -⟩ := (way.steps last (List.mem_of_getLast? ends)).plain
  rw [FileSystem.stepsOf, way.split_text, named, List.getLast?_cons, List.getLast?_map, ends]
  simp [nonempty, noDot]

theorem IsWay.spoken (way : IsWay names) : '\x00' ∉ (atTop names).text.toList := by
  intro null
  obtain ⟨name, member, null⟩ := null_mem_text.mp null
  exact (way.steps name member).spoken null

end Path

namespace FileSystem

open ScriptDeps.Path

variable {fs : FileSystem} {names : List String}

instance (name : String) : Decidable (IsProper name) :=
  decidable_of_iff ((name == ".") = false ∧ (name == "..") = false ∧ name.utf8ByteSize ≤ maxNameBytes)
    ⟨fun ⟨noDot, notUp, short⟩ => ⟨noDot, notUp, short⟩,
      fun proper => ⟨proper.noDot, proper.notUp, proper.short⟩⟩

theorem walk_atTop {found : Found} (way : IsWay names) (short : bytesOf names ≤ maxPathBytes)
    (walks : Walks fs true maxLinks [] names found) : fs.walk true (atTop names).text = .ok found := by
  refine walk_iff.mpr ⟨?_, ?_, [], ?_, ?_⟩
  · rw [text_atTop, String.isEmpty_eq_false_iff]
    exact fun empty => absurd (String.append_eq_empty_iff.mp empty).1 (by decide)
  · rwa [utf8ByteSize_atTop way.filled]
  · rw [start?, if_pos (isAbsolute_ofText rfl)]
  · rwa [way.stepsOf_text]

theorem isDirectory_atTop {place : Place} {node : Node} (way : IsWay names)
    (short : bytesOf names ≤ maxPathBytes)
    (walks : Walks fs true maxLinks [] names (.present place node)) :
    fs.isDirectory (atTop names).text = .ok node.isDirectory := by
  rw [isDirectory, node?At, if_neg (by simpa using way.spoken),
    stat_of_walk (walk_atTop way short walks)]
  rfl

theorem list_atTop {place : Place} (way : IsWay names) (short : bytesOf names ≤ maxPathBytes)
    (walks : Walks fs true maxLinks [] names (.present place (.directory false))) :
    fs.list (atTop names).text = .ok (fs.namesIn place) := by
  rw [list, checkPath_ok way.spoken, walk_atTop way short walks]
  rfl

theorem isDirectory_atTop_long (way : IsWay names) (long : maxPathBytes < bytesOf names) :
    fs.isDirectory (atTop names).text = .error (.file .nameTooLong (atTop names).text) := by
  have filled : (atTop names).text.isEmpty = false := by
    rw [text_atTop, String.isEmpty_eq_false_iff]
    exact fun empty => absurd (String.append_eq_empty_iff.mp empty).1 (by decide)
  rw [isDirectory, node?At, if_neg (by simpa using way.spoken), stat, walk, filled,
    utf8ByteSize_atTop way.filled, if_neg Bool.false_ne_true, if_pos long]
  rfl

/-- What has too long a name cannot be asked about in a directory at the top. -/
theorem overlong_atTop {directory name : String} {denied : Bool} (way : IsWay [directory, name])
    (fits : bytesOf [directory, name] ≤ maxPathBytes) (proper : IsProper directory)
    (lies : fs.node? [directory] = some (.directory denied)) (named : IsName name)
    (long : maxNameBytes < name.utf8ByteSize) : fs.Overlong (atTop [directory, name]).text := by
  refine ⟨way.spoken, stat_long_iff.mpr ?_⟩
  have filled : ¬(atTop [directory, name]).text.isEmpty = true := by
    rw [text_atTop, String.isEmpty_iff]
    exact fun empty => absurd (String.append_eq_empty_iff.mp empty).1 (by decide)
  have short : ¬maxPathBytes < (atTop [directory, name]).text.utf8ByteSize := by
    rwa [utf8ByteSize_atTop way.filled, Nat.not_lt]
  rw [walk_eq, if_neg filled, if_neg short, start?, if_pos (isAbsolute_ofText rfl)]
  dsimp only
  rw [way.stepsOf_text, walkLinks_eq, walkNames_proper proper, lies]
  dsimp only
  rw [walkNames, if_neg (by simpa using named.noDot), if_neg (by simpa using named.notUp),
    if_pos long]

/-! ### Detours -/

/-- Up from a directory and down to it again, some number of times. -/
def detour (name : String) (times : Nat) : List String :=
  (List.replicate times ["..", name]).flatten

/-- Down to a directory at the top, on detours, and on from there. -/
def around (name : String) (times : Nat) (rest : List String) : List String :=
  name :: (detour name times ++ rest)

theorem Walks.detour {followLast : Bool} {links : Nat} {place : Place} {name : String}
    {rest : List String} {found : Found} {denied : Bool} (proper : IsProper name)
    (lies : fs.node? (name :: place) = some (.directory denied))
    (walks : Walks fs followLast links (name :: place) rest found) (times : Nat) :
    Walks fs followLast links (name :: place) (FileSystem.detour name times ++ rest) found := by
  induction times with
  | zero => exact walks
  | succ times ih => exact .up (.directory proper lies ih)

theorem bytesOf_around (name : String) (times : Nat) (rest : List String) :
    bytesOf (around name times rest) =
      (times + 1) * (name.utf8ByteSize + 1) + times * 3 + bytesOf rest := by
  have up : "..".utf8ByteSize = 2 := by decide
  induction times with
  | zero => simp [around, detour, bytesOf]
  | succ times ih =>
    have longer : bytesOf (around name (times + 1) rest) =
        name.utf8ByteSize + 1 + 3 + bytesOf (around name times rest) := by
      simp [around, detour, bytesOf, List.replicate_succ, up]
      omega
    rw [longer, ih, Nat.succ_mul (times + 1), Nat.succ_mul times 3]
    omega

theorem isWay_around {name : String} (step : IsStep name) (times : Nat) {rest : List String}
    (steps : ∀ other ∈ rest, IsStep other) : IsWay (around name times rest) := by
  refine ⟨List.cons_ne_nil _ _, List.forall_mem_cons.mpr ⟨step, fun other member => ?_⟩⟩
  obtain member | member := List.mem_append.mp member
  · obtain ⟨pair, among, member⟩ := List.mem_flatten.mp member
    obtain rfl := List.eq_of_mem_replicate among
    obtain rfl | member := List.mem_cons.mp member
    · exact ⟨.inl rfl, by decide⟩
    · exact List.mem_singleton.mp member ▸ step
  · exact steps other member

end FileSystem

end ScriptDeps
