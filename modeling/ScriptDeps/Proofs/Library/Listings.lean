import ScriptDeps.Library.Index
import ScriptDeps.Proofs.FileSystem.Texts
import ScriptDeps.Proofs.Text.Cutting
import Mathlib.Data.List.Sort
import Mathlib.Data.List.TakeWhile

/-!
# Libraries of a directory

What a listing holds for a base name: the regular files of a library's extension with that name in
any letter case, in the order of their extensions and then of their names.
-/

namespace ScriptDeps

/-! ### Extensions -/

theorem Text.trimRight_append {p : Char → Bool} {front text : List Char}
    (ends : front = [] ∨ ∃ start c, front = start ++ [c] ∧ p c = false) :
    trimRight p (front ++ text) = front ++ trimRight p text := by
  unfold trimRight
  rw [List.reverse_append, List.dropWhile_append]
  split
  · rename_i all
    rw [List.isEmpty_iff.mp all]
    obtain rfl | ⟨start, c, rfl, kept⟩ := ends
    · rfl
    · simp [kept]
  · rw [List.reverse_append, List.reverse_reverse]

namespace Path

/-- What a path starts with up to a slash does not matter to its extension. -/
theorem splitExtension_append {front : List Char} (text : List Char)
    (ends : front = [] ∨ ∃ start, front = start ++ ['/']) :
    splitExtension (front ++ text) =
      (front ++ (splitExtension text).1, (splitExtension text).2) := by
  have trimmed : Text.trimRight (· != '/') (front ++ text) = front ++ Text.trimRight (· != '/') text := by
    refine Text.trimRight_append (ends.imp id ?_)
    rintro ⟨start, rfl⟩
    exact ⟨start, '/', rfl, rfl⟩
  unfold splitExtension
  simp only [trimmed, List.length_append, List.drop_append, Nat.add_sub_cancel_left]
  rw [List.drop_eq_nil_of_le (Nat.le_add_right _ _), List.nil_append]
  split
  · split
    · rfl
    · rw [List.append_assoc]
  · rfl

theorem trimRight_prefix (p : Char → Bool) (text : List Char) :
    ∃ last, text = Text.trimRight p text ++ last ∧ ∀ c ∈ last, p c = true := by
  refine ⟨(text.reverse.takeWhile p).reverse, ?_, fun c member => ?_⟩
  · rw [Text.trimRight, ← List.reverse_append, List.takeWhile_append_dropWhile, List.reverse_reverse]
  · exact List.mem_takeWhile_imp (List.mem_reverse.mp member)

/-- The extension ends the text, and no slash is in it. -/
theorem splitExtension_spec (text : List Char) :
    (splitExtension text).1 ++ (splitExtension text).2 = text ∧ '/' ∉ (splitExtension text).2 := by
  obtain ⟨last, spelled, plain⟩ := trimRight_prefix (· != '/') text
  have slashless : '/' ∉ last := fun member => absurd (plain '/' member) (by decide)
  have dropped : text.drop (Text.trimRight (· != '/') text).length = last :=
    (congrArg (List.drop _) spelled).trans List.drop_left
  unfold splitExtension
  simp only [dropped]
  split
  · rename_i stem extension cut
    have whole := Text.cutLast?_some cut
    split
    · exact ⟨List.append_nil text, List.not_mem_nil⟩
    · refine ⟨by rw [List.append_assoc, whole, ← spelled], fun member => slashless ?_⟩
      rw [← whole]
      exact List.mem_append_right stem member
  · exact ⟨List.append_nil text, List.not_mem_nil⟩

theorem inDirectory_front (directory file : String) :
    ∃ front, (front = [] ∨ ∃ start, front = start ++ ['/']) ∧
      (inDirectory directory file).toList = front ++ file.toList := by
  unfold inDirectory
  by_cases ends : (directory.isEmpty || directory.endsWith "/") = true
  · refine ⟨directory.toList, ?_, by rw [if_pos ends, String.toList_append]⟩
    rw [Bool.or_eq_true, String.isEmpty_iff, String.endsWith_eq_endsWith_toSlice,
      String.Slice.endsWith_string_iff, String.copy_toSlice] at ends
    obtain rfl | ⟨start, spelled⟩ := ends
    · exact .inl rfl
    · exact .inr ⟨start, spelled.symm⟩
  · refine ⟨directory.toList ++ ['/'], .inr ⟨_, rfl⟩, ?_⟩
    rw [if_neg ends, String.toList_append, String.toList_append]
    rfl

end Path

namespace LibraryIndex

theorem extensionOf_inDirectory (directory file : String) :
    extensionOf (Path.inDirectory directory file) = extensionOf file := by
  obtain ⟨front, ends, spelled⟩ := Path.inDirectory_front directory file
  rw [extensionOf, spelled, Path.splitExtension_append _ ends, extensionOf]

/-! ### Files of a base name -/

variable {index : LibraryIndex} {fs : FileSystem} {base directory : String}

def filesOf (base : String) (listing : Listing) : List String :=
  ((listing.find? (·.1 == base)).map (·.2)).getD []

theorem filesOf_nil (base : String) : filesOf base [] = [] := rfl

theorem filesOf_addFile (base other file : String) (listing : Listing) :
    filesOf base (addFile other file listing) =
      filesOf base listing ++ if other = base then [file] else [] := by
  induction listing with
  | nil =>
    by_cases same : other = base
    · simp [addFile, filesOf, same]
    · simp [addFile, filesOf, same]
  | cons entry rest ih =>
    obtain ⟨first, files⟩ := entry
    unfold filesOf at ih ⊢
    rw [addFile]
    by_cases here : first = other
    · subst here
      by_cases same : first = base
      · simp [same]
      · simp [same]
    · rw [if_neg here]
      by_cases same : first = base
      · have apart : ¬other = base := fun other => here (same.trans other.symm)
        simp [same, apart]
      · simpa [same] using ih

theorem filesOf_foldl (base directory : String) (files : List String) (listing : Listing) :
    filesOf base (files.foldl (fun listing name =>
        addFile (Text.lower (baseOf name)) (Path.inDirectory directory name) listing) listing) =
      filesOf base listing ++
        (files.filter fun name => Text.lower (baseOf name) = base).map (Path.inDirectory directory) := by
  induction files generalizing listing with
  | nil => simp
  | cons file rest ih =>
    rw [List.foldl_cons, ih, filesOf_addFile, List.append_assoc]
    by_cases same : Text.lower (baseOf file) = base
    · simp [same]
    · simp [same]

theorem filesOf_map (order : List String → List String) (empty : order [] = []) (listing : Listing) :
    filesOf base (listing.map fun (other, files) => (other, order files)) =
      order (filesOf base listing) := by
  unfold filesOf
  rw [List.find?_map]
  change ((listing.find? (·.1 == base)).map _ |>.map _).getD [] = _
  cases listing.find? (·.1 == base) with
  | none => exact empty.symm
  | some entry => rfl

/-! ### Their order -/

/-- A stable sort by rank keeps the order of items of the same rank. -/
theorem pairwise_mergeSort_rank {α : Type} {rank : α → Nat} {le : α → α → Prop} {items : List α}
    (sorted : items.Pairwise le) :
    (items.mergeSort fun a b => rank a ≤ rank b).Pairwise fun a b =>
      rank a < rank b ∨ rank a = rank b ∧ le a b := by
  have trans : ∀ a b c : α, decide (rank a ≤ rank b) = true → decide (rank b ≤ rank c) = true →
      decide (rank a ≤ rank c) = true := by
    simp only [decide_eq_true_eq]
    omega
  have total : ∀ a b : α, (decide (rank a ≤ rank b) || decide (rank b ≤ rank a)) = true := by
    simp only [Bool.or_eq_true, decide_eq_true_eq]
    omega
  have level (n : Nat) : (items.mergeSort fun a b => rank a ≤ rank b).filter (rank · = n) =
      items.filter (rank · = n) := by
    have equals : (items.filter (rank · = n)).Pairwise fun a b => decide (rank a ≤ rank b) = true :=
      List.pairwise_of_forall_mem_list fun a first b second => by
        simp only [List.mem_filter, decide_eq_true_eq] at first second ⊢
        omega
    have kept := (List.sublist_mergeSort trans total equals List.filter_sublist).filter (rank · = n)
    rw [List.filter_filter] at kept
    simp only [Bool.and_self] at kept
    exact (kept.eq_of_length
      ((List.mergeSort_perm items _).filter (rank · = n)).length_eq.symm).symm
  rw [List.pairwise_iff_forall_sublist]
  intro a b pair
  have ranks : rank a ≤ rank b := by
    simpa using List.pairwise_iff_forall_sublist.mp (List.pairwise_mergeSort trans total items) pair
  obtain below | same := Nat.lt_or_eq_of_le ranks
  · exact .inl below
  · refine .inr ⟨same, ?_⟩
    have together := pair.filter (rank · = rank b)
    rw [level] at together
    have kept : [a, b].Sublist (items.filter (rank · = rank b)) := by
      simpa [same] using together
    exact List.pairwise_iff_forall_sublist.mp sorted (kept.trans List.filter_sublist)

/-- Before another file of the same directory: by the place of the extension, then by name. -/
def Precedes (index : LibraryIndex) (a b : String) : Prop :=
  index.preference a < index.preference b ∨ index.preference a = index.preference b ∧ a ≤ b

instance : DecidableRel index.Precedes :=
  fun _ _ => inferInstanceAs (Decidable (_ ∨ _))

instance : Std.Total index.Precedes where
  total a b := by
    unfold Precedes
    obtain names | names := String.le_total a b <;>
      · simp only [names, and_true]
        omega

instance : IsTrans String index.Precedes where
  trans a b c := by
    rintro (below | ⟨same, names⟩) (below' | ⟨same', names'⟩)
    · exact .inl (by omega)
    · exact .inl (by omega)
    · exact .inl (by omega)
    · exact .inr ⟨same.trans same', String.le_trans names names'⟩

theorem byPreference_inDirectory {files : List String} (sorted : files.Pairwise (· ≤ ·)) :
    index.byPreference (files.map (Path.inDirectory directory)) =
      (files.insertionSort index.Precedes).map (Path.inDirectory directory) := by
  have onNames : (files.mergeSort fun a b => index.preference a ≤ index.preference b) =
      files.insertionSort index.Precedes := by
    refine List.Perm.eq_of_pairwise ?_ (pairwise_mergeSort_rank sorted)
      (List.pairwise_insertionSort index.Precedes files)
      ((List.mergeSort_perm files _).trans (List.perm_insertionSort _ files).symm)
    rintro a b - - (below | ⟨same, names⟩) (below' | ⟨same', names'⟩)
    · omega
    · omega
    · omega
    · exact String.le_antisymm names names'
  rw [← onNames, byPreference, List.map_mergeSort]
  intro a _ b _
  unfold preference
  rw [extensionOf_inDirectory, extensionOf_inDirectory]

/-! ### The libraries of a directory -/

/-- The libraries of a base name among the files of a directory: the regular files with one of the
extensions and that name in any letter case, by the place of their extension and then by name. -/
def librariesAmong (index : LibraryIndex) (fs : FileSystem) (name directory : String)
    (files : List String) : List String :=
  ((files.filter fun file => index.isLibrary file ∧ Text.lower (baseOf file) = Text.lower name ∧
    fs.isFile (Path.inDirectory directory file) = .ok true).insertionSort index.Precedes).map
      (Path.inDirectory directory)

/-- The libraries of a base name in a directory. One that cannot be listed has none. -/
def librariesIn (index : LibraryIndex) (fs : FileSystem) (name directory : String) : List String :=
  match fs.list directory with
  | .ok files => index.librariesAmong fs name directory files
  | .error _ => []

theorem namesIn_sorted (fs : FileSystem) (place : Place) : (fs.namesIn place).Pairwise (· ≤ ·) := by
  have order (a b : String) : (!decide (b < a)) = true ↔ a ≤ b := by
    rw [Bool.not_eq_true', decide_eq_false_iff_not, String.not_lt]
  have sorted := @List.pairwise_mergeSort String (fun a b => !decide (b < a))
    (fun a b c first second =>
      (order a c).mpr (String.le_trans ((order a b).mp first) ((order b c).mp second)))
    (fun a b => Bool.or_eq_true_iff.mpr
      ((String.le_total a b).imp (order a b).mpr (order b a).mpr))
  exact (sorted _).imp (order _ _).mp

theorem list_sorted {files : List String} (listed : fs.list directory = .ok files) :
    files.Pairwise (· ≤ ·) := by
  obtain ⟨-, place, node, -, -, rfl⟩ := FileSystem.list_ok listed
  exact namesIn_sorted fs place

theorem filesOf_listDirectory {listing : Listing}
    (listed : index.listDirectory fs directory = .ok listing) (name : String) :
    filesOf (Text.lower name) listing = index.librariesIn fs name directory := by
  unfold listDirectory at listed
  unfold librariesIn
  cases files : fs.list directory with
  | error failure =>
    rw [files] at listed
    cases failure with
    | file fault path =>
      obtain rfl := Except.ok.inj listed
      rfl
    | _ => cases listed
  | ok names =>
    rw [files] at listed
    obtain rfl := Except.ok.inj listed
    have chosen : ∀ file ∈ names, (decide (Text.lower (baseOf file) = Text.lower name) &&
        (index.isLibrary file && (fs.isFile (Path.inDirectory directory file)).toOption.getD false)) =
          decide (index.isLibrary file = true ∧ Text.lower (baseOf file) = Text.lower name ∧
            fs.isFile (Path.inDirectory directory file) = .ok true) := by
      intro file _
      have regular : (fs.isFile (Path.inDirectory directory file)).toOption.getD false = true ↔
          fs.isFile (Path.inDirectory directory file) = .ok true := by
        cases fs.isFile (Path.inDirectory directory file) <;> simp [Except.toOption]
      rw [Bool.eq_iff_iff]
      simp only [Bool.and_eq_true, decide_eq_true_eq, regular]
      exact and_left_comm
    dsimp only
    rw [filesOf_map index.byPreference List.mergeSort_nil, collect, filesOf_foldl,
      filesOf_nil, List.nil_append, List.filter_filter, List.filter_congr chosen,
      byPreference_inDirectory ((list_sorted files).filter _), librariesAmong]

theorem listDirectory_returns (spoken : '\x00' ∉ directory.toList) :
    ∃ listing, index.listDirectory fs directory = .ok listing := by
  unfold listDirectory FileSystem.list
  rw [FileSystem.checkPath_ok spoken, ok_bind]
  cases fs.walk true directory with
  | error fault => exact ⟨[], rfl⟩
  | ok found =>
    cases found with
    | absent place => exact ⟨[], rfl⟩
    | present place node =>
      dsimp only [FileSystem.orFail, ok_bind]
      cases node.isDirectory <;> cases node.isDenied <;> exact ⟨_, rfl⟩

end LibraryIndex

end ScriptDeps
