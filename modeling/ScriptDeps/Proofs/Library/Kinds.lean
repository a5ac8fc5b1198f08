import ScriptDeps.Proofs.Library.PlainPass

/-!
# What kinds of files are found

Whatever a lookup finds is a regular file with the extension of a library, with one exception. A
name that ends with a slash, or with a single dot after one, has an empty extension itself, but
leads to a file that may have any.
-/

namespace ScriptDeps

/-! ### Last names -/

theorem Text.join_concat (separator : Char) (before : List (List Char)) (last : List Char) :
    ∃ front, (front = [] ∨ ∃ start, front = start ++ [separator]) ∧
      join separator (before ++ [last]) = front ++ last := by
  induction before with
  | nil => exact ⟨[], .inl rfl, rfl⟩
  | cons piece rest ih =>
    obtain ⟨front, ends, spelled⟩ := ih
    refine ⟨piece ++ separator :: front, .inr ?_, ?_⟩
    · obtain rfl | ⟨start, rfl⟩ := ends
      · exact ⟨piece, rfl⟩
      · exact ⟨piece ++ separator :: start, by rw [List.append_assoc, List.cons_append]⟩
    · have several : join separator (piece :: (rest ++ [last])) =
          piece ++ separator :: join separator (rest ++ [last]) := by
        cases rest <;> rfl
      rw [List.cons_append, several, spelled, List.append_assoc, List.cons_append]

namespace Path

theorem toList_intercalate (names : List String) :
    ("/".intercalate names).toList = Text.join '/' (names.map String.toList) := by
  rw [String.toList_intercalate]
  induction names with
  | nil => rfl
  | cons name rest ih =>
    cases rest with
    | nil => exact List.append_nil _
    | cons second others =>
      rw [List.map_cons, List.map_cons, List.intercalate_cons_cons, Text.join, ← List.map_cons, ih]
      · rw [List.append_assoc]
        rfl
      · exact List.cons_ne_nil _ _

theorem text_of_filled {path : Path} (filled : path.names ≠ []) :
    path.text = path.root.text ++ "/".intercalate path.names := by
  unfold text
  split
  · rename_i none
    exact absurd none filled
  · rfl

/-- The text of a path ends with its last name. -/
theorem text_ends {path : Path} {name : String} (last : path.names.getLast? = some name) :
    ∃ front, (front = [] ∨ ∃ start, front = start ++ ['/']) ∧
      path.text.toList = front ++ name.toList := by
  obtain ⟨root, names⟩ := path
  obtain ⟨before, rfl⟩ := List.getLast?_eq_some_iff.mp last
  obtain ⟨front, ends, spelled⟩ := Text.join_concat '/' (before.map String.toList) name.toList
  have whole : (Path.mk root (before ++ [name])).text.toList =
      root.text.toList ++ (front ++ name.toList) := by
    rw [text_of_filled (List.concat_ne_nil name before), String.toList_append, toList_intercalate,
      List.map_append, ← spelled]
    rfl
  refine ⟨root.text.toList ++ front, ?_, by rw [whole, List.append_assoc]⟩
  obtain rfl | ⟨start, rfl⟩ := ends
  · rw [List.append_nil]
    cases root with
    | relative => exact .inl rfl
    | top => exact .inr ⟨[], rfl⟩
    | doubleTop => exact .inr ⟨['/'], rfl⟩
  · exact .inr ⟨root.text.toList ++ start, by rw [List.append_assoc]⟩

/-- The text ends with a slash or with a single dot after one, or it is a single dot or empty. -/
def EndsIdly (text : String) : Prop :=
  ∃ last, (Text.split '/' text.toList).getLast? = some last ∧ (last = [] ∨ last = ['.'])

theorem ofText_ends {text : String} (leads : ¬EndsIdly text) :
    ∃ name, (ofText text).names.getLast? = some name ∧
      (Text.split '/' text.toList).getLast? = some name.toList := by
  obtain ⟨before, last, cut⟩ : ∃ before last, Text.split '/' text.toList = before ++ [last] :=
    ⟨_, _, (List.dropLast_append_getLast (Text.split_ne_nil '/' text.toList)).symm⟩
  have ends : (Text.split '/' text.toList).getLast? = some last := by
    rw [cut, List.getLast?_concat]
  have active : last ≠ [] ∧ last ≠ ['.'] :=
    ⟨fun same => leads ⟨last, ends, .inl same⟩, fun same => leads ⟨last, ends, .inr same⟩⟩
  refine ⟨String.ofList last, ?_, by rw [ends, String.toList_ofList]⟩
  rw [ofText, namesOf, cut, List.filter_append, List.filter_cons_of_pos (by simpa using active),
    List.filter_nil, List.map_append]
  exact List.getLast?_concat

end Path

namespace LibraryIndex

theorem extensionOf_ends {text name : String} {front : List Char}
    (ends : front = [] ∨ ∃ start, front = start ++ ['/'])
    (spelled : text.toList = front ++ name.toList) : extensionOf text = extensionOf name := by
  rw [extensionOf, spelled, Path.splitExtension_append _ ends, extensionOf]

/-- The extension of a text is that of its last piece. -/
theorem extensionOf_split {text name : String}
    (last : (Text.split '/' text.toList).getLast? = some name.toList) :
    extensionOf text = extensionOf name := by
  obtain ⟨before, cut⟩ := List.getLast?_eq_some_iff.mp last
  obtain ⟨front, ends, spelled⟩ := Text.join_concat '/' before name.toList
  rw [← cut, Text.join_split] at spelled
  exact extensionOf_ends ends spelled

theorem extensionOf_idle {key : String} (idle : Path.EndsIdly key) : extensionOf key = "" := by
  obtain ⟨last, cut, nothing⟩ := idle
  have same : extensionOf key = extensionOf (String.ofList last) :=
    extensionOf_split (by rw [cut, String.toList_ofList])
  obtain rfl | rfl := nothing
  · exact same.trans (by decide +kernel)
  · exact same.trans (by decide +kernel)

variable {index : LibraryIndex} {fs : FileSystem} {dirs : List String} {key : String}

/-- Wherever a text leads, its extension goes with it. -/
theorem extensionOf_place {place : Path} (leads : ¬Path.EndsIdly key)
    (member : place ∈ placesFor key dirs) : extensionOf place.text = extensionOf key := by
  obtain ⟨name, last, cut⟩ := Path.ofText_ends leads
  have there : place.names.getLast? = some name := by
    unfold placesFor at member
    split at member
    · rw [List.mem_singleton.mp member]
      exact last
    · rename_i relative
      obtain ⟨directory, _, rfl⟩ := List.mem_map.mp member
      have appended : (Path.ofText directory ++ Path.ofText key).names =
          (Path.ofText directory).names ++ (Path.ofText key).names :=
        congrArg Path.names (if_neg relative)
      rw [appended, List.getLast?_append, last, Option.some_or]
  obtain ⟨front, ends, spelled⟩ := Path.text_ends there
  rw [extensionOf_ends ends spelled, extensionOf_split cut]

/-! ### Lookups -/

/-- The text ends idly and is tried as the path. -/
def LeadsIdly (key : String) (dirs : List String) (path : String) : Prop :=
  Path.EndsIdly key ∧ ∃ place ∈ placesFor key dirs, place.text = path

/-- The path has the extension of a library, or an idle text leads to it and texts without an
extension are taken for libraries. -/
def Known (index : LibraryIndex) (key : String) (dirs : List String) (path : String) : Prop :=
  index.isLibrary path = true ∨ "" ∈ index.extensions ∧ LeadsIdly key dirs path

theorem namedFile?_known {file : Path} (named : index.namedFile? fs key dirs = some file) :
    fs.isFile file.text = .ok true ∧ Known index key dirs file.text := by
  unfold namedFile? at named
  split at named
  · rename_i library
    have member := List.mem_of_find?_eq_some named
    refine ⟨by simpa using List.find?_some named, ?_⟩
    -- it is the text that was tested, not the path that it leads to
    have extension : extensionOf key ∈ index.extensions := by simpa [isLibrary] using library
    by_cases idle : Path.EndsIdly key
    · exact .inr ⟨extensionOf_idle idle ▸ extension, idle, file, member, rfl⟩
    · refine .inl ?_
      rw [isLibrary, extensionOf_place idle member]
      exact library
  · cases named

theorem librariesIn_known {name directory path : String}
    (member : path ∈ index.librariesIn fs name directory) :
    fs.isFile path = .ok true ∧ index.isLibrary path = true := by
  unfold librariesIn at member
  split at member
  · rename_i files listed
    obtain ⟨file, sorted, rfl⟩ := List.mem_map.mp member
    have kept := (List.mem_filter.mp ((List.mem_insertionSort index.Precedes).mp sorted)).2
    obtain ⟨library, -, regular⟩ := of_decide_eq_true kept
    refine ⟨regular, ?_⟩
    rw [isLibrary, extensionOf_inDirectory]
    exact library
  · cases member

/-- What is answered to a name is a regular file of a known kind, whichever way it was found. -/
theorem answer_known {path : String} (member : path ∈ index.answer fs key dirs) :
    fs.isFile path = .ok true ∧ Known index key dirs path := by
  unfold answer at member
  split at member
  · rename_i file named
    rw [List.mem_singleton.mp member]
    exact namedFile?_known named
  · split at member
    · cases member
    · cases first : ((index.namesFor key).map fun name =>
          dirs.flatMap (index.librariesIn fs name)).find? (· ≠ []) with
      | none =>
        rw [first] at member
        cases member
      | some found =>
        rw [first] at member
        obtain ⟨name, _, rfl⟩ := List.mem_map.mp (List.mem_of_find?_eq_some first)
        obtain ⟨directory, _, lists⟩ := List.mem_flatMap.mp member
        exact (librariesIn_known lists).imp_right .inl

theorem lookUp_known (start : Remembers index fs index) {name : String} {found : List String}
    (returned : index.lookUp fs name dirs = .ok found) {path : String} (member : path ∈ found) :
    fs.isFile path = .ok true ∧ Known index (stripQuotes name) dirs path := by
  by_cases empty : stripQuotes name = ""
  · rw [lookUp, find_of_empty empty] at returned
    obtain rfl := Except.ok.inj returned
    cases member
  · obtain ⟨later, ran, _⟩ := @find_computes index fs dirs name empty index start
    rw [lookUp, ran] at returned
    exact answer_known (findNow_ok returned ▸ member)

end LibraryIndex

/-! ### Plain passes -/

namespace Library

open LibraryIndex (stripQuotes)

/-- The names that a plain pass looks up. -/
def Wanted.names (wanted : Wanted) (index : LibraryIndex) : List String :=
  (wanted.namespaces.filter fun name => !index.isIgnored name wanted.ignored) ++
    wanted.references.map stripQuotes

/-- A plain pass finds libraries of packages, and regular files of known kinds. -/
theorem plainPass_known {packages : Bool → Action (List String)} {index : LibraryIndex}
    {host : Host} {wanted : Wanted} {paths : List String} (start : index.Remembers host.files index)
    (passed : plainPass packages index host wanted = .ok paths) {path : String}
    (member : path ∈ paths) :
    (∃ packaged, (packages suppressDownloads host).1 = .ok packaged ∧ path ∈ packaged) ∨
      host.files.isFile path = .ok true ∧ ∃ name ∈ wanted.names index,
        LibraryIndex.Known index (stripQuotes name) wanted.searchDirs path := by
  obtain ⟨used, first, passed⟩ := bind_ok passed
  obtain ⟨referred, second, passed⟩ := bind_ok passed
  obtain ⟨packaged, third, passed⟩ := bind_ok passed
  rw [pure_ok passed, List.mem_append, List.mem_append] at member
  have named : ∀ {names : List String} {lists : List (List String)},
      (names.mapM fun name => index.lookUp host.files name wanted.searchDirs) = .ok lists →
      (∀ name ∈ names, name ∈ wanted.names index) → path ∈ lists.flatten →
      host.files.isFile path = .ok true ∧ ∃ name ∈ wanted.names index,
        LibraryIndex.Known index (stripQuotes name) wanted.searchDirs path := by
    intro names lists ran among member
    obtain ⟨found, listed, here⟩ := List.mem_flatten.mp member
    obtain ⟨name, one, looked⟩ := of_mem_mapM ran listed
    obtain ⟨regular, known⟩ := LibraryIndex.lookUp_known start looked here
    exact ⟨regular, name, among name one, known⟩
  obtain (member | member) | member := member
  · exact .inr (named first (fun _ => List.mem_append_left _) member)
  · exact .inr (named second (fun _ => List.mem_append_right _) member)
  · exact .inl ⟨packaged, third, member⟩

end Library

end ScriptDeps
