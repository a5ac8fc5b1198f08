import ScriptDeps.Distinct
import ScriptDeps.Proofs.Script.UsingLine
import ScriptDeps.Proofs.Script.WrittenPackages

/-!
# Declarations of a script

A text with one declaration on each line gives back what it declares. The lines may be indented,
directives may be spelled in any way, values may be quoted, and lines may end with semicolons and
carriage returns. Only what is empty is lost.
-/

namespace ScriptDeps.Script

/-- What a line declares. -/
inductive Declaration
  | usingNamespace (name : String)
  | reference (value : String)
  | searchDir (value : String)
  | ignoredNamespace (value : String)
  | importScript (name : String) (renamings : List Renaming)
  | package (names : List String) (version : Option String) (noReference : Bool)
  deriving DecidableEq, Repr

namespace Declaration

def Plain : Declaration → Prop
  | usingNamespace name => PlainNamespace name
  | reference value | searchDir value | ignoredNamespace value => PlainValue value
  | importScript name renamings => PlainValue name ∧ ',' ∉ name.toList ∧
    ∀ names ∈ renamings, NameParts names.1.toList ∧ NameParts names.2.toList
  | package names version _ =>
    (∀ name ∈ names, PlainWord name ∧ name.toList.head? ≠ some '-') ∧ ∀ v ∈ version, PlainWord v

instance : (d : Declaration) → Decidable d.Plain
  | usingNamespace name => inferInstanceAs (Decidable (PlainNamespace name))
  | reference value | searchDir value | ignoredNamespace value =>
    inferInstanceAs (Decidable (PlainValue value))
  | importScript name renamings =>
    inferInstanceAs (Decidable (PlainValue name ∧ ',' ∉ name.toList ∧
      ∀ names ∈ renamings, NameParts names.1.toList ∧ NameParts names.2.toList))
  | package names version _ =>
    inferInstanceAs (Decidable ((∀ name ∈ names, PlainWord name ∧ name.toList.head? ≠ some '-') ∧
      ∀ v ∈ version, PlainWord v))

/-- The kind of directive that the declaration is, unless it uses a namespace. -/
def kind? : Declaration → Option DirectiveKind
  | usingNamespace _ => none
  | reference _ => some .reference
  | searchDir _ => some .searchDir
  | ignoredNamespace _ => some .ignoredNamespace
  | importScript _ _ => some .importScript
  | package _ _ _ => some .package

/-- The value of the directive. -/
def written (quote : Option Char) : Declaration → List Char
  | usingNamespace name => name.toList
  | reference value | searchDir value | ignoredNamespace value => wrapped quote value
  | importScript name renamings => writtenImport [' '] name renamings
  | package names version noReference => writtenPackages names version noReference

/-- The line without its line feed. -/
def line (l : Layout) : Declaration → List Char
  | usingNamespace name => l.usingLine name.toList
  | d => l.directiveLine (d.written l.quote)

end Declaration

/-- A line with its layout. -/
abbrev DeclaredLine := Layout × Declaration

@[mk_iff]
structure DeclaredLine.Sound (d : DeclaredLine) : Prop where
  layout : d.1.Sound
  plain : d.2.Plain
  spells : ∀ kind ∈ d.2.kind?, Spells d.1.spelling kind

instance (d : DeclaredLine) : Decidable d.Sound :=
  decidable_of_iff' _ (DeclaredLine.sound_iff d)

/-- The lines of a text; the last may be ended by a line feed. -/
def pieces (declared : List DeclaredLine) (ended : Bool) : List (List Char) :=
  (declared.map fun d => d.2.line d.1) ++ if ended then [[]] else []

def scriptText (declared : List DeclaredLine) (ended : Bool) : String :=
  String.ofList (Text.join '\n' (pieces declared ended))

/-! ### Lines -/

theorem DeclaredLine.Sound.quiet {d : DeclaredLine} (sound : d.Sound) : Quiet (d.2.line d.1) := by
  obtain ⟨l, declared⟩ := d
  obtain ⟨layout, plain, spells⟩ := sound
  cases declared with
  | usingNamespace name => exact layout.usingLine_quiet plain.parts
  | reference value | searchDir value | ignoredNamespace value =>
    exact layout.directiveLine_quiet (spells _ rfl) (harmless_wrapped plain layout.quotes).toQuiet
  | importScript name renamings =>
    obtain ⟨named, -, parts⟩ := plain
    have blank : IsGap [' '] := by decide
    exact layout.directiveLine_quiet (spells _ rfl) (harmless_writtenImport blank named parts).toQuiet
  | package names version noReference =>
    obtain ⟨named, versioned⟩ := plain
    have words : ∀ name ∈ names, PlainWord name := fun name member => (named name member).1
    exact layout.directiveLine_quiet (spells _ rfl)
      (harmless_writtenPackages words versioned noReference).toQuiet

theorem quiet_pieces {declared : List DeclaredLine} (sound : ∀ d ∈ declared, DeclaredLine.Sound d)
    (ended : Bool) : ∀ piece ∈ pieces declared ended, Quiet piece := by
  intro piece member
  rcases List.mem_append.mp member with member | member
  · obtain ⟨d, among, rfl⟩ := List.mem_map.mp member
    exact (sound d among).quiet
  · have empty : piece = [] := by
      cases ended
      · cases member
      · exact List.mem_singleton.mp member
    rw [empty]
    exact quiet_of_forall nofun

theorem pieces_cons (first : DeclaredLine) (rest : List DeclaredLine) (ended : Bool) :
    pieces (first :: rest) ended = first.2.line first.1 :: pieces rest ended := rfl

/-! ### One line -/

namespace Declaration

@[simp]
def namespace? : Declaration → Option String
  | usingNamespace name => some name
  | _ => none

@[simp]
def reference? : Declaration → Option String
  | reference value => some value
  | _ => none

@[simp]
def searchDir? : Declaration → Option String
  | searchDir value => some value
  | _ => none

@[simp]
def ignoredNamespace? : Declaration → Option String
  | ignoredNamespace value => some value
  | _ => none

/-- The import on a line, unless it has neither a name nor renamings. -/
@[simp]
def import? (file : String) (line : Nat) : Declaration → Option Import
  | importScript name renamings =>
    if name = "" ∧ renamings = [] then none
    else some ⟨name, file, renamings.filter isNamed, line⟩
  | _ => none

@[simp]
def packages : Declaration → List PackageReference
  | package names version noReference =>
    (names.filter (· ≠ "")).map fun name => ⟨name, version.filter (· ≠ ""), noReference⟩
  | _ => []

/-- What a directive on a line adds to what is known from the lines before. -/
def addTo (file : String) (d : Directives) (line : Nat) (declared : Declaration) : Directives :=
  { d with
    references := declared.reference?.toList.foldl addNew d.references
    imports := d.imports ++ (declared.import? file line).toList
    searchDirs := declared.searchDir?.toList.foldl addNew d.searchDirs
    packages := d.packages ++ declared.packages
    ignoredNamespaces := declared.ignoredNamespace?.toList.foldl addNew d.ignoredNamespaces }

end Declaration

open Declaration

/-- What declarations say; the first stands on line one. -/
def Directives.ofDeclarations (file : String) (autoClass : Bool) (items : List Declaration) :
    Directives where
  namespaces := distinct (items.filterMap namespace?)
  references := distinct ((items.filterMap reference?).filter (· ≠ ""))
  imports := (items.zipIdx 1).filterMap fun entry => entry.1.import? file entry.2
  searchDirs := distinct ((items.filterMap searchDir?).filter (· ≠ ""))
  packages := items.flatMap Declaration.packages
  ignoredNamespaces := distinct ((items.filterMap ignoredNamespace?).filter (· ≠ ""))
  autoClass

/-- What the lines before have said with what is read from one more. -/
def addLine (file : String) (d : Directives) (line : Nat) (text : List Char) : Directives :=
  match directiveOn? text with
  | some directive => Directives.add file d line directive
  | none => d

theorem addLines_cons (file : String) (d : Directives) (line : Nat) (text : List Char)
    (rest : List (List Char)) : Directives.addLines file d line (text :: rest) =
      Directives.addLines file (addLine file d line text) (line + 1) rest := rfl

theorem addLine_directiveLine {l : Layout} (sound : l.Sound) {kind : DirectiveKind}
    (spells : Spells l.spelling kind) {value : List Char} (plain : ';' ∉ value) (file : String)
    (d : Directives) (line : Nat) : addLine file d line (l.directiveLine value) =
      if Text.trim value = [] then d else Directives.add file d line (kind, Text.trim value) := by
  unfold addLine
  rw [directiveOn?_directiveLine sound spells plain]
  by_cases empty : Text.trim value = []
  · rw [if_pos empty, if_pos (List.isEmpty_iff.mpr empty)]
  · rw [if_neg empty, if_neg (fun none => empty (List.isEmpty_iff.mp none))]

/-- What a quoted value adds. Only an empty one can be written as nothing, and it adds nothing. -/
theorem addLine_wrapped {l : Layout} (sound : l.Sound) {kind : DirectiveKind}
    (spells : Spells l.spelling kind) {value : String} (plain : PlainValue value) (file : String)
    (d : Directives) (line : Nat) (put : String → Directives)
    (adds : ∀ text, Directives.add file d line (kind, text) = put (unquote text))
    (lost : put "" = d) :
    addLine file d line (l.directiveLine (wrapped l.quote value)) = put value := by
  have harmless := harmless_wrapped plain sound.quotes
  rw [addLine_directiveLine sound spells harmless.unended, trim_wrapped plain sound.quotes]
  split
  · rename_i none
    have empty : value.toList = [] := by
      unfold wrapped at none
      exact (List.append_eq_nil_iff.mp (List.append_eq_nil_iff.mp none).1).2
    obtain rfl : value = "" := String.toList_inj.mp empty
    exact lost.symm
  · rw [adds, unquote_wrapped plain sound.quotes]

theorem addLine_import {l : Layout} (sound : l.Sound) (spells : Spells l.spelling .importScript)
    {name : String} (plain : PlainValue name) (whole : ',' ∉ name.toList)
    {renamings : List Renaming}
    (parts : ∀ names ∈ renamings, NameParts names.1.toList ∧ NameParts names.2.toList)
    (file : String) (d : Directives) (line : Nat) :
    addLine file d line (l.directiveLine (writtenImport [' '] name renamings)) =
      (importScript name renamings).addTo file d line := by
  have blank : IsGap [' '] := by decide
  have harmless := harmless_writtenImport blank plain parts
  rw [addLine_directiveLine sound spells harmless.unended, trim_writtenImport plain]
  split
  · rename_i empty
    simp [addTo, writtenImport_eq_nil.mp empty]
  · rename_i some
    rw [writtenImport_eq_nil] at some
    simp [addTo, Directives.add, ofValue_written blank plain whole parts, some]

theorem addLine_packages {l : Layout} (sound : l.Sound) (spells : Spells l.spelling .package)
    {names : List String}
    (plain : ∀ name ∈ names, PlainWord name ∧ name.toList.head? ≠ some '-')
    {version : Option String} (versioned : ∀ v ∈ version, PlainWord v) (noReference : Bool)
    (file : String) (d : Directives) (line : Nat) :
    addLine file d line (l.directiveLine (writtenPackages names version noReference)) =
      (package names version noReference).addTo file d line := by
  have words : ∀ name ∈ names, PlainWord name := fun name member => (plain name member).1
  have harmless := harmless_writtenPackages words versioned noReference
  have added : (package names version noReference).addTo file d line =
      { d with
        packages := d.packages ++
          packagesOfValue (Text.trim (writtenPackages names version noReference)) } := by
    rw [packagesOfValue_written plain versioned]
    simp [addTo]
  rw [addLine_directiveLine sound spells harmless.unended, added]
  split
  · rename_i empty
    have lost : packagesOfValue [] = [] := rfl
    rw [empty, lost, List.append_nil]
  · rfl

theorem addLine_line {d : DeclaredLine} (sound : d.Sound) (file : String) (before : Directives)
    (line : Nat) : addLine file before line (d.2.line d.1) = d.2.addTo file before line := by
  obtain ⟨l, declared⟩ := d
  obtain ⟨layout, plain, spells⟩ := sound
  cases declared with
  | usingNamespace name =>
    have silent : directiveOn? (l.usingLine name.toList) = none := directiveOn?_usingLine layout _
    simp only [Declaration.line, addLine, silent]
    simp [addTo]
  | reference value =>
    have added := addLine_wrapped layout (spells _ rfl) plain file before line
      (fun value => { before with references := addNew before.references value }) (fun _ => rfl) rfl
    simp only [Declaration.line, written, added]
    simp [addTo]
  | searchDir value =>
    have added := addLine_wrapped layout (spells _ rfl) plain file before line
      (fun value => { before with searchDirs := addNew before.searchDirs value }) (fun _ => rfl) rfl
    simp only [Declaration.line, written, added]
    simp [addTo]
  | ignoredNamespace value =>
    have added := addLine_wrapped layout (spells _ rfl) plain file before line
      (fun value => { before with ignoredNamespaces := addNew before.ignoredNamespaces value })
      (fun _ => rfl) rfl
    simp only [Declaration.line, written, added]
    simp [addTo]
  | importScript name renamings =>
    obtain ⟨named, whole, parts⟩ := plain
    exact addLine_import layout (spells _ rfl) named whole parts file before line
  | package names version noReference =>
    obtain ⟨named, versioned⟩ := plain
    exact addLine_packages layout (spells _ rfl) named versioned noReference file before line

/-! ### The whole text -/

/-- What the lines from one on add. -/
def addAll (file : String) (d : Directives) (line : Nat) : List Declaration → Directives
  | [] => d
  | declared :: rest => addAll file (declared.addTo file d line) (line + 1) rest

theorem addLines_pieces {declared : List DeclaredLine}
    (sound : ∀ d ∈ declared, DeclaredLine.Sound d) (ended : Bool) (file : String) (d : Directives)
    (line : Nat) : Directives.addLines file d line (pieces declared ended) =
      addAll file d line (declared.map (·.2)) := by
  induction declared generalizing d line with
  | nil => cases ended <;> rfl
  | cons first rest ih =>
    obtain ⟨here, later⟩ := List.forall_mem_cons.mp sound
    rw [pieces_cons, addLines_cons, addLine_line here, ih later, List.map_cons, addAll]

theorem addAll_eq (file : String) (d : Directives) (line : Nat) (declared : List Declaration) :
    addAll file d line declared =
      { d with
        references := (declared.filterMap reference?).foldl addNew d.references
        imports := d.imports ++ (declared.zipIdx line).filterMap fun entry =>
          entry.1.import? file entry.2
        searchDirs := (declared.filterMap searchDir?).foldl addNew d.searchDirs
        packages := d.packages ++ declared.flatMap packages
        ignoredNamespaces :=
          (declared.filterMap ignoredNamespace?).foldl addNew d.ignoredNamespaces } := by
  induction declared generalizing d line with
  | nil => simp [addAll]
  | cons first rest ih =>
    have one : ∀ {α β : Type} (f : α → Option β) (a : α) (rest : List α),
        (a :: rest).filterMap f = (f a).toList ++ rest.filterMap f := by
      intro α β f a rest
      cases known : f a <;> simp [known]
    rw [addAll, ih, List.zipIdx_cons, one reference?, one searchDir?, one ignoredNamespace?, one,
      List.flatMap_cons]
    simp [addTo, List.foldl_append]

theorem foldl_addNew {seen kept : List String} (same : ∀ item, item ∈ seen ↔ item ∈ kept)
    (items : List String) : items.foldl addNew kept =
      kept ++ keepFirst (· == ·) some seen (items.filter (· ≠ "")) := by
  induction items generalizing seen kept with
  | nil => simp [keepFirst]
  | cons item rest ih =>
    rw [List.foldl_cons]
    by_cases empty : item = ""
    · have skipped : addNew kept item = kept := by
        rw [empty]
        rfl
      rw [skipped, ih same, List.filter_cons_of_neg (by simpa using empty)]
    · rw [List.filter_cons_of_pos (by simpa using empty), keepFirst]
      by_cases old : item ∈ kept
      · have skipped : addNew kept item = kept := if_pos (by simp [old])
        have taken : seen.any (item == ·) = true := by simpa using (same item).mpr old
        rw [skipped, ih same]
        simp only [taken, if_true]
      · have added : addNew kept item = kept ++ [item] :=
          if_neg (by simp [old, String.isEmpty_iff, empty])
        have free : seen.any (item == ·) = false := by
          have absent : item ∉ seen := fun member => old ((same item).mp member)
          rw [List.any_eq_false]
          intro other member equal
          exact absent (beq_iff_eq.mp equal ▸ member)
        have both : ∀ other, other ∈ item :: seen ↔ other ∈ kept ++ [item] := by
          intro other
          rw [List.mem_cons, List.mem_append, List.mem_singleton, same other, or_comm]
        rw [added, ih both]
        simp [free]

/-- What is kept of some items: each once, and none that is empty. -/
theorem foldl_addNew_nil (items : List String) :
    items.foldl addNew [] = distinct (items.filter (· ≠ "")) := by
  have none : ∀ item : String, item ∈ ([] : List String) ↔ item ∈ ([] : List String) := fun _ =>
    Iff.rfl
  rw [foldl_addNew none, List.nil_append]
  rfl

/-! ### Namespaces -/

theorem afterBreaks_of_notMem {text : List Char} (oneLine : '\n' ∉ text) :
    afterBreaks text = [] := by
  induction text with
  | nil => rfl
  | cons c rest ih =>
    obtain ⟨other, oneLine⟩ := List.ne_and_not_mem_of_not_mem_cons oneLine
    rw [afterBreaks, if_neg (by simpa using Ne.symm other), ih oneLine]

theorem afterBreaks_append {piece : List Char} (oneLine : '\n' ∉ piece) (rest : List Char) :
    afterBreaks (piece ++ '\n' :: rest) = lineTails rest := by
  induction piece with
  | nil => rfl
  | cons c piece ih =>
    obtain ⟨other, oneLine⟩ := List.ne_and_not_mem_of_not_mem_cons oneLine
    rw [List.cons_append, afterBreaks, if_neg (by simpa using Ne.symm other), ih oneLine]

theorem usingAt?_line {d : DeclaredLine} (sound : d.Sound) (rest : List Char) :
    usingAt? (d.2.line d.1 ++ rest) = d.2.namespace? := by
  obtain ⟨l, declared⟩ := d
  obtain ⟨layout, plain, -⟩ := sound
  cases declared with
  | usingNamespace name => exact usingAt?_usingLine layout plain rest
  | reference | searchDir | ignoredNamespace | importScript | package =>
    exact usingAt?_directiveLine layout _ rest

theorem namespaces_pieces {declared : List DeclaredLine}
    (sound : ∀ d ∈ declared, DeclaredLine.Sound d) (ended : Bool) :
    (lineTails (Text.join '\n' (pieces declared ended))).filterMap usingAt? =
      (declared.map (·.2)).filterMap namespace? := by
  induction declared with
  | nil => cases ended <;> rfl
  | cons first rest ih =>
    obtain ⟨here, later⟩ := List.forall_mem_cons.mp sound
    have last := usingAt?_line here []
    rw [List.append_nil] at last
    rw [pieces_cons, List.map_cons, List.filterMap_cons, ← ih later]
    cases pieces rest ended with
    | nil =>
      have alone : Text.join '\n' [first.2.line first.1] = first.2.line first.1 := rfl
      have none : (lineTails (Text.join '\n' [])).filterMap usingAt? = [] := rfl
      rw [none, alone, lineTails, afterBreaks_of_notMem here.quiet.oneLine, List.filterMap_cons,
        last, List.filterMap_nil]
    | cons next others =>
      rw [Text.join, lineTails, afterBreaks_append here.quiet.oneLine, List.filterMap_cons,
        usingAt?_line here]
      exact List.cons_ne_nil next others

theorem namespaces_named {declared : List DeclaredLine}
    (sound : ∀ d ∈ declared, DeclaredLine.Sound d) :
    ((declared.map (·.2)).filterMap namespace?).filter (· ≠ "") =
      (declared.map (·.2)).filterMap namespace? := by
  refine List.filter_eq_self.mpr fun name member => ?_
  obtain ⟨item, among, used⟩ := List.mem_filterMap.mp member
  obtain ⟨d, line, rfl⟩ := List.mem_map.mp among
  obtain ⟨-, plain, -⟩ := sound d line
  obtain ⟨l, declared⟩ := d
  cases declared with
  | usingNamespace other =>
    obtain rfl : other = name := Option.some.inj used
    have starts := PlainNamespace.starts plain
    rw [decide_eq_true_iff]
    rintro rfl
    cases starts
  | reference | searchDir | ignoredNamespace | importScript | package => cases used

/-- Every declaration comes back in its place, but for repeated and empty ones. -/
theorem ofText_scriptText {declared : List DeclaredLine}
    (sound : ∀ d ∈ declared, DeclaredLine.Sound d) (ended : Bool) (file : String) :
    Directives.ofText (scriptText declared ended) file =
      .ofDeclarations file (asksForClass (scriptText declared ended)) (declared.map (·.2)) := by
  have visible : blankComments (scriptText declared ended).toList =
      Text.join '\n' (pieces declared ended) := by
    unfold scriptText
    rw [String.toList_ofList]
    exact blankComments_of_uncommented (uncommented_join (quiet_pieces sound ended))
  have cut : ∀ d : Directives, Directives.addLines file d 1
      (lines (Text.join '\n' (pieces declared ended))) =
        Directives.addLines file d 1 (pieces declared ended) := by
    intro d
    cases known : pieces declared ended with
    | nil => rfl
    | cons first rest =>
      have quiet := quiet_pieces sound ended
      rw [known] at quiet
      unfold lines
      rw [Text.split_join (List.cons_ne_nil first rest) fun piece member =>
        (quiet piece member).oneLine]
  unfold Directives.ofText
  dsimp only
  rw [visible, cut, addLines_pieces sound, addAll_eq, namespaces_pieces sound]
  simp only [foldl_addNew_nil, namespaces_named sound, List.nil_append]
  rfl

def sampleLines : List DeclaredLine :=
  [(⟨[], [], [' '], none, true, false⟩, .usingNamespace "A.B"),
   (⟨['\t'], "REF".toList, [' '], some '"', true, true⟩, .reference "a b.dll"),
   (⟨[' '], "Inc".toList, ['\t'], none, false, false⟩, .importScript "io.cs" [("A.B", "C_1")]),
   (⟨[], "nuget".toList, [' '], none, false, true⟩, .package ["Json"] (some "1.2") true),
   (⟨[], "r".toList, [' '], some '\'', false, false⟩, .reference "a b.dll")]

theorem ofText_sampleLines :
    (∀ d ∈ sampleLines, DeclaredLine.Sound d) ∧
    scriptText sampleLines true =
      "using A.B;\n\t//css_REF \"a b.dll\";\r\n //css_Inc\tio.cs, rename_namespace(A.B, C_1)\n" ++
      "//css_nuget -noref -ver:1.2 Json\r\n//css_r 'a b.dll'\n" ∧
    Directives.ofText (scriptText sampleLines true) "main.cs" =
      { namespaces := ["A.B"]
        references := ["a b.dll"]
        imports := [⟨"io.cs", "main.cs", [("A.B", "C_1")], 3⟩]
        packages := [⟨"Json", some "1.2", true⟩] } := by
  have sound : ∀ d ∈ sampleLines, DeclaredLine.Sound d := by decide +kernel
  have read := ofText_scriptText sound true "main.cs"
  exact ⟨sound, by decide +kernel, read.trans (by decide +kernel)⟩

/-- The line of an empty reference, with quotes. -/
def emptyReference : DeclaredLine :=
  (⟨[], "ref".toList, [' '], some '"', false, false⟩, .reference "")

/-- Nothing comes back of an empty reference, or of a using declaration without its semicolon. -/
theorem ofText_emptyReference :
    emptyReference.Sound ∧ scriptText [emptyReference] true = "//css_ref \"\"\n" ∧
    (Directives.ofText "//css_ref \"\"\n" "main.cs").references ≠ [""] ∧
    (Directives.ofText "using System\n" "main.cs").namespaces ≠ ["System"] := by
  decide +kernel

end ScriptDeps.Script
