import ScriptDeps.Proofs.Script.Declarations
import ScriptDeps.Proofs.Script.Runs
import ScriptDeps.Proofs.Script.VisibleLines
import ScriptDeps.Script.ImportGraph

/-!
# Directives of renamed texts

Renaming rewrites a text line by line, directives like everything else, and puts no mark of a
comment in and takes none out. So a line that it leaves alone declares what it declared before, and
a renamed script depends on the same references, directories, packages and files if the lines that
are changed do.
-/

namespace ScriptDeps.Script

/-! ### Lines are renamed by themselves -/

section

variable {old new : List Char}

theorem IsRun.notMem {run : List Char} (isRun : IsRun run) {c : Char}
    (gap : isRunPart c = false) : c ∉ run := fun member =>
  Bool.false_ne_true (gap.symm.trans (isRun.parts c member))

theorem split_prepend {separator : Char} {before : List Char} (whole : separator ∉ before)
    {rest piece : List Char} {pieces : List (List Char)}
    (cut : Text.split separator rest = piece :: pieces) :
    Text.split separator (before ++ rest) = (before ++ piece) :: pieces := by
  induction before with
  | nil => exact cut
  | cons c before ih =>
    obtain ⟨other, whole⟩ := List.ne_and_not_mem_of_not_mem_cons whole
    rw [List.cons_append, Text.split, if_neg (by simpa using Ne.symm other), ih whole]
    rfl

theorem split_startsApart {separator : Char} {rest piece : List Char} {pieces : List (List Char)}
    (apart : StartsApart rest) (cut : Text.split separator rest = piece :: pieces) :
    StartsApart piece := by
  have whole := Text.join_split separator rest
  rw [cut] at whole
  cases piece with
  | nil => nofun
  | cons c piece =>
    rw [Text.join_cons_cons] at whole
    exact startsApart_cons (apart c (by rw [← whole]; rfl)) piece

theorem isRunPart_break : isRunPart '\n' = false := by decide +kernel

theorem lines_renameRuns (isOld : IsRun old) (isNew : IsRun new) (text : List Char) :
    lines (renameRuns old new text) = (lines text).map (renameRuns old new) := by
  unfold lines
  induction text using runs_induction with
  | nil => rfl
  | gap c rest gap ih =>
    rw [renameRuns_gap isOld gap]
    by_cases feed : c = '\n'
    · have cut (rest : List Char) : Text.split '\n' ('\n' :: rest) = [] :: Text.split '\n' rest :=
        Text.split_append List.not_mem_nil rest
      rw [feed, cut, cut, ih, List.map_cons]
      rfl
    · obtain ⟨piece, pieces, cut⟩ := List.exists_cons_of_ne_nil (Text.split_ne_nil '\n' rest)
      have single : '\n' ∉ [c] := by simpa using Ne.symm feed
      rw [cut, List.map_cons] at ih
      have renamed := split_prepend single ih
      have plain := split_prepend single cut
      rw [List.singleton_append, List.singleton_append] at renamed plain
      rw [renamed, plain, List.map_cons, renameRuns_gap isOld gap]
  | run run rest isRun apart ih =>
    obtain ⟨piece, pieces, cut⟩ := List.exists_cons_of_ne_nil (Text.split_ne_nil '\n' rest)
    rw [cut, List.map_cons] at ih
    rw [renameRuns_run isRun apart,
      split_prepend ((renameRun_isRun isNew isRun).notMem isRunPart_break) ih,
      split_prepend (isRun.notMem isRunPart_break) cut, List.map_cons,
      renameRuns_run isRun (split_startsApart apart cut)]

/-! ### Marks of comments are kept -/

theorem head?_renameRuns (isOld : IsRun old) (isNew : IsRun new) {c : Char}
    (gap : isRunPart c = false) (text : List Char) :
    ((renameRuns old new text).head? == some c) = (text.head? == some c) := by
  induction text using runs_induction with
  | nil => rfl
  | gap d rest other => rw [renameRuns_gap isOld other]; rfl
  | run run rest isRun apart =>
    have absent {run : List Char} (isRun : IsRun run) (rest : List Char) :
        ((run ++ rest).head? == some c) = false := by
      obtain ⟨d, run, rfl⟩ := List.exists_cons_of_ne_nil isRun.nonempty
      rw [beq_eq_false_iff_ne]
      intro same
      exact isRun.notMem gap (Option.some.inj same ▸ List.mem_cons_self)
    rw [renameRuns_run isRun apart, absent (renameRun_isRun isNew isRun), absent isRun]

theorem tail_renameRuns (isOld : IsRun old) {c : Char} (gap : isRunPart c = false)
    {text : List Char} (marked : (text.head? == some c) = true) :
    (renameRuns old new text).tail = renameRuns old new text.tail := by
  obtain ⟨rest, rfl⟩ := List.head?_eq_some_iff.mp (beq_iff_eq.mp marked)
  rw [renameRuns_gap isOld gap]
  rfl

theorem isRunPart_slash : isRunPart '/' = false := by decide +kernel

theorem isRunPart_star : isRunPart '*' = false := by decide +kernel

theorem hasClose_run {run : List Char} (unmarked : '*' ∉ run) (rest : List Char) :
    hasClose (run ++ rest) = hasClose rest := by
  induction run with
  | nil => rfl
  | cons c run ih =>
    obtain ⟨other, unmarked⟩ := List.ne_and_not_mem_of_not_mem_cons unmarked
    rw [List.cons_append, hasClose_cons, ih unmarked, beq_eq_false_iff_ne.mpr other.symm,
      Bool.false_and, Bool.false_or]

theorem blankLine_run {run : List Char} (noStar : '*' ∉ run) (noSlash : '/' ∉ run)
    (later inside : Bool) (rest : List Char) :
    (blankLine later inside (run ++ rest)).2 = (blankLine later inside rest).2 := by
  induction run with
  | nil => rfl
  | cons c run ih =>
    obtain ⟨notStar, noStar⟩ := List.ne_and_not_mem_of_not_mem_cons noStar
    obtain ⟨notSlash, noSlash⟩ := List.ne_and_not_mem_of_not_mem_cons noSlash
    cases inside with
    | true =>
      rw [List.cons_append, blankLine, beq_eq_false_iff_ne.mpr notStar.symm, Bool.false_and,
        if_neg Bool.false_ne_true, ih noStar noSlash]
    | false =>
      rw [List.cons_append, blankLine, beq_eq_false_iff_ne.mpr notSlash.symm, Bool.false_and,
        Bool.false_and, if_neg Bool.false_ne_true, ← ih noStar noSlash]
      rfl

theorem hasClose_renameRuns (isOld : IsRun old) (isNew : IsRun new) (text : List Char) :
    hasClose (renameRuns old new text) = hasClose text := by
  induction text using runs_induction with
  | nil => rfl
  | gap c rest gap ih =>
    rw [renameRuns_gap isOld gap, hasClose_cons, hasClose_cons, ih,
      head?_renameRuns isOld isNew isRunPart_slash]
  | run run rest isRun apart ih =>
    rw [renameRuns_run isRun apart,
      hasClose_run ((renameRun_isRun isNew isRun).notMem isRunPart_star), ih,
      hasClose_run (isRun.notMem isRunPart_star)]

/-- A mark is two characters, so this is known of what follows a text's first one as well. -/
theorem ends_renameRuns (isOld : IsRun old) (isNew : IsRun new) (later : Bool) (text : List Char) :
    (∀ inside, (blankLine later inside (renameRuns old new text)).2 =
      (blankLine later inside text).2) ∧
    ∀ c rest, text = c :: rest → isRunPart c = false → ∀ inside,
      (blankLine later inside (renameRuns old new rest)).2 = (blankLine later inside rest).2 := by
  induction text using runs_induction with
  | nil => exact ⟨fun _ => rfl, nofun⟩
  | gap c rest gap ih =>
    refine ⟨fun inside => ?_, fun d after same _ => (List.cons.inj same).2 ▸ ih.1⟩
    have after {d : Char} (other : isRunPart d = false) (marked : (rest.head? == some d) = true) :
        ∀ inside, (blankLine later inside (renameRuns old new rest).tail).2 =
          (blankLine later inside rest.tail).2 := by
      rw [tail_renameRuns isOld other marked]
      obtain ⟨more, rfl⟩ := List.head?_eq_some_iff.mp (beq_iff_eq.mp marked)
      exact ih.2 d more rfl other
    rw [renameRuns_gap isOld gap]
    cases inside with
    | true =>
      rw [blankLine, blankLine, head?_renameRuns isOld isNew isRunPart_slash]
      split
      · rename_i ends
        exact after isRunPart_slash (Bool.and_eq_true_iff.mp ends).2 false
      · exact ih.1 true
    | false =>
      rw [blankLine, blankLine, head?_renameRuns isOld isNew isRunPart_star]
      cases star : rest.head? == some '*' with
      | false =>
        rw [Bool.and_false, Bool.false_and, Bool.false_and]
        exact ih.1 false
      | true =>
        have closes : hasClose (renameRuns old new rest).tail = hasClose rest.tail := by
          rw [tail_renameRuns isOld isRunPart_star star, hasClose_renameRuns isOld isNew]
        rw [closes]
        split
        · exact after isRunPart_star star true
        · exact ih.1 false
  | run run rest isRun apart ih =>
    refine ⟨fun inside => ?_, fun c after same gap => ?_⟩
    · have renamed : IsRun (renameRun old new run) := renameRun_isRun isNew isRun
      rw [renameRuns_run isRun apart,
        blankLine_run (renamed.notMem isRunPart_star) (renamed.notMem isRunPart_slash), ih.1,
        blankLine_run (isRun.notMem isRunPart_star) (isRun.notMem isRunPart_slash)]
    · obtain ⟨d, tail, rfl⟩ := List.exists_cons_of_ne_nil isRun.nonempty
      obtain ⟨rfl, _⟩ := List.cons.inj same
      exact absurd List.mem_cons_self (isRun.notMem gap)

theorem keepsMarks_renameRuns (isOld : IsRun old) (isNew : IsRun new) :
    KeepsMarks (renameRuns old new) where
  closes := hasClose_renameRuns isOld isNew
  ends later inside line := (ends_renameRuns isOld isNew later line).1 inside

end

/-- A line after renamings. -/
def renameLine (renamings : List Renaming) (line : List Char) : List Char :=
  renamings.foldl (fun line names => renameRuns names.1.toList names.2.toList line) line

theorem renameLine_cons (names : Renaming) (rest : List Renaming) (line : List Char) :
    renameLine (names :: rest) line =
      renameLine rest (renameRuns names.1.toList names.2.toList line) := rfl

theorem lines_renameLine {renamings : List Renaming} (dotted : Dotted renamings)
    (text : List Char) : lines (renameLine renamings text) = (lines text).map (renameLine renamings) := by
  induction renamings generalizing text with
  | nil => exact (List.map_id _).symm
  | cons names rest ih =>
    obtain ⟨⟨first, second⟩, later⟩ := List.forall_mem_cons.mp dotted
    rw [renameLine_cons, ih later, lines_renameRuns first.isRun second.isRun, List.map_map]
    rfl

theorem keepsMarks_renameLine {renamings : List Renaming} (dotted : Dotted renamings) :
    KeepsMarks (renameLine renamings) := by
  induction renamings with
  | nil => exact KeepsMarks.id
  | cons names rest ih =>
    obtain ⟨⟨first, second⟩, later⟩ := List.forall_mem_cons.mp dotted
    exact (ih later).comp (keepsMarks_renameRuns first.isRun second.isRun)

theorem renameAll_eq_renameLine (text : String) {renamings : List Renaming}
    (dotted : Dotted renamings) :
    renameAll text renamings = .ok (String.ofList (renameLine renamings text.toList)) :=
  renameAll_eq_renameRuns text dotted

theorem renameLine_of_unled {renamings : List Renaming} {line : List Char}
    (unled : ∀ names ∈ renamings, ∀ run ∈ cutRuns line, ¬ Leads names.1.toList run) :
    renameLine renamings line = line := by
  induction renamings with
  | nil => rfl
  | cons names rest ih =>
    obtain ⟨here, later⟩ := List.forall_mem_cons.mp unled
    rw [renameLine_cons, renameRuns_of_unled here, ih later]

/-! ### What a script depends on -/

/-- What a directive makes a script depend on. -/
inductive Dependency
  | reference (name : String)
  | searchDir (dir : String)
  | packages (packages : List PackageReference)
  | importedFile (name : String)
  deriving DecidableEq, Repr

/-- What the directive on a line makes a script depend on. -/
def dependencyOn? (line : List Char) : Option Dependency :=
  (directiveOn? line).bind fun
    | (.reference, value) => some (.reference (unquote value))
    | (.searchDir, value) => some (.searchDir (unquote value))
    | (.package, value) => some (.packages (packagesOfValue value))
    | (.importScript, value) => some (.importedFile (unquote (Text.cutAt ',' value).1))
    | _ => none

/-- All that the directives of a script make it depend on. -/
structure Dependencies where
  references : List String := []
  searchDirs : List String := []
  packages : List PackageReference := []
  importedFiles : List String := []
  deriving DecidableEq, Repr

def Dependencies.add (d : Dependencies) : Dependency → Dependencies
  | .reference name => { d with references := addNew d.references name }
  | .searchDir dir => { d with searchDirs := addNew d.searchDirs dir }
  | .packages packages => { d with packages := d.packages ++ packages }
  | .importedFile name => { d with importedFiles := d.importedFiles ++ [name] }

def Directives.dependencies (d : Directives) : Dependencies where
  references := d.references
  searchDirs := d.searchDirs
  packages := d.packages
  importedFiles := d.imports.map (·.name)

theorem addLine_dependencies (file : String) (d : Directives) (number : Nat) (line : List Char) :
    (addLine file d number line).dependencies =
      (dependencyOn? line).elim d.dependencies d.dependencies.add := by
  unfold addLine dependencyOn?
  cases directiveOn? line with
  | none => rfl
  | some directive =>
    obtain ⟨kind, value⟩ := directive
    rw [Option.bind_some]
    cases kind with
    | importScript =>
      simp only [Directives.add, Directives.dependencies, Import.ofValue, Option.elim_some,
        Dependencies.add, List.map_append, List.map_cons, List.map_nil]
    | _ =>
      simp only [Directives.add, Directives.dependencies, Option.elim_some, Option.elim_none,
        Dependencies.add]

theorem addLines_dependencies (file : String) (d : Directives) (number : Nat)
    (lines : List (List Char)) :
    (Directives.addLines file d number lines).dependencies =
      (lines.filterMap dependencyOn?).foldl .add d.dependencies := by
  induction lines generalizing d number with
  | nil => rfl
  | cons line rest ih =>
    rw [addLines_cons, ih, addLine_dependencies]
    cases found : dependencyOn? line with
    | none => rw [List.filterMap_cons_none found]; rfl
    | some dependency => rw [List.filterMap_cons_some found]; rfl

theorem dependencies_ofText (text file : String) :
    (Directives.ofText text file).dependencies =
      (((visible text).map dependencyOn?).filterMap id).foldl .add {} := by
  rw [Directives.ofText, addLines_dependencies, List.filterMap_map]
  rfl

/-- What a script file depends on, with the directories where they are. -/
def ScriptFile.dependsOn (file : ScriptFile) : Dependencies × List String :=
  (file.directives.dependencies, file.searchDirs)

/-- The directories that a script in a directory declares, where they are. -/
def declaredDirs (fs : FileSystem) (path : Path) (dirs : List String) :
    Except Failure (List String) :=
  dirs.mapM fun dir => do
    return (← fs.resolvePath (path.parent.child dir)).text

theorem scriptFile_dependsOn (fs : FileSystem) (path : Path) {content renamed : String}
    {renamings : List Renaming} (h : renameAll content renamings = .ok renamed) :
    (scriptFile fs path content renamings).map ScriptFile.dependsOn =
      let depends := (Directives.ofText renamed path.text).dependencies
      (declaredDirs fs path depends.searchDirs).map (depends, ·) := by
  have read : ∃ generated, generate content renamings = .ok generated ∧
      generated.getD content = renamed := by
    cases renamings with
    | nil => exact ⟨none, rfl, Except.ok.inj h⟩
    | cons names rest =>
      refine ⟨some renamed, ?_, rfl⟩
      rw [generate, if_neg (by simp), h]
      rfl
  obtain ⟨generated, made, same⟩ := read
  rw [scriptFile, made, ok_bind]
  dsimp only
  rw [same, ← declaredDirs]
  change (declaredDirs fs path (Directives.ofText renamed path.text).searchDirs >>= _).map _ =
    (declaredDirs fs path (Directives.ofText renamed path.text).searchDirs).map _
  cases declaredDirs fs path (Directives.ofText renamed path.text).searchDirs <;> rfl

/-- Renaming rewrites a text line by line, and on a line only the runs that an old name leads. A
line that it leaves alone is seen as before, and if each line that it changes still makes the script
depend on the same, then the whole script does. -/
theorem renamed_dependencies (text : String) (renamings : List Renaming)
    (dotted : Dotted renamings) :
    ∃ renamed, renameAll text renamings = .ok renamed ∧
      lines renamed.toList = (lines text.toList).map (renameLine renamings) ∧
      (∀ line, (∀ names ∈ renamings, ∀ run ∈ cutRuns line, ¬ Leads names.1.toList run) →
        renameLine renamings line = line) ∧
      (∀ (i : Nat) (line : List Char), (lines text.toList)[i]? = some line →
          renameLine renamings line = line →
        (visible renamed)[i]? = (visible text)[i]?) ∧
      ((∀ (i : Nat) (line : List Char), (lines text.toList)[i]? = some line →
          renameLine renamings line ≠ line →
          (visible renamed)[i]?.map dependencyOn? = (visible text)[i]?.map dependencyOn?) →
        (∀ file, (Directives.ofText renamed file).dependencies =
          (Directives.ofText text file).dependencies) ∧
        ∀ fs path, (scriptFile fs path text renamings).map ScriptFile.dependsOn =
          (scriptFile fs path text []).map ScriptFile.dependsOn) := by
  have named := renameAll_eq_renameLine text dotted
  generalize made : String.ofList (renameLine renamings text.toList) = renamed at named
  have lined : lines renamed.toList = (lines text.toList).map (renameLine renamings) := by
    rw [← made, String.toList_ofList, lines_renameLine dotted]
  have seen (i : Nat) (line : List Char) (there : (lines text.toList)[i]? = some line)
      (same : renameLine renamings line = line) :
      (visible renamed)[i]? = (visible text)[i]? := by
    rw [visible_eq, visible_eq, lined]
    exact (keepsMarks_renameLine dotted).visibleLines there same false
  refine ⟨renamed, named, lined, fun _ => renameLine_of_unled, seen, fun changed => ?_⟩
  have same : (visible renamed).map dependencyOn? = (visible text).map dependencyOn? := by
    refine List.ext_getElem? fun i => ?_
    rw [List.getElem?_map, List.getElem?_map]
    cases there : (lines text.toList)[i]? with
    | none =>
      have short : (lines text.toList).length ≤ i := List.getElem?_eq_none_iff.mp there
      rw [visible_eq, visible_eq, lined, List.getElem?_eq_none, List.getElem?_eq_none]
      · rwa [length_visibleLines]
      · rwa [length_visibleLines, List.length_map]
    | some line =>
      by_cases kept : renameLine renamings line = line
      · rw [seen i line there kept]
      · exact changed i line there kept
  have depends (file : String) : (Directives.ofText renamed file).dependencies =
      (Directives.ofText text file).dependencies := by
    rw [dependencies_ofText, dependencies_ofText, same]
  refine ⟨depends, fun fs path => ?_⟩
  have plain : renameAll text [] = .ok text := rfl
  rw [scriptFile_dependsOn fs path named, scriptFile_dependsOn fs path plain, depends]

theorem renamed_dependencies_using :
    Dotted [("Acme", "Other")] ∧
      renameAll "using Acme.Io;\n//css_ref Lib.dll" [("Acme", "Other")] =
        .ok "using Other.Io;\n//css_ref Lib.dll" ∧
      (Directives.ofText "using Other.Io;\n//css_ref Lib.dll" "").dependencies =
        (Directives.ofText "using Acme.Io;\n//css_ref Lib.dll" "").dependencies := by
  obtain ⟨renamed, made, _, _, _, same⟩ :=
    renamed_dependencies "using Acme.Io;\n//css_ref Lib.dll" _ dotted_acme
  have named : renameAll "using Acme.Io;\n//css_ref Lib.dll" [("Acme", "Other")] =
      .ok "using Other.Io;\n//css_ref Lib.dll" :=
    (renameAll_eq_renameLine _ dotted_acme).trans (by decide +kernel)
  obtain rfl := Except.ok.inj (named.symm.trans made)
  refine ⟨dotted_acme, named, (same fun i line there changed => ?_).1 ""⟩
  match i with
  | 0 => decide +kernel
  | 1 =>
    obtain rfl := Option.some.inj there
    exact absurd (by decide +kernel) changed
  | i + 2 => cases there

/-- A reference that begins with the old name is to another assembly afterwards. -/
theorem renamed_reference :
    Dotted [("Acme", "Other")] ∧
      renameAll "//css_ref Acme.dll" [("Acme", "Other")] = .ok "//css_ref Other.dll" ∧
      (Directives.ofText "//css_ref Acme.dll" "").references = ["Acme.dll"] ∧
      (Directives.ofText "//css_ref Other.dll" "").references = ["Other.dll"] :=
  ⟨dotted_acme, (renameAll_eq_renameLine _ dotted_acme).trans (by decide +kernel),
    by decide +kernel, by decide +kernel⟩

end ScriptDeps.Script
