import ScriptDeps.Proofs.Script.Renaming
import ScriptDeps.Proofs.Script.WrittenValues

/-!
# Import lines

What a script declares whose only line imports another one under one renaming. All names are made of
name characters, so nothing else on the line can be taken for a comment or for a renaming.
-/

namespace ScriptDeps.Script

/-- The option of an import that renames one namespace. -/
def renamingOption (old new : List Char) : List Char :=
  optionStart ++ (old ++ ',' :: (new ++ [')']))

/-- How a line that imports a file begins. -/
def lineStart : List Char := "//css_inc ".toList

/-- A line that imports a file and renames one namespace in it. -/
def importLine (file old new : List Char) : List Char :=
  lineStart ++ (file ++ ',' :: renamingOption old new)

def importLayout : Layout := ⟨[], "inc".toList, [' '], none, false, false⟩

theorem importLine_eq (file old new : List Char) : importLine file old new =
    importLayout.directiveLine
      (writtenImport [] (String.ofList file) [(String.ofList old, String.ofList new)]) := by
  have starts : lineStart = "//css_".toList ++ ("inc".toList ++ [' ']) := by decide +kernel
  rw [importLine, starts]
  simp [Layout.directiveLine, importLayout, Layout.ending, Layout.lineEnd, writtenImport,
    renamingText, renamingOption]

/-- What a script declares that only imports another one under a renaming. -/
theorem ofText_importLine {file old new : List Char} (fileDotted : IsDotted file)
    (oldDotted : IsDotted old) (newDotted : IsDotted new) (path : String) :
    (Directives.ofText (String.ofList (importLine file old new)) path).imports =
        [⟨String.ofList file, path, [(String.ofList old, String.ofList new)], 1⟩] ∧
      (Directives.ofText (String.ofList (importLine file old new)) path).searchDirs = [] := by
  have layout : importLayout.Sound := by decide +kernel
  have spells : Spells importLayout.spelling .importScript := by decide +kernel
  have blank : IsGap [] := by decide
  have parts : ∀ names ∈ [(String.ofList old, String.ofList new)],
      NameParts names.1.toList ∧ NameParts names.2.toList := by
    simpa using ⟨oldDotted.parts, newDotted.parts⟩
  have plain : PlainValue (String.ofList file) := NameParts.plainValue fileDotted.parts
  have whole : ',' ∉ (String.ofList file).toList := by
    rw [String.toList_ofList]
    exact fileDotted.notMem (by decide)
  have value := harmless_writtenImport blank plain parts
  have line := layout.directiveLine_quiet spells value.toQuiet
  have read := ofValue_written blank plain whole parts path 1
  have directive := directiveOn?_directiveLine layout spells value.unended
  have some : (writtenImport [] (String.ofList file)
      [(String.ofList old, String.ofList new)]).isEmpty = false := by
    simp [writtenImport, fileDotted.nonempty]
  have named : isNamed (String.ofList old, String.ofList new) = true := by
    simp [isNamed, oldDotted.nonempty, newDotted.nonempty]
  rw [trim_writtenImport plain, some, if_neg Bool.false_ne_true] at directive
  rw [List.filter_singleton, named] at read
  rw [importLine_eq, Directives.ofText, String.toList_ofList,
    blankComments_of_uncommented line.uncommented, lines, Text.split_of_notMem line.oneLine]
  simp only [Directives.addLines, directive, Directives.add, read]
  exact ⟨rfl, trivial⟩

/-- A line whose new name begins with the only occurrence of a one-letter name. -/
theorem rename_importLine {file old rest new : List Char} {c : Char}
    (first : c ∉ lineStart ++ (file ++ ',' :: (optionStart ++ (old ++ [',']))))
    (last : c ∉ rest ++ [')']) (ends : Text.startsWithWord (rest ++ [')']) = false)
    (plain : '\\' ∉ new) :
    rename (String.ofList (importLine file old (c :: rest))) (String.ofList [c], String.ofList new)
      = .ok (String.ofList (importLine file old (new ++ rest))) := by
  have line : ∀ name, importLine file old (name ++ rest) =
      lineStart ++ (file ++ ',' :: (optionStart ++ (old ++ [',']))) ++ (name ++ (rest ++ [')'])) := by
    simp [importLine, renamingOption]
  have free : isBoundary
      (lineStart ++ (file ++ ',' :: (optionStart ++ (old ++ [','])))).getLast? = true := by
    rw [show lineStart ++ (file ++ ',' :: (optionStart ++ (old ++ [',']))) =
      (lineStart ++ (file ++ ',' :: (optionStart ++ old))) ++ [','] by simp, List.getLast?_concat]
    decide +kernel
  have once := @replaceFrom_once c new _ _ first last free ends
  have renamed := @rename_plain (String.ofList (importLine file old (c :: rest)))
    (String.ofList [c], String.ofList new) (by rwa [String.toList_ofList])
  simp only [String.toList_ofList] at renamed
  rw [renamed, show c :: rest = [c] ++ rest from rfl, line [c], line new]
  exact congrArg (fun text => Except.ok (String.ofList text)) once

/-- A file whose text is such a line after it has been renamed. -/
theorem scriptFile_importLine {fs : FileSystem} {path : Path} {content : String}
    {names : Renaming} {file old new : List Char} (fileDotted : IsDotted file)
    (oldDotted : IsDotted old) (newDotted : IsDotted new)
    (renamed : rename content names = .ok (String.ofList (importLine file old new))) :
    ∃ parsed, scriptFile fs path content [names] = .ok parsed ∧ parsed.searchDirs = [] ∧
      parsed.directives.imports =
        [⟨String.ofList file, path.text, [(String.ofList old, String.ofList new)], 1⟩] := by
  obtain ⟨imports, dirs⟩ := ofText_importLine fileDotted oldDotted newDotted path.text
  have generated : generate content [names] =
      .ok (some (String.ofList (importLine file old new))) := by
    rw [generate, if_neg (by simp), renameAll, List.foldlM_cons, renamed]
    rfl
  let text := String.ofList (importLine file old new)
  refine ⟨⟨path, [names], some text, Directives.ofText text path.text, []⟩, ?_, rfl, imports⟩
  rw [scriptFile, generated, ok_bind, Option.getD_some]
  dsimp only
  rw [dirs]
  rfl

end ScriptDeps.Script
