import Mathlib.Data.List.Forall2
import ScriptDeps.Proofs.Script.Declarations
import ScriptDeps.Proofs.Script.VisibleLines

/-!
# Lines keep their numbers

Blanking takes characters out of lines, but no line out of a text. So the directive that is read on
the n-th line of what is left is made of characters of the n-th line of the script.
-/

namespace ScriptDeps.Script

/-! ### What is left of a text -/

/-- The text holds the start of a block comment, and after it the end of one. -/
def HasComment (text : List Char) : Prop :=
  ∃ before inside after, text = before ++ ['/', '*'] ++ inside ++ ['*', '/'] ++ after

theorem hasClose_iff {text : List Char} :
    hasClose text = true ↔ ∃ inside after, text = inside ++ ['*', '/'] ++ after := by
  constructor
  · intro closes
    induction text with
    | nil => cases closes
    | cons c rest ih =>
      rw [hasClose_cons, Bool.or_eq_true] at closes
      obtain ends | later := closes
      · obtain ⟨star, slash⟩ := Bool.and_eq_true_iff.mp ends
        obtain ⟨after, rfl⟩ := List.head?_eq_some_iff.mp (beq_iff_eq.mp slash)
        exact ⟨[], after, by rw [beq_iff_eq.mp star]; rfl⟩
      · obtain ⟨inside, after, rfl⟩ := ih later
        exact ⟨c :: inside, after, rfl⟩
  · rintro ⟨inside, after, rfl⟩
    induction inside with
    | nil => rfl
    | cons c inside ih =>
      rw [List.cons_append, List.cons_append, hasClose_cons, ih, Bool.or_true]

theorem length_blankFrom_le (inside : Bool) (text : List Char) :
    (blankFrom inside text).length ≤ text.length := by
  fun_induction blankFrom inside text <;> simp_all <;> omega

theorem blankComments_eq_self_iff {text : List Char} :
    blankComments text = text ↔ ¬HasComment text := by
  unfold blankComments
  induction text with
  | nil =>
    refine iff_of_true rfl ?_
    rintro ⟨before, inside, after, none⟩
    simp at none
  | cons c rest ih =>
    rw [blankFrom_outside]
    split
    · rename_i opens
      simp only [Bool.and_eq_true, beq_iff_eq] at opens
      obtain ⟨⟨rfl, star⟩, closes⟩ := opens
      obtain ⟨tail, rfl⟩ := List.head?_eq_some_iff.mp star
      obtain ⟨inside, after, rfl⟩ := hasClose_iff.mp closes
      refine iff_of_false (fun same => ?_) (not_not_intro ⟨[], inside, after, rfl⟩)
      have short := length_blankFrom_le true (inside ++ ['*', '/'] ++ after)
      have long := congrArg List.length same
      simp only [List.tail_cons, List.length_cons] at long
      omega
    · rename_i plain
      rw [List.cons_inj_right, ih, not_iff_not]
      constructor
      · rintro ⟨before, inside, after, rfl⟩
        exact ⟨c :: before, inside, after, rfl⟩
      · rintro ⟨before, inside, after, spelled⟩
        cases before with
        | cons b before =>
          obtain ⟨rfl, rfl⟩ := List.cons.inj spelled
          exact ⟨before, inside, after, rfl⟩
        | nil =>
          obtain ⟨rfl, rfl⟩ := List.cons.inj spelled
          refine absurd ?_ plain
          have closes : hasClose (inside ++ ['*', '/'] ++ after) = true :=
            hasClose_iff.mpr ⟨inside, after, rfl⟩
          simpa using closes

theorem blankLine_sublist (later inside : Bool) (line : List Char) :
    (blankLine later inside line).1.Sublist line := by
  fun_induction blankLine later inside line with
  | case1 inside => exact .slnil
  | case2 c rest ends ih => exact (ih.trans (List.tail_sublist rest)).cons c
  | case3 c rest goesOn ih => exact ih.cons c
  | case4 c rest opens ih => exact (ih.trans (List.tail_sublist rest)).cons c
  | case5 c rest plain ih => exact ih.cons_cons c

theorem visibleLines_sublist (inside : Bool) (pieces : List (List Char)) :
    List.Forall₂ List.Sublist (visibleLines inside pieces) pieces := by
  induction pieces generalizing inside with
  | nil => exact .nil
  | cons piece rest ih => exact .cons (blankLine_sublist _ inside piece) (ih _)

theorem visible_sublist (text : String) :
    List.Forall₂ List.Sublist (visible text) (lines text.toList) := by
  rw [visible_eq]
  exact visibleLines_sublist false _

theorem length_lines (text : List Char) : (lines text).length = text.count '\n' + 1 := by
  unfold lines
  induction text with
  | nil => rfl
  | cons c rest ih =>
    rw [Text.split, List.count_cons]
    split
    · rw [List.length_cons, ih]
    · obtain ⟨piece, pieces, cut⟩ := List.exists_cons_of_ne_nil (Text.split_ne_nil '\n' rest)
      rw [cut] at ih ⊢
      simpa using ih

theorem count_blankComments (text : String) :
    (blankComments text.toList).count '\n' = text.toList.count '\n' := by
  have same := (visible_sublist text).length_eq
  rw [visible, length_lines, length_lines] at same
  exact Nat.succ.inj same

/-! ### What is read on a line -/

theorem after?_some {word text rest : List Char} (found : after? word text = some rest) :
    text = word ++ rest := by
  fun_induction after? word text with
  | case1 text => exact Option.some.inj found
  | case2 c word d text same ih => rw [beq_iff_eq.mp same, ih found, List.cons_append]
  | case3 => cases found
  | case4 => cases found

theorem after?_suffix {word text rest : List Char} (found : after? word text = some rest) :
    rest <:+ text :=
  ⟨word, (after?_some found).symm⟩

theorem dropTerminator_isInfix (text : List Char) : dropTerminator text <:+: text := by
  unfold dropTerminator
  dsimp only
  split
  · exact (Text.trimRight_isInfix _).trans
      ((List.dropLast_prefix _).isInfix.trans (Text.trimRight_isInfix text))
  · exact Text.trimRight_isInfix text

theorem unquote_isInfix (value : List Char) : (unquote value).toList <:+: value := by
  rw [unquote, String.toList_ofList]
  exact (Text.trimBoth_isInfix _).trans ((Text.trimBoth_isInfix _).trans
    ((Text.trimBoth_isInfix _).trans (Text.trimBoth_isInfix value)))

/-- A directive's value stands on its line as it is. -/
theorem directiveOn?_isInfix {line value : List Char} {kind : DirectiveKind}
    (found : directiveOn? line = some (kind, value)) : value <:+: line := by
  simp only [directiveOn?, Option.bind_eq_bind, Option.bind_eq_some_iff] at found
  obtain ⟨rest, named, _, _, _, _, _, _, found⟩ := found
  obtain ⟨-, rfl⟩ := Prod.mk.inj (Option.some.inj found)
  have whole : rest <:+: line := (after?_suffix named).isInfix.trans (List.dropWhile_suffix _).isInfix
  refine List.IsInfix.trans ?_ whole
  refine (Text.trimBoth_isInfix _).trans ((Text.trimRight_isInfix _).trans ((Text.trimBoth_isInfix _).trans
    ((dropTerminator_isInfix _).trans ?_)))
  exact ((List.dropWhile_suffix _).trans (List.dropWhile_suffix _)).isInfix

theorem renamingAt?_isInfix {text : List Char} {names : Renaming}
    (found : renamingAt? text = some names) :
    names.1.toList <:+: text ∧ names.2.toList <:+: text := by
  simp only [renamingAt?, Option.bind_eq_bind, Option.bind_eq_some_iff] at found
  obtain ⟨rest, word, inner, opened, _, _, others, parted, _, _, _, _, found⟩ := found
  rw [← Option.some.inj found, String.toList_ofList, String.toList_ofList]
  have inside : inner <:+ text :=
    (after?_suffix opened).trans ((List.dropWhile_suffix _).trans (after?_suffix word))
  have old : inner.dropWhile Text.isBlank <:+ text := (List.dropWhile_suffix _).trans inside
  have behind : others <:+ text :=
    (after?_suffix parted).trans ((List.dropWhile_suffix _).trans ((List.dropWhile_suffix _).trans old))
  exact ⟨(List.takeWhile_prefix _).isInfix.trans old.isInfix,
    (List.takeWhile_prefix _).isInfix.trans ((List.dropWhile_suffix _).trans behind).isInfix⟩

/-- An import is made of what stands on a line: its name and the names of its renamings. -/
structure Import.StandsOn (imported : Import) (line : List Char) : Prop where
  name : imported.name.toList <:+: line
  renamings : ∀ names ∈ imported.renamings, names.1.toList <:+: line ∧ names.2.toList <:+: line

theorem ofValue_standsOn (value : List Char) (file : String) (number : Nat) :
    (Import.ofValue value file number).StandsOn value where
  name := (unquote_isInfix _).trans (List.takeWhile_prefix _).isInfix
  renamings names member := by
    obtain ⟨tail, among, found⟩ := List.mem_filterMap.mp member
    have behind : tail <:+: value := ((Text.mem_of_mem_tails among).trans
      ((List.drop_suffix 1 _).trans (List.dropWhile_suffix _))).isInfix
    exact (renamingAt?_isInfix found).imp (·.trans behind) (·.trans behind)

/-- The import that the line with the number declares, if it does. -/
def importOn? (file : String) (line : List Char × Nat) : Option Import :=
  match directiveOn? line.1 with
  | some (.importScript, value) => some (.ofValue value file line.2)
  | _ => none

theorem importOn?_some {file : String} {line : List Char × Nat} {imported : Import}
    (found : importOn? file line = some imported) :
    imported.line = line.2 ∧ imported.declaredIn = file ∧ imported.StandsOn line.1 := by
  unfold importOn? at found
  split at found
  · rename_i value read
    obtain rfl := Option.some.inj found
    have stands := ofValue_standsOn value file line.2
    have within : value <:+: line.1 := directiveOn?_isInfix read
    exact ⟨rfl, rfl, stands.name.trans within, fun names member =>
      (stands.renamings names member).imp (·.trans within) (·.trans within)⟩
  · cases found

theorem imports_addLine (file : String) (d : Directives) (number : Nat) (text : List Char) :
    (addLine file d number text).imports = d.imports ++ (importOn? file (text, number)).toList := by
  unfold addLine importOn?
  dsimp only
  cases directiveOn? text with
  | none => exact (List.append_nil _).symm
  | some directive =>
    obtain ⟨kind, value⟩ := directive
    cases kind <;> simp only [Directives.add, Option.toList_some, Option.toList_none, List.append_nil]

theorem imports_addLines (file : String) (d : Directives) (number : Nat)
    (texts : List (List Char)) :
    (Directives.addLines file d number texts).imports =
      d.imports ++ (texts.zipIdx number).filterMap (importOn? file) := by
  induction texts generalizing d number with
  | nil => exact (List.append_nil _).symm
  | cons text rest ih =>
    rw [addLines_cons, ih, imports_addLine, List.zipIdx_cons, List.append_assoc]
    cases found : importOn? file (text, number) with
    | none => rw [List.filterMap_cons_none found]; rfl
    | some imported => rw [List.filterMap_cons_some found]; rfl

/-- The imports are those of the lines, in their order and with their numbers. -/
theorem imports_ofText (text file : String) :
    (Directives.ofText text file).imports =
      ((visible text).zipIdx 1).filterMap (importOn? file) :=
  imports_addLines file _ 1 _

/-! ### The numbers of imports -/

/-- Blanking keeps the number of lines and takes characters out of each, and none if there is no
comment. So an import carries the number of a line that its text stands on. -/
theorem imports_numbered (text file : String) :
    (blankComments text.toList).count '\n' = text.toList.count '\n' ∧
      List.Forall₂ List.Sublist (visible text) (lines text.toList) ∧
      (blankComments text.toList = text.toList ↔ ¬HasComment text.toList) ∧
      ∀ imported ∈ (Directives.ofText text file).imports, ∃ number line seen,
        imported.line = number + 1 ∧ (lines text.toList)[number]? = some line ∧
          (visible text)[number]? = some seen ∧ seen.Sublist line ∧
          importOn? file (seen, imported.line) = some imported ∧ imported.StandsOn seen := by
  have aligned := visible_sublist text
  refine ⟨count_blankComments text, aligned, blankComments_eq_self_iff, ?_⟩
  intro imported member
  rw [imports_ofText] at member
  obtain ⟨⟨seen, place⟩, among, found⟩ := List.mem_filterMap.mp member
  obtain ⟨first, there⟩ := List.mk_mem_zipIdx_iff_le_and_getElem?_sub.mp among
  obtain ⟨number, rfl⟩ := Nat.exists_eq_add_of_le' first
  rw [Nat.add_sub_cancel] at there
  obtain ⟨numbered, -, stands⟩ := importOn?_some found
  obtain ⟨inside, rfl⟩ := List.getElem?_eq_some_iff.mp there
  have inside' : number < (lines text.toList).length := aligned.length_eq ▸ inside
  refine ⟨number, (lines text.toList)[number], _, numbered, List.getElem?_eq_getElem inside', there,
    aligned.get inside inside', ?_, stands⟩
  rw [numbered]
  exact found

theorem imports_numbered_commented :
    (Directives.ofText "/*\n//css_inc a.cs\n*/ //css_inc b/**/.cs" "main.cs").imports =
        [⟨"b.cs", "main.cs", [], 3⟩] ∧
      ∃ seen, seen.Sublist "*/ //css_inc b/**/.cs".toList ∧
        (⟨"b.cs", "main.cs", [], 3⟩ : Import).StandsOn seen := by
  have imports : (Directives.ofText "/*\n//css_inc a.cs\n*/ //css_inc b/**/.cs" "main.cs").imports =
      [⟨"b.cs", "main.cs", [], 3⟩] := by
    decide +kernel
  have member : ⟨"b.cs", "main.cs", [], 3⟩ ∈
      (Directives.ofText "/*\n//css_inc a.cs\n*/ //css_inc b/**/.cs" "main.cs").imports := by
    rw [imports]
    exact List.mem_singleton.mpr rfl
  obtain ⟨number, line, seen, numbered, there, _, within, _, stands⟩ :=
    (imports_numbered "/*\n//css_inc a.cs\n*/ //css_inc b/**/.cs" "main.cs").2.2.2 _ member
  obtain rfl : number = 2 := (Nat.succ.inj numbered).symm
  obtain rfl : line = "*/ //css_inc b/**/.cs".toList :=
    Option.some.inj (there.symm.trans (by decide +kernel))
  exact ⟨imports, seen, within, stands⟩

end ScriptDeps.Script
