import ScriptDeps.Proofs.Script.DeclaredNames

/-!
# Renamed texts

A new name without backslashes is put in as it stands. Where an old name stands once, by itself, the
text before it and the text after it are left alone.
-/

namespace ScriptDeps.Script

/-! ### Plain replacements -/

namespace Replacement

theorem units_plain {text : List Char} (plain : '\\' ∉ text) : units text = text.map .plain := by
  induction text with
  | nil => rfl
  | cons c rest ih =>
    obtain ⟨other, plain⟩ := List.ne_and_not_mem_of_not_mem_cons plain
    rw [units, ih plain, List.map_cons]
    · rintro rfl
      exact absurd rfl other
    · rintro d more rfl
      exact absurd rfl other

theorem ofText_plain {text : List Char} (plain : '\\' ∉ text) :
    ofText text = .ok (text.map .char) := by
  rw [ofText, units_plain plain]
  clear plain
  induction text with
  | nil => rfl
  | cons c rest ih =>
    rw [List.map_cons, ofUnits, piece]
    simp only [bind, Except.bind, pure, Except.pure] at ih ⊢
    rw [ih]
    rfl

theorem fill_plain (text name : List Char) : fill (text.map .char) name = text := by
  induction text with
  | nil => rfl
  | cons c rest ih =>
    rw [fill, List.map_cons, List.flatMap_cons] at *
    rw [ih]
    rfl

end Replacement

theorem rename_plain {text : String} {names : Renaming} (plain : '\\' ∉ names.2.toList) :
    rename text names =
      .ok (String.ofList (replaceFrom names.1.toList names.2.toList none text.toList)) := by
  rw [rename, Replacement.ofText_plain plain]
  exact congrArg (fun new => Except.ok (String.ofList (replaceFrom _ new none _)))
    (Replacement.fill_plain _ _)

/-! ### Where no name starts -/

theorem replaceFrom_append {first : Char} {old new before : List Char} (absent : first ∉ before)
    (previous : Option Char) (rest : List Char) :
    replaceFrom (first :: old) new previous (before ++ rest) =
      before ++ replaceFrom (first :: old) new (before.getLast?.or previous) rest := by
  induction before generalizing previous with
  | nil => rfl
  | cons c before ih =>
    obtain ⟨other, absent⟩ := List.ne_and_not_mem_of_not_mem_cons absent
    have apart : (first :: old).isPrefixOf (c :: (before ++ rest)) = false := by
      simp [List.isPrefixOf, other]
    have last : (c :: before).getLast?.or previous = before.getLast?.or (some c) := by
      rw [List.getLast?_cons]
      cases before.getLast? <;> rfl
    rw [List.cons_append, replaceFrom, apart, Bool.and_false, Bool.false_and,
      if_neg Bool.false_ne_true, ih absent, last]
    rfl

theorem replaceFrom_absent {first : Char} {old new text : List Char} (absent : first ∉ text)
    (previous : Option Char) : replaceFrom (first :: old) new previous text = text := by
  have whole := @replaceFrom_append first old new text absent previous []
  rw [List.append_nil] at whole
  rw [whole, replaceFrom]
  simp

theorem replaceFrom_once {c : Char} {new before after : List Char} (first : c ∉ before)
    (last : c ∉ after) (free : isBoundary before.getLast? = true)
    (ends : Text.startsWithWord after = false) :
    replaceFrom [c] new none (before ++ c :: after) = before ++ (new ++ after) := by
  rw [replaceFrom_append first, Option.or_none, replaceFrom]
  have found : [c].isPrefixOf (c :: after) = true := by simp [List.isPrefixOf]
  rw [free, found]
  simp [ends, replaceFrom_absent last]

/-! ### Where characters come from -/

theorem mem_replaceFrom {old new : List Char} {before : Option Char} {text : List Char} {c : Char}
    (member : c ∈ replaceFrom old new before text) : c ∈ new ∨ c ∈ text := by
  fun_induction replaceFrom old new before text with
  | case1 before put => exact Or.inl member
  | case2 before put => cases member
  | case3 before d rest found empty ih =>
    rcases List.mem_append.mp member with inside | after
    · exact Or.inl inside
    · rcases List.mem_cons.mp after with rfl | after
      · exact Or.inr List.mem_cons_self
      · exact (ih after).imp_right (List.mem_cons_of_mem d)
  | case4 before d rest found some ih =>
    rcases List.mem_append.mp member with inside | after
    · exact Or.inl inside
    · exact (ih after).imp_right fun later => List.mem_cons_of_mem d (List.mem_of_mem_drop later)
  | case5 before d rest passed ih =>
    rcases List.mem_cons.mp member with rfl | after
    · exact Or.inr List.mem_cons_self
    · exact (ih after).imp_right (List.mem_cons_of_mem d)

theorem notMem_rename {text renamed : String} {names : Renaming} {c : Char}
    (dotted : IsDotted names.2.toList) (other : isNamePart c = false) (absent : c ∉ text.toList)
    (h : rename text names = .ok renamed) : c ∉ renamed.toList := by
  rw [rename_plain (dotted.notMem rfl)] at h
  rw [← Except.ok.inj h, String.toList_ofList]
  exact fun member => (mem_replaceFrom member).elim (dotted.notMem other) absent

/-- A character that no name can hold is not put in by renamings. -/
theorem notMem_renameAll {text renamed : String} {renamings : List Renaming} {c : Char}
    (dotted : Dotted renamings) (other : isNamePart c = false) (absent : c ∉ text.toList)
    (h : renameAll text renamings = .ok renamed) : c ∉ renamed.toList := by
  rw [renameAll] at h
  induction renamings generalizing text with
  | nil => exact Except.ok.inj h ▸ absent
  | cons names rest ih =>
    rw [List.foldlM_cons] at h
    obtain ⟨next, first, h⟩ := bind_ok h
    exact ih (fun names member => dotted names (List.mem_cons_of_mem _ member))
      (notMem_rename (dotted names List.mem_cons_self).2 other absent first) h

end ScriptDeps.Script
