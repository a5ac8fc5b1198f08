import Mathlib.Data.Option.Basic
import ScriptDeps.Proofs.Running
import ScriptDeps.Script.ImportGraph

/-!
# Declared names

The names in the renamings that a script declares are dotted names: some name characters and nothing
else. So they hold no backslash and no line break.
-/

namespace ScriptDeps.Script

/-- A dotted name: characters that may stand in one, and not none. -/
structure IsDotted (name : List Char) : Prop where
  nonempty : name ≠ []
  all : name.all isNamePart = true

theorem IsDotted.parts {name : List Char} (h : IsDotted name) :
    ∀ c ∈ name, isNamePart c = true :=
  List.all_eq_true.mp h.all

theorem IsDotted.notMem {name : List Char} (h : IsDotted name) {c : Char}
    (other : isNamePart c = false) : c ∉ name := fun member =>
  Bool.false_ne_true (other.symm.trans (h.parts c member))

def Dotted (renamings : List Renaming) : Prop :=
  ∀ names ∈ renamings, IsDotted names.1.toList ∧ IsDotted names.2.toList

theorem dotted_takeWhile {text : List Char}
    (some : (!(text.takeWhile isNamePart).isEmpty) = true) :
    IsDotted (text.takeWhile isNamePart) :=
  ⟨by simpa using some, List.all_takeWhile⟩

theorem renamingAt?_dotted {text : List Char} {names : Renaming}
    (h : renamingAt? text = some names) : IsDotted names.1.toList ∧ IsDotted names.2.toList := by
  simp only [renamingAt?, Option.bind_eq_bind, Option.bind_eq_some_iff] at h
  obtain ⟨_, _, _, _, _, old, _, _, _, new, _, _, h⟩ := h
  rw [← Option.some.inj h, String.toList_ofList, String.toList_ofList]
  exact ⟨dotted_takeWhile ((Option.guard_eq_some' _).mp old),
    dotted_takeWhile ((Option.guard_eq_some' _).mp new)⟩

theorem ofValue_dotted (value : List Char) (file : String) (line : Nat) :
    Dotted (Import.ofValue value file line).renamings := by
  intro names member
  obtain ⟨text, _, spelled⟩ := List.mem_filterMap.mp member
  exact renamingAt?_dotted spelled

theorem add_dotted (file : String) (d : Directives) (line : Nat) (kind : DirectiveKind)
    (value : List Char) (before : ∀ imported ∈ d.imports, Dotted imported.renamings) :
    ∀ imported ∈ (Directives.add file d line (kind, value)).imports, Dotted imported.renamings := by
  cases kind with
  | importScript =>
    simp only [Directives.add]
    intro imported member
    rcases List.mem_append.mp member with old | new
    · exact before imported old
    · rw [List.mem_singleton.mp new]
      exact ofValue_dotted value file line
  | _ =>
    simp only [Directives.add]
    exact before

theorem addLines_dotted (file : String) (d : Directives) (line : Nat) (texts : List (List Char))
    (before : ∀ imported ∈ d.imports, Dotted imported.renamings) :
    ∀ imported ∈ (Directives.addLines file d line texts).imports, Dotted imported.renamings := by
  induction texts generalizing d line with
  | nil => exact before
  | cons text rest ih =>
    rw [Directives.addLines]
    refine ih _ _ ?_
    generalize directiveOn? text = found
    cases found with
    | none => exact before
    | some directive => exact add_dotted file d line directive.1 directive.2 before

/-- Whatever a script imports is renamed to and from dotted names. -/
theorem imports_dotted (text file : String) :
    ∀ imported ∈ (Directives.ofText text file).imports, Dotted imported.renamings :=
  addLines_dotted file _ 1 _ nofun

end ScriptDeps.Script
