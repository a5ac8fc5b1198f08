import Mathlib.Data.List.Chain
import Mathlib.Tactic.MkIffOfInductiveProp
import ScriptDeps.Script.Comment

/-!
# Texts without comments

A text in which no asterisk follows a slash is left as it is when comments are blanked. Lines that
are put together stay so, for a line feed is neither of the two.
-/

namespace ScriptDeps.Script

/-- No slash with an asterisk after it. -/
def Uncommented (text : List Char) : Prop :=
  text.IsChain fun a b => ¬(a = '/' ∧ b = '*')

instance (text : List Char) : Decidable (Uncommented text) :=
  inferInstanceAs (Decidable (text.IsChain _))

theorem blankComments_of_uncommented {text : List Char} (plain : Uncommented text) :
    blankComments text = text := by
  unfold blankComments
  induction text with
  | nil => rfl
  | cons c rest ih =>
    cases rest with
    | nil => rfl
    | cons d rest =>
      obtain ⟨apart, plain⟩ := List.isChain_cons_cons.mp plain
      have closed : (c == '/' && d == '*') = false := by
        rw [Bool.and_eq_false_iff, beq_eq_false_iff_ne, beq_eq_false_iff_ne]
        by_cases slash : c = '/'
        · exact .inr fun star => apart ⟨slash, star⟩
        · exact .inl slash
      rw [blankFrom, if_neg Bool.false_ne_true, closed, Bool.false_and,
        if_neg Bool.false_ne_true, ih plain]

/-- Nothing becomes a comment by what is put before it, unless it begins with an asterisk. -/
theorem Uncommented.append {first second : List Char} (before : Uncommented first)
    (after : Uncommented second) (apart : first.getLast? ≠ some '/' ∨ second.head? ≠ some '*') :
    Uncommented (first ++ second) := by
  refine List.isChain_append.mpr ⟨before, after, fun a last b head => ?_⟩
  rintro ⟨rfl, rfl⟩
  exact apart.elim (fun other => other last) fun other => other head

theorem uncommented_of_notMem {text : List Char} (absent : '*' ∉ text) : Uncommented text := by
  induction text with
  | nil => exact .nil
  | cons c rest ih =>
    cases rest with
    | nil => exact .singleton c
    | cons d rest =>
      obtain ⟨_, absent⟩ := List.ne_and_not_mem_of_not_mem_cons absent
      refine List.isChain_cons_cons.mpr ⟨fun both => ?_, ih absent⟩
      exact List.ne_of_not_mem_cons absent both.2.symm

/-- A text on one line that opens no comment. -/
@[mk_iff]
structure Quiet (text : List Char) : Prop where
  oneLine : '\n' ∉ text
  uncommented : Uncommented text

instance (text : List Char) : Decidable (Quiet text) :=
  decidable_of_iff' _ (quiet_iff text)

theorem Quiet.append {first second : List Char} (before : Quiet first) (after : Quiet second)
    (apart : first.getLast? ≠ some '/' ∨ second.head? ≠ some '*') : Quiet (first ++ second) where
  oneLine := List.not_mem_append before.oneLine after.oneLine
  uncommented := before.uncommented.append after.uncommented apart

theorem quiet_of_forall {text : List Char} (each : ∀ c ∈ text, c ≠ '\n' ∧ c ≠ '*') :
    Quiet text where
  oneLine member := (each _ member).1 rfl
  uncommented := uncommented_of_notMem fun member => (each _ member).2 rfl

theorem uncommented_join {pieces : List (List Char)} (quiet : ∀ piece ∈ pieces, Quiet piece) :
    Uncommented (Text.join '\n' pieces) := by
  induction pieces with
  | nil => exact .nil
  | cons piece rest ih =>
    obtain ⟨here, later⟩ := List.forall_mem_cons.mp quiet
    cases rest with
    | nil => exact here.uncommented
    | cons next rest =>
      have line : Uncommented ['\n'] := .singleton '\n'
      have lined := line.append (ih later) (.inl (by decide))
      exact here.uncommented.append lined (.inr (by simp))

/-- A text that moreover does not end a directive. -/
@[mk_iff]
structure Harmless (text : List Char) : Prop extends Quiet text where
  unended : ';' ∉ text

instance (text : List Char) : Decidable (Harmless text) :=
  decidable_of_iff' _ (harmless_iff text)

theorem Harmless.append {first second : List Char} (before : Harmless first)
    (after : Harmless second) (apart : first.getLast? ≠ some '/' ∨ second.head? ≠ some '*') :
    Harmless (first ++ second) where
  toQuiet := before.toQuiet.append after.toQuiet apart
  unended := List.not_mem_append before.unended after.unended

theorem harmless_of_forall {text : List Char}
    (each : ∀ c ∈ text, c ≠ '\n' ∧ c ≠ ';' ∧ c ≠ '*') : Harmless text where
  toQuiet := quiet_of_forall fun c member => ⟨(each c member).1, (each c member).2.2⟩
  unended member := (each _ member).2.1 rfl

end ScriptDeps.Script
