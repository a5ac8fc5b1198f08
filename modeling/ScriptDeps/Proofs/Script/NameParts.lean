import ScriptDeps.Proofs.Script.Comments
import ScriptDeps.Proofs.Script.DeclaredNames

/-!
# Characters of names

What is read from a text that begins with a word or with name characters. No name character is a
blank, ends a line or a directive, or stands in the marks of a comment.
-/

namespace ScriptDeps.Script

theorem after?_append (word rest : List Char) : after? word (word ++ rest) = some rest := by
  induction word with
  | nil => rfl
  | cons c word ih => simpa [after?] using ih

theorem isBlank_of_isNamePart {c : Char} (part : isNamePart c = true) : Text.isBlank c = false := by
  have range : 0x2E ≤ c.toNat ∧ c.toNat < 0x80 := by
    change 0x2E ≤ c.val.toNat ∧ c.val.toNat < 0x80
    delta isNamePart Char.isAlphanum Char.isAlpha Char.isUpper Char.isLower Char.isDigit at part
    simp only [Bool.or_eq_true, Bool.and_eq_true, decide_eq_true_eq, beq_iff_eq, ge_iff_le,
      UInt32.le_iff_toNat_le] at part
    rcases part with (((⟨low, high⟩ | ⟨low, high⟩) | ⟨low, high⟩) | rfl) | rfl
    · exact ⟨Nat.le_trans (by decide) low, Nat.lt_of_le_of_lt high (by decide)⟩
    · exact ⟨Nat.le_trans (by decide) low, Nat.lt_of_le_of_lt high (by decide)⟩
    · exact ⟨Nat.le_trans (by decide) low, Nat.lt_of_le_of_lt high (by decide)⟩
    · decide
    · decide
  simp only [Text.isBlank, Text.Ranges.holds, Text.blankRanges, List.any_cons, List.any_nil,
    Bool.or_eq_false_iff, Bool.and_eq_false_iff, decide_eq_false_iff_not, and_true]
  omega

/-- Characters that may stand in a dotted name; there may be none. -/
def NameParts (name : List Char) : Prop :=
  ∀ c ∈ name, isNamePart c = true

instance (name : List Char) : Decidable (NameParts name) :=
  decidable_of_iff (name.all isNamePart = true) List.all_eq_true

namespace NameParts

variable {name : List Char}

theorem notMem (parts : NameParts name) {c : Char} (other : isNamePart c = false) : c ∉ name :=
  fun member => Bool.false_ne_true (other.symm.trans (parts c member))

theorem harmless (parts : NameParts name) : Harmless name := by
  refine harmless_of_forall fun c member => ?_
  have part := parts c member
  refine ⟨?_, ?_, ?_⟩ <;> rintro rfl <;> exact absurd part (by decide)

theorem dropBlanks (parts : NameParts name) {c : Char} (visible : Text.isBlank c = false)
    (rest : List Char) : (name ++ c :: rest).dropWhile Text.isBlank = name ++ c :: rest := by
  cases name with
  | nil => exact List.dropWhile_cons_of_neg (by simp [visible])
  | cons d name =>
    have kept := isBlank_of_isNamePart (parts d List.mem_cons_self)
    exact List.dropWhile_cons_of_neg (by simp [kept])

theorem takeName (parts : NameParts name) {c : Char} (ends : isNamePart c = false)
    (rest : List Char) :
    (name ++ c :: rest).takeWhile isNamePart = name ∧
      (name ++ c :: rest).dropWhile isNamePart = c :: rest := by
  rw [List.takeWhile_append_of_pos parts, List.dropWhile_append_of_pos parts]
  simp [ends]

/-- A word that starts a text of name characters is in that text. -/
theorem startsName {word : List Char} (wordParts : NameParts word) {c : Char}
    (ends : isNamePart c = false) {rest after : List Char}
    (found : after? word (name ++ c :: rest) = some after) :
    ∃ more, name = word ++ more ∧ after = more ++ c :: rest := by
  induction word generalizing name with
  | nil => exact ⟨name, rfl, (Option.some.inj found).symm⟩
  | cons d word ih =>
    obtain ⟨here, later⟩ := List.forall_mem_cons.mp wordParts
    cases name with
    | nil =>
      rw [List.nil_append, after?] at found
      split at found
      · rename_i same
        rw [beq_iff_eq.mp same, ends] at here
        cases here
      · cases found
    | cons e name =>
      rw [List.cons_append, after?] at found
      split at found
      · rename_i same
        obtain ⟨more, rfl, rest⟩ := ih later found
        exact ⟨more, by rw [beq_iff_eq.mp same, List.cons_append], rest⟩
      · cases found

end NameParts

end ScriptDeps.Script
