import Mathlib.Algebra.Order.BigOperators.Group.List
import Mathlib.Algebra.Order.Group.Nat
import ScriptDeps.Proofs.Package.Layouts

/-!
# Lengths of texts

A text has no more characters than bytes, not even in lower case, and a piece of it is no longer than
the whole.
-/

namespace ScriptDeps.Text

theorem utf8ByteSize_eq_sum (text : String) :
    text.utf8ByteSize = (text.toList.map Char.utf8Size).sum := by
  have spelled : ∀ chars : List Char, (String.ofList chars).utf8ByteSize = (chars.map Char.utf8Size).sum := by
    intro chars
    induction chars with
    | nil => rfl
    | cons c rest ih =>
      rw [String.ofList_cons, String.utf8ByteSize_append, String.utf8ByteSize_singleton, ih]
      rfl
  rw [← spelled, String.ofList_toList]

/-- A text in lower case has no more characters than the text has bytes. -/
theorem length_lower_le (text : String) : (lower text).toList.length ≤ text.utf8ByteSize := by
  rw [lower, String.toList_ofList, length_lowerFrom, utf8ByteSize_eq_sum]
  refine List.sum_le_sum fun c _ => ?_
  split
  · rename_i dotted
    rw [dotted]
    decide
  · exact Char.utf8Size_pos c

theorem length_le_utf8ByteSize (text : String) : text.toList.length ≤ text.utf8ByteSize := by
  rw [utf8ByteSize_eq_sum, ← List.length_map Char.utf8Size]
  exact List.length_le_sum_of_one_le _ fun size member => by
    obtain ⟨c, -, rfl⟩ := List.mem_map.mp member
    exact Char.utf8Size_pos c

theorem length_le_of_mem_split {separator : Char} {text piece : List Char}
    (member : piece ∈ split separator text) : piece.length ≤ text.length := by
  have joined : ∀ {pieces : List (List Char)}, piece ∈ pieces →
      piece.length ≤ (join separator pieces).length := by
    intro pieces
    induction pieces with
    | nil => nofun
    | cons first rest ih =>
      intro member
      cases rest with
      | nil => rw [List.mem_singleton.mp member, join]
      | cons second others =>
        have cut : join separator (first :: second :: others) =
            first ++ separator :: join separator (second :: others) := rfl
        rw [cut, List.length_append, List.length_cons]
        obtain rfl | later := List.mem_cons.mp member
        · exact Nat.le_add_right _ _
        · exact Nat.le_add_left_of_le (Nat.le_succ_of_le (ih later))
  exact join_split separator text ▸ joined member

end ScriptDeps.Text
