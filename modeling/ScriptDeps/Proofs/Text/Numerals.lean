import Mathlib.Data.Nat.Digits.Lemmas
import ScriptDeps.Package.Version

/-!
# Numerals

The number that decimal digits spell, in whatever script. Reading digits gives it, unless one of them
is not decimal or there are too many.
-/

namespace ScriptDeps

namespace Text

/-- The number that decimal digits spell, the last one being the lowest. -/
def numeral (digits : List Char) : Nat :=
  Nat.ofDigits 10 (digits.map fun c => (decimalValue? c).getD 0).reverse

theorem numeral_cons (c : Char) (rest : List Char) :
    numeral (c :: rest) = 10 ^ rest.length * (decimalValue? c).getD 0 + numeral rest := by
  rw [numeral, List.map_cons, List.reverse_cons, Nat.ofDigits_append, List.length_reverse,
    List.length_map, Nat.ofDigits_singleton, Nat.add_comm]
  rfl

theorem foldlM_decimalValue? {digits : List Char} (decimal : ∀ c ∈ digits, isDecimal c = true)
    (n : Nat) : digits.foldlM (fun n c => (decimalValue? c).map (10 * n + ·)) n =
      some (10 ^ digits.length * n + numeral digits) := by
  induction digits generalizing n with
  | nil => simp [numeral]
  | cons c rest ih =>
    obtain ⟨here, later⟩ := List.forall_mem_cons.mp decimal
    obtain ⟨value, known⟩ := Option.isSome_iff_exists.mp here
    rw [List.foldlM_cons, known, Option.map_some, Option.bind_eq_bind, Option.bind_some, ih later,
      numeral_cons, known, Option.getD_some, List.length_cons]
    congr 1
    ring

theorem foldlM_decimalValue?_eq_none {digits : List Char} {c : Char} (member : c ∈ digits)
    (other : isDecimal c = false) (n : Nat) :
    digits.foldlM (fun n c => (decimalValue? c).map (10 * n + ·)) n = none := by
  induction digits generalizing n with
  | nil => cases member
  | cons first rest ih =>
    rw [List.foldlM_cons]
    obtain rfl | later := List.mem_cons.mp member
    · have none : decimalValue? c = none := by simpa [isDecimal] using other
      rw [none]
      rfl
    · cases decimalValue? first with
      | none => rfl
      | some value => exact ih later _

end Text

namespace Package

theorem number?_decimal {digits : List Char} (filled : digits ≠ [])
    (decimal : ∀ c ∈ digits, Text.isDecimal c = true) :
    number? digits = if Text.maxDigits < digits.length then none else some (Text.numeral digits) := by
  have some : digits.isEmpty = false := by simpa using filled
  rw [number?, Text.decimalNumber?, some, Text.foldlM_decimalValue? decimal, Nat.mul_zero,
    Nat.zero_add]
  rfl

theorem number?_eq_none_iff {digits : List Char} (filled : digits ≠ []) :
    number? digits = none ↔
      Text.maxDigits < digits.length ∨ ∃ c ∈ digits, Text.isDecimal c = false := by
  by_cases decimal : ∀ c ∈ digits, Text.isDecimal c = true
  · have none : ¬∃ c ∈ digits, Text.isDecimal c = false := by simpa using decimal
    rw [number?_decimal filled decimal, or_iff_left none]
    split <;> simp [*]
  · have other : ∃ c ∈ digits, Text.isDecimal c = false := by simpa using decimal
    refine iff_of_true ?_ (.inr other)
    obtain ⟨c, member, other⟩ := other
    rw [number?, Text.decimalNumber?, Text.foldlM_decimalValue?_eq_none member other]
    simp

end Package

end ScriptDeps
