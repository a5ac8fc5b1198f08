import Mathlib.Algebra.Ring.Nat
import Mathlib.Data.List.TakeWhile
import ScriptDeps.Proofs.Json.RoundTrip

/-!
# Integers

An integer is written in decimal digits and read from them again, as long as there are no more of
them than the reader takes.
-/

namespace ScriptDeps.Json

/-! ### Digits -/

theorem digitsValue_toDigits (n : Nat) : digitsValue (Nat.toDigits 10 n) = n :=
  Nat.ofDigitChars_ten_toDigits

theorem eq_zero_of_toDigits {n : Nat} {rest : List Char} (zero : Nat.toDigits 10 n = '0' :: rest) :
    n = 0 := by
  induction n using Nat.strongRecOn generalizing rest with
  | ind n ih =>
    rw [Nat.toDigits_eq_if (by decide)] at zero
    split at zero
    · exact Nat.digitChar_eq_zero.mp (List.cons.inj zero).1
    -- A number of more digits begins as its tenth does, which is not zero.
    · rename_i large
      obtain ⟨first, others, shape⟩ := List.exists_cons_of_ne_nil (@Nat.toDigits_ne_nil (n / 10) 10)
      rw [shape, List.cons_append] at zero
      have none := ih (n / 10) (by omega) ((List.cons.inj zero).1 ▸ shape)
      omega

theorem isDigit_of_mem_toDigits {n : Nat} {c : Char} (member : c ∈ Nat.toDigits 10 n) :
    c.isDigit = true :=
  Nat.isDigit_of_mem_toDigits (by decide) (by decide) member

theorem takeWhole_toDigits (n : Nat) :
    takeWhole (Nat.toDigits 10 n) = (Nat.toDigits 10 n, []) := by
  have digits : ∀ c ∈ Nat.toDigits 10 n, c.isDigit = true := fun _ => isDigit_of_mem_toDigits
  unfold takeWhole
  split
  · rename_i rest zero
    obtain rfl := eq_zero_of_toDigits zero
    rw [Nat.toDigits_zero] at zero ⊢
    rw [← (List.cons.inj zero).2]
  · rw [takeDigits, List.takeWhile_eq_self_iff.mpr digits, List.dropWhile_eq_nil_iff.mpr digits]

/-! ### Integers -/

/-- A word with a digit in it is a number or nothing. -/
theorem wordTokens_number {word : List Char} {c : Char} (member : c ∈ word)
    (digit : c.isDigit = true) {n : NumberText} (parts : numberText? word = some (n, [])) :
    wordTokens word = [n.token] := by
  have letters : ["true", "false", "null", "NaN", "Infinity", "-Infinity"].all
      (·.toList.all (!·.isDigit)) = true := by decide
  have other : ∀ name ∈ ["true", "false", "null", "NaN", "Infinity", "-Infinity"],
      word ≠ String.toList name := by
    rintro name among rfl
    have letter := List.all_eq_true.mp (List.all_eq_true.mp letters name among) c member
    rw [digit] at letter
    cases letter
  simp only [List.forall_mem_cons] at other
  obtain ⟨one, two, three, four, five, six, -⟩ := other
  rw [wordTokens, if_neg one, if_neg two, if_neg three, if_neg four, if_neg five, if_neg six, parts]

theorem numberText?_toDigits (n : Nat) :
    numberText? (Nat.toDigits 10 n) = some (⟨false, Nat.toDigits 10 n, none, none⟩, []) ∧
      numberText? ('-' :: Nat.toDigits 10 n) =
        some (⟨true, Nat.toDigits 10 n, none, none⟩, []) := by
  have some : (Nat.toDigits 10 n).isEmpty = false := by
    rw [List.isEmpty_eq_false_iff]
    exact Nat.toDigits_ne_nil
  constructor
  · unfold numberText?
    split
    rename_i negative rest shape
    split at shape
    · rename_i minus
      have digit := isDigit_of_mem_toDigits (minus ▸ List.mem_cons_self)
      cases digit
    · obtain ⟨rfl, rfl⟩ := Prod.mk.inj shape
      rw [takeWhole_toDigits]
      dsimp only
      rw [if_neg (by rw [some]; decide)]
      rfl
  · unfold numberText?
    split
    rename_i negative rest shape
    obtain ⟨rfl, rfl⟩ := Prod.mk.inj shape
    rw [takeWhole_toDigits]
    dsimp only
    rw [if_neg (by rw [some]; decide)]
    rfl

/-- An integer that a reader takes. -/
def Countable (n : Int) : Prop :=
  n.natAbs < 10 ^ Text.maxDigits

theorem NumberText.token_toDigits {n : Nat} (short : n < 10 ^ Text.maxDigits) (negative : Bool) :
    NumberText.token ⟨negative, Nat.toDigits 10 n, none, none⟩ =
      .value (.integer (if negative then -(n : Int) else n)) := by
  have size : ¬ (Nat.toDigits 10 n).length > Text.maxDigits :=
    Nat.not_lt.mpr ((Nat.length_toDigits_le_iff (by decide) (by decide)).mpr short)
  rw [NumberText.token]
  simp only [Option.isNone_none, Bool.and_self, if_true, size, if_false, digitsValue_toDigits]

theorem wordTokens_repr {n : Int} (countable : Countable n) :
    wordTokens n.repr.toList = [.value (.integer n)] := by
  have digit : ∀ size, ∃ c ∈ Nat.toDigits 10 size, c.isDigit = true := fun size =>
    have ⟨c, member⟩ := List.exists_mem_of_ne_nil _ (@Nat.toDigits_ne_nil size 10)
    ⟨c, member, isDigit_of_mem_toDigits member⟩
  cases n with
  | ofNat size =>
    have short : size < 10 ^ Text.maxDigits := countable
    obtain ⟨c, member, digit⟩ := digit size
    rw [Int.repr, Nat.toList_repr, wordTokens_number member digit (numberText?_toDigits size).1,
      NumberText.token_toDigits short]
    rfl
  | negSucc size =>
    have short : size + 1 < 10 ^ Text.maxDigits := countable
    obtain ⟨c, member, digit⟩ := digit (size + 1)
    rw [Int.repr, String.toList_append, Nat.toList_repr]
    change wordTokens ('-' :: Nat.toDigits 10 (size + 1)) = _
    rw [wordTokens_number (List.mem_cons_of_mem _ member) digit (numberText?_toDigits _).2,
      NumberText.token_toDigits short]
    rfl

theorem isWordPart_of_mem_repr {n : Int} {c : Char} (member : c ∈ n.repr.toList) :
    isWordPart c = true := by
  have digits : ∀ {size : Nat}, c ∈ size.repr.toList → isWordPart c = true := fun member => by
    rw [Nat.toList_repr] at member
    simp [isWordPart, Char.isAlphanum, isDigit_of_mem_toDigits member]
  cases n with
  | ofNat size => exact digits member
  | negSucc size =>
    rw [Int.repr, String.toList_append, List.mem_append] at member
    obtain sign | member := member
    · rw [List.mem_singleton.mp sign]
      rfl
    · exact digits member

theorem cutsAs_integer {layout : Layout} {n : Int} (countable : Countable n) :
    CutsAs layout (.integer n) := by
  intro depth rest ends
  have some : n.repr.toList ≠ [] := by
    intro none
    have tokens := wordTokens_repr countable
    rw [none] at tokens
    cases tokens
  have cut := tokensFrom_wholeWord some (fun c => isWordPart_of_mem_repr) ends
  rw [wordTokens_repr countable] at cut
  rw [writeAt, Int.toString_eq_repr]
  exact cut

end ScriptDeps.Json
