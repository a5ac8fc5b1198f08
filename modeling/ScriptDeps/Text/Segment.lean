import ScriptDeps.Text.Blank

/-!
# Cutting texts

Trimming, splitting and searching on lists of characters. `join_split` says that splitting loses
only the separators.
-/

namespace ScriptDeps.Text

/-- The text without the characters of a class at its end. -/
def trimRight (p : Char → Bool) (text : List Char) : List Char :=
  (text.reverse.dropWhile p).reverse

/-- The text without the characters of a class at its ends. -/
def trimBoth (p : Char → Bool) (text : List Char) : List Char :=
  trimRight p (text.dropWhile p)

def trim (text : List Char) : List Char :=
  trimBoth isBlank text

/-- The pieces between the occurrences of a separator; there is always at least one. -/
def split (separator : Char) : List Char → List (List Char)
  | [] => [[]]
  | c :: rest =>
    if c == separator then [] :: split separator rest
    else match split separator rest with
      | piece :: pieces => (c :: piece) :: pieces
      | [] => [[c]]

def join (separator : Char) : List (List Char) → List Char
  | [] => []
  | [piece] => piece
  | piece :: pieces => piece ++ separator :: join separator pieces

theorem split_ne_nil (separator : Char) (text : List Char) : split separator text ≠ [] := by
  cases text with
  | nil => simp [split]
  | cons c rest =>
    rw [split]
    split
    · simp
    · split <;> simp

theorem join_cons_cons (separator c : Char) (piece : List Char) (pieces : List (List Char)) :
    join separator ((c :: piece) :: pieces) = c :: join separator (piece :: pieces) := by
  cases pieces <;> simp [join]

theorem join_split (separator : Char) (text : List Char) :
    join separator (split separator text) = text := by
  induction text with
  | nil => simp [split, join]
  | cons c rest ih =>
    rw [split]
    split
    · rename_i h
      cases hs : split separator rest with
      | nil => exact absurd hs (split_ne_nil separator rest)
      | cons piece pieces => rw [hs] at ih; simp [join, ih, (beq_iff_eq.mp h)]
    · split
      · rename_i piece pieces hs
        rw [join_cons_cons, ← hs, ih]
      · rename_i hs
        exact absurd hs (split_ne_nil separator rest)

/-- What comes before the first occurrence of a separator, and what comes after it. -/
def cutAt (separator : Char) (text : List Char) : List Char × List Char :=
  (text.takeWhile (· != separator), (text.dropWhile (· != separator)).drop 1)

/-- The parts around the last occurrence of a character, which begins the second part. -/
def cutLast? (c : Char) (text : List Char) : Option (List Char × List Char) :=
  let after := text.reverse.takeWhile (· != c)
  if after.length = text.length then none
  else
    let before := text.length - after.length - 1
    some (text.take before, text.drop before)

/-- The maximal runs of characters that are not blank. -/
def words (text : List Char) : List (List Char) :=
  (text.foldr
    (fun c acc => if isBlank c then [] :: acc else match acc with
      | word :: rest => (c :: word) :: rest
      | [] => [[c]]) [[]]).filter (· ≠ [])

/-- The position of the first occurrence of a text in another. -/
def find? (needle : List Char) : List Char → Option Nat
  | [] => if needle.isEmpty then some 0 else none
  | c :: rest => if needle.isPrefixOf (c :: rest) then some 0 else (find? needle rest).map (· + 1)

def tails : List Char → List (List Char)
  | [] => []
  | c :: rest => (c :: rest) :: tails rest

end ScriptDeps.Text
