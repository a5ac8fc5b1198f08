import ScriptDeps.Text.Quoted

/-!
# Loose texts

What escapes for UTF-16 units can spell: characters, and halves of surrogate pairs that stand
alone. `toString?_ofString` says that nothing is lost of a text without such halves.
-/

namespace ScriptDeps

/-- A character, or the half of a surrogate pair with the code point `0xD800 + offset`. -/
inductive CodePoint
  | char (c : Char)
  | half (offset : Fin 2048)
  deriving DecidableEq, Repr

namespace CodePoint

def char? : CodePoint → Option Char
  | char c => some c
  | half _ => none

def toNat : CodePoint → Nat
  | char c => c.toNat
  | half offset => 0xD800 + offset

end CodePoint

/-- Code points in a row. -/
structure LooseText where
  points : List CodePoint
  deriving DecidableEq, Repr, Inhabited

namespace LooseText

def ofString (text : String) : LooseText :=
  ⟨text.toList.map .char⟩

instance : Coe String LooseText := ⟨ofString⟩

def append (a b : LooseText) : LooseText :=
  ⟨a.points ++ b.points⟩

instance : Append LooseText := ⟨append⟩

def isEmpty (text : LooseText) : Bool :=
  text.points.isEmpty

/-- The same text without looseness; none if half of a pair stands alone in it. -/
def toString? (text : LooseText) : Option String :=
  (text.points.mapM CodePoint.char?).map String.ofList

theorem mapM_char? (chars : List Char) :
    (chars.map CodePoint.char).mapM CodePoint.char? = some chars := by
  induction chars with
  | nil => rfl
  | cons c rest ih => simp [CodePoint.char?, ih]

theorem toString?_ofString (text : String) : (ofString text).toString? = some text := by
  rw [toString?, ofString, mapM_char?]
  simp

def halfEscape (offset : Fin 2048) : List Char :=
  '\\' :: 'u' :: Text.hexDigits 4 (0xD800 + offset)

/-- The text with an escape for each half that stands alone, since no file or terminal can be
given one. -/
def escaped (text : LooseText) : String :=
  let escapePoint : CodePoint → List Char
    | .char c => [c]
    | .half offset => halfEscape offset
  String.ofList (text.points.flatMap escapePoint)

def quoted (text : LooseText) : String :=
  let quote := Text.quoteFor (text.points.filterMap CodePoint.char?)
  let quotePoint : CodePoint → List Char
    | .char c => Text.quoteChar quote c
    | .half offset => halfEscape offset
  String.ofList (quote :: text.points.flatMap quotePoint ++ [quote])

end LooseText

end ScriptDeps
