import ScriptDeps.Script.Lines

/-!
# Auto-class scripts

A script may ask to be wrapped into a class. The wrapped text has a marker on a line of its own,
which editors hide.
-/

namespace ScriptDeps.Script

/-- Whether the text starts with the request to be wrapped into a class. -/
def asksForClassAt (text : List Char) : Bool :=
  match after? "//css_args".toList text with
  | none => false
  | some rest => match afterBlanks? rest with
    | none => false
    | some rest => match after? "/ac".toList rest with
      | some (c :: _) => c == ',' || Text.isBlank c
      | _ => false

/-- Whether a script asks to be wrapped into a class. -/
def asksForClass (text : String) : Bool :=
  (Text.tails text.toList).any asksForClassAt

/-- The mark of the line that the wrapping adds. -/
def marker : List Char :=
  "///CS-Script auto-class generation".toList

/-- A region of a text. -/
structure Region where
  offset : Nat
  length : Nat
  deriving DecidableEq, Repr

/-- Whether the character ends a line for an editor. -/
def isBreak (c : Char) : Bool :=
  c == '\n' || c == '\r'

/-- The number of characters of the line break that a text starts with. -/
def breakLength : List Char → Nat
  | '\r' :: '\n' :: _ => 2
  | _ :: _ => 1
  | [] => 0

/-- The first line that holds the marker, with its line break. -/
def markedRegion? (text : List Char) : Option Region :=
  (Text.find? marker text).map fun position =>
    let before := (text.take position).reverse.takeWhile (!isBreak ·)
    let after := text.drop position
    let rest := after.takeWhile (!isBreak ·)
    { offset := position - before.length
      length := before.length + rest.length + breakLength (after.dropWhile (!isBreak ·)) }

end ScriptDeps.Script
