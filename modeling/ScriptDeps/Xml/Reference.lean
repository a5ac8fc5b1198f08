import ScriptDeps.Text.Segment
import ScriptDeps.Xml.Name

/-!
# Characters and references

What may stand in an XML text, and the two forms of references: to a character by its number and
to an entity by its name. In the value of an attribute all white space counts as spaces.
-/

namespace ScriptDeps.Xml

/-! ### Characters -/

/-- Whether the character may occur in an XML file. -/
def isXmlChar (c : Char) : Bool :=
  c == '\t' || c == '\n' || c == '\r' || (32 ≤ c.toNat && c.toNat != 0xFFFE && c.toNat != 0xFFFF)

def isSpace (c : Char) : Bool :=
  c == ' ' || c == '\t' || c == '\n' || c == '\r'

/-- The text without the white space at its start. -/
def dropSpace (text : List Char) : List Char :=
  text.dropWhile isSpace

/-- What follows a word at the start of a text. -/
def after? (word text : List Char) : Option (List Char) :=
  if word.isPrefixOf text then some (text.drop word.length) else none

/-- What stands before the first occurrence of a word, and what follows it. -/
def cutAt? (word text : List Char) : Option (List Char × List Char) :=
  (Text.find? word text).map fun position =>
    (text.take position, text.drop (position + word.length))

/-- A text between quotes of either kind, and what follows it. -/
def literal? : List Char → Option (List Char × List Char)
  | '"' :: rest => cutAt? ['"'] rest
  | '\'' :: rest => cutAt? ['\''] rest
  | _ => none

/-! ### References -/

/-- A character or a reference to an entity. -/
inductive Piece
  | char (c : Char)
  | entity (name : List Char)
  deriving DecidableEq, Repr

def Piece.referred? : Piece → Option (List Char)
  | .char _ => none
  | .entity name => some name

def number? (base : Nat) (digits : List Char) : Option Nat :=
  if digits.isEmpty then none
  else digits.foldlM (fun n c => do
    let value := if c.isDigit then c.toNat - '0'.toNat
      else if 'a' ≤ c && c ≤ 'f' then c.toNat - 'a'.toNat + 10
      else if 'A' ≤ c && c ≤ 'F' then c.toNat - 'A'.toNat + 10
      else base
    if value < base then some (min (base * n + value) 0x110000) else none) 0

/-- The character that a number stands for, if it may occur in an XML file. -/
def charOfNumber? (n : Nat) : Option Char :=
  if n.isValidChar && isXmlChar (Char.ofNat n) then some (Char.ofNat n) else none

def predefined? (name : List Char) : Option Char :=
  if name = "amp".toList then some '&'
  else if name = "lt".toList then some '<'
  else if name = "gt".toList then some '>'
  else if name = "quot".toList then some '"'
  else if name = "apos".toList then some '\''
  else none

def reference? (alphabet : Alphabet) : List Char → Option (Piece × List Char)
  | '#' :: 'x' :: rest => do
    let (digits, rest) ← cutAt? [';'] rest
    return (.char (← charOfNumber? (← number? 16 digits)), rest)
  | '#' :: rest => do
    let (digits, rest) ← cutAt? [';'] rest
    return (.char (← charOfNumber? (← number? 10 digits)), rest)
  | text => do
    let (name, rest) ← name? alphabet text
    let rest ← after? [';'] rest
    match predefined? name with
    | some c => return (.char c, rest)
    | none => return (.entity name, rest)

/-- The pieces of the value of an attribute. The fuel is its length. -/
def pieces? (alphabet : Alphabet) : Nat → List Char → Option (List Piece)
  | _, [] => some []
  | 0, _ => none
  | fuel + 1, '&' :: rest => do
    let (piece, rest) ← reference? alphabet rest
    return piece :: (← pieces? alphabet fuel rest)
  | fuel + 1, c :: rest => do
    guard (c != '<')
    return .char (if isSpace c then ' ' else c) :: (← pieces? alphabet fuel rest)

/-- The text of an entity's value with its character references replaced; all other references
are kept as they are written. The fuel is its length. -/
def replaceCharRefs? (alphabet : Alphabet) : Nat → List Char → Option (List Char)
  | _, [] => some []
  | 0, _ => none
  | fuel + 1, '&' :: '#' :: rest => do
    match ← reference? alphabet ('#' :: rest) with
    | (.char c, rest) => return c :: (← replaceCharRefs? alphabet fuel rest)
    | (.entity _, _) => none
  | fuel + 1, '&' :: rest => do
    let (name, rest) ← name? alphabet rest
    let rest ← after? [';'] rest
    return '&' :: name ++ ';' :: (← replaceCharRefs? alphabet fuel rest)
  | fuel + 1, c :: rest => do
    guard (c != '%')
    return c :: (← replaceCharRefs? alphabet fuel rest)

end ScriptDeps.Xml
