import ScriptDeps.Failure
import ScriptDeps.Text.Identifier
import ScriptDeps.Text.Segment

/-!
# Renaming namespaces

A renaming replaces an old name wherever it stands by itself: after no word character and no dot,
before no word character. What it puts there is a replacement, in which a backslash starts an
escape or stands for the replaced name.
-/

namespace ScriptDeps.Script

/-- A piece of what replaces a name. -/
inductive Piece
  | char (c : Char)
  /-- The name that is replaced. -/
  | whole
  deriving DecidableEq, Repr

abbrev Replacement := List Piece

namespace Replacement

/-- A character, one after a backslash, or a backslash that nothing follows. -/
inductive Unit
  | plain (c : Char)
  | escaped (c : Char)
  | dangling
  deriving DecidableEq, Repr

def units : List Char → List Unit
  | [] => []
  | ['\\'] => [.dangling]
  | '\\' :: c :: rest => .escaped c :: units rest
  | c :: rest => .plain c :: units rest

def Unit.text : Unit → List Char
  | plain c => [c]
  | escaped c => ['\\', c]
  | dangling => ['\\']

def octal? : Unit → Option Nat
  | .plain c => if '0' ≤ c && c ≤ '7' then some (c.toNat - '0'.toNat) else none
  | _ => none

/-- The units up to an angle bracket, and those after it. -/
def cutGroup? : List Unit → Option (List Char × List Unit)
  | [] => none
  | .plain '>' :: rest => some ([], rest)
  | unit :: rest => (cutGroup? rest).map fun (name, rest) => (unit.text ++ name, rest)

/-- Whether a text is digits, single underscores between them, all of them zeros. -/
def isZeros : List Char → Bool
  | [] => false
  | [c] => Text.decimalValue? c == some 0
  | c :: '_' :: rest => Text.decimalValue? c == some 0 && isZeros rest
  | c :: rest => Text.decimalValue? c == some 0 && isZeros rest

/-- Whether the character may stand around a number: the separators among the control characters
may not. -/
def isNumberSpace (c : Char) : Bool :=
  Text.isBlank c && !('\x1c' ≤ c && c ≤ '\x1f')

/-- Whether a group's name is the number of the whole match. -/
def isGroupZero (name : List Char) : Bool :=
  let digits := match Text.trimBoth isNumberSpace name with
    | '-' :: digits => digits
    | '+' :: digits => digits
    | digits => digits
  isZeros digits && (digits.filter (· != '_')).length ≤ Text.maxDigits

/-- The character that a letter after a backslash stands for. -/
def control? (c : Char) : Option Char :=
  if c == 'a' then some '\x07'
  else if c == 'b' then some '\x08'
  else if c == 'f' then some '\x0c'
  else if c == 'n' then some '\n'
  else if c == 'r' then some '\r'
  else if c == 't' then some '\t'
  else if c == 'v' then some '\x0b'
  else none

/-- The first piece of a text's units and how many units it takes. A backslash that dangles right
after a group is noticed before the group's name is looked up. -/
def piece : Unit → List Unit → Except Failure (List Piece × Nat)
  | .plain c, _ => .ok ([.char c], 1)
  | .dangling, _ => .error .badReplacement
  | .escaped c, rest =>
    if c == 'g' then
      match rest with
      | .plain '<' :: rest =>
        match cutGroup? rest with
        | none => .error .badReplacement
        | some (name, after) =>
          if after.head? == some .dangling then .error .badReplacement
          else if Text.isIdentifier name then .error .unknownGroup
          else if isGroupZero name then .ok ([.whole], rest.length - after.length + 2)
          else .error .badReplacement
      | _ => .error .badReplacement
    else if c == '0' then
      match rest.head?.bind octal?, (rest.drop 1).head?.bind octal? with
      | some a, some b => .ok ([.char (Char.ofNat (a * 8 + b))], 3)
      | some a, none => .ok ([.char (Char.ofNat a)], 2)
      | none, _ => .ok ([.char '\x00'], 1)
    else if c.isDigit then
      match octal? (.plain c), rest.head?.bind octal?, (rest.drop 1).head?.bind octal? with
      | some a, some b, some d =>
        if a < 4 then .ok ([.char (Char.ofNat ((a * 8 + b) * 8 + d))], 3)
        else .error .badReplacement
      | _, _, _ => .error .badReplacement
    else if c == '\\' then .ok ([.char '\\'], 1)
    else match control? c with
      | some meant => .ok ([.char meant], 1)
      | none =>
        if c.isAlpha then .error .badReplacement else .ok ([.char '\\', .char c], 1)

/-- The pieces of units, the first `skipped` of which are already taken. -/
def ofUnits (skipped : Nat) : List Unit → Except Failure Replacement
  | [] => .ok []
  | unit :: rest =>
    match skipped with
    | n + 1 => ofUnits n rest
    | 0 => do
      let (pieces, taken) ← piece unit rest
      return pieces ++ (← ofUnits (taken - 1) rest)

def ofText (text : List Char) : Except Failure Replacement :=
  ofUnits 0 (units text)

/-- What a replacement puts in place of a name. -/
def fill (replacement : Replacement) (name : List Char) : List Char :=
  replacement.flatMap fun
    | .char c => [c]
    | .whole => name

end Replacement

def isBoundary : Option Char → Bool
  | some c => !(Text.isWord c || c == '.')
  | none => true

/-- A text with every free occurrence of `old` replaced; `before` is the character that the text
follows. An empty name is replaced by putting the new one in. -/
def replaceFrom (old new : List Char) (before : Option Char) : List Char → List Char
  | [] => if old.isEmpty && isBoundary before then new else []
  | c :: rest =>
    if isBoundary before && old.isPrefixOf (c :: rest)
        && !Text.startsWithWord ((c :: rest).drop old.length) then
      if old.isEmpty then new ++ c :: replaceFrom old new (some c) rest
      else new ++ replaceFrom old new old.getLast? (rest.drop (old.length - 1))
    else c :: replaceFrom old new (some c) rest
termination_by text => text.length

/-- A name and the one that takes its place. -/
abbrev Renaming := String × String

def rename (text : String) (names : Renaming) : Except Failure String := do
  let replacement ← Replacement.ofText names.2.toList
  let old := names.1.toList
  return String.ofList (replaceFrom old (replacement.fill old) none text.toList)

def renameAll (text : String) (renamings : List Renaming) : Except Failure String :=
  renamings.foldlM rename text

end ScriptDeps.Script
