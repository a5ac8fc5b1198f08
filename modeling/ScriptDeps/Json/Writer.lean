import ScriptDeps.Json.Basic

/-!
# Writing JSON

Values written in ASCII: every other character, and the delete character, is escaped in UTF-16
units. A layout fixes what stands between items and whether nesting is indented.
-/

namespace ScriptDeps.Json

/-- How a value is laid out. -/
inductive Layout
  /-- No white space. -/
  | dense
  /-- A space after each comma and colon. -/
  | spaced
  /-- One item a line, indented by two spaces a level. -/
  | indented
  deriving DecidableEq, Repr

def unitEscape (n : Nat) : List Char :=
  '\\' :: 'u' :: Text.hexDigits 4 n

def escapeChar (c : Char) : List Char :=
  if c == '"' || c == '\\' then ['\\', c]
  else if c == '\n' then ['\\', 'n']
  else if c == '\r' then ['\\', 'r']
  else if c == '\t' then ['\\', 't']
  else if c == '\x08' then ['\\', 'b']
  else if c == '\x0c' then ['\\', 'f']
  else if 32 ≤ c.toNat && c.toNat < 127 then [c]
  else if c.toNat < 0x10000 then unitEscape c.toNat
  else unitEscape (0xD800 + (c.toNat - 0x10000) / 0x400)
    ++ unitEscape (0xDC00 + (c.toNat - 0x10000) % 0x400)

def escapePoint : CodePoint → List Char
  | .char c => escapeChar c
  | .half offset => LooseText.halfEscape offset

def escapeText (text : LooseText) : List Char :=
  '"' :: text.points.flatMap escapePoint ++ ['"']

namespace Layout

def comma : Layout → List Char
  | dense => [',']
  | spaced => [',', ' ']
  | indented => [',']

/-- What stands between a member's name and its value. -/
def colon : Layout → List Char
  | dense => [':']
  | _ => [':', ' ']

/-- What stands before an item or a closing bracket at a depth. -/
def lead (depth : Nat) : Layout → List Char
  | indented => '\n' :: List.replicate (2 * depth) ' '
  | _ => []

end Layout

mutual

/-- The characters of a value written at a depth of nesting. -/
def writeAt (layout : Layout) (depth : Nat) : Json → List Char
  | null => "null".toList
  | bool value => (if value then "true" else "false").toList
  | integer value => (toString value).toList
  | real value => (realText "Infinity" "NaN" value).toList
  | text value => escapeText value
  | list [] => ['[', ']']
  | list (item :: rest) =>
    '[' :: layout.lead (depth + 1) ++ writeAt layout (depth + 1) item
      ++ writeItems layout (depth + 1) rest ++ layout.lead depth ++ [']']
  | object [] => ['\x7b', '\x7d']
  | object ((name, value) :: rest) =>
    '\x7b' :: layout.lead (depth + 1) ++ escapeText name ++ layout.colon
      ++ writeAt layout (depth + 1) value ++ writeMembers layout (depth + 1) rest
      ++ layout.lead depth ++ ['\x7d']

def writeItems (layout : Layout) (depth : Nat) : List Json → List Char
  | [] => []
  | item :: rest =>
    layout.comma ++ layout.lead depth ++ writeAt layout depth item ++ writeItems layout depth rest

def writeMembers (layout : Layout) (depth : Nat) : List (LooseText × Json) → List Char
  | [] => []
  | (name, value) :: rest =>
    layout.comma ++ layout.lead depth ++ escapeText name ++ layout.colon
      ++ writeAt layout depth value ++ writeMembers layout depth rest

end

def write (layout : Layout) (value : Json) : String :=
  String.ofList (writeAt layout 0 value)

end ScriptDeps.Json
