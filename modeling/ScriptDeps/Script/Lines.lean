import ScriptDeps.Text.Segment

/-!
# Lines of a script

Only a line feed ends a line. The rest of a text from the start of each line is what a declaration
is looked for in, since one may run over several lines.
-/

namespace ScriptDeps.Script

def afterBreaks : List Char → List (List Char)
  | [] => []
  | c :: rest => if c == '\n' then rest :: afterBreaks rest else afterBreaks rest

/-- The rest of a text from the start of each line. -/
def lineTails (text : List Char) : List (List Char) :=
  text :: afterBreaks text

/-- The lines of a text without their line feeds. -/
def lines (text : List Char) : List (List Char) :=
  Text.split '\n' text

/-- Whether the character is a space or a tab. -/
def isSpaceOrTab (c : Char) : Bool :=
  c == ' ' || c == '\t'

/-- What follows a word at the start of a text. -/
def after? : List Char → List Char → Option (List Char)
  | [], text => some text
  | c :: word, d :: text => if c == d then after? word text else none
  | _ :: _, [] => none

/-- What follows the white space at the start of a text, if there is any. -/
def afterBlanks? : List Char → Option (List Char)
  | c :: rest => if Text.isBlank c then some (rest.dropWhile Text.isBlank) else none
  | [] => none

/-- Whether the character may stand in a dotted name. -/
def isNamePart (c : Char) : Bool :=
  c.isAlphanum || c == '_' || c == '.'

def isNameStart (c : Char) : Bool :=
  c.isAlpha || c == '_'

end ScriptDeps.Script
