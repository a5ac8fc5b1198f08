import ScriptDeps.Text.Segment

/-!
# Block comments

A block comment runs from `/*` to the next `*/`. Blanking takes every one that is closed out of a
text but for its line feeds, so that lines keep their numbers.
-/

namespace ScriptDeps.Script

/-- Whether a text has the end of a block comment. -/
def hasClose : List Char → Bool
  | '*' :: '/' :: _ => true
  | _ :: rest => hasClose rest
  | [] => false

/-- A text without its closed block comments, but with all line feeds; `inside` tells that it
starts in a comment. -/
def blankFrom (inside : Bool) : List Char → List Char
  | [] => []
  | [c] => if inside then (if c == '\n' then [c] else []) else [c]
  | c :: d :: rest =>
    if inside then
      if c == '*' && d == '/' then blankFrom false rest
      else if c == '\n' then c :: blankFrom true (d :: rest)
      else blankFrom true (d :: rest)
    else if c == '/' && d == '*' && hasClose rest then blankFrom true rest
    else c :: blankFrom false (d :: rest)

def blankComments (text : List Char) : List Char :=
  blankFrom false text

end ScriptDeps.Script
