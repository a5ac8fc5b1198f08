import ScriptDeps.Text.Ranges

/-!
# Blank characters

The characters that count as white space: the ASCII controls from tab to carriage return and
the four separators above them, the next-line control, and the Unicode spaces and line breaks.
-/

namespace ScriptDeps.Text

def blankRanges : Ranges := [
  (0x9, 0xD), (0x1C, 0x20), (0x85, 0x85), (0xA0, 0xA0), (0x1680, 0x1680), (0x2000, 0x200A),
  (0x2028, 0x2029), (0x202F, 0x202F), (0x205F, 0x205F), (0x3000, 0x3000)]

def isBlank (c : Char) : Bool :=
  blankRanges.holds c

end ScriptDeps.Text
