/-!
# Ranges of code points

A character class beyond ASCII is a table of closed ranges of code points.
-/

namespace ScriptDeps.Text

abbrev Ranges := List (Nat × Nat)

def Ranges.holds (ranges : Ranges) (c : Char) : Bool :=
  ranges.any fun r => r.1 ≤ c.toNat && c.toNat ≤ r.2

end ScriptDeps.Text
