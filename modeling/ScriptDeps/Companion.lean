import ScriptDeps.UserSettings

/-!
# The host's companion library

The host's own library is known only when its modules are loaded. The outermost loaded module of
the host's name tells where it lies, and that is looked up once.
-/

namespace ScriptDeps

/-- A module's place in the order of preference: how deep it is nested, and its name. -/
def moduleOrder (a b : String × String) : Bool :=
  let depth := fun (name : String) => (name.toList.filter (· == '.')).length
  (compare (depth a.1) (depth b.1)).then (compare a.1 b.1) != .gt

/-- The companion library of the host whose modules' names start with a name. -/
structure Companion where
  hostName : Json := .text UserSettings.defaultCompanion
  /-- Where the library lies, if it has been looked up: nowhere, or at a path. -/
  located : Option (Option String) := none

namespace Companion

def owns (companion : Companion) (name : String) : Bool :=
  companion.hostName.text? == some (String.ofList (Text.cutAt '.' name.toList).1)

/-- The file of the outermost of the host's modules that have one. -/
def find? (companion : Companion) (modules : List (String × Option String)) : Option String :=
  let files := modules.filterMap fun (name, file) =>
    (file.filter (· != "")).bind fun file => if companion.owns name then some (name, file) else none
  ((files.mergeSort moduleOrder).head?).map (·.2)

def path (companion : Companion) (modules : List (String × Option String)) : Option String :=
  companion.located.getD (companion.find? modules)

/-- The companion after its library has been looked up. -/
def lookedUp (companion : Companion) (modules : List (String × Option String)) : Companion :=
  { companion with located := some (companion.path modules) }

end Companion

end ScriptDeps
