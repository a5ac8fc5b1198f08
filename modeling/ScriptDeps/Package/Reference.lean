/-!
# Package references
-/

namespace ScriptDeps

/-- A package that a script needs. -/
structure PackageReference where
  name : String
  version : Option String
  /-- The package is restored but gives no libraries. -/
  noReference : Bool
  deriving DecidableEq, Repr

end ScriptDeps
