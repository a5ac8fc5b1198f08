import ScriptDeps.Failure
import ScriptDeps.Text.Casing
import ScriptDeps.Text.Digit

/-!
# Versions and frameworks

The order of package versions, and of the folders that hold a package's libraries for one target
framework. Numbers are compared as numbers, part by part, and a release comes after its
prereleases.
-/

namespace ScriptDeps.Package

/-- Lists compared part by part; a list comes after its proper beginnings. -/
def compareParts : List Int → List Int → Ordering
  | [], [] => .eq
  | [], _ :: _ => .lt
  | _ :: _, [] => .gt
  | a :: as, b :: bs => (compare a b).then (compareParts as bs)

/-- The number that digits spell, if they are not too many. -/
def number? (digits : List Char) : Option Nat :=
  if Text.maxDigits < digits.length then none else Text.decimalNumber? digits

/-! ### Versions -/

/-- What versions are ordered by. A part that is no number counts as -1. -/
structure VersionKey where
  numbers : List Int
  isRelease : Bool
  prerelease : String
  deriving DecidableEq, Repr

namespace VersionKey

/-- The number that a part of a version counts as. Digits that are not decimal are refused. -/
def partNumber (part : List Char) : Except Failure Int :=
  if !part.isEmpty && part.all Text.isDigit then
    match number? part with
    | some n => .ok n
    | none => .error .notANumber
  else .ok (-1)

def ofText (version : String) : Except Failure VersionKey := do
  let (release, prerelease) := Text.cutAt '-' version.toList
  let numbers ← (Text.split '.' release).mapM partNumber
  return ⟨numbers, prerelease.isEmpty, String.ofList prerelease⟩

def compare (a b : VersionKey) : Ordering :=
  (compareParts a.numbers b.numbers).then
    ((Ord.compare a.isRelease b.isRelease).then (Ord.compare a.prerelease b.prerelease))

end VersionKey

/-! ### Frameworks -/

/-- What framework folders are ordered by: the family, the version, the name. -/
structure FrameworkKey where
  rank : Nat
  numbers : List Int
  name : String
  deriving DecidableEq, Repr

/-- A text without the line feed that may end it. -/
def dropFinalBreak (text : List Char) : List Char :=
  if text.getLast? == some '\n' then text.dropLast else text

/-- Whether a text is decimal numbers with dots between them. -/
def isDotted (text : List Char) : Bool :=
  (Text.split '.' text).all fun part => !part.isEmpty && part.all Text.isDecimal

namespace FrameworkKey

def dottedNumbers (text : List Char) : Except Failure (List Int) :=
  (Text.split '.' text).mapM fun part => match number? part with
    | some n => .ok n
    | none => .error .notANumber

def versionAfter? (family : String) (moniker : List Char) : Option (List Char) :=
  if family.toList.isPrefixOf moniker then some (moniker.drop family.length) else none

/-- The families with dotted versions, newest first. The first takes only versions with a dot. -/
def families : List (Nat × String) :=
  [(4, "net"), (3, "netstandard"), (2, "netcoreapp")]

/-- The key of a framework folder. A platform after a dash does not count; unknown names come
first. -/
def ofName (name : String) : Except Failure FrameworkKey := do
  let moniker := dropFinalBreak (Text.cutAt '-' (Text.lower name).toList).1
  let dotted := families.findSome? fun (rank, family) =>
    ((versionAfter? family moniker).filter fun version =>
      isDotted version && (rank != 4 || version.contains '.')).map (rank, ·)
  match dotted with
  | some (rank, version) => return ⟨rank, ← dottedNumbers version, name⟩
  | none =>
    match versionAfter? "net" moniker with
    | some digits =>
      if !digits.isEmpty && digits.all Text.isDecimal then
        return ⟨1, digits.filterMap fun c => (Text.decimalValue? c).map Int.ofNat, name⟩
      else return ⟨0, [], name⟩
    | none => return ⟨0, [], name⟩

def compare (a b : FrameworkKey) : Ordering :=
  (Ord.compare a.rank b.rank).then
    ((compareParts a.numbers b.numbers).then (Ord.compare a.name b.name))

end FrameworkKey

/-! ### Sorting -/

/-- Things with keys, sorted by their keys, keeping the order of those with equal keys. -/
def sortUp {α κ : Type} (order : κ → κ → Ordering) (items : List (κ × α)) : List (κ × α) :=
  items.mergeSort fun a b => order a.1 b.1 != .gt

/-- Things with keys, the greatest key first, keeping the order of those with equal keys. -/
def sortDown {α κ : Type} (order : κ → κ → Ordering) (items : List (κ × α)) : List (κ × α) :=
  items.mergeSort fun a b => order a.1 b.1 != .lt

def sortVersions (versions : List String) : Except Failure (List String) := do
  let keyed ← versions.mapM fun version => return (← VersionKey.ofText version, version)
  return (sortUp VersionKey.compare keyed).map (·.2)

def sortFrameworks (names : List String) : Except Failure (List String) := do
  let keyed ← names.mapM fun name => return (← FrameworkKey.ofName name, name)
  return (sortDown FrameworkKey.compare keyed).map (·.2)

end ScriptDeps.Package
