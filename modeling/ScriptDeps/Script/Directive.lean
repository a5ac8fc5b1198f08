import ScriptDeps.Package.Reference
import ScriptDeps.Script.AutoClass
import ScriptDeps.Script.Comment
import ScriptDeps.Script.Renaming
import ScriptDeps.Text.Casing

/-!
# Directives

What a script declares about what it needs: the namespaces it uses, and the directives
`//css_name value` that stand on lines of their own. Block comments hide both.
-/

namespace ScriptDeps

namespace Script

/-- A script that another one imports. -/
structure Import where
  name : String
  /-- The file that the import stands in. -/
  declaredIn : String
  renamings : List Renaming
  /-- The number of the import's line, counted from one. -/
  line : Nat
  deriving DecidableEq, Repr

/-- What a script declares. -/
structure Directives where
  namespaces : List String := []
  references : List String := []
  imports : List Import := []
  searchDirs : List String := []
  packages : List PackageReference := []
  ignoredNamespaces : List String := []
  autoClass : Bool := false
  deriving DecidableEq, Repr

/-- The meanings of directives. -/
inductive DirectiveKind
  | reference
  | importScript
  | searchDir
  | package
  | ignoredNamespace
  | arguments
  deriving DecidableEq, Repr

def spellings : List (String × DirectiveKind) :=
  [("reference", .reference), ("ref", .reference), ("r", .reference),
   ("import", .importScript), ("imp", .importScript), ("include", .importScript), ("inc", .importScript),
   ("searchdir", .searchDir), ("dir", .searchDir), ("nuget", .package),
   ("ignore_namespace", .ignoredNamespace), ("ignore_ns", .ignoredNamespace),
   ("args", .arguments)]

/-- What a directive's name means, in any letter case. -/
def DirectiveKind.ofName? (name : List Char) : Option DirectiveKind :=
  let lowered := String.ofList (name.map Char.toLower)
  (spellings.find? (·.1 == lowered)).map (·.2)

/-! ### Values -/

/-- A value without white space and quotes around it. -/
def unquote (value : List Char) : String :=
  String.ofList (Text.trim (Text.trimBoth (· == '\'') (Text.trimBoth (· == '"') (Text.trim value))))

/-- The old and the new name of a renaming at the start of a text. -/
def renamingAt? (text : List Char) : Option Renaming := do
  let rest ← after? "rename_namespace".toList text
  let rest ← after? ['('] (rest.dropWhile Text.isBlank)
  let rest := rest.dropWhile Text.isBlank
  let old := rest.takeWhile isNamePart
  guard (!old.isEmpty)
  let rest ← after? [','] ((rest.dropWhile isNamePart).dropWhile Text.isBlank)
  let rest := rest.dropWhile Text.isBlank
  let new := rest.takeWhile isNamePart
  guard (!new.isEmpty)
  let _ ← after? [')'] ((rest.dropWhile isNamePart).dropWhile Text.isBlank)
  return (String.ofList old, String.ofList new)

/-- An import directive's value: a name, and renamings after a comma. -/
def Import.ofValue (value : List Char) (declaredIn : String) (line : Nat) : Import :=
  let (name, options) := Text.cutAt ',' value
  { name := unquote name
    declaredIn
    renamings := (Text.tails options).filterMap renamingAt?
    line }

/-- The options of a package directive read so far. -/
structure PackageOptions where
  version : Option String := none
  noReference : Bool := false

/-- The options after one that starts with a dash, which is left out of `option`. -/
def PackageOptions.read (options : PackageOptions) (option : List Char) : PackageOptions :=
  let lowered := (Text.lower (String.ofList option)).toList
  if lowered == "noref".toList then { options with noReference := true }
  else if "ver:".toList.isPrefixOf lowered then
    let version := unquote (option.drop 4)
    { options with version := if version.isEmpty then none else some version }
  else options

/-- A package directive's value: options that start with a dash, and names. The options hold for
all names. -/
def packagesOfValue (value : List Char) : List PackageReference :=
  let tokens := Text.words (value.map fun c => if c == ',' then ' ' else c)
  let options := tokens.foldl
    (fun options token => match token with
      | '-' :: option => options.read option
      | _ => options) ({} : PackageOptions)
  let names := (tokens.filter fun token => token.head? != some '-').map unquote
  (names.filter (!·.isEmpty)).map fun name => ⟨name, options.version, options.noReference⟩

/-! ### Declarations in a text -/

/-- The namespace of a using declaration at the start of a text. -/
def usingAt? (text : List Char) : Option String := do
  let start := text.dropWhile isSpaceOrTab
  let start := ((after? "global".toList start).bind afterBlanks?).getD start
  let rest ← (after? "using".toList start).bind afterBlanks?
  guard (((after? "static".toList rest).map Text.startsWithWord).getD true)
  guard (rest.head?.any isNameStart)
  let _ ← after? [';'] ((rest.dropWhile isNamePart).dropWhile Text.isBlank)
  return String.ofList (rest.takeWhile isNamePart)

/-- A directive's text without the blanks, the semicolon and the blanks before it at its end. -/
def dropTerminator (text : List Char) : List Char :=
  let trimmed := Text.trimRight isSpaceOrTab text
  if trimmed.getLast? == some ';' then Text.trimRight isSpaceOrTab trimmed.dropLast else trimmed

/-- The meaning and the value of the directive on a line. -/
def directiveOn? (line : List Char) : Option (DirectiveKind × List Char) := do
  let rest ← after? "//css_".toList (line.dropWhile isSpaceOrTab)
  let name := rest.takeWhile fun c => c.isAlpha || c == '_'
  let rest := rest.dropWhile fun c => c.isAlpha || c == '_'
  guard (!name.isEmpty && !Text.startsWithWord rest)
  let written := Text.trim (dropTerminator (rest.dropWhile isSpaceOrTab))
  let value := Text.trim (Text.trimRight (· == ';') written)
  let kind ← DirectiveKind.ofName? name
  guard (!value.isEmpty)
  return (kind, value)

/-- The items with a new one at the end, unless it is empty or among them. -/
def addNew (items : List String) (item : String) : List String :=
  if item.isEmpty || items.contains item then items else items ++ [item]

namespace Directives

def add (file : String) (d : Directives) (line : Nat) :
    DirectiveKind × List Char → Directives
  | (.reference, value) => { d with references := addNew d.references (unquote value) }
  | (.importScript, value) => { d with imports := d.imports ++ [.ofValue value file line] }
  | (.searchDir, value) => { d with searchDirs := addNew d.searchDirs (unquote value) }
  | (.package, value) => { d with packages := d.packages ++ packagesOfValue value }
  | (.ignoredNamespace, value) =>
    { d with ignoredNamespaces := addNew d.ignoredNamespaces (unquote value) }
  | (.arguments, _) => d

/-- The declarations of the lines, the first of which has the number `line`, added. -/
def addLines (file : String) (d : Directives) (line : Nat) : List (List Char) → Directives
  | [] => d
  | text :: rest =>
    let next := match directiveOn? text with
      | some directive => add file d line directive
      | none => d
    addLines file next (line + 1) rest

/-- What a script declares; `file` is where it stands. -/
def ofText (text file : String) : Directives :=
  let visible := blankComments text.toList
  let namespaces := ((lineTails visible).filterMap usingAt?).foldl addNew []
  addLines file { namespaces, autoClass := asksForClass text } 1 (lines visible)

end Directives

end Script

end ScriptDeps
