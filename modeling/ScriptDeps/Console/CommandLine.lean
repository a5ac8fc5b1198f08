/-!
# Command lines

A command line names a command after the options that hold for all commands; the command's own
options and arguments follow in any order. Two dashes end the options.
-/

namespace ScriptDeps.Console

/-- The options that hold for all commands. -/
structure GlobalOptions where
  human : Bool := false
  verbose : Bool := false
  deriving DecidableEq, Repr

/-- The commands. -/
inductive CommandName
  | resolve
  | searchDirs
  | decoration
  | config
  deriving DecidableEq, Repr

def CommandName.ofText? (name : String) : Option CommandName :=
  if name == "resolve" then some .resolve
  else if name == "search-dirs" then some .searchDirs
  else if name == "decoration" then some .decoration
  else if name == "config" then some .config
  else none

/-- What a command is asked to do. -/
inductive Request
  | resolve (script : String) (strictIdentity : Bool)
  | searchDirs
  | decoration (script : String)
  | config
  deriving DecidableEq, Repr

/-- Whether an argument is an option: a dash and something after it. -/
def isOption (argument : String) : Bool :=
  argument.startsWith "-" && argument != "-"

/-! ### Options for all commands -/

/-- The options with the one of a letter set. -/
def GlobalOptions.setLetter? (options : GlobalOptions) : Char → Option GlobalOptions
  | 'H' => some { options with human := true }
  | 'v' => some { options with verbose := true }
  | _ => none

/-- The options with those of an argument set. After one dash stand letters. -/
def GlobalOptions.set? (options : GlobalOptions) (argument : String) : Option GlobalOptions :=
  if argument == "--human" then some { options with human := true }
  else if argument == "--verbose" then some { options with verbose := true }
  else if argument.startsWith "--" then none
  else (argument.toList.drop 1).foldlM setLetter? options

/-- The options at the start of a command line, and the rest. -/
def takeGlobal? (options : GlobalOptions) : List String → Option (GlobalOptions × List String)
  | [] => some (options, [])
  | argument :: rest =>
    if argument == "--" then some (options, rest)
    else if isOption argument then (options.set? argument).bind fun options =>
      takeGlobal? options rest
    else some (options, argument :: rest)

/-- The options for all commands, the command, and its arguments. -/
def split? (arguments : List String) : Option (GlobalOptions × CommandName × List String) := do
  match ← takeGlobal? {} arguments with
  | (options, name :: rest) => return (options, ← CommandName.ofText? name, rest)
  | (_, []) => none

/-! ### A command's own arguments -/

/-- The options and the other arguments of a command; after two dashes there are no options. -/
def partition : List String → List String × List String
  | [] => ([], [])
  | argument :: rest =>
    if argument == "--" then ([], rest)
    else
      let (options, others) := partition rest
      if isOption argument then (argument :: options, others) else (options, argument :: others)

/-- What a command is asked to do by its arguments. -/
def Request.ofArguments? (command : CommandName) (arguments : List String) : Option Request :=
  match command, partition arguments with
  | .resolve, (options, [script]) =>
    if options.all (· == "--strict-identity") then some (.resolve script (!options.isEmpty))
    else none
  | .decoration, ([], [script]) => some (.decoration script)
  | .searchDirs, ([], []) => some .searchDirs
  | .config, ([], []) => some .config
  | _, _ => none

def Request.script? : Request → Option String
  | resolve script _ => some script
  | decoration script => some script
  | _ => none

end ScriptDeps.Console
