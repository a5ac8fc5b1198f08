import ScriptDeps.Host

/-!
# References to variables

A text may refer to variables of the environment as `%V%`, `${V}` or `$V`. A reference to one that
is not set stays as it is, and what replaces a reference is not looked at again.
-/

namespace ScriptDeps.SearchPath

def isVariableStart (c : Char) : Bool :=
  c.isAlpha || c == '_'

/-- Whether the character may go on with a variable's name. -/
def isVariablePart (c : Char) : Bool :=
  c.isAlphanum || c == '_'

/-- The length of the variable's name at the start of a text; zero if there is none. -/
def nameLength : List Char → Nat
  | c :: rest => if isVariableStart c then (rest.takeWhile isVariablePart).length + 1 else 0
  | [] => 0

/-- The variable that the text's start refers to, and the number of characters of the
reference. -/
def referenceAt? : List Char → Option (List Char × Nat)
  | '%' :: rest =>
    let n := nameLength rest
    if n != 0 && (rest.drop n).head? == some '%' then some (rest.take n, n + 2) else none
  | '$' :: '\x7b' :: rest =>
    let n := nameLength rest
    if n != 0 && (rest.drop n).head? == some '\x7d' then some (rest.take n, n + 3) else none
  | '$' :: rest =>
    let n := nameLength rest
    if n != 0 then some (rest.take n, n + 1) else none
  | _ => none

/-- A text with its references replaced, the first `skipped` characters being part of a reference
that already is. -/
def expandFrom (environment : Environment) (skipped : Nat) : List Char → List Char
  | [] => []
  | c :: rest =>
    match skipped with
    | n + 1 => expandFrom environment n rest
    | 0 =>
      match referenceAt? (c :: rest) with
      | none => c :: expandFrom environment 0 rest
      | some (name, length) =>
        let value := match environment.get? (String.ofList name) with
          | some value => value.toList
          | none => (c :: rest).take length
        value ++ expandFrom environment (length - 1) rest

/-- A text with the references to variables that are set replaced by their values. -/
def expand (environment : Environment) (text : String) : String :=
  String.ofList (expandFrom environment 0 text.toList)

end ScriptDeps.SearchPath
