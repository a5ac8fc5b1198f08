import ScriptDeps.Host
import ScriptDeps.Json.Writer

/-!
# Console output

What commands print, for machines or for people. Machines get one dense JSON document on standard
output, errors included; people get indented JSON, tables, and errors on standard error.
-/

namespace ScriptDeps.Console

/-- Whom the output is for. -/
inductive Audience
  | machine
  | human
  deriving DecidableEq, Repr

/-- Whom the output is for unless that has been settled: a machine, if the environment does not ask
for the other. -/
def Audience.ofEnvironment (environment : Environment) : Audience :=
  let word := Text.lower ((environment.get? "SCRIPTLENS_HUMAN_MODE").getD "")
  if word == "1" || word == "true" || word == "yes" then .human else .machine

/-- A table of texts. -/
structure Table where
  title : String
  columns : List String
  rows : List (List String)
  deriving DecidableEq, Repr

/-- What has been printed. -/
structure Printed where
  output : String := ""
  errors : String := ""
  tables : List Table := []
  deriving DecidableEq, Repr

def Printed.append (a b : Printed) : Printed :=
  ⟨a.output ++ b.output, a.errors ++ b.errors, a.tables ++ b.tables⟩

instance : Append Printed where
  append := Printed.append

/-- The length of the terminal control at the start of a text: an escape, a bracket, parameters and
a letter. Zero if there is none. -/
def controlLength : List Char → Nat
  | '\x1b' :: '[' :: rest =>
    let isParameter := fun (c : Char) => c.isDigit || c == ';' || c == '?'
    if (rest.dropWhile isParameter).head?.any Char.isAlpha then
      (rest.takeWhile isParameter).length + 3
    else 0
  | _ => 0

/-- A text without terminal controls, the first `skipped` characters being part of one. -/
def withoutControls (skipped : Nat) : List Char → List Char
  | [] => []
  | c :: rest =>
    match skipped with
    | n + 1 => withoutControls n rest
    | 0 => match controlLength (c :: rest) with
      | 0 => c :: withoutControls 0 rest
      | n + 1 => withoutControls n rest

/-- A text as it is printed. People do not get terminal controls, since the output is no
terminal. -/
def printable (audience : Audience) (text : String) : String :=
  match audience with
  | .machine => text
  | .human => String.ofList (withoutControls 0 text.toList)

def line (audience : Audience) (text : String) : Printed :=
  { output := printable audience text ++ "\n" }

/-- A value on a line of standard output. Nothing is an empty line for people. -/
def echo (audience : Audience) (message : Json) : Printed :=
  match audience, message with
  | .human, .null => line .human ""
  | audience, message => line audience message.shown.escaped

/-- A value as JSON, dense for machines unless settled otherwise. -/
def jsonText (audience : Audience) (dense : Option Bool) (value : Json) : Printed :=
  line audience (value.write (if dense.getD (audience == .machine) then .dense else .indented))

/-- An error as an object; the input that caused it is left out if it says nothing. -/
def structuredError (code message input : Json) : Json :=
  let cause : List (LooseText × Json) := if input.isTruthy then [("input", input)] else []
  .object (("status", .text "error") :: ("code", code) :: ("message", message) :: cause)

/-- An error: an object for machines, a line on standard error for people. -/
def error (audience : Audience) (code message input : Json) : Printed :=
  match audience with
  | .machine => jsonText .machine none (structuredError code message input)
  | .human => { errors := printable .human ("Error: " ++ message.shown.escaped) ++ "\n" }

end ScriptDeps.Console
