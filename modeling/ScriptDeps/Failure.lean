import ScriptDeps.FileSystem.Basic
import ScriptDeps.Json.Reader
import ScriptDeps.Text.Utf8

/-!
# Failures

Why an operation gives no answer, one constructor a cause, with what is said about it.
-/

namespace ScriptDeps

/-- Why the text of a script cannot be had. -/
inductive ReadCause
  | file (fault : FileFault) (path : String)
  | encoding (fault : Text.Utf8Fault)
  deriving DecidableEq, Repr

def ReadCause.message : ReadCause → String
  | file fault path => fault.message path
  | encoding fault => fault.message

/-- Why the identity worker gives no names. -/
inductive WorkerFault
  | notRunning
  | timedOut (limit : String)
  | exited (code : Int) (errors : String)
  | unreadable (errors : String)
  deriving DecidableEq, Repr

def WorkerFault.message : WorkerFault → String
  | notRunning => "probe process is not running"
  | timedOut limit => "identity probe timed out after " ++ limit ++ "s"
  | exited code _ => "identity probe exited with " ++ toString code
  | unreadable _ => "identity probe returned invalid output"

/-- Why an operation gives no answer. -/
inductive Failure
  /-- The file system refuses. -/
  | file (fault : FileFault) (path : String)
  /-- A path holds a null character. -/
  | nullInPath
  /-- A path's links lead back to themselves. -/
  | linkLoop
  /-- A path without a last name cannot be given another one. -/
  | namelessPath
  /-- A path that no bytes can spell. -/
  | unspeakablePath
  /-- The environment names no home directory. -/
  | homeless
  /-- A text file is not UTF-8. -/
  | encoding (fault : Text.Utf8Fault)
  /-- A text is not JSON. -/
  | json (fault : Json.Fault)
  /-- A script or one of its imports cannot be read. -/
  | unreadableScript (path : String) (cause : ReadCause)
  /-- An imported script is at none of the probed paths. -/
  | importNotFound (importer name : String) (probed : List String)
  /-- Imports are nested too deeply. -/
  | importsTooDeep
  /-- The new name of a renaming has an escape that means nothing. -/
  | badReplacement
  /-- The new name of a renaming refers to a group by an unknown name. -/
  | unknownGroup
  /-- A number is written with digits that are not decimal, or with too many. -/
  | notANumber
  /-- An identity strategy has no such name. -/
  | unknownStrategy
  /-- The configured identity strategy has no such name. -/
  | unknownConfiguredStrategy (configured : LooseText)
  /-- A level of messages has no such name. -/
  | unknownLevel
  /-- Settings are nested too deeply to be shown. -/
  | settingsTooDeep
  /-- A setting that should be a list is not one. -/
  | notAList
  /-- A setting that should be a text is not one. -/
  | notAText
  /-- A list or an object stands where only an atomic value can. -/
  | notAtomic
  /-- A missing package could not be fetched. -/
  | download (package reason : String)
  /-- The downloader does not accept a package. -/
  | downloadRefused
  /-- The identity worker gives no names. -/
  | worker (fault : WorkerFault)
  /-- A report of the identity worker is no object. -/
  | reportNotObject
  /-- A report of the identity worker lacks its path. -/
  | reportWithoutPath
  /-- An XML file names an encoding that does not exist. -/
  | unknownEncoding
  /-- An XML file names an encoding that is not one byte a character. -/
  | wideEncoding
  /-- An XML file names an encoding that decodes nothing. -/
  | uselessEncoding
  deriving DecidableEq, Repr

namespace Failure

/-- What is said about a failure; empty where only its kind counts. -/
def message : Failure → LooseText
  | file fault path => fault.message path
  | unreadableScript path cause =>
    "Failed to parse " ++ path ++ ": cannot read script: " ++ cause.message
  | importNotFound importer name _ =>
    "Failed to parse " ++ importer ++ ": cannot find imported script '" ++ name ++ "'"
  | unknownConfiguredStrategy configured =>
    LooseText.ofString "Unknown resolution.dedup_strategy '" ++ configured ++ "'"
  | download package reason => "Package '" ++ package ++ "': download failed: " ++ reason
  | worker fault => fault.message
  | _ => ""

end Failure

/-- The items that a value lists: those of a list, the characters of a text, the member names of an
object. -/
def Json.listed : Json → Except Failure (List Json)
  | .list items => .ok items
  | .text value => .ok (value.points.map fun point => .text ⟨[point]⟩)
  | .object members => .ok (members.map fun member => .text member.1)
  | _ => .error .notAList

end ScriptDeps
