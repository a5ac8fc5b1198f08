import ScriptDeps.Text.Quoted

/-!
# Text files

Bytes read as UTF-8, with the place and the cause of the first fault; line breaks folded to line
feeds; a byte order mark taken off.
-/

namespace ScriptDeps.Text

/-- Why bytes are not UTF-8. -/
inductive Utf8Cause
  | badStart
  | badContinuation
  | unfinished
  deriving DecidableEq, Repr

/-- The first bytes that are not UTF-8: `length` of them from `position`, the first being `byte`. -/
structure Utf8Fault where
  position : Nat
  length : Nat
  byte : Nat
  cause : Utf8Cause
  deriving DecidableEq, Repr

namespace Utf8Fault

def reason : Utf8Cause → String
  | .badStart => "invalid start byte"
  | .badContinuation => "invalid continuation byte"
  | .unfinished => "unexpected end of data"

/-- What is said about bytes that are not UTF-8. -/
def message (fault : Utf8Fault) : String :=
  let place :=
    if fault.length = 1 then
      "byte 0x" ++ String.ofList (hexDigits 2 fault.byte) ++ " in position " ++ toString fault.position
    else
      "bytes in position " ++ toString fault.position ++ "-"
        ++ toString (fault.position + fault.length - 1)
  "'utf-8' codec can't decode " ++ place ++ ": " ++ reason fault.cause

end Utf8Fault

/-- The ranges that the bytes after a lead byte must lie in; none when it leads nothing. -/
def continuationRanges (lead : Nat) : Option (List (Nat × Nat)) :=
  let any := (0x80, 0xBF)
  if lead < 0x80 then some []
  else if lead < 0xC2 then none
  else if lead < 0xE0 then some [any]
  else if lead = 0xE0 then some [(0xA0, 0xBF), any]
  else if lead = 0xED then some [(0x80, 0x9F), any]
  else if lead < 0xF0 then some [any, any]
  else if lead = 0xF0 then some [(0x90, 0xBF), any, any]
  else if lead < 0xF4 then some [any, any, any]
  else if lead = 0xF4 then some [(0x80, 0x8F), any, any]
  else none

/-- The first fault at or after `position`. `pending` holds the ranges still due for the character
that starts at `start` with the byte `lead`. -/
def firstFault (start lead : Nat) (pending : List (Nat × Nat)) (position : Nat) :
    List UInt8 → Option Utf8Fault
  | [] => if pending.isEmpty then none else some ⟨start, position - start, lead, .unfinished⟩
  | byte :: rest =>
    match pending with
    | range :: ranges =>
      if range.1 ≤ byte.toNat && byte.toNat ≤ range.2 then
        firstFault start lead ranges (position + 1) rest
      else some ⟨start, position - start, lead, .badContinuation⟩
    | [] =>
      match continuationRanges byte.toNat with
      | some ranges => firstFault position byte.toNat ranges (position + 1) rest
      | none => some ⟨position, 1, byte.toNat, .badStart⟩

def decodeUtf8 (bytes : ByteArray) : Except Utf8Fault String :=
  match String.fromUTF8? bytes with
  | some text => .ok text
  | none => .error ((firstFault 0 0 [] 0 bytes.toList).getD ⟨0, 1, 0, .badStart⟩)

def mark : List UInt8 := [0xEF, 0xBB, 0xBF]

/-- The bytes without the byte order mark that may begin them, and without one that they end
within. -/
def dropMark (bytes : ByteArray) : ByteArray :=
  if (bytes.extract 0 3).data.toList.isPrefixOf mark then bytes.extract 3 bytes.size else bytes

/-- Line breaks folded to line feeds: a carriage return, with the line feed after it if there is
one, becomes a line feed. -/
def foldBreaks : List Char → List Char
  | [] => []
  | '\r' :: '\n' :: rest => '\n' :: foldBreaks rest
  | c :: rest => (if c == '\r' then '\n' else c) :: foldBreaks rest

def withLineFeeds (text : String) : String :=
  if text.toList.contains '\r' then String.ofList (foldBreaks text.toList) else text

end ScriptDeps.Text
