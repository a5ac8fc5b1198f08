import ScriptDeps.Text.Segment
import ScriptDeps.Text.Utf8
import ScriptDeps.Xml.Charset

/-!
# The characters of an XML file

The encoding is told by the first bytes: a byte order mark, or a zero byte beside an ASCII
character. An XML declaration may then name an encoding of one byte a character, or repeat what is
known.
-/

namespace ScriptDeps.Xml

/-- Why a file has no document. -/
inductive Fault
  /-- It is not well-formed, or not in its encoding. -/
  | malformed
  /-- It names an encoding that does not exist. -/
  | unknownEncoding
  /-- It names an encoding with several bytes for some characters. -/
  | wideEncoding
  /-- It names an encoding that decodes nothing. -/
  | uselessEncoding
  deriving DecidableEq, Repr

/-- How the first bytes say that a file is encoded, and how many of them are a mark. -/
inductive Family
  | bytes (mark : Nat)
  | littleEndian (mark : Nat)
  | bigEndian (mark : Nat)
  deriving DecidableEq, Repr

def Family.ofBytes : List UInt8 → Family
  | 0xFF :: 0xFE :: _ => .littleEndian 2
  | 0xFE :: 0xFF :: _ => .bigEndian 2
  | 0xEF :: 0xBB :: 0xBF :: _ => .bytes 3
  | 0x00 :: _ :: _ => .bigEndian 0
  | _ :: 0x00 :: _ => .littleEndian 0
  | _ => .bytes 0

/-- The 16-bit units of bytes, and whether no byte is left over. -/
def units (bigEndian : Bool) : List UInt8 → List Nat × Bool
  | [] => ([], true)
  | [_] => ([], false)
  | a :: b :: rest =>
    let unit := if bigEndian then a.toNat * 256 + b.toNat else b.toNat * 256 + a.toNat
    let (others, isWhole) := units bigEndian rest
    (unit :: others, isWhole)

/-- The characters of 16-bit units up to the first unit that starts none, and whether all of them
start one. After the first half of a pair, any unit counts as the second by its last ten bits. -/
def ofUnits : List Nat → List Char × Bool
  | [] => ([], true)
  | [unit] => if 0xD800 ≤ unit && unit < 0xE000 then ([], false) else ([Char.ofNat unit], true)
  | first :: second :: rest =>
    if 0xD800 ≤ first && first < 0xDC00 then
      let (chars, isWhole) := ofUnits rest
      (Char.ofNat (0x10000 + (first - 0xD800) * 0x400 + second % 0x400) :: chars, isWhole)
    else if 0xDC00 ≤ first && first < 0xE000 then ([], false)
    else
      let (chars, isWhole) := ofUnits (second :: rest)
      (Char.ofNat first :: chars, isWhole)

/-! ### Named encodings -/

/-- A name of an encoding in lower case, with an underscore for each run of other characters. -/
def normalName (name : List Char) : String :=
  let marked := name.map fun c => if c.isAlphanum || c == '.' then c.toLower else '_'
  let dropped := marked.foldr (fun c rest =>
    if c == '_' && rest.head? == some '_' then rest else c :: rest) []
  String.ofList (Text.trimBoth (· == '_') dropped)

/-- The character that a byte stands for in a character set. -/
def charOf? (upperHalf : Array Char) (byte : UInt8) : Option Char :=
  if byte.toNat < 128 then some (Char.ofNat byte.toNat)
  else (upperHalf[byte.toNat - 128]?).filter (· != '\ufffd')

/-- What a declared encoding means for a file of one byte a unit. -/
inductive Declared
  /-- UTF-8. -/
  | utf8
  /-- One character a byte, with these characters from 128 on. -/
  | charset (upperHalf : Array Char)
  deriving Repr

def latinHalf : Array Char :=
  Array.ofFn fun i : Fin 128 => Char.ofNat (128 + i)

/-- The encoding of a name, or why it cannot be had. -/
def declared (name : List Char) : Except Fault Declared :=
  let plain := String.ofList (name.map Char.toLower)
  if plain == "utf-8" then .ok .utf8
  else if plain == "iso-8859-1" then .ok (.charset latinHalf)
  else if plain == "us-ascii" then .ok (.charset #[])
  else if plain == "utf-16" || plain == "utf-16be" || plain == "utf-16le" then .error .malformed
  else
    let normal := normalName name
    let undotted := String.ofList (normal.toList.map fun c => if c == '.' then '_' else c)
    let isNamed := fun names : List String => names.contains normal
      || names.contains undotted && !undottedNames.contains undotted
    match charsets.find? fun charset => isNamed charset.names with
    | some charset => .ok (.charset charset.upperHalf.toList.toArray)
    | none =>
      if isNamed wideNames then .error .wideEncoding
      else if isNamed foreignNames then .error .malformed
      else if isNamed uselessNames then .error .uselessEncoding
      else .error .unknownEncoding

/-- What a name declared in a file of 16-bit units means for the rest of the file: nothing, or that
it is of one byte a character after all. -/
def declaredForUnits (bigEndian : Bool) (name : List Char) :
    Except Fault (Option (Array Char)) :=
  let plain := String.ofList (name.map Char.toLower)
  if plain == "utf-16" || plain == (if bigEndian then "utf-16be" else "utf-16le") then .ok none
  else if plain == "iso-8859-1" || plain == "us-ascii" then .error .malformed
  else match declared name with
    | .error fault => .error fault
    | .ok .utf8 => .error .malformed
    | .ok (.charset upperHalf) => .ok (some upperHalf)

end ScriptDeps.Xml
