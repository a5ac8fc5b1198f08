import ScriptDeps.Text.Utf8

/-!
# Assembly images

Numbers and texts at offsets of an image, low byte first. Whatever reaches past the end of the
image is corrupt.
-/

namespace ScriptDeps.Assembly

/-- Why an image declares no assembly name. -/
inductive Fault
  | noExecutableMark
  | noImageMark
  | unknownMagic (magic : Nat)
  | nativeImage
  | outsideSections (address : Nat)
  | badSignature
  | missingStreams
  | noAssemblyTable
  | corrupt
  deriving DecidableEq, Repr

def hexText (n : Nat) : String :=
  "0x" ++ String.ofList (Nat.toDigits 16 n)

def Fault.message : Fault → String
  | noExecutableMark => "missing MZ signature"
  | noImageMark => "missing PE signature"
  | unknownMagic magic => "unknown optional header magic " ++ hexText magic
  | nativeImage => "no CLI header (native image)"
  | outsideSections address => "RVA " ++ hexText address ++ " outside all sections"
  | badSignature => "bad metadata signature"
  | missingStreams => "missing metadata streams"
  | noAssemblyTable => "module has no Assembly table"
  | corrupt => "truncated or corrupt metadata"

abbrev Image := ByteArray

namespace Image

def byteAt (image : Image) (offset : Nat) : Except Fault Nat :=
  match image[offset]? with
  | some byte => .ok byte.toNat
  | none => .error .corrupt

def numberAt (image : Image) (offset : Nat) : Nat → Except Fault Nat
  | 0 => .ok 0
  | width + 1 => do
    let low ← image.byteAt offset
    return low + 256 * (← numberAt image (offset + 1) width)

def word (image : Image) (offset : Nat) : Except Fault Nat :=
  image.numberAt offset 2

def long (image : Image) (offset : Nat) : Except Fault Nat :=
  image.numberAt offset 4

/-- Whether the bytes at an offset are those given. -/
def hasAt (image : Image) (offset : Nat) : List Nat → Bool
  | [] => true
  | byte :: rest =>
    (image[offset]?).any (·.toNat == byte) && hasAt image (offset + 1) rest

/-- The first zero at or after an offset, among so many bytes. -/
def zeroWithin (image : Image) : Nat → Nat → Except Fault Nat
  | 0, _ => .error .corrupt
  | count + 1, offset =>
    match image[offset]? with
    | none => .error .corrupt
    | some byte => if byte == 0 then .ok offset else zeroWithin image count (offset + 1)

def zeroAfter (image : Image) (offset : Nat) : Except Fault Nat :=
  image.zeroWithin (image.size - offset) offset

/-- The text in UTF-8 that starts at an offset and ends before a zero. -/
def textAt (image : Image) (offset : Nat) : Except Fault String := do
  let stop ← image.zeroAfter offset
  match String.fromUTF8? (image.extract offset stop) with
  | some text => return text
  | none => throw .corrupt

end Image

end ScriptDeps.Assembly
