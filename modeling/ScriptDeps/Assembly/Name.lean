import ScriptDeps.Assembly.Image
import ScriptDeps.Assembly.Layout

/-!
# The name of an assembly

The name that an assembly declares, found by its headers: the executable's header leads to the
image's, this through a section to the metadata, whose tables stream ends in the Assembly table and
whose strings stream holds the name.
-/

namespace ScriptDeps.Assembly

/-- A section of an image: where its addresses start and where its bytes are. -/
structure Section where
  address : Nat
  size : Nat
  offset : Nat
  fileSize : Nat
  deriving DecidableEq, Repr

/-- The offset of an address: that of the first section which holds it. -/
def offsetOf (sections : List Section) (address : Nat) : Except Fault Nat :=
  match sections.find? fun s => s.address ≤ address && address < s.address + max s.size s.fileSize with
  | some s => .ok (address - s.address + s.offset)
  | none => .error (.outsideSections address)

namespace Image

def sectionAt (image : Image) (offset : Nat) : Except Fault Section := do
  let size ← image.long (offset + 8)
  let address ← image.long (offset + 12)
  let fileSize ← image.long (offset + 16)
  let start ← image.long (offset + 20)
  return ⟨address, size, start, fileSize⟩

/-- So many sections, their headers one after the other. -/
def sectionsAt (image : Image) (offset : Nat) : Nat → Except Fault (List Section)
  | 0 => .ok []
  | count + 1 => do
    let first ← image.sectionAt offset
    return first :: (← sectionsAt image (offset + 40) count)

/-- Where the data directories are, by the kind of the optional header. -/
def directoriesAt (image : Image) (header : Nat) : Except Fault Nat := do
  let magic ← image.word header
  if magic = 0x10B then return header + 96
  else if magic = 0x20B then return header + 112
  else throw (.unknownMagic magic)

def metadataOffset (image : Image) : Except Fault Nat := do
  if !image.hasAt 0 [0x4D, 0x5A] then throw .noExecutableMark
  let start ← image.long 0x3C
  if !image.hasAt start [0x50, 0x45, 0, 0] then throw .noImageMark
  let sectionCount ← image.word (start + 6)
  let headerSize ← image.word (start + 20)
  let header := start + 24
  let directories ← image.directoriesAt header
  let address ← image.long (directories + 14 * 8)
  if address = 0 then throw .nativeImage
  let sections ← image.sectionsAt (header + headerSize) sectionCount
  let cli ← offsetOf sections address
  offsetOf sections (← image.long (cli + 8))

/-- The metadata streams, their headers one after the other: names and offsets. -/
def streamsAt (image : Image) (root offset : Nat) : Nat → Except Fault (List (String × Nat))
  | 0 => .ok []
  | count + 1 => do
    let start ← image.long offset
    let _ ← image.long (offset + 4)
    let stop ← image.zeroAfter (offset + 8)
    let name ← image.textAt (offset + 8)
    if !name.toList.all (·.toNat < 128) then throw .corrupt
    let next := offset + 8 + (stop - (offset + 8) + 4) / 4 * 4
    return (name, root + start) :: (← streamsAt image root next count)

def streams (image : Image) (root : Nat) : Except Fault (List (String × Nat)) := do
  if (← image.long root) ≠ 0x424A5342 then throw .badSignature
  let versionLength ← image.long (root + 12)
  let count ← image.word (root + 16 + versionLength + 2)
  image.streamsAt root (root + 16 + versionLength + 4) count

/-- The row counts of the tables from a number on that the mask says are there; the others have
none. The counts follow one another. -/
def rowCounts (image : Image) (mask table offset : Nat) : Nat → Except Fault (List Nat)
  | 0 => .ok []
  | count + 1 =>
    if mask.testBit table then do
      let rows ← image.long offset
      return rows :: (← rowCounts image mask (table + 1) (offset + 4) count)
    else do return 0 :: (← rowCounts image mask (table + 1) offset count)

/-- The number of tables that the mask says are there. -/
def tableCount (mask : Nat) : Nat :=
  ((List.range 64).filter mask.testBit).length

end Image

/-- The offset of the last stream of a name. -/
def stream? (streams : List (String × Nat)) (name : String) : Option Nat :=
  (streams.reverse.find? (·.1 == name)).map (·.2)

namespace Image

/-- The name in the first row of the Assembly table, given where the tables and the strings
start. -/
def nameIn (image : Image) (tables strings : Nat) : Except Fault String := do
  let heaps ← image.byteAt (tables + 6)
  let mask ← image.numberAt (tables + 8) 8
  if !mask.testBit assemblyTable then throw .noAssemblyTable
  let rows ← image.rowCounts mask 0 (tables + 24) 64
  let sizes : Sizes := ⟨heaps.testBit 0, heaps.testBit 1, heaps.testBit 2, rows⟩
  let extra := if heaps.testBit 6 then 4 else 0
  let assembly := tables + 24 + 4 * tableCount mask + extra + sizes.bytesBeforeAssembly
  let index ← image.numberAt (assembly + 16 + sizes.width .blob) (sizes.width .string)
  image.textAt (strings + index)

def assemblyName (image : Image) : Except Fault String := do
  let streams ← image.streams (← image.metadataOffset)
  match (stream? streams "#~").orElse fun _ => stream? streams "#-", stream? streams "#Strings" with
  | some tables, some strings => image.nameIn tables strings
  | _, _ => throw .missingStreams

end Image

end ScriptDeps.Assembly
