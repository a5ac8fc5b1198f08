import ScriptDeps.Proofs.Assembly.Naming
import Mathlib.Algebra.Order.BigOperators.Group.List
import Mathlib.Algebra.Order.Ring.Nat

/-!
# Every way to fail

The name of an assembly is read here once more, with each way in which a step can go wrong kept
apart: numbers are unpacked at offsets that must not be too large, zeros are looked for, bytes are
decoded, the layouts of tables and the kinds of coded indexes are looked up by their keys. Some of
these failures make the image one that declares no name and the others would come through. None of
the others ever happens, and what is read is what `Image.assemblyName` gives.
-/

namespace ScriptDeps.Assembly

/-! ### Failures -/

/-- How a step of the reading can fail. -/
inductive Raised
  | notAnAssembly (fault : Fault)
  /-- There are too few bytes to unpack. -/
  | shortBuffer
  /-- There is no byte, or no element, of an index. -/
  | indexOutOfRange
  /-- A byte that is looked for is not there. -/
  | notFound
  /-- The greatest of no numbers. -/
  | emptySequence
  | undecodable
  /-- No offset can be so large, whatever is unpacked there. -/
  | offsetTooLarge
  | missingKey
  deriving DecidableEq, Repr

namespace Raised

/-- Whether the reading says for the failure that the image declares no name. -/
def isCaught : Raised → Bool
  | offsetTooLarge | missingKey => false
  | _ => true

def fault : Raised → Fault
  | notAnAssembly fault => fault
  | _ => .corrupt

end Raised

/-- The failures that are caught become faults of the image, and the others come through. -/
def caught {α : Type} : Except Raised α → Except Raised α
  | .ok a => .ok a
  | .error raised => .error (if raised.isCaught then .notAnAssembly raised.fault else raised)

/-! ### Tables, as they are written down -/

/-- A column as it is written in the layout of a table: a width, a table, or the name of a heap or
of a kind of coded indexes. -/
inductive WrittenColumn
  | bytes (count : Nat)
  | table (number : Nat)
  | named (name : String)
  deriving DecidableEq

/-- Kinds of coded indexes: the bits of the tag and the tables. -/
def codedIndexes : List (String × Nat × List Nat) :=
  [ ("TypeDefOrRef", 2, [0x02, 0x01, 0x1B]),
    ("HasConstant", 2, [0x04, 0x08, 0x17]),
    ("HasCustomAttribute", 5,
      [0x06, 0x04, 0x01, 0x02, 0x08, 0x09, 0x0A, 0x00, 0x0E, 0x17, 0x14, 0x11, 0x1A, 0x1B, 0x20, 0x23,
        0x26, 0x27, 0x28, 0x2A, 0x2C, 0x2B]),
    ("HasFieldMarshal", 1, [0x04, 0x08]),
    ("HasDeclSecurity", 2, [0x02, 0x06, 0x20]),
    ("MemberRefParent", 3, [0x02, 0x01, 0x1A, 0x06, 0x1B]),
    ("HasSemantics", 1, [0x14, 0x17]),
    ("MethodDefOrRef", 1, [0x06, 0x0A]),
    ("MemberForwarded", 1, [0x04, 0x06]),
    ("CustomAttributeType", 3, [0x06, 0x0A]),
    ("ResolutionScope", 2, [0x00, 0x1A, 0x23, 0x01]) ]

open WrittenColumn in
def tableSchemas : List (Nat × List WrittenColumn) :=
  [ (0x00, [bytes 2, named "s", named "g", named "g", named "g"]),
    (0x01, [named "ResolutionScope", named "s", named "s"]),
    (0x02, [bytes 4, named "s", named "s", named "TypeDefOrRef", table 0x04, table 0x06]),
    (0x03, [table 0x04]),
    (0x04, [bytes 2, named "s", named "b"]),
    (0x05, [table 0x06]),
    (0x06, [bytes 4, bytes 2, bytes 2, named "s", named "b", table 0x08]),
    (0x07, [table 0x08]),
    (0x08, [bytes 2, bytes 2, named "s"]),
    (0x09, [table 0x02, named "TypeDefOrRef"]),
    (0x0A, [named "MemberRefParent", named "s", named "b"]),
    (0x0B, [bytes 2, named "HasConstant", named "b"]),
    (0x0C, [named "HasCustomAttribute", named "CustomAttributeType", named "b"]),
    (0x0D, [named "HasFieldMarshal", named "b"]),
    (0x0E, [bytes 2, named "HasDeclSecurity", named "b"]),
    (0x0F, [bytes 2, bytes 4, table 0x02]),
    (0x10, [bytes 4, table 0x04]),
    (0x11, [named "b"]),
    (0x12, [table 0x02, table 0x14]),
    (0x13, [table 0x14]),
    (0x14, [bytes 2, named "s", named "TypeDefOrRef"]),
    (0x15, [table 0x02, table 0x17]),
    (0x16, [table 0x17]),
    (0x17, [bytes 2, named "s", named "b"]),
    (0x18, [bytes 2, table 0x06, named "HasSemantics"]),
    (0x19, [table 0x02, named "MethodDefOrRef", named "MethodDefOrRef"]),
    (0x1A, [named "s"]),
    (0x1B, [named "b"]),
    (0x1C, [bytes 2, named "MemberForwarded", named "s", table 0x1A]),
    (0x1D, [bytes 4, table 0x04]),
    (0x1E, [bytes 4, bytes 4]),
    (0x1F, [bytes 4]) ]

section Lookups

variable {α : Type}

def keyed {κ : Type} [BEq κ] (table : List (κ × α)) (key : κ) : Except Raised α :=
  match table.lookup key with
  | some value => .ok value
  | none => .error .missingKey

def element (items : List α) (index : Nat) : Except Raised α :=
  match items[index]? with
  | some item => .ok item
  | none => .error .indexOutOfRange

def greatest (numbers : List Nat) : Except Raised Nat :=
  match numbers.max? with
  | some number => .ok number
  | none => .error .emptySequence

end Lookups

/-- The bytes of a column, by the flags of the heaps and the row counts of the tables. -/
def WrittenColumn.size (heaps : Nat) (rows : List Nat) : WrittenColumn → Except Raised Nat
  | .bytes count => .ok count
  | .table number => do return if (← element rows number) < 0x10000 then 2 else 4
  | .named name =>
    if name = "s" then .ok (if heaps.testBit 0 then 4 else 2)
    else if name = "g" then .ok (if heaps.testBit 1 then 4 else 2)
    else if name = "b" then .ok (if heaps.testBit 2 then 4 else 2)
    else do
      let (bits, targets) ← keyed codedIndexes name
      return if (← greatest (← targets.mapM (element rows))) < 2 ^ (16 - bits) then 2 else 4

/-- The place after the rows of a table, which start at a place. -/
def afterTable (heaps : Nat) (rows : List Nat) (place number : Nat) : Except Raised Nat := do
  let count ← element rows number
  if count = 0 then return place
  let columns ← keyed tableSchemas number
  let sizes ← columns.mapM (WrittenColumn.size heaps rows)
  return place + count * sizes.sum

/-! ### Reading -/

namespace Image

/-- The greatest offset at which anything can be unpacked. -/
def lastOffset : Nat := 2 ^ 63 - 1

/-- The length of the longest sequence of bytes: it is kept with 33 bytes of its own. -/
def longest : Nat := lastOffset - 33

def unpack (image : Image) (offset width : Nat) : Except Raised Nat :=
  if lastOffset < offset then .error .offsetTooLarge
  else (image.numberAt offset width).mapError fun _ => .shortBuffer

def indexed (image : Image) (offset : Nat) : Except Raised Nat :=
  match image[offset]? with
  | some byte => .ok byte.toNat
  | none => .error .indexOutOfRange

def findZero (image : Image) (offset : Nat) : Except Raised Nat :=
  (image.zeroAfter offset).mapError fun _ => .notFound

/-- The text in UTF-8 from a place to another. -/
def decoded (image : Image) (start stop : Nat) : Except Raised String :=
  match String.fromUTF8? (image.extract start stop) with
  | some text => .ok text
  | none => .error .undecodable

def refuse {α : Type} (fault : Fault) : Except Raised α := .error (.notAnAssembly fault)

def findSection (image : Image) (entry : Nat) : Except Raised Section := do
  let size ← image.unpack (entry + 8) 4
  let address ← image.unpack (entry + 12) 4
  let fileSize ← image.unpack (entry + 16) 4
  let start ← image.unpack (entry + 20) 4
  return ⟨address, size, start, fileSize⟩

def findSections (image : Image) (entry : Nat) : Nat → Except Raised (List Section)
  | 0 => .ok []
  | count + 1 => do
    let first ← image.findSection entry
    return first :: (← findSections image (entry + 40) count)

def findOffset (sections : List Section) (address : Nat) : Except Raised Nat :=
  (offsetOf sections address).mapError .notAnAssembly

def findDirectories (image : Image) (optional : Nat) : Except Raised Nat := do
  let magic ← image.unpack optional 2
  if magic = 0x10B then return optional + 96
  else if magic = 0x20B then return optional + 112
  else refuse (.unknownMagic magic)

def findMetadata (image : Image) : Except Raised Nat := do
  if !image.hasAt 0 [0x4D, 0x5A] then refuse .noExecutableMark
  let start ← image.unpack 0x3C 4
  if !image.hasAt start [0x50, 0x45, 0, 0] then refuse .noImageMark
  let sectionCount ← image.unpack (start + 6) 2
  let optionalSize ← image.unpack (start + 20) 2
  let directories ← image.findDirectories (start + 24)
  let address ← image.unpack (directories + 14 * 8) 4
  if address = 0 then refuse .nativeImage
  let sections ← image.findSections (start + 24 + optionalSize) sectionCount
  let cli ← findOffset sections address
  findOffset sections (← image.unpack (cli + 8) 4)

def findStreams (image : Image) (root place : Nat) : Nat → Except Raised (List (String × Nat))
  | 0 => .ok []
  | count + 1 => do
    let offset ← image.unpack place 4
    let _ ← image.unpack (place + 4) 4
    let stop ← image.findZero (place + 8)
    let name ← image.decoded (place + 8) stop
    if !name.toList.all (·.toNat < 128) then throw .undecodable
    let next := place + 8 + (stop - (place + 8) + 4) / 4 * 4
    return (name, root + offset) :: (← findStreams image root next count)

def openStreams (image : Image) (root : Nat) : Except Raised (List (String × Nat)) := do
  if (← image.unpack root 4) ≠ 0x424A5342 then refuse .badSignature
  let versionLength ← image.unpack (root + 12) 4
  let count ← image.unpack (root + 16 + versionLength + 2) 2
  image.findStreams root (root + 16 + versionLength + 4) count

def countRows (image : Image) (mask table place : Nat) : Nat → Except Raised (List Nat)
  | 0 => .ok []
  | count + 1 =>
    if mask.testBit table then do
      let rows ← image.unpack place 4
      return rows :: (← countRows image mask (table + 1) (place + 4) count)
    else do return 0 :: (← countRows image mask (table + 1) place count)

def findName (image : Image) (tables strings : Nat) : Except Raised String := do
  let heaps ← image.indexed (tables + 6)
  let mask ← image.unpack (tables + 8) 8
  if !mask.testBit assemblyTable then refuse .noAssemblyTable
  let rows ← image.countRows mask 0 (tables + 24) 64
  let extra := if heaps.testBit 6 then 4 else 0
  let row ← (List.range assemblyTable).foldlM (afterTable heaps rows)
    (tables + 24 + 4 * tableCount mask + extra)
  let place := row + 16 + if heaps.testBit 2 then 4 else 2
  let index ← image.unpack place (if heaps.testBit 0 then 4 else 2)
  let stop ← image.findZero (strings + index)
  image.decoded (strings + index) stop

def readName (image : Image) : Except Raised String :=
  caught do
    let streams ← image.openStreams (← image.findMetadata)
    match (stream? streams "#~").orElse fun _ => stream? streams "#-", stream? streams "#Strings" with
    | some tables, some strings => image.findName tables strings
    | _, _ => refuse .missingStreams

end Image

/-! ### Agreement -/

/-- The two readings come to the same, and a failure of the first one is caught. -/
def Agrees {α : Type} (fine : Except Raised α) (coarse : Except Fault α) : Prop :=
  match fine with
  | .ok a => coarse = .ok a
  | .error raised => raised.isCaught = true ∧ coarse = .error raised.fault

section Agreement

variable {α β : Type} {fine : Except Raised α} {coarse : Except Fault α}

theorem agrees_ok (a : α) : Agrees (.ok a) (.ok a) := rfl

theorem agrees_refuse (fault : Fault) : Agrees (Image.refuse fault : Except Raised α) (throw fault) :=
  ⟨rfl, rfl⟩

theorem Agrees.bind {f : α → Except Raised β} {g : α → Except Fault β} (first : Agrees fine coarse)
    (next : ∀ a, coarse = .ok a → Agrees (f a) (g a)) : Agrees (fine >>= f) (coarse >>= g) := by
  cases fine with
  | ok a =>
    rw [show coarse = .ok a from first]
    exact next a first
  | error raised =>
    rw [first.2]
    exact ⟨first.1, rfl⟩

theorem agrees_ite {c : Prop} [Decidable c] {f : Except Raised α} {g : Except Fault α}
    (yes : c → Agrees fine coarse) (no : ¬c → Agrees f g) :
    Agrees (if c then fine else f) (if c then coarse else g) := by
  split
  · exact yes ‹_›
  · exact no ‹_›

theorem agrees_mapError {raised : Fault → Raised}
    (known : ∀ fault, coarse = .error fault →
      (raised fault).isCaught = true ∧ (raised fault).fault = fault) :
    Agrees (coarse.mapError raised) coarse := by
  cases coarse with
  | ok a => rfl
  | error fault =>
    obtain ⟨isCaught, same⟩ := known fault rfl
    exact ⟨isCaught, by rw [same]⟩

theorem Agrees.caught_eq (same : Agrees fine coarse) :
    caught fine = coarse.mapError .notAnAssembly := by
  cases fine with
  | ok a =>
    rw [show coarse = .ok a from same]
    rfl
  | error raised =>
    rw [same.2, caught, if_pos same.1]
    rfl

end Agreement

namespace Image

variable {image : Image} {offset : Nat}

/-! ### Bytes -/

theorem numberAt_error {width : Nat} {fault : Fault}
    (failed : image.numberAt offset width = .error fault) :
    fault = .corrupt := by
  induction width generalizing offset with
  | zero => cases failed
  | succ width ih =>
    obtain first | ⟨low, _, failed⟩ := bind_error_iff.mp failed
    · unfold byteAt at first
      split at first
      · cases first
      · exact (Except.error.inj first).symm
    · obtain later | ⟨_, _, done⟩ := bind_error_iff.mp failed
      · exact ih later
      · cases done

theorem zeroAfter_error {fault : Fault} (failed : image.zeroAfter offset = .error fault) :
    fault = .corrupt := by
  have all : ∀ count offset, image.zeroWithin count offset = .error fault → fault = .corrupt := by
    intro count
    induction count with
    | zero =>
      intro offset failed
      exact (Except.error.inj failed).symm
    | succ count ih =>
      intro offset failed
      unfold zeroWithin at failed
      split at failed
      · exact (Except.error.inj failed).symm
      · split at failed
        · cases failed
        · exact ih _ failed
  exact all _ _ failed

theorem unpack_agrees {width : Nat} (near : offset ≤ lastOffset) :
    Agrees (image.unpack offset width) (image.numberAt offset width) := by
  rw [unpack, if_neg (Nat.not_lt.mpr near)]
  apply agrees_mapError
  intro fault failed
  exact ⟨rfl, (numberAt_error failed).symm⟩

theorem indexed_agrees : Agrees (image.indexed offset) (image.byteAt offset) := by
  unfold indexed byteAt
  cases image[offset]? with
  | some byte => exact agrees_ok _
  | none => exact ⟨rfl, rfl⟩

theorem findZero_agrees : Agrees (image.findZero offset) (image.zeroAfter offset) := by
  apply agrees_mapError
  intro fault failed
  exact ⟨rfl, (zeroAfter_error failed).symm⟩

theorem decoded_agrees {stop : Nat} (found : image.zeroAfter offset = .ok stop) :
    Agrees (image.decoded offset stop) (image.textAt offset) := by
  rw [textAt, found, ok_bind, decoded]
  cases String.fromUTF8? (image.extract offset stop) with
  | some text => exact agrees_ok _
  | none => exact ⟨rfl, rfl⟩

theorem text_agrees :
    Agrees (do let stop ← image.findZero offset; image.decoded offset stop) (image.textAt offset) := by
  refine findZero_agrees.bind fun stop found => ?_
  have same := decoded_agrees found
  rwa [textAt, found, ok_bind] at same

theorem numberAt_lt {width value : Nat} (read : image.numberAt offset width = .ok value) :
    value < 256 ^ width :=
  (numberAt_ok_iff.mp read).1

theorem long_lt {value : Nat} (read : image.long offset = .ok value) : value < 2 ^ 32 :=
  numberAt_lt read

theorem word_lt {value : Nat} (read : image.word offset = .ok value) : value < 2 ^ 16 :=
  numberAt_lt read

theorem zeroAfter_lt {stop : Nat} (found : image.zeroAfter offset = .ok stop) :
    offset ≤ stop ∧ stop < image.size := by
  obtain ⟨bytes, held, _, rfl⟩ := zeroWithin_ok found
  exact ⟨Nat.le_add_right _ _, (holds_append.mp held).2.lt_size⟩

/-! ### The headers -/

theorem findSection_agrees (near : offset + 20 ≤ lastOffset) :
    Agrees (image.findSection offset) (image.sectionAt offset) := by
  refine (unpack_agrees (by omega)).bind fun size _ => ?_
  refine (unpack_agrees (by omega)).bind fun address _ => ?_
  refine (unpack_agrees (by omega)).bind fun fileSize _ => ?_
  exact (unpack_agrees (by omega)).bind fun start _ => agrees_ok _

theorem findSections_agrees {count : Nat} (near : offset + count * 40 ≤ lastOffset) :
    Agrees (image.findSections offset count) (image.sectionsAt offset count) := by
  induction count generalizing offset with
  | zero => exact agrees_ok _
  | succ count ih =>
    refine (findSection_agrees (by omega)).bind fun first _ => ?_
    exact (ih (by omega)).bind fun others _ => agrees_ok _

theorem findDirectories_agrees (near : offset ≤ lastOffset) :
    Agrees (image.findDirectories offset) (image.directoriesAt offset) := by
  refine (unpack_agrees near).bind fun magic _ => ?_
  refine agrees_ite (fun _ => agrees_ok _) fun _ => ?_
  exact agrees_ite (fun _ => agrees_ok _) fun _ => agrees_refuse _

theorem findOffset_agrees {sections : List Section} {address : Nat} :
    Agrees (findOffset sections address) (offsetOf sections address) :=
  agrees_mapError fun _ _ => ⟨rfl, rfl⟩

theorem offset_lt_of_sectionsAt {count : Nat} {sections : List Section}
    (read : image.sectionsAt offset count = .ok sections) : ∀ s ∈ sections, s.offset < 2 ^ 32 := by
  induction count generalizing offset sections with
  | zero =>
    cases read
    exact nofun
  | succ count ih =>
    obtain ⟨first, one, read⟩ := bind_ok read
    obtain ⟨others, later, made⟩ := bind_ok read
    obtain rfl := pure_ok made
    obtain ⟨size, _, one⟩ := bind_ok one
    obtain ⟨address, _, one⟩ := bind_ok one
    obtain ⟨fileSize, _, one⟩ := bind_ok one
    obtain ⟨start, startRead, one⟩ := bind_ok one
    obtain rfl := pure_ok one
    exact List.forall_mem_cons.mpr ⟨long_lt startRead, ih later⟩

theorem offsetOf_lt {sections : List Section} {address place : Nat}
    (small : ∀ s ∈ sections, s.offset < 2 ^ 32) (addressSmall : address < 2 ^ 32)
    (found : offsetOf sections address = .ok place) : place < 2 ^ 33 := by
  unfold offsetOf at found
  split at found
  · rename_i s first
    obtain rfl := Except.ok.inj found
    have := small s (List.mem_of_find?_eq_some first)
    omega
  · cases found

theorem directoriesAt_le {directories : Nat} (read : image.directoriesAt offset = .ok directories) :
    directories ≤ offset + 112 := by
  obtain ⟨kind, _, rfl⟩ := directoriesAt_ok read
  cases kind <;>
    simp [Standard.OptionalHeader.directories]

theorem lastOffset_eq : lastOffset = 9223372036854775807 := rfl

theorem findMetadata_agrees : Agrees image.findMetadata image.metadataOffset := by
  unfold findMetadata metadataOffset
  refine agrees_ite (fun _ => (agrees_refuse _).bind nofun) fun _ => ?_
  refine (unpack_agrees (by decide)).bind fun start startRead => ?_
  have := long_lt startRead
  have := lastOffset_eq
  refine agrees_ite (fun _ => (agrees_refuse _).bind nofun) fun _ => ?_
  refine (unpack_agrees (by omega)).bind fun sectionCount countRead => ?_
  have := word_lt countRead
  refine (unpack_agrees (by omega)).bind fun optionalSize sizeRead => ?_
  have := word_lt sizeRead
  refine (findDirectories_agrees (by omega)).bind fun directories directoriesRead => ?_
  have := directoriesAt_le directoriesRead
  refine (unpack_agrees (by omega)).bind fun address addressRead => ?_
  refine agrees_ite (fun _ => (agrees_refuse _).bind nofun) fun _ => ?_
  refine (findSections_agrees (by omega)).bind fun sections sectionsRead => ?_
  have small := offset_lt_of_sectionsAt sectionsRead
  refine findOffset_agrees.bind fun cli cliFound => ?_
  have := offsetOf_lt small (long_lt addressRead) cliFound
  exact (unpack_agrees (by omega)).bind fun rootAddress _ => findOffset_agrees

theorem metadataOffset_lt {root : Nat} (found : image.metadataOffset = .ok root) : root < 2 ^ 33 := by
  obtain ⟨headers, cli, rootAddress, laid⟩ := metadataOffset_ok_iff.mp found
  obtain ⟨before, s, after, split, _, _, rfl⟩ := laid.rootMapped
  have inside : before.length < headers.sections.length := by
    rw [split, List.length_append, List.length_cons]
    omega
  have numbers := laid.headersAt.sections before.length inside
  rw [List.getElem_of_eq split, List.getElem_append_right (Nat.le_refl _)] at numbers
  simp only [Nat.sub_self, List.getElem_cons_zero] at numbers
  have pointer := long_lt numbers.2.2.2.1.long
  have address := long_lt laid.rootHeld.long
  omega

/-! ### The streams -/

theorem findStreams_agrees (short : image.size ≤ longest) {root count : Nat}
    (near : offset + 4 ≤ lastOffset) :
    Agrees (image.findStreams root offset count) (image.streamsAt root offset count) := by
  induction count generalizing offset with
  | zero => exact agrees_ok _
  | succ count ih =>
    refine (unpack_agrees (by omega)).bind fun start _ => ?_
    refine (unpack_agrees near).bind fun size _ => ?_
    refine findZero_agrees.bind fun stop found => ?_
    refine (decoded_agrees found).bind fun name _ => ?_
    refine agrees_ite (fun _ => ⟨rfl, rfl⟩) fun _ => ?_
    -- the next header is at most three bytes behind the image, whatever the sizes say
    obtain ⟨after, inside⟩ := zeroAfter_lt found
    have margin : longest + 33 = lastOffset := rfl
    exact (ih (by omega)).bind fun others _ => agrees_ok _

theorem openStreams_agrees (short : image.size ≤ longest) {root : Nat} (near : root < 2 ^ 33) :
    Agrees (image.openStreams root) (image.streams root) := by
  have := lastOffset_eq
  unfold openStreams streams
  refine (unpack_agrees (by omega)).bind fun signature _ => ?_
  refine agrees_ite (fun _ => (agrees_refuse _).bind nofun) fun _ => ?_
  refine (unpack_agrees (by omega)).bind fun versionLength lengthRead => ?_
  have := long_lt lengthRead
  refine (unpack_agrees (by omega)).bind fun count _ => ?_
  exact findStreams_agrees short (by omega)

theorem countRows_agrees {mask table count : Nat} (near : offset + 4 * count ≤ lastOffset) :
    Agrees (image.countRows mask table offset count) (image.rowCounts mask table offset count) := by
  induction count generalizing offset table with
  | zero => exact agrees_ok _
  | succ count ih =>
    refine agrees_ite (fun _ => ?_) fun _ => ?_
    · refine (unpack_agrees (by omega)).bind fun rows _ => ?_
      exact (ih (by omega)).bind fun others _ => agrees_ok _
    · exact (ih (by omega)).bind fun others _ => agrees_ok _

end Image

/-! ### The tables -/

/-- The column that is meant, if there is a kind of coded indexes of its name. -/
def WrittenColumn.column? : WrittenColumn → Option Column
  | .bytes count => some (.fixed count)
  | .table number => some (.row number)
  | .named name =>
    if name = "s" then some .string
    else if name = "g" then some .guid
    else if name = "b" then some .blob
    else (codedIndexes.lookup name).map fun (bits, targets) => .coded bits targets

/-- The tables that a column refers to have a row count. -/
def Column.counted : Column → Bool
  | .row table => table < 64
  | .coded _ tables => !tables.isEmpty && tables.all (· < 64)
  | _ => true

/-- There is a layout for every table before the Assembly table, and no name in it is unknown. -/
theorem tableSchemas_layouts : ∀ number < assemblyTable,
    (tableSchemas.lookup number).any (fun columns =>
      columns.map (·.column?) = (tableLayouts.getD number []).map some) = true ∧
    (tableLayouts.getD number []).all Column.counted = true := by
  decide +kernel

/-- The sizes that columns have by the flags of the heaps and the row counts. -/
def Sizes.ofFlags (heaps : Nat) (rows : List Nat) : Sizes :=
  ⟨heaps.testBit 0, heaps.testBit 1, heaps.testBit 2, rows⟩

section Tables

variable {heaps : Nat} {rows : List Nat}

theorem element_rows (heaps : Nat) (all : rows.length = 64) {number : Nat} (known : number < 64) :
    element rows number = .ok ((Sizes.ofFlags heaps rows).rowsOf number) := by
  have there := List.getElem?_eq_getElem (all ▸ known)
  rw [element, there, Sizes.rowsOf, Sizes.ofFlags, List.getD_eq_getElem?_getD, there]
  rfl

theorem greatest_ok {numbers : List Nat} (some : numbers ≠ []) :
    ∃ number, greatest numbers = .ok number ∧ ∀ bound, number < bound ↔ ∀ n ∈ numbers, n < bound := by
  cases found : numbers.max? with
  | none => exact absurd (List.max?_eq_none_iff.mp found) some
  | some number =>
    obtain ⟨member, least⟩ := List.max?_eq_some_iff.mp found
    refine ⟨number, by rw [greatest, found], fun bound => ⟨?_, ?_⟩⟩
    · intro less n other
      exact (least n other).trans_lt less
    · intro all
      exact all number member

theorem coded_size (all : rows.length = 64) {name : String} {bits : Nat} {targets : List Nat}
    (known : codedIndexes.lookup name = some (bits, targets))
    (counted : (Column.coded bits targets).counted = true) :
    (do
        let (bits, targets) ← keyed codedIndexes name
        return if (← greatest (← targets.mapM (element rows))) < 2 ^ (16 - bits) then 2 else 4) =
      Except.ok ((Sizes.ofFlags heaps rows).width (.coded bits targets)) := by
  obtain ⟨nonempty, numbers⟩ := Bool.and_eq_true_iff.mp counted
  have counts : targets.mapM (element rows) =
      .ok (targets.map (Sizes.ofFlags heaps rows).rowsOf) := by
    rw [mapM_congr (g := fun target => pure ((Sizes.ofFlags heaps rows).rowsOf target))]
    · exact List.mapM_pure
    · intro target member
      exact element_rows heaps all (of_decide_eq_true (List.all_eq_true.mp numbers target member))
  have some : targets.map (Sizes.ofFlags heaps rows).rowsOf ≠ [] := by
    simpa using nonempty
  obtain ⟨most, found, less⟩ := greatest_ok some
  simp only [keyed, known, counts, found, ok_bind]
  refine congrArg Except.ok (reference_eq_ite ?_).symm
  rw [less]
  simp

theorem size_of_column (all : rows.length = 64) {written : WrittenColumn} {column : Column}
    (means : written.column? = some column) (counted : column.counted = true) :
    written.size heaps rows = .ok ((Sizes.ofFlags heaps rows).width column) := by
  cases written with
  | bytes count =>
    cases means
    rfl
  | table number =>
    cases means
    have known : number < 64 := of_decide_eq_true counted
    rw [WrittenColumn.size, element_rows heaps all known, ok_bind, Sizes.width]
    refine congrArg Except.ok (reference_eq_ite ?_).symm
    simp
  | named name =>
    rw [WrittenColumn.column?] at means
    rw [WrittenColumn.size]
    by_cases string : name = "s"
    · rw [if_pos string] at means ⊢
      cases means
      rfl
    rw [if_neg string] at means ⊢
    by_cases guid : name = "g"
    · rw [if_pos guid] at means ⊢
      cases means
      rfl
    rw [if_neg guid] at means ⊢
    by_cases blob : name = "b"
    · rw [if_pos blob] at means ⊢
      cases means
      rfl
    rw [if_neg blob] at means ⊢
    obtain ⟨⟨bits, targets⟩, known, rfl⟩ := Option.map_eq_some_iff.mp means
    exact coded_size all known counted

theorem sizes_of_columns (all : rows.length = 64) {written : List WrittenColumn}
    {columns : List Column} (mean : written.map (·.column?) = columns.map some)
    (counted : columns.all Column.counted = true) :
    written.mapM (WrittenColumn.size heaps rows) =
      .ok (columns.map (Sizes.ofFlags heaps rows).width) := by
  induction written generalizing columns with
  | nil =>
    obtain rfl := List.map_eq_nil_iff.mp mean.symm
    rfl
  | cons first rest ih =>
    obtain ⟨column, others, rfl, own, later⟩ := List.map_eq_cons_iff.mp mean.symm
    obtain ⟨firstCounted, restCounted⟩ := Bool.and_eq_true_iff.mp (List.all_cons ▸ counted)
    rw [List.mapM_cons, size_of_column all own.symm firstCounted, ok_bind, ih later.symm restCounted]
    rfl

theorem afterTable_ok (all : rows.length = 64) (place : Nat) {number : Nat}
    (before : number < assemblyTable) :
    afterTable heaps rows place number =
      .ok (place + (Sizes.ofFlags heaps rows).rowsOf number *
        (Sizes.ofFlags heaps rows).rowWidth (tableLayouts.getD number [])) := by
  have known : number < 64 := before.trans (by decide)
  obtain ⟨schema, counted⟩ := tableSchemas_layouts number before
  obtain ⟨columns, found, mean⟩ := (Option.any_eq_true _ _).mp schema
  unfold afterTable
  rw [element_rows heaps all known, ok_bind]
  split
  · rename_i none
    rw [none, Nat.zero_mul]
    rfl
  · rw [keyed, found, ok_bind, sizes_of_columns all (of_decide_eq_true mean) counted, ok_bind,
      Sizes.rowWidth, ← List.foldr_map, ← List.sum_eq_foldr]
    rfl

theorem foldlM_afterTable (heaps : Nat) (all : rows.length = 64) (place : Nat) {numbers : List Nat}
    (before : ∀ number ∈ numbers, number < assemblyTable) :
    numbers.foldlM (afterTable heaps rows) place =
      .ok (place + (numbers.map fun number => (Sizes.ofFlags heaps rows).rowsOf number *
        (Sizes.ofFlags heaps rows).rowWidth (tableLayouts.getD number [])).sum) := by
  induction numbers generalizing place with
  | nil => rfl
  | cons number rest ih =>
    obtain ⟨first, others⟩ := List.forall_mem_cons.mp before
    rw [List.foldlM_cons, afterTable_ok all place first, ok_bind, ih _ others, List.map_cons,
      List.sum_cons, Nat.add_assoc]

end Tables

theorem bytesBeforeAssembly_eq (sizes : Sizes) :
    sizes.bytesBeforeAssembly = ((List.range assemblyTable).map fun number =>
      sizes.rowsOf number * sizes.rowWidth (tableLayouts.getD number [])).sum := by
  have numbered : tableLayouts.zipIdx =
      (List.range assemblyTable).map fun number => (tableLayouts.getD number [], number) := by
    decide +kernel
  rw [Sizes.bytesBeforeAssembly, numbered, List.foldr_map, List.sum_eq_foldr, List.foldr_map]

/-! ### How far the Assembly table can be -/

def Column.fixedBytes : Column → Nat
  | .fixed bytes => bytes
  | _ => 0

theorem tableLayouts_narrow : ∀ number < assemblyTable, (tableLayouts.getD number []).length ≤ 6 ∧
    ∀ column ∈ tableLayouts.getD number [], column.fixedBytes ≤ 4 := by
  decide +kernel

theorem reference_le (isWide : Bool) : Sizes.reference isWide ≤ 4 := by
  cases isWide <;> decide

theorem rowWidth_le (sizes : Sizes) {columns : List Column}
    (narrow : ∀ column ∈ columns, column.fixedBytes ≤ 4) :
    sizes.rowWidth columns ≤ columns.length * 4 := by
  have each : ∀ width ∈ columns.map sizes.width, width ≤ 4 := by
    intro width member
    obtain ⟨column, among, rfl⟩ := List.mem_map.mp member
    cases column with
    | fixed bytes => exact narrow _ among
    | _ => exact reference_le _
  have total := List.sum_le_card_nsmul _ 4 each
  rw [List.length_map, Nat.nsmul_eq_mul] at total
  rwa [Sizes.rowWidth, ← List.foldr_map, ← List.sum_eq_foldr]

theorem bytesBeforeAssembly_le (sizes : Sizes) (few : ∀ count ∈ sizes.rows, count < 2 ^ 32) :
    sizes.bytesBeforeAssembly ≤ assemblyTable * (2 ^ 32 * 24) := by
  have rowsOf_le : ∀ number, sizes.rowsOf number ≤ 2 ^ 32 := by
    intro number
    rw [Sizes.rowsOf, List.getD_eq_getElem?_getD]
    cases there : sizes.rows[number]? with
    | none => exact Nat.zero_le _
    | some count => exact (few count (List.mem_of_getElem? there)).le
  have each : ∀ bytes ∈ (List.range assemblyTable).map fun number =>
      sizes.rowsOf number * sizes.rowWidth (tableLayouts.getD number []), bytes ≤ 2 ^ 32 * 24 := by
    intro bytes member
    obtain ⟨number, before, rfl⟩ := List.mem_map.mp member
    obtain ⟨columns, narrow⟩ := tableLayouts_narrow number (List.mem_range.mp before)
    have width := rowWidth_le sizes narrow
    exact Nat.mul_le_mul (rowsOf_le number) (by omega)
  have total := List.sum_le_card_nsmul _ _ each
  rwa [List.length_map, List.length_range, Nat.nsmul_eq_mul, ← bytesBeforeAssembly_eq] at total

namespace Image

variable {image : Image} {offset : Nat}

theorem rowCounts_lt {mask table count : Nat} {rows : List Nat}
    (read : image.rowCounts mask table offset count = .ok rows) :
    rows.length = count ∧ ∀ own ∈ rows, own < 2 ^ 32 := by
  induction count generalizing offset table rows with
  | zero =>
    cases read
    exact ⟨rfl, nofun⟩
  | succ count ih =>
    unfold rowCounts at read
    split at read
    · obtain ⟨own, ownRead, read⟩ := bind_ok read
      obtain ⟨others, later, made⟩ := bind_ok read
      obtain rfl := pure_ok made
      obtain ⟨long, small⟩ := ih later
      exact ⟨congrArg (· + 1) long, List.forall_mem_cons.mpr ⟨long_lt ownRead, small⟩⟩
    · obtain ⟨others, later, made⟩ := bind_ok read
      obtain rfl := pure_ok made
      obtain ⟨long, small⟩ := ih later
      exact ⟨congrArg (· + 1) long, List.forall_mem_cons.mpr ⟨by decide, small⟩⟩

theorem tableCount_le (mask : Nat) : tableCount mask ≤ 64 :=
  (List.length_filter_le _ _).trans_eq List.length_range

/-! ### The name -/

theorem findName_agrees {tables strings : Nat} (near : tables < 2 ^ 34) :
    Agrees (image.findName tables strings) (image.nameIn tables strings) := by
  have := lastOffset_eq
  unfold findName nameIn
  refine indexed_agrees.bind fun heaps _ => ?_
  refine (unpack_agrees (by omega)).bind fun mask _ => ?_
  refine agrees_ite (fun _ => (agrees_refuse _).bind nofun) fun _ => ?_
  refine (countRows_agrees (by omega)).bind fun rows rowsRead => ?_
  obtain ⟨all, small⟩ := rowCounts_lt rowsRead
  have skipped := foldlM_afterTable heaps all
    (tables + 24 + 4 * tableCount mask + if heaps.testBit 6 then 4 else 0)
    fun number => List.mem_range.mp
  rw [← bytesBeforeAssembly_eq] at skipped
  have bytes := bytesBeforeAssembly_le (Sizes.ofFlags heaps rows) small
  have count := tableCount_le mask
  have start : tables + 24 + 4 * tableCount mask + (if heaps.testBit 6 then 4 else 0) < 2 ^ 35 := by
    split <;> omega
  have blob : (if heaps.testBit 2 then 4 else 2) ≤ 4 := by
    split <;> decide
  simp only [skipped, ok_bind]
  refine (unpack_agrees ?_).bind fun index _ => text_agrees
  rw [show assemblyTable = 32 from rfl] at bytes
  omega

theorem placed_lt {root : Nat} {streams : List (String × Nat)} (read : image.streams root = .ok streams)
    {name : String} {start : Nat} (found : stream? streams name = some start) :
    start < root + 2 ^ 32 := by
  have small : ∀ {place : Nat} {headers : List Standard.StreamHeader},
      Standard.StreamHeader.Follow image place headers → ∀ header ∈ headers, header.offset < 2 ^ 32 := by
    intro place headers followed
    induction headers generalizing place with
    | nil => exact nofun
    | cons header rest ih =>
      exact List.forall_mem_cons.mpr ⟨long_lt followed.1.1.long, ih followed.2.2.2⟩
  obtain ⟨laid, readable, rfl⟩ := streams_ok_iff.mp read
  rw [stream?_placed] at found
  obtain ⟨header, first, rfl⟩ := Option.map_eq_some_iff.mp found
  have := small readable.streams header (List.mem_reverse.mp (List.mem_of_find?_eq_some first))
  omega

theorem readName_eq (short : image.size ≤ longest) :
    image.readName = image.assemblyName.mapError .notAnAssembly := by
  apply Agrees.caught_eq
  refine findMetadata_agrees.bind fun root found => ?_
  have near := metadataOffset_lt found
  refine (openStreams_agrees short near).bind fun streams read => ?_
  generalize tablesFound : ((stream? streams "#~").orElse fun _ => stream? streams "#-") = tables
  generalize stream? streams "#Strings" = strings
  cases tables with
  | none => exact agrees_refuse _
  | some tables =>
    have placed : ∃ name, stream? streams name = some tables := by
      cases compressed : stream? streams "#~" with
      | some start =>
        rw [compressed] at tablesFound
        exact ⟨"#~", compressed.trans tablesFound⟩
      | none =>
        rw [compressed] at tablesFound
        exact ⟨"#-", tablesFound⟩
    obtain ⟨name, tablesNamed⟩ := placed
    have := placed_lt read tablesNamed
    cases strings with
    | none => exact agrees_refuse _
    | some strings => exact findName_agrees (by omega)

/-- From every sequence of bytes, however long it can be, a name is read or the image is refused.
No other failure comes through, and it is `assemblyName` that says which. -/
theorem readName_ok_or_refused (image : Image) (short : image.size ≤ longest) :
    (∃ name, image.readName = .ok name ∧ image.assemblyName = .ok name) ∨
      ∃ fault, image.readName = .error (.notAnAssembly fault) ∧ image.assemblyName = .error fault := by
  have same := readName_eq short
  cases read : image.assemblyName with
  | ok name =>
    rw [read] at same
    exact .inl ⟨name, same, rfl⟩
  | error fault =>
    rw [read] at same
    exact .inr ⟨fault, same, rfl⟩

theorem readName_ok_or_refused_sample : (sampleImage "Lib").size ≤ longest ∧
    ((∃ name, (sampleImage "Lib").readName = .ok name ∧ (sampleImage "Lib").assemblyName = .ok name) ∨
      ∃ fault, (sampleImage "Lib").readName = .error (.notAnAssembly fault) ∧
        (sampleImage "Lib").assemblyName = .error fault) :=
  have short : (sampleImage "Lib").size ≤ longest := by decide +kernel
  ⟨short, readName_ok_or_refused _ short⟩

end Image

end ScriptDeps.Assembly
