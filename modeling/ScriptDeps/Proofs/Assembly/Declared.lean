import ScriptDeps.Proofs.Assembly.Naming

/-!
# Declared names

Which name is read from an image, for every sequence of bytes. An image declares a name if the
metadata says that there is a row in the Assembly table, with the row inside the stream of tables and
the name inside the stream of strings. A name is read in more cases: of a table only its bit in the
mask is asked for, and no stream is asked where it ends.
-/

namespace ScriptDeps.Assembly

open Standard

namespace Standard

/-- The stream of a name. Of several the last one counts. -/
def Root.stream? (root : Root) (name : String) : Option StreamHeader :=
  root.streams.reverse.find? (·.name == name)

def Root.tables? (root : Root) : Option StreamHeader :=
  (root.stream? "#~").or (root.stream? "#-")

/-- What the bytes of an image say about the name of the assembly. -/
structure Reading where
  rootStart : Nat
  root : Root
  tablesStream : StreamHeader
  tables : TablesHeader
  stringsStream : StreamHeader
  /-- The place of the name in the stream of strings. -/
  index : Nat
  name : String

namespace Reading

def tablesStart (reading : Reading) : Nat :=
  reading.rootStart + reading.tablesStream.offset

/-- Where the first row of the Assembly table is. -/
def row (reading : Reading) : Nat :=
  reading.tables.rowStart reading.tablesStart .assembly

def nameStart (reading : Reading) : Nat :=
  reading.rootStart + reading.stringsStream.offset + reading.index

structure At (reading : Reading) (image : Image) : Prop where
  rootFound : ∃ headers cli rootAddress, LeadsTo image headers cli rootAddress reading.rootStart
  root : reading.root.Readable image reading.rootStart
  tablesStream : reading.root.tables? = some reading.tablesStream
  stringsStream : reading.root.stream? "#Strings" = some reading.stringsStream
  tables : reading.tables.At image reading.tablesStart
  present : reading.tables.valid.testBit Table.assembly.number = true
  index : image.HoldsNumber (reading.row + 16 + reading.tables.width .blob)
    (reading.tables.width .string) reading.index
  name : HeapString image reading.nameStart reading.name

/-- There is an Assembly row, it lies inside the stream of tables, and the name with the zero after
it lies inside the stream of strings. -/
structure Sound (reading : Reading) : Prop where
  someRow : 0 < reading.tables.rowCount Table.assembly.number
  rowInside : reading.row + reading.tables.rowWidth .assembly ≤
    reading.tablesStart + reading.tablesStream.size
  nameInside : reading.index + (utf8 reading.name).length + 1 ≤ reading.stringsStream.size

end Reading

end Standard

/-- The metadata of the image declares the name. -/
def Image.Declares (image : Image) (name : String) : Prop :=
  ∃ reading : Reading, reading.At image ∧ reading.Sound ∧ reading.name = name

variable {image : Image}

/-! ### The tables -/

theorem Standard.TablesHeader.At.lt_of_present {header : TablesHeader} {start number : Nat}
    (held : header.At image start) (present : header.valid.testBit number = true) : number < 64 := by
  by_contra beyond
  have small : header.valid < 2 ^ number := by
    apply held.valid.1.trans_le
    rw [show 256 ^ 8 = 2 ^ 64 by rfl]
    exact Nat.pow_le_pow_right Nat.two_pos (Nat.not_lt.mp beyond)
  rw [Nat.testBit_lt_two_pow small] at present
  cases present

theorem Standard.TablesHeader.At.unique {a b : TablesHeader} {start : Nat} (first : a.At image start)
    (second : b.At image start) : a = b := by
  have valid := first.valid.unique second.valid
  have counted := second.rowCounts
  rw [TablesHeader.presentNumbers, ← valid] at counted
  have same := HoldsNumbers.unique_counts first.rowCounts counted
  apply TablesHeader.ext (first.heapSizes.unique second.heapSizes) valid
  funext number
  by_cases present : a.valid.testBit number = true
  · exact same number (List.mem_filter.mpr ⟨List.mem_range.mpr (first.lt_of_present present), present⟩)
  · have none := Bool.eq_false_iff.mpr present
    rw [first.absent number none, second.absent number (valid ▸ none)]

theorem rowCounts_of_header {header : TablesHeader} {start : Nat} (held : header.At image start) :
    image.rowCounts header.valid 0 (start + 24) 64 = .ok (Sizes.ofHeader header).rows := by
  have counted := held.rowCounts
  rw [TablesHeader.presentNumbers, List.range_eq_range'] at counted
  rw [rowCounts_of_numbers counted, ← List.range_eq_range']
  refine congrArg Except.ok (List.map_congr_left fun number _ => ?_)
  split
  · rfl
  · rename_i none
    exact (held.absent number (Bool.eq_false_iff.mpr none)).symm

theorem rowStart_assembly (header : TablesHeader) (start : Nat) :
    start + 24 + 4 * Image.tableCount header.valid + (if header.heapSizes.testBit 6 then 4 else 0) +
        (Sizes.ofHeader header).bytesBeforeAssembly = header.rowStart start .assembly := by
  rw [bytesBeforeAssembly_ofHeader]
  rfl

theorem nameIn_ok_iff {start strings : Nat} {name : String} :
    image.nameIn start strings = .ok name ↔ ∃ (tables : TablesHeader) (index : Nat),
      tables.At image start ∧ tables.valid.testBit Table.assembly.number = true ∧
      image.HoldsNumber (tables.rowStart start .assembly + 16 + tables.width .blob)
        (tables.width .string) index ∧
      HeapString image (strings + index) name := by
  constructor
  · intro read
    obtain ⟨heapSizes, heapsRead, read⟩ := bind_ok read
    obtain ⟨valid, validRead, read⟩ := bind_ok read
    have present : valid.testBit assemblyTable = true := by
      by_contra missing
      rw [Bool.eq_false_iff.mpr missing] at read
      cases read
    simp only [present, Bool.not_true, Bool.false_eq_true, if_false] at read
    obtain ⟨rows, rowsRead, read⟩ := bind_ok read
    obtain ⟨rowCount, absent, counted, rfl⟩ := rowCounts_ok rowsRead
    obtain ⟨index, indexRead, read⟩ := bind_ok read
    let tables : TablesHeader := ⟨heapSizes, valid, rowCount⟩
    have place := Image.numberAt_ok_iff.mp indexRead
    rw [← List.range_eq_range'] at place counted
    refine ⟨tables, index, ?_, present, ?_, Image.textAt_ok_iff.mp read⟩
    · exact ⟨Image.byteAt_ok_iff.mp heapsRead, Image.numberAt_ok_iff.mp validRead, counted, absent⟩
    · rw [← rowStart_assembly, ← width_ofHeader, ← width_ofHeader]
      exact place
  · rintro ⟨tables, index, held, present, place, text⟩
    rw [← rowStart_assembly, ← width_ofHeader, ← width_ofHeader] at place
    have there : tables.valid.testBit assemblyTable = true := present
    unfold Image.nameIn
    simp only [held.heapSizes.byteAt, held.valid.numberAt, there, rowCounts_of_header held, ok_bind,
      Bool.not_true, Bool.false_eq_true, if_false]
    exact (congrArg (· >>= _) place.numberAt).trans (Image.textAt_ok_iff.mpr text)

/-! ### The name -/

theorem Standard.Reading.At.unique {a b : Reading} (first : a.At image) (second : b.At image) :
    a = b := by
  obtain ⟨rootStart, root, tablesStream, tables, stringsStream, index, name⟩ := a
  obtain ⟨otherStart, otherRoot, otherTablesStream, otherTables, otherStrings, otherIndex, otherName⟩ :=
    b
  obtain rfl : rootStart = otherStart :=
    Except.ok.inj ((metadataOffset_ok_iff.mpr first.rootFound).symm.trans
      (metadataOffset_ok_iff.mpr second.rootFound))
  obtain rfl : root = otherRoot := first.root.unique second.root
  obtain rfl : tablesStream = otherTablesStream :=
    Option.some.inj (first.tablesStream.symm.trans second.tablesStream)
  obtain rfl : tables = otherTables := first.tables.unique second.tables
  obtain rfl : stringsStream = otherStrings :=
    Option.some.inj (first.stringsStream.symm.trans second.stringsStream)
  obtain rfl : index = otherIndex := first.index.unique second.index
  obtain rfl : name = otherName :=
    Except.ok.inj ((Image.textAt_ok_iff.mpr first.name).symm.trans
      (Image.textAt_ok_iff.mpr second.name))
  rfl

theorem tables?_placed (root : Root) (start : Nat) :
    ((stream? (root.streams.map (·.placed start)) "#~").orElse fun _ =>
        stream? (root.streams.map (·.placed start)) "#-") =
      root.tables?.map (start + ·.offset) := by
  rw [stream?_placed, stream?_placed, Root.tables?, Option.map_or, Option.or_eq_orElse]
  rfl

/-- A name is read exactly if it stands where the bytes of the image say that there is one. -/
theorem assemblyName_ok_iff {name : String} :
    image.assemblyName = .ok name ↔ ∃ reading : Reading, reading.At image ∧ reading.name = name := by
  constructor
  · intro read
    obtain ⟨rootStart, rootRead, read⟩ := bind_ok read
    obtain ⟨streams, streamsRead, read⟩ := bind_ok read
    obtain ⟨root, readable, rfl⟩ := streams_ok_iff.mp streamsRead
    rw [tables?_placed, stream?_placed] at read
    split at read
    · rename_i tablesFound stringsFound
      obtain ⟨tablesStream, tablesNamed, rfl⟩ := Option.map_eq_some_iff.mp tablesFound
      obtain ⟨stringsStream, stringsNamed, rfl⟩ := Option.map_eq_some_iff.mp stringsFound
      obtain ⟨tables, index, held, present, place, text⟩ := nameIn_ok_iff.mp read
      exact ⟨⟨rootStart, root, tablesStream, tables, stringsStream, index, name⟩,
        ⟨metadataOffset_ok_iff.mp rootRead, readable, tablesNamed, stringsNamed, held, present, place,
          text⟩, rfl⟩
    · cases read
  · rintro ⟨reading, laid, rfl⟩
    have root := metadataOffset_ok_iff.mpr laid.rootFound
    have streams := streams_ok_iff.mpr ⟨_, laid.root, rfl⟩
    have stringsNamed : stream? (reading.root.streams.map (·.placed reading.rootStart)) "#Strings" =
        some (reading.rootStart + reading.stringsStream.offset) := by
      rw [stream?_placed]
      exact congrArg (Option.map _) laid.stringsStream
    unfold Image.assemblyName
    simp only [root, streams, ok_bind, tables?_placed, laid.tablesStream, Option.map_some, stringsNamed]
    exact nameIn_ok_iff.mpr ⟨reading.tables, reading.index, laid.tables, laid.present, laid.index,
      laid.name⟩

/-- Only declared names are read, and every image that declares none is refused. -/
def Image.ReadsDeclared (image : Image) : Prop :=
  (∀ name, image.assemblyName = .ok name → image.Declares name) ∧
    ((∀ name, ¬image.Declares name) → ∃ fault, image.assemblyName = .error fault)

theorem readsDeclared_iff :
    image.ReadsDeclared ↔ ∀ reading : Reading, reading.At image → reading.Sound := by
  constructor
  · intro ⟨declared, _⟩ reading laid
    obtain ⟨other, otherLaid, sound, -⟩ := declared _ (assemblyName_ok_iff.mpr ⟨reading, laid, rfl⟩)
    rwa [laid.unique otherLaid]
  · intro sound
    have declared : ∀ name, image.assemblyName = .ok name → image.Declares name := by
      intro name read
      obtain ⟨reading, laid, named⟩ := assemblyName_ok_iff.mp read
      exact ⟨reading, laid, sound reading laid, named⟩
    refine ⟨declared, fun none => ?_⟩
    cases read : image.assemblyName with
    | ok name => exact absurd (declared name read) (none name)
    | error fault => exact ⟨fault, rfl⟩

/-- What is read from every image, and when only declared names are: if the row that the bytes lead
to exists and lies, like the name, where it should. -/
theorem assemblyName_declared_iff (image : Image) :
    (∀ name, image.assemblyName = .ok name ↔
      ∃ reading : Reading, reading.At image ∧ reading.name = name) ∧
    (image.ReadsDeclared ↔ ∀ reading : Reading, reading.At image → reading.Sound) :=
  ⟨fun _ => assemblyName_ok_iff, readsDeclared_iff⟩

/-- The sample image with the sizes of its streams filled in, and with no row in the Assembly
table, which the mask still says to be there. -/
def rowlessImage : Image :=
  (((sampleImage "Lib").set! 0x1AC 0x4C).set! 0x1B8 5).set! 0x1EC 0

def rowlessReading : Reading where
  rootStart := 0x190
  root := ⟨4, [⟨0x40, 0x4C, "#~"⟩, ⟨0x8C, 5, "#Strings"⟩]⟩
  tablesStream := ⟨0x40, 0x4C, "#~"⟩
  tables := ⟨0x44, 2 ^ 0x20 + 1, fun number => if number = 0 then 1 else 0⟩
  stringsStream := ⟨0x8C, 5, "#Strings"⟩
  index := 1
  name := "Lib"

theorem rowlessReading_at : rowlessReading.At rowlessImage where
  rootFound :=
    ⟨sampleLayout.headers, 0x180, 0x2010,
      { headersAt :=
          { executableMark := by decide +kernel
            start := by decide +kernel
            imageMark := by decide +kernel
            sectionCount := by decide +kernel
            optionalSize := by decide +kernel
            magic := by decide +kernel
            cliAddress := by decide +kernel
            managed := by decide
            sections := by decide +kernel }
        cliMapped := sampleLayout_at.cliMapped
        rootHeld := by decide +kernel
        rootMapped := sampleLayout_at.rootMapped }⟩
  root :=
    { signature := by decide +kernel
      versionLength := by decide +kernel
      streamCount := by decide +kernel
      streams := by decide +kernel }
  tablesStream := by decide +kernel
  stringsStream := by decide +kernel
  tables :=
    { heapSizes := by decide +kernel
      valid := by decide +kernel
      rowCounts := by decide +kernel
      absent := by
        intro number none
        rcases eq_or_ne number 0 with rfl | other
        · cases none
        · exact if_neg other }
  present := by decide +kernel
  index := by decide +kernel
  name := by decide +kernel

theorem assemblyName_rowless : rowlessImage.assemblyName = .ok "Lib" ∧
    (∀ name, ¬rowlessImage.Declares name) ∧ ¬rowlessImage.ReadsDeclared := by
  have noRow : ¬rowlessReading.Sound := fun sound => absurd sound.someRow (by decide)
  refine ⟨assemblyName_ok_iff.mpr ⟨rowlessReading, rowlessReading_at, rfl⟩, ?_, ?_⟩
  · intro name ⟨reading, laid, sound, _⟩
    exact noRow (laid.unique rowlessReading_at ▸ sound)
  · intro declared
    exact noRow (readsDeclared_iff.mp declared rowlessReading rowlessReading_at)

end ScriptDeps.Assembly
