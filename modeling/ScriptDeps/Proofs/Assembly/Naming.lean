import ScriptDeps.Proofs.Assembly.Readers
import ScriptDeps.Proofs.Assembly.Widths
import Mathlib.Data.List.OfFn

/-!
# The name of a well laid out assembly

The columns that are skipped before the Assembly table have the widths that the standard gives them,
so the name in its first row is the one that is read.
-/

namespace ScriptDeps.Assembly

open Standard (Table Tables TablesHeader Layout)

variable {image : Image} {tables : Tables} {start : Nat}

/-! ### Widths of columns -/

def Sizes.ofTables (tables : Tables) : Sizes :=
  ⟨tables.heapSizes.testBit 0, tables.heapSizes.testBit 1, tables.heapSizes.testBit 2,
    (List.range 64).map fun number => if tables.valid.testBit number then tables.rowCount number else 0⟩

/-- What the stream of the tables starts with. -/
def Standard.Tables.header (tables : Tables) : TablesHeader where
  heapSizes := tables.heapSizes
  valid := tables.valid
  rowCount := fun number => if tables.valid.testBit number then tables.rowCount number else 0

theorem rowCount_header (laid : tables.At image start) (table : Table) :
    tables.header.rowCount table.number = (tables.rows table).length :=
  (laid.rowsCounted table).symm

theorem width_header (laid : tables.At image start) (column : Standard.Column) :
    tables.header.width column = tables.width column := by
  cases column with
  | row table => rw [TablesHeader.width, Tables.width, rowCount_header laid]
  | coded tags => simp only [TablesHeader.width, Tables.width, rowCount_header laid]
  | _ => rfl

theorem width_standard (laid : tables.At image start) (column : Standard.Column) :
    (Sizes.ofTables tables).width (.ofStandard column) = tables.width column :=
  (width_ofHeader tables.header column).trans (width_header laid column)

theorem rowWidth_standard (laid : tables.At image start) {table : Table} (row : table.Row) :
    tables.header.rowWidth table = ((tables.rowNumbers row).map Prod.fst).sum := by
  have widths : (tables.rowNumbers row).map Prod.fst = table.columns.map tables.width := by
    rw [Tables.rowNumbers, List.map_ofFn]
    exact List.ofFn_getElem_eq_map table.columns tables.width
  rw [widths, TablesHeader.rowWidth, List.map_congr_left fun column _ => width_header laid column]

theorem tableWidth_standard (laid : tables.At image start) (table : Table) :
    tables.header.rowCount table.number * tables.header.rowWidth table =
      ((tables.tableNumbers table).map Prod.fst).sum := by
  rw [rowCount_header laid, Tables.tableNumbers]
  induction tables.rows table with
  | nil => simp
  | cons row rest ih =>
    rw [List.length_cons, List.flatMap_cons, List.map_append, List.sum_append, ← ih,
      ← rowWidth_standard laid row, Nat.succ_mul, Nat.add_comm]

theorem bytesBeforeAssembly_standard (laid : tables.At image start) :
    (Sizes.ofTables tables).bytesBeforeAssembly =
      ((tablesBefore.flatMap tables.tableNumbers).map Prod.fst).sum := by
  refine (bytesBeforeAssembly_ofHeader tables.header).trans ?_
  induction tablesBefore with
  | nil => rfl
  | cons table rest ih =>
    rw [List.map_cons, List.sum_cons, ih, tableWidth_standard laid, List.flatMap_cons,
      List.map_append, List.sum_append]

/-! ### Row counts -/

theorem rowCounts_of_numbers {valid : Nat} {rowCount : Nat → Nat} {offset table count : Nat}
    (held : image.HoldsNumbers offset
      (((List.range' table count).filter valid.testBit).map fun number => (4, rowCount number))) :
    image.rowCounts valid table offset count =
      .ok ((List.range' table count).map fun number =>
        if valid.testBit number then rowCount number else 0) := by
  induction count generalizing table offset with
  | zero => rfl
  | succ count ih =>
    unfold Image.rowCounts
    rw [List.range'_succ] at held ⊢
    by_cases present : valid.testBit table = true
    · rw [List.filter_cons_of_pos present, List.map_cons] at held
      obtain ⟨rows, later⟩ := held
      rw [if_pos present, rows.long, ok_bind, ih later, List.map_cons, if_pos present]
      rfl
    · rw [List.filter_cons_of_neg present] at held
      rw [if_neg present, ih held, List.map_cons, if_neg present]
      rfl

/-! ### The name -/

theorem holdsNumber_name {offset : Nat} {row : Table.assembly.Row}
    (held : image.HoldsNumbers offset (tables.rowNumbers row)) :
    image.HoldsNumber (offset + 16 + tables.width .blob) (tables.width .string)
      (row Table.nameColumn) := by
  obtain ⟨_, _, _, _, _, _, _, name, _⟩ := held
  exact name

theorem inOrder_split : ∃ later, Table.inOrder = tablesBefore ++ .assembly :: later :=
  ⟨Table.inOrder.drop 33, by decide +kernel⟩

theorem nameIn_of_tables (laid : tables.At image start) {row : Table.assembly.Row}
    {others : List Table.assembly.Row} (first : tables.rows .assembly = row :: others)
    {strings : Nat} {name : String}
    (named : Standard.HeapString image (strings + row Table.nameColumn) name) :
    image.nameIn start strings = .ok name := by
  have present : tables.valid.testBit assemblyTable = true := by
    have counted := laid.rowsCounted .assembly
    by_contra absent
    rw [first, show Table.assembly.number = assemblyTable from rfl, if_neg absent] at counted
    cases counted
  have counts : image.rowCounts tables.valid 0 (start + 24) 64 = .ok (Sizes.ofTables tables).rows := by
    have numbers := laid.rowCounts
    rw [Tables.presentNumbers, List.range_eq_range'] at numbers
    rw [rowCounts_of_numbers numbers, ← List.range_eq_range']
    rfl
  have firstRow : image.HoldsNumbers
      (start + 24 + 4 * Image.tableCount tables.valid + tables.extraWidth +
        (Sizes.ofTables tables).bytesBeforeAssembly) (tables.rowNumbers row) := by
    obtain ⟨later, split⟩ := inOrder_split
    have rows := laid.rows
    rw [split, List.flatMap_append, List.flatMap_cons, Tables.tableNumbers, first,
      List.flatMap_cons, List.append_assoc] at rows
    rw [bytesBeforeAssembly_standard laid]
    exact (Image.holdsNumbers_append.mp (Image.holdsNumbers_append.mp rows).2).1
  have index := (holdsNumber_name firstRow).numberAt
  have blob : (Sizes.ofTables tables).width .blob = tables.width .blob := width_standard laid .blob
  have string : (Sizes.ofTables tables).width .string = tables.width .string :=
    width_standard laid .string
  unfold Image.nameIn
  simp only [laid.heapSizes.byteAt, laid.valid.numberAt, present, counts, ok_bind, Bool.not_true,
    Bool.false_eq_true, if_false]
  rw [show (⟨_, _, _, (Sizes.ofTables tables).rows⟩ : Sizes) = Sizes.ofTables tables from rfl, blob,
    string]
  rw [Tables.extraWidth] at index
  rw [index, ok_bind, Image.textAt_of_holds named.2 named.1]

theorem metadataOffset_of_layout {layout : Layout} (laid : layout.At image) :
    image.metadataOffset = .ok layout.rootStart :=
  metadataOffset_ok_iff.mpr
    ⟨_, _, _, laid.headers, laid.cliMapped, laid.rootAddress, laid.rootMapped⟩

theorem streams_of_root {root : Standard.Root} {start : Nat} (laid : root.At image start) :
    image.streams start = .ok (root.streams.map (·.placed start)) :=
  streams_ok_iff.mpr ⟨root, laid.readable, rfl⟩

/-- The stream of tables is found, whether it is compressed or not. -/
theorem tablesStream_of_layout {layout : Layout} (laid : layout.At image) :
    ((stream? (layout.root.streams.map (·.placed layout.rootStart)) "#~").orElse fun _ =>
        stream? (layout.root.streams.map (·.placed layout.rootStart)) "#-") =
      some (layout.rootStart + layout.tablesHeader.offset) := by
  have found := stream?_of_mem layout.rootStart laid.root.distinct laid.tablesStream
  obtain compressed | ⟨uncompressed, missing⟩ := laid.tablesName
  · rw [compressed] at found
    rw [found]
    rfl
  · rw [uncompressed] at found
    rw [stream?_of_notMem _ missing, Option.orElse_none, found]

/-- The name in the first row of the Assembly table is the one that is read, from every image that
is laid out as the standard prescribes. -/
theorem assemblyName_of_layout {layout : Layout} (laid : layout.At image)
    {row : Table.assembly.Row} {others : List Table.assembly.Row}
    (first : layout.tables.rows .assembly = row :: others) {name : String}
    (named : Standard.HeapString image (layout.stringsStart + row Table.nameColumn) name) :
    image.assemblyName = .ok name := by
  have strings := stream?_of_mem layout.rootStart laid.root.distinct laid.stringsStream
  rw [laid.stringsName] at strings
  unfold Image.assemblyName
  simp only [metadataOffset_of_layout laid, streams_of_root laid.root, ok_bind,
    tablesStream_of_layout laid, strings]
  exact nameIn_of_tables laid.tables first named

/-! ### An image -/

/-- Bytes at their offsets, with zeros between them. -/
def spread (start : Nat) : List (Nat × List UInt8) → List UInt8
  | [] => []
  | (offset, bytes) :: rest =>
    List.replicate (offset - start) 0 ++ (bytes ++ spread (offset + bytes.length) rest)

/-- Two sections, of which the second holds the metadata, and two streams. Blobs are in a large heap,
data follows the row counts, and one row of the Module table comes before the Assembly table. -/
def sampleImage (name : String) : Image :=
  ⟨⟨spread 0 [
    (0, [0x4D, 0x5A]), (0x3C, littleEndian 4 0x40),
    (0x40, [0x50, 0x45, 0, 0]), (0x46, littleEndian 2 2), (0x54, littleEndian 2 216),
    (0x58, littleEndian 2 0x10B), (0x128, littleEndian 4 0x2000),
    (0x138, littleEndian 4 0x800), (0x13C, littleEndian 4 0x1000),
    (0x160, littleEndian 4 0x200), (0x164, littleEndian 4 0x2000), (0x168, littleEndian 4 0x200),
    (0x16C, littleEndian 4 0x180),
    (0x188, littleEndian 4 0x2010),
    (0x190, littleEndian 4 0x424A5342), (0x19C, littleEndian 4 4), (0x1A6, littleEndian 2 2),
    (0x1A8, littleEndian 4 0x40), (0x1B0, utf8 "#~"),
    (0x1B4, littleEndian 4 0x8C), (0x1BC, utf8 "#Strings"),
    (0x1D6, [0x44]), (0x1D8, littleEndian 8 (2 ^ 0x20 + 1)),
    (0x1E8, littleEndian 4 1), (0x1EC, littleEndian 4 1),
    (0x212, littleEndian 2 1), (0x21D, utf8 name ++ [0])]⟩⟩

def sampleTables : Tables where
  heapSizes := 0x44
  valid := 2 ^ 0x20 + 1
  rowCount := fun _ => 1
  rows
    | .module => [fun _ => 0]
    | .assembly => [fun column => if column = Table.nameColumn then 1 else 0]
    | _ => []

def sampleLayout : Layout where
  headers :=
    { start := 0x40
      kind := .pe32
      optionalSize := 216
      sections := [⟨0x800, 0x1000, 0, 0⟩, ⟨0x200, 0x2000, 0x200, 0x180⟩]
      cliAddress := 0x2000 }
  cli := 0x180
  rootAddress := 0x2010
  rootStart := 0x190
  root := ⟨4, [⟨0x40, 0, "#~"⟩, ⟨0x8C, 0, "#Strings"⟩]⟩
  tablesHeader := ⟨0x40, 0, "#~"⟩
  tables := sampleTables
  stringsHeader := ⟨0x8C, 0, "#Strings"⟩

theorem sampleLayout_ascii : ∀ header ∈ sampleLayout.root.streams, ∀ c ∈ header.name.toList,
    c ≠ '\x00' ∧ c.toNat < 128 := by
  have all : (sampleLayout.root.streams.all fun header =>
      header.name.toList.all fun c => c ≠ '\x00' ∧ c.toNat < 128) = true := by
    decide +kernel
  intro header member c inside
  exact of_decide_eq_true (List.all_eq_true.mp (List.all_eq_true.mp all header member) c inside)

theorem sampleLayout_at : sampleLayout.At (sampleImage "Lib") where
  headers :=
    { executableMark := by decide +kernel
      start := by decide +kernel
      imageMark := by decide +kernel
      sectionCount := by decide +kernel
      optionalSize := by decide +kernel
      magic := by decide +kernel
      cliAddress := by decide +kernel
      managed := by decide
      sections := by decide +kernel }
  cliMapped := ⟨[⟨0x800, 0x1000, 0, 0⟩], _, [], rfl, by decide, by decide, rfl⟩
  rootAddress := by decide +kernel
  rootMapped := ⟨[⟨0x800, 0x1000, 0, 0⟩], _, [], rfl, by decide, by decide, rfl⟩
  root :=
    { signature := by decide +kernel
      versionLength := by decide +kernel
      streamCount := by decide +kernel
      streams := by decide +kernel
      ascii := sampleLayout_ascii
      distinct := by decide +kernel }
  tablesStream := by decide +kernel
  tablesName := .inl rfl
  tables :=
    { heapSizes := by decide +kernel
      valid := by decide +kernel
      rowCounts := by decide +kernel
      rowsCounted := by rintro (_ | _) <;> rfl
      rows := by decide +kernel }
  stringsStream := by decide +kernel
  stringsName := rfl

theorem assemblyName_sample : (sampleImage "Lib").assemblyName = .ok "Lib" :=
  assemblyName_of_layout sampleLayout_at rfl ⟨by decide +kernel, by decide +kernel⟩

end ScriptDeps.Assembly
