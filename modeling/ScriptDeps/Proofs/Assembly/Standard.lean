import ScriptDeps.Proofs.Assembly.Bytes
import Mathlib.Data.Nat.Log

/-!
# The layout of an image

What ECMA-335, Partition II, prescribes for the image of an assembly, from the headers of the file
to the rows of the metadata tables. Nothing here refers to how an image is read.
-/

namespace ScriptDeps.Assembly.Standard

/-! ### The file's headers (II.25) -/

inductive OptionalHeader
  | pe32
  | pe32Plus
  deriving DecidableEq

namespace OptionalHeader

def magic : OptionalHeader → Nat
  | pe32 => 0x10B
  | pe32Plus => 0x20B

/-- Where in the header the data directories are. -/
def directories : OptionalHeader → Nat
  | pe32 => 96
  | pe32Plus => 112

end OptionalHeader

structure SectionHeader where
  virtualSize : Nat
  virtualAddress : Nat
  rawSize : Nat
  rawPointer : Nat
  deriving DecidableEq

namespace SectionHeader

/-- The address lies in the section, in memory or in the file. -/
def Covers (s : SectionHeader) (address : Nat) : Prop :=
  s.virtualAddress ≤ address ∧ address < s.virtualAddress + max s.virtualSize s.rawSize

instance (s : SectionHeader) (address : Nat) : Decidable (s.Covers address) :=
  inferInstanceAs (Decidable (_ ∧ _))

def numbers (s : SectionHeader) : List (Nat × Nat) :=
  [(4, s.virtualSize), (4, s.virtualAddress), (4, s.rawSize), (4, s.rawPointer)]

end SectionHeader

/-- The first section that covers the address has its byte at the offset. -/
def Maps (sections : List SectionHeader) (address offset : Nat) : Prop :=
  ∃ before s after, sections = before ++ s :: after ∧ (∀ earlier ∈ before, ¬earlier.Covers address) ∧
    s.Covers address ∧ offset = s.rawPointer + (address - s.virtualAddress)

structure Headers where
  /-- Where the mark of the image format is. -/
  start : Nat
  kind : OptionalHeader
  optionalSize : Nat
  sections : List SectionHeader
  cliAddress : Nat

structure Headers.At (headers : Headers) (image : Image) : Prop where
  executableMark : image.Holds 0 [0x4D, 0x5A]
  start : image.HoldsNumber 0x3C 4 headers.start
  imageMark : image.Holds headers.start [0x50, 0x45, 0, 0]
  sectionCount : image.HoldsNumber (headers.start + 6) 2 headers.sections.length
  optionalSize : image.HoldsNumber (headers.start + 20) 2 headers.optionalSize
  magic : image.HoldsNumber (headers.start + 24) 2 headers.kind.magic
  cliAddress : image.HoldsNumber (headers.start + 24 + headers.kind.directories + 14 * 8) 4
    headers.cliAddress
  managed : headers.cliAddress ≠ 0
  sections : ∀ (place : Nat) (inside : place < headers.sections.length),
    image.HoldsNumbers (headers.start + 24 + headers.optionalSize + place * 40 + 8)
      headers.sections[place].numbers

/-! ### The metadata root (II.24.2.1) -/

structure StreamHeader where
  offset : Nat
  size : Nat
  name : String
  deriving DecidableEq

namespace StreamHeader

variable {image : Image}

/-- The name, ended by zeros up to the next multiple of four bytes. -/
def nameBytes (header : StreamHeader) : List UInt8 :=
  utf8 header.name ++ List.replicate (4 - (utf8 header.name).length % 4) 0

/-- The headers stand in the image one after the other. -/
def AllAt (image : Image) (start : Nat) : List StreamHeader → Prop
  | [] => True
  | header :: rest =>
    image.HoldsNumbers start [(4, header.offset), (4, header.size)] ∧
      image.Holds (start + 8) header.nameBytes ∧
      AllAt image (start + 8 + header.nameBytes.length) rest

instance : (start : Nat) → (headers : List StreamHeader) → Decidable (AllAt image start headers)
  | _, [] => .isTrue trivial
  | start, header :: rest =>
    haveI : Decidable (AllAt image (start + 8 + header.nameBytes.length) rest) :=
      instDecidableAllAt _ rest
    inferInstanceAs (Decidable (image.HoldsNumbers start _ ∧ image.Holds (start + 8) _ ∧ _))

end StreamHeader

structure Root where
  versionLength : Nat
  streams : List StreamHeader

structure Root.At (root : Root) (image : Image) (start : Nat) : Prop where
  signature : image.HoldsNumber start 4 0x424A5342
  versionLength : image.HoldsNumber (start + 12) 4 root.versionLength
  streamCount : image.HoldsNumber (start + 16 + root.versionLength + 2) 2 root.streams.length
  streams : StreamHeader.AllAt image (start + 16 + root.versionLength + 4) root.streams
  ascii : ∀ header ∈ root.streams, ∀ c ∈ header.name.toList, c ≠ '\x00' ∧ c.toNat < 128
  distinct : (root.streams.map (·.name)).Nodup

/-- A string of the heap of strings (II.24.2.3): its UTF-8 bytes, none of them zero, up to a zero. -/
def HeapString (image : Image) (offset : Nat) (text : String) : Prop :=
  '\x00' ∉ text.toList ∧ image.Holds offset (utf8 text ++ [0])

/-! ### The metadata tables (II.22) -/

/-- The tables in the order of their numbers, the first being number zero. -/
inductive Table
  | module | typeRef | typeDef | fieldPtr | field | methodPtr | methodDef | paramPtr
  | param | interfaceImpl | memberRef | constant | customAttribute | fieldMarshal | declSecurity
  | classLayout | fieldLayout | standAloneSig | eventMap | eventPtr | event | propertyMap
  | propertyPtr | property | methodSemantics | methodImpl | moduleRef | typeSpec | implMap
  | fieldRva | encLog | encMap | assembly | assemblyProcessor | assemblyOs | assemblyRef
  | assemblyRefProcessor | assemblyRefOs | file | exportedType | manifestResource | nestedClass
  | genericParam | methodSpec | genericParamConstraint
  deriving DecidableEq

inductive Column
  | fixed (bytes : Nat)
  | string
  | guid
  | blob
  | row (table : Table)
  /-- A row of the table that a tag tells, for each tag in turn; some tags stand for no table. -/
  | coded (tags : List (Option Table))
  deriving DecidableEq

/-! ### Coded indexes (II.24.2.6) -/

namespace Column

def typeDefOrRef : Column := .coded [some .typeDef, some .typeRef, some .typeSpec]

def hasConstant : Column := .coded [some .field, some .param, some .property]

def hasCustomAttribute : Column :=
  .coded <| [.methodDef, .field, .typeRef, .typeDef, .param, .interfaceImpl, .memberRef, .module,
    .declSecurity, .property, .event, .standAloneSig, .moduleRef, .typeSpec, .assembly,
    .assemblyRef, .file, .exportedType, .manifestResource, .genericParam, .genericParamConstraint,
    .methodSpec].map some

def hasFieldMarshal : Column := .coded [some .field, some .param]

def hasDeclSecurity : Column := .coded [some .typeDef, some .methodDef, some .assembly]

def memberRefParent : Column :=
  .coded [some .typeDef, some .typeRef, some .moduleRef, some .methodDef, some .typeSpec]

def hasSemantics : Column := .coded [some .event, some .property]

def methodDefOrRef : Column := .coded [some .methodDef, some .memberRef]

def memberForwarded : Column := .coded [some .field, some .methodDef]

def implementation : Column := .coded [some .file, some .assemblyRef, some .exportedType]

def customAttributeType : Column := .coded [none, none, some .methodDef, some .memberRef, none]

def resolutionScope : Column :=
  .coded [some .module, some .moduleRef, some .assemblyRef, some .typeRef]

def typeOrMethodDef : Column := .coded [some .typeDef, some .methodDef]

end Column

namespace Table

def number (table : Table) : Nat := table.ctorIdx

def inOrder : List Table :=
  (List.range 45).map Table.ofNat

open Standard.Column in
def columns : Table → List Column
  | module => [.fixed 2, .string, .guid, .guid, .guid]
  | typeRef => [resolutionScope, .string, .string]
  | typeDef => [.fixed 4, .string, .string, typeDefOrRef, .row .field, .row .methodDef]
  | fieldPtr => [.row .field]
  | field => [.fixed 2, .string, .blob]
  | methodPtr => [.row .methodDef]
  | methodDef => [.fixed 4, .fixed 2, .fixed 2, .string, .blob, .row .param]
  | paramPtr => [.row .param]
  | param => [.fixed 2, .fixed 2, .string]
  | interfaceImpl => [.row .typeDef, typeDefOrRef]
  | memberRef => [memberRefParent, .string, .blob]
  | constant => [.fixed 2, hasConstant, .blob]
  | customAttribute => [hasCustomAttribute, customAttributeType, .blob]
  | fieldMarshal => [hasFieldMarshal, .blob]
  | declSecurity => [.fixed 2, hasDeclSecurity, .blob]
  | classLayout => [.fixed 2, .fixed 4, .row .typeDef]
  | fieldLayout => [.fixed 4, .row .field]
  | standAloneSig => [.blob]
  | eventMap => [.row .typeDef, .row .event]
  | eventPtr => [.row .event]
  | event => [.fixed 2, .string, typeDefOrRef]
  | propertyMap => [.row .typeDef, .row .property]
  | propertyPtr => [.row .property]
  | property => [.fixed 2, .string, .blob]
  | methodSemantics => [.fixed 2, .row .methodDef, hasSemantics]
  | methodImpl => [.row .typeDef, methodDefOrRef, methodDefOrRef]
  | moduleRef => [.string]
  | typeSpec => [.blob]
  | implMap => [.fixed 2, memberForwarded, .string, .row .moduleRef]
  | fieldRva => [.fixed 4, .row .field]
  | encLog => [.fixed 4, .fixed 4]
  | encMap => [.fixed 4]
  | assembly =>
    [.fixed 4, .fixed 2, .fixed 2, .fixed 2, .fixed 2, .fixed 4, .blob, .string, .string]
  | assemblyProcessor => [.fixed 4]
  | assemblyOs => [.fixed 4, .fixed 4, .fixed 4]
  | assemblyRef =>
    [.fixed 2, .fixed 2, .fixed 2, .fixed 2, .fixed 4, .blob, .string, .string, .blob]
  | assemblyRefProcessor => [.fixed 4, .row .assemblyRef]
  | assemblyRefOs => [.fixed 4, .fixed 4, .fixed 4, .row .assemblyRef]
  | file => [.fixed 4, .string, .blob]
  | exportedType => [.fixed 4, .fixed 4, .string, .string, implementation]
  | manifestResource => [.fixed 4, .fixed 4, .string, implementation]
  | nestedClass => [.row .typeDef, .row .typeDef]
  | genericParam => [.fixed 2, .fixed 2, typeOrMethodDef, .string]
  | methodSpec => [methodDefOrRef, .blob]
  | genericParamConstraint => [.row .genericParam, typeDefOrRef]

/-- The values of a row, one for each column. -/
abbrev Row (table : Table) : Type := Fin table.columns.length → Nat

/-- The Name column of the Assembly table (II.22.2). -/
def nameColumn : Fin assembly.columns.length := ⟨7, by decide⟩

end Table

/-! ### The tables stream (II.24.2.6) -/

structure Tables where
  heapSizes : Nat
  /-- The mask of the tables that are present. -/
  valid : Nat
  /-- The number of rows of each table that is present, by the table's number. -/
  rowCount : Nat → Nat
  rows : (table : Table) → List table.Row

namespace Tables

def presentNumbers (tables : Tables) : List Nat :=
  (List.range 64).filter tables.valid.testBit

def extraWidth (tables : Tables) : Nat :=
  if tables.heapSizes.testBit 6 then 4 else 0

/-- The bytes of a column. A heap's flag says that it is large. A row's number takes two bytes if
all tables it may refer to have fewer rows than the bits left beside the tag can count. -/
def width (tables : Tables) : Column → Nat
  | .fixed bytes => bytes
  | .string => if tables.heapSizes.testBit 0 then 4 else 2
  | .guid => if tables.heapSizes.testBit 1 then 4 else 2
  | .blob => if tables.heapSizes.testBit 2 then 4 else 2
  | .row table => if (tables.rows table).length < 2 ^ 16 then 2 else 4
  | .coded tags =>
    if ∀ table ∈ tags.reduceOption,
      (tables.rows table).length < 2 ^ (16 - Nat.clog 2 tags.length) then 2 else 4

def rowNumbers (tables : Tables) {table : Table} (row : table.Row) : List (Nat × Nat) :=
  List.ofFn fun column => (tables.width table.columns[column], row column)

def tableNumbers (tables : Tables) (table : Table) : List (Nat × Nat) :=
  (tables.rows table).flatMap tables.rowNumbers

structure At (tables : Tables) (image : Image) (start : Nat) : Prop where
  heapSizes : image.HoldsNumber (start + 6) 1 tables.heapSizes
  valid : image.HoldsNumber (start + 8) 8 tables.valid
  rowCounts : image.HoldsNumbers (start + 24)
    (tables.presentNumbers.map fun number => (4, tables.rowCount number))
  rowsCounted : ∀ table, (tables.rows table).length =
    if tables.valid.testBit table.number then tables.rowCount table.number else 0
  rows : image.HoldsNumbers
    (start + 24 + 4 * tables.presentNumbers.length + tables.extraWidth)
    (Table.inOrder.flatMap tables.tableNumbers)

end Tables

/-! ### The image -/

structure Layout where
  headers : Headers
  /-- Where the CLI header is. -/
  cli : Nat
  rootAddress : Nat
  rootStart : Nat
  root : Root
  tablesHeader : StreamHeader
  tables : Tables
  stringsHeader : StreamHeader

namespace Layout

def stringsStart (layout : Layout) : Nat :=
  layout.rootStart + layout.stringsHeader.offset

structure At (layout : Layout) (image : Image) : Prop where
  headers : layout.headers.At image
  cliMapped : Maps layout.headers.sections layout.headers.cliAddress layout.cli
  rootAddress : image.HoldsNumber (layout.cli + 8) 4 layout.rootAddress
  rootMapped : Maps layout.headers.sections layout.rootAddress layout.rootStart
  root : layout.root.At image layout.rootStart
  tablesStream : layout.tablesHeader ∈ layout.root.streams
  /-- The stream is compressed, or not compressed and there is no compressed one. -/
  tablesName : layout.tablesHeader.name = "#~" ∨
    layout.tablesHeader.name = "#-" ∧ "#~" ∉ layout.root.streams.map (·.name)
  tables : layout.tables.At image (layout.rootStart + layout.tablesHeader.offset)
  stringsStream : layout.stringsHeader ∈ layout.root.streams
  stringsName : layout.stringsHeader.name = "#Strings"

end Layout

end ScriptDeps.Assembly.Standard
