/-!
# Metadata tables

The columns of the metadata tables that come before the Assembly table. A column that refers to a
heap or a table is four bytes wide if what it refers to is large, else two.
-/

namespace ScriptDeps.Assembly

/-- A column of a metadata table. -/
inductive Column
  /-- A number of so many bytes. -/
  | fixed (bytes : Nat)
  /-- A place in the heap of strings. -/
  | string
  /-- A place in the heap of GUIDs. -/
  | guid
  /-- A place in the heap of blobs. -/
  | blob
  /-- A row of a table. -/
  | row (table : Nat)
  /-- A row of one of several tables, with so many bits to tell which. -/
  | coded (bits : Nat) (tables : List Nat)
  deriving DecidableEq, Repr

namespace Column

/-- A type, defined here, elsewhere or by a signature. -/
def typeDefOrRef : Column := .coded 2 [0x02, 0x01, 0x1B]

def hasConstant : Column := .coded 2 [0x04, 0x08, 0x17]

def hasCustomAttribute : Column :=
  .coded 5 [0x06, 0x04, 0x01, 0x02, 0x08, 0x09, 0x0A, 0x00, 0x0E, 0x17, 0x14, 0x11, 0x1A, 0x1B,
    0x20, 0x23, 0x26, 0x27, 0x28, 0x2A, 0x2C, 0x2B]

def hasFieldMarshal : Column := .coded 1 [0x04, 0x08]

def hasDeclSecurity : Column := .coded 2 [0x02, 0x06, 0x20]

def memberRefParent : Column := .coded 3 [0x02, 0x01, 0x1A, 0x06, 0x1B]

def hasSemantics : Column := .coded 1 [0x14, 0x17]

def methodDefOrRef : Column := .coded 1 [0x06, 0x0A]

def memberForwarded : Column := .coded 1 [0x04, 0x06]

def customAttributeType : Column := .coded 3 [0x06, 0x0A]

def resolutionScope : Column := .coded 2 [0x00, 0x1A, 0x23, 0x01]

end Column

open Column in
/-- The columns of the tables before the Assembly table, in the order of their numbers. -/
def tableLayouts : List (List Column) :=
  [ [.fixed 2, .string, .guid, .guid, .guid],
    [resolutionScope, .string, .string],
    [.fixed 4, .string, .string, typeDefOrRef, .row 0x04, .row 0x06],
    [.row 0x04],
    [.fixed 2, .string, .blob],
    [.row 0x06],
    [.fixed 4, .fixed 2, .fixed 2, .string, .blob, .row 0x08],
    [.row 0x08],
    [.fixed 2, .fixed 2, .string],
    [.row 0x02, typeDefOrRef],
    [memberRefParent, .string, .blob],
    [.fixed 2, hasConstant, .blob],
    [hasCustomAttribute, customAttributeType, .blob],
    [hasFieldMarshal, .blob],
    [.fixed 2, hasDeclSecurity, .blob],
    [.fixed 2, .fixed 4, .row 0x02],
    [.fixed 4, .row 0x04],
    [.blob],
    [.row 0x02, .row 0x14],
    [.row 0x14],
    [.fixed 2, .string, typeDefOrRef],
    [.row 0x02, .row 0x17],
    [.row 0x17],
    [.fixed 2, .string, .blob],
    [.fixed 2, .row 0x06, hasSemantics],
    [.row 0x02, methodDefOrRef, methodDefOrRef],
    [.string],
    [.blob],
    [.fixed 2, memberForwarded, .string, .row 0x1A],
    [.fixed 4, .row 0x04],
    [.fixed 4, .fixed 4],
    [.fixed 4] ]

def assemblyTable : Nat := 0x20

/-- What the widths of columns depend on: which heaps are large, and the tables' row counts. -/
structure Sizes where
  wideStrings : Bool
  wideGuids : Bool
  wideBlobs : Bool
  rows : List Nat
  deriving DecidableEq, Repr

namespace Sizes

def rowsOf (sizes : Sizes) (table : Nat) : Nat :=
  sizes.rows.getD table 0

def reference (isWide : Bool) : Nat :=
  if isWide then 4 else 2

def width (sizes : Sizes) : Column → Nat
  | .fixed bytes => bytes
  | .string => reference sizes.wideStrings
  | .guid => reference sizes.wideGuids
  | .blob => reference sizes.wideBlobs
  | .row table => reference (0x10000 ≤ sizes.rowsOf table)
  | .coded bits tables => reference (tables.any fun table => Nat.pow 2 (16 - bits) ≤ sizes.rowsOf table)

def rowWidth (sizes : Sizes) (columns : List Column) : Nat :=
  columns.foldr (fun column total => sizes.width column + total) 0

/-- The number of bytes of the tables before the Assembly table. -/
def bytesBeforeAssembly (sizes : Sizes) : Nat :=
  tableLayouts.zipIdx.foldr (fun (columns, table) total =>
    sizes.rowsOf table * sizes.rowWidth columns + total) 0

end Sizes

end ScriptDeps.Assembly
