import ScriptDeps.Proofs.Assembly.Standard
import ScriptDeps.Assembly.Layout
import Mathlib.Algebra.BigOperators.Group.List.Basic

/-!
# Widths of columns

What stands at the start of the tables stream tells how wide every column is, and so where each
table starts. The widths that are skipped on the way to the Assembly table are those of the standard.
-/

namespace ScriptDeps.Assembly

namespace Standard

/-- What the tables stream starts with: which heaps are large, which tables are present and how many
rows each of them has. -/
@[ext]
structure TablesHeader where
  heapSizes : Nat
  valid : Nat
  rowCount : Nat → Nat

namespace TablesHeader

def presentNumbers (header : TablesHeader) : List Nat :=
  (List.range 64).filter header.valid.testBit

/-- The header stands in the image. A table that is not present has no rows. -/
structure At (header : TablesHeader) (image : Image) (start : Nat) : Prop where
  heapSizes : image.HoldsNumber (start + 6) 1 header.heapSizes
  valid : image.HoldsNumber (start + 8) 8 header.valid
  rowCounts : image.HoldsNumbers (start + 24)
    (header.presentNumbers.map fun number => (4, header.rowCount number))
  absent : ∀ number, header.valid.testBit number = false → header.rowCount number = 0

def width (header : TablesHeader) : Column → Nat
  | .fixed bytes => bytes
  | .string => if header.heapSizes.testBit 0 then 4 else 2
  | .guid => if header.heapSizes.testBit 1 then 4 else 2
  | .blob => if header.heapSizes.testBit 2 then 4 else 2
  | .row table => if header.rowCount table.number < 2 ^ 16 then 2 else 4
  | .coded tags =>
    if ∀ table ∈ tags.reduceOption,
      header.rowCount table.number < 2 ^ (16 - Nat.clog 2 tags.length) then 2 else 4

def rowWidth (header : TablesHeader) (table : Table) : Nat :=
  (table.columns.map header.width).sum

/-- Where the first row of a table is, in a tables stream that starts at an offset. -/
def rowStart (header : TablesHeader) (start : Nat) (table : Table) : Nat :=
  start + 24 + 4 * header.presentNumbers.length + (if header.heapSizes.testBit 6 then 4 else 0) +
    ((Table.inOrder.take table.number).map fun earlier =>
      header.rowCount earlier.number * header.rowWidth earlier).sum

end TablesHeader

end Standard

open Standard (Table TablesHeader)

def Column.ofStandard : Standard.Column → Column
  | .fixed bytes => .fixed bytes
  | .string => .string
  | .guid => .guid
  | .blob => .blob
  | .row table => .row table.number
  | .coded tags => .coded (Nat.clog 2 tags.length) (tags.reduceOption.map Table.number)

def tablesBefore : List Table := Table.inOrder.take assemblyTable

theorem tableLayouts_standard :
    tableLayouts.zipIdx = tablesBefore.map fun table =>
      (table.columns.map Column.ofStandard, table.number) := by
  decide +kernel

theorem number_lt (table : Table) : table.number < 64 := by
  cases table <;> decide

theorem reference_eq_ite {large : Bool} {few : Prop} [Decidable few] (apart : large = true ↔ ¬few) :
    Sizes.reference large = if few then 2 else 4 := by
  unfold Sizes.reference
  by_cases isFew : few
  · rw [if_pos isFew, if_neg fun isLarge => apart.mp isLarge isFew]
  · rw [if_neg isFew, if_pos (apart.mpr isFew)]

def Sizes.ofHeader (header : TablesHeader) : Sizes :=
  ⟨header.heapSizes.testBit 0, header.heapSizes.testBit 1, header.heapSizes.testBit 2,
    (List.range 64).map header.rowCount⟩

variable (header : TablesHeader)

theorem rowsOf_ofHeader (table : Table) :
    (Sizes.ofHeader header).rowsOf table.number = header.rowCount table.number := by
  rw [Sizes.rowsOf, Sizes.ofHeader, List.getD_eq_getElem?_getD, List.getElem?_map,
    List.getElem?_range (number_lt table)]
  rfl

theorem width_ofHeader (column : Standard.Column) :
    (Sizes.ofHeader header).width (.ofStandard column) = header.width column := by
  cases column with
  | row table =>
    refine reference_eq_ite ?_
    rw [rowsOf_ofHeader]
    simp
  | coded tags =>
    refine reference_eq_ite ?_
    simp only [List.any_map, List.any_eq_true, Function.comp_apply, rowsOf_ofHeader,
      decide_eq_true_eq, not_forall, Nat.not_lt, Nat.pow_eq, exists_prop]
  | _ => rfl

theorem rowWidth_ofHeader (table : Table) :
    (Sizes.ofHeader header).rowWidth (table.columns.map .ofStandard) = header.rowWidth table := by
  rw [Sizes.rowWidth, TablesHeader.rowWidth, List.foldr_map, List.sum_eq_foldr, List.foldr_map]
  simp only [width_ofHeader]

theorem bytesBeforeAssembly_ofHeader :
    (Sizes.ofHeader header).bytesBeforeAssembly =
      (tablesBefore.map fun table => header.rowCount table.number * header.rowWidth table).sum := by
  rw [Sizes.bytesBeforeAssembly, tableLayouts_standard, List.foldr_map, List.sum_eq_foldr,
    List.foldr_map]
  simp only [rowsOf_ofHeader, rowWidth_ofHeader]

end ScriptDeps.Assembly
