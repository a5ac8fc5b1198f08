import ScriptDeps.Package.Version
import Mathlib.Data.List.Basic

/-!
# The order of versions

The keys of versions and of frameworks are ordered in a row, and of things with keys the one that
sorting puts first is the first of those with the greatest key.
-/

namespace ScriptDeps.Package

theorem compareParts_eq_compare (a b : List Int) : compareParts a b = compare a b := by
  induction a generalizing b with
  | nil => cases b <;> rfl
  | cons x a ih =>
    cases b with
    | nil => rfl
    | cons y b =>
      rw [compareParts, ih]
      exact List.compareLex_cons_cons.symm

theorem VersionKey.compare_eq (a b : VersionKey) : VersionKey.compare a b =
    compareLex (compareOn numbers) (compareLex (compareOn isRelease) (compareOn prerelease)) a b := by
  rw [VersionKey.compare, compareParts_eq_compare]
  rfl

instance : Std.TransCmp VersionKey.compare := by
  rw [funext₂ VersionKey.compare_eq]
  infer_instance

theorem FrameworkKey.compare_eq (a b : FrameworkKey) : FrameworkKey.compare a b =
    compareLex (compareOn rank) (compareLex (compareOn numbers) (compareOn name)) a b := by
  rw [FrameworkKey.compare, compareParts_eq_compare]
  rfl

instance : Std.TransCmp FrameworkKey.compare := by
  rw [funext₂ FrameworkKey.compare_eq]
  infer_instance

theorem FrameworkKey.name_eq_of_compare {a b : FrameworkKey} (same : compare a b = .eq) :
    a.name = b.name := by
  rw [compare_eq, compareLex_eq_eq, compareLex_eq_eq] at same
  exact Std.LawfulEqOrd.eq_of_compare same.2.2

section Sorting

variable {α κ : Type} {order : κ → κ → Ordering}

theorem notBelow_iff {a b : κ} : (order a b != .lt) = true ↔ (order a b).isGE = true := by
  rw [bne_iff_ne, Ordering.isGE_iff_ne_lt]

theorem notBelow_trans [Std.TransCmp order] (a b c : κ × α) (first : (order a.1 b.1 != .lt) = true)
    (second : (order b.1 c.1 != .lt) = true) : (order a.1 c.1 != .lt) = true :=
  notBelow_iff.mpr (Std.TransCmp.isGE_trans (notBelow_iff.mp first) (notBelow_iff.mp second))

theorem notBelow_total [Std.OrientedCmp order] (a b : κ × α) :
    (order a.1 b.1 != .lt || order b.1 a.1 != .lt) = true := by
  rw [Bool.or_eq_true, bne_iff_ne, bne_iff_ne]
  exact (em' _).imp_right Std.OrientedCmp.not_lt_of_lt

theorem pairwise_sortDown [Std.TransCmp order] (items : List (κ × α)) :
    (sortDown order items).Pairwise fun a b => order a.1 b.1 ≠ .lt :=
  (@List.pairwise_mergeSort (κ × α) (fun a b => order a.1 b.1 != .lt) notBelow_trans notBelow_total
    items).imp bne_iff_ne.mp

theorem head?_sortDown [Std.TransCmp order] {items : List (κ × α)} {first : κ × α}
    (head : (sortDown order items).head? = some first) :
    ∃ earlier later, items = earlier ++ first :: later ∧
      (∀ item ∈ earlier, order item.1 first.1 = .lt) ∧ ∀ item ∈ later, order item.1 first.1 ≠ .gt := by
  induction items generalizing first with
  | nil =>
    rw [sortDown, List.mergeSort_nil] at head
    cases head
  | cons item rest ih =>
    obtain ⟨before, after, sorted, restSorted, above⟩ :=
      @List.mergeSort_cons (κ × α) (fun a b => order a.1 b.1 != .lt) notBelow_trans notBelow_total
        item rest
    rw [sortDown, sorted] at head
    cases before with
    | nil =>
      -- nothing is put before the item, so it is not below any other
      obtain rfl := Option.some.inj head
      refine ⟨[], rest, rfl, nofun, fun other member => ?_⟩
      have descends := @pairwise_sortDown _ _ order _ (item :: rest)
      rw [sortDown, sorted] at descends
      have among : other ∈ after := by
        rw [← List.nil_append after, ← restSorted]
        exact List.mem_mergeSort.mpr member
      exact fun greater => (List.pairwise_cons.mp descends).1 other among
        (Std.OrientedCmp.lt_of_gt greater)
    | cons top before =>
      obtain rfl := Option.some.inj head
      obtain ⟨earlier, later, rfl, less, notGreater⟩ :=
        ih (show (sortDown order rest).head? = some top by rw [sortDown, restSorted]; rfl)
      refine ⟨item :: earlier, later, rfl, List.forall_mem_cons.mpr ⟨?_, less⟩, notGreater⟩
      simpa using above top List.mem_cons_self

end Sorting

end ScriptDeps.Package
