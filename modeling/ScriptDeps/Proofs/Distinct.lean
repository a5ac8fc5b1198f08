import Mathlib.Data.List.Basic
import Mathlib.Data.List.Induction
import ScriptDeps.Proofs.Library.Representatives

/-!
# Lists in the order of first occurrence

What is left of a list without its repeats is told by where its items occur for the first time. An
item added at the end of a list is left out if it is in it already.
-/

namespace ScriptDeps

variable {α : Type} [BEq α] [LawfulBEq α]

/-- The items of a list, each once, in the order in which they occur in it for the first time. -/
structure FirstsOf (items kept : List α) : Prop where
  members : ∀ item, item ∈ kept ↔ item ∈ items
  once : kept.Nodup
  ordered : kept.Pairwise fun earlier later => items.idxOf earlier < items.idxOf later

/-- Of the items with one key the first, in the order in which the keys occur for the first time. -/
structure FirstsBy {α κ : Type} [DecidableEq κ] (key : α → κ) (items kept : List α) : Prop where
  keys : FirstsOf (items.map key) (kept.map key)
  first : ∀ item ∈ kept, ∃ before after, items = before ++ item :: after ∧
    ∀ earlier ∈ before, key earlier ≠ key item

/-! ### Keeping the first of a list in two parts -/

theorem keepFirst_seen {seen others : List α} (same : ∀ item, item ∈ seen ↔ item ∈ others)
    (items : List α) :
    keepFirst (· == ·) some seen items = keepFirst (· == ·) some others items := by
  induction items generalizing seen others with
  | nil => rfl
  | cons item rest ih =>
    have taken : seen.any (item == ·) = others.any (item == ·) := by
      rw [Bool.eq_iff_iff]
      simpa using same item
    have further : ∀ other, other ∈ item :: seen ↔ other ∈ item :: others := fun other => by
      rw [List.mem_cons, List.mem_cons, same]
    rw [keepFirst, keepFirst]
    dsimp only
    rw [taken, ih same, ih further]

theorem keepFirst_append (seen items others : List α) :
    keepFirst (· == ·) some seen (items ++ others) =
      keepFirst (· == ·) some seen items ++ keepFirst (· == ·) some (items ++ seen) others := by
  induction items generalizing seen with
  | nil => rfl
  | cons item rest ih =>
    rw [List.cons_append, keepFirst, keepFirst]
    dsimp only
    split
    · rename_i old
      have old : item ∈ seen := by simpa using old
      have same : ∀ other, other ∈ rest ++ seen ↔ other ∈ item :: rest ++ seen := fun other => by
        rw [List.cons_append, List.mem_cons]
        refine (or_iff_right_of_imp ?_).symm
        rintro rfl
        exact List.mem_append_right rest old
      rw [ih, keepFirst_seen same]
    · have same : ∀ other, other ∈ rest ++ item :: seen ↔ other ∈ item :: rest ++ seen :=
        fun other => List.perm_middle.mem_iff
      rw [ih, List.cons_append, keepFirst_seen same]

theorem keepFirst_of_subset {seen items : List α} (old : items ⊆ seen) :
    keepFirst (· == ·) some seen items = [] := by
  induction items with
  | nil => rfl
  | cons item rest ih =>
    obtain ⟨here, later⟩ := List.cons_subset.mp old
    rw [keepFirst]
    dsimp only
    rw [if_pos (by simpa using here), ih later]

theorem distinct_concat (items : List α) (item : α) :
    distinct (items ++ [item]) =
      if item ∈ items then distinct items else distinct items ++ [item] := by
  rw [distinct, keepFirst_append, List.append_nil, keepFirst]
  dsimp only
  rw [keepFirst]
  by_cases old : item ∈ items
  · rw [if_pos (by simpa using old), if_pos old, List.append_nil, distinct]
  · rw [if_neg (by simpa using old), if_neg old, keepFirst, distinct]

/-! ### First occurrences -/

theorem ordered_distinct (items : List α) :
    (distinct items).Pairwise fun earlier later => items.idxOf earlier < items.idxOf later := by
  induction items using List.reverseRecOn with
  | nil => exact .nil
  | append_singleton items item ih =>
    have within : ∀ other ∈ distinct items, (items ++ [item]).idxOf other = items.idxOf other :=
      fun other kept => List.idxOf_append_of_mem (mem_distinct.mp kept)
    have before : (distinct items).Pairwise fun earlier later =>
        (items ++ [item]).idxOf earlier < (items ++ [item]).idxOf later :=
      ih.imp_of_mem fun first second less => by rwa [within _ first, within _ second]
    rw [distinct_concat]
    split
    · exact before
    · rename_i new
      refine List.pairwise_append.mpr ⟨before, List.pairwise_singleton _ _, fun earlier kept last member => ?_⟩
      obtain rfl := List.mem_singleton.mp member
      rw [within earlier kept, List.idxOf_append_of_notMem new]
      exact Nat.lt_add_right _ (List.idxOf_lt_length_of_mem (mem_distinct.mp kept))

theorem firstsOf_distinct (items : List α) : FirstsOf items (distinct items) where
  members _ := mem_distinct
  once := nodup_distinct items
  ordered := ordered_distinct items

theorem distinct_eq_nil {items : List α} : distinct items = [] ↔ items = [] := by
  simp only [List.eq_nil_iff_forall_not_mem, mem_distinct]

/-! ### Keeping the first of each twice -/

section KeepFirst

variable {α κ : Type} {same : κ → κ → Bool} {key : α → Option κ} [BEq α] [LawfulBEq α]

theorem keepFirst_keepFirst {items passed : List α} {seen : List κ}
    (itself : ∀ item ∈ items, ∀ k ∈ key item, same k k = true)
    (taken : ∀ item ∈ passed, ∀ k ∈ key item, seen.any (same k) = true) :
    keepFirst same key seen (keepFirst (· == ·) some passed items) =
      keepFirst same key seen items := by
  -- what the first pass has let through, the second has seen the key of
  induction items generalizing passed seen with
  | nil => rfl
  | cons item rest ih =>
    have later : ∀ item ∈ rest, ∀ k ∈ key item, same k k = true := fun other member =>
      itself other (List.mem_cons_of_mem item member)
    rw [keepFirst]
    dsimp only
    split
    · rename_i old
      have old : item ∈ passed := by simpa using old
      rw [ih later taken, keepFirst]
      cases known : key item with
      | none => rfl
      | some k =>
        dsimp only
        rw [if_pos (taken item old k known)]
    · rw [keepFirst, keepFirst]
      cases known : key item with
      | none =>
        refine ih later (List.forall_mem_cons.mpr ⟨fun k its => ?_, taken⟩)
        rw [known] at its
        cases its
      | some k =>
        dsimp only
        by_cases seenAlready : seen.any (same k) = true
        · rw [if_pos seenAlready, if_pos seenAlready]
          refine ih later (List.forall_mem_cons.mpr ⟨fun l its => ?_, taken⟩)
          rw [known] at its
          exact Option.some.inj its ▸ seenAlready
        · rw [if_neg seenAlready, if_neg seenAlready]
          refine congrArg (item :: ·) (ih later (List.forall_mem_cons.mpr ⟨fun l its => ?_, ?_⟩))
          · have self := itself item List.mem_cons_self k known
            rw [known] at its
            rw [← Option.some.inj its, List.any_cons, self, Bool.true_or]
          · intro other member l its
            rw [List.any_cons, taken other member l its, Bool.or_true]

/-- Items that stand there again are no others, if a key is the same as itself. -/
theorem keepFirst_distinct {items : List α}
    (itself : ∀ item ∈ items, ∀ k ∈ key item, same k k = true) :
    keepFirst same key [] (distinct items) = keepFirst same key [] items :=
  keepFirst_keepFirst itself nofun

end KeepFirst

theorem map_distinctBy {α κ : Type} [BEq κ] (key : α → κ) (items : List α) :
    (distinctBy key items).map key = distinct (items.map key) := by
  have from_ : ∀ seen, (keepFirst (· == ·) (some ∘ key) seen items).map key =
      keepFirst (· == ·) some seen (items.map key) := by
    induction items with
    | nil => exact fun _ => rfl
    | cons item rest ih =>
      intro seen
      rw [List.map_cons, keepFirst, keepFirst]
      dsimp only [Function.comp_apply]
      split
      · exact ih seen
      · rw [List.map_cons, ih]
  exact from_ []

theorem firstsBy_distinctBy {α κ : Type} [DecidableEq κ] (key : α → κ) (items : List α) :
    FirstsBy key items (distinctBy key items) where
  keys := by
    rw [map_distinctBy]
    exact firstsOf_distinct _
  first item kept := by
    rw [distinctBy, keepFirst_eq_firstOfEach] at kept
    obtain ⟨-, before, after, whole, apart⟩ := mem_firstOfEach.mp kept
    exact ⟨before, after, whole, fun earlier member same => apart earlier member (congrArg some same)⟩

theorem distinct_append_distinct (items others : List α) :
    distinct (items ++ distinct others) = distinct (items ++ others) := by
  have again := @keepFirst_keepFirst _ _ (· == ·) some _ _ others [] (items ++ [])
    (fun _ _ _ _ => beq_self_eq_true _) nofun
  rw [distinct, keepFirst_append, distinct, again, distinct, keepFirst_append]

end ScriptDeps
