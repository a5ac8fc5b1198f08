import ScriptDeps.Distinct

/-!
# The first of each kind, by places

`keepFirst` goes through a list with the keys that it has seen. Here the same list is told by its
places: an item stays if it has a key and stands before every other item that has it.
-/

namespace ScriptDeps

variable {α κ : Type} [DecidableEq κ]

/-- Whether an item at a place of a list has a key that no item before that place has. -/
def IsFirst (key : α → Option κ) (items : List α) (item : α) (place : Nat) : Prop :=
  (key item).isSome = true ∧ ∀ earlier ∈ items.take place, key earlier ≠ key item

instance (key : α → Option κ) (items : List α) (item : α) (place : Nat) :
    Decidable (IsFirst key items item place) :=
  inferInstanceAs (Decidable (_ ∧ _))

/-- The items that are the first of a list with their key, in their order. -/
def firstOfEach (key : α → Option κ) (items : List α) : List α :=
  (items.zipIdx.filter fun entry => IsFirst key items entry.1 entry.2).map (·.1)

theorem keepFirst_eq_firsts (key : α → Option κ) {seen : List κ} {before : List α}
    (taken : ∀ k, k ∈ seen ↔ ∃ item ∈ before, key item = some k) (rest : List α) :
    keepFirst (· == ·) key seen rest =
      ((rest.zipIdx before.length).filter fun entry =>
        IsFirst key (before ++ rest) entry.1 entry.2).map (·.1) := by
  induction rest generalizing seen before with
  | nil => rfl
  | cons item rest ih =>
    have here : (before ++ item :: rest).take before.length = before :=
      List.take_left
    have onward : before ++ item :: rest = (before ++ [item]) ++ rest := by
      rw [List.append_assoc, List.singleton_append]
    have further : (before ++ [item]).length = before.length + 1 := List.length_append
    have snoc : ∀ k, (∃ earlier ∈ before ++ [item], key earlier = some k) ↔
        k ∈ seen ∨ key item = some k := fun k => by
      simp [taken, or_and_right, exists_or]
    rw [keepFirst, List.zipIdx_cons, List.filter_cons]
    cases known : key item with
    | none =>
      have notFirst : ¬ IsFirst key (before ++ item :: rest) item before.length := fun first => by
        rw [IsFirst, known] at first
        cases first.1
      rw [if_neg (by simpa using notFirst), onward, ← further, ← ih]
      intro k
      rw [snoc, known]
      simp
    | some k =>
      dsimp only
      have first : IsFirst key (before ++ item :: rest) item before.length ↔ k ∉ seen := by
        rw [IsFirst, here, known, taken]
        simp
      by_cases old : k ∈ seen
      · rw [if_pos (by simpa using old), if_neg (by simpa [first] using old), onward, ← further, ← ih]
        intro other
        rw [snoc, known, Option.some.injEq]
        exact ⟨Or.inl, fun has => has.elim id fun same => same ▸ old⟩
      · rw [if_neg (by simpa using old), if_pos (by simpa [first] using old), List.map_cons, onward,
          ← further, ← ih]
        intro other
        rw [snoc, known, Option.some.injEq, List.mem_cons, or_comm, eq_comm]

theorem keepFirst_eq_firstOfEach (key : α → Option κ) (items : List α) :
    keepFirst (· == ·) key [] items = firstOfEach key items :=
  @keepFirst_eq_firsts _ _ _ key [] [] (by simp) items

theorem mem_firstOfEach {key : α → Option κ} {items : List α} {item : α} :
    item ∈ firstOfEach key items ↔ (key item).isSome = true ∧ ∃ before after,
      items = before ++ item :: after ∧ ∀ earlier ∈ before, key earlier ≠ key item := by
  rw [firstOfEach, List.mem_map]
  constructor
  · rintro ⟨⟨item, place⟩, kept, rfl⟩
    obtain ⟨member, first⟩ := List.mem_filter.mp kept
    obtain ⟨keyed, first⟩ : IsFirst key items item place := of_decide_eq_true first
    obtain ⟨inside, rfl⟩ := List.getElem?_eq_some_iff.mp (List.mk_mem_zipIdx_iff_getElem?.mp member)
    refine ⟨keyed, items.take place, items.drop (place + 1), ?_, first⟩
    rw [← List.drop_eq_getElem_cons, List.take_append_drop]
  · rintro ⟨keyed, before, after, rfl, first⟩
    have isFirst : IsFirst key (before ++ item :: after) item before.length := by
      refine ⟨keyed, ?_⟩
      rwa [List.take_left]
    exact ⟨(item, before.length), List.mem_filter.mpr
      ⟨List.mk_mem_zipIdx_iff_getElem?.mpr (by simp), decide_eq_true isFirst⟩, rfl⟩

/-- No two items that are kept have the same key. -/
theorem pairwise_firstOfEach (key : α → Option κ) (items : List α) :
    (firstOfEach key items).Pairwise fun a b => key a ≠ key b := by
  have apart : items.zipIdx.Pairwise fun earlier later =>
      IsFirst key items later.1 later.2 → key earlier.1 ≠ key later.1 := by
    refine List.pairwise_iff_getElem.mpr fun i j here there before first => ?_
    simp only [List.getElem_zipIdx, Nat.zero_add] at first ⊢
    refine first.2 _ (List.mem_take_iff_getElem.mpr ⟨i, ?_, rfl⟩)
    simp only [List.length_zipIdx] at here there
    omega
  refine List.pairwise_map.mpr ((apart.filter _).imp_of_mem fun _ later differ => differ ?_)
  simpa using (List.mem_filter.mp later).2

/-- What is kept depends on the keys of the items only up to a renaming of the keys. -/
theorem keepFirst_rename {κ' : Type} (rename : κ → κ') {same : κ' → κ' → Bool}
    (apart : ∀ a b, same (rename a) (rename b) = (a == b)) {key : α → Option κ'}
    {plainKey : α → Option κ} {items : List α}
    (renamed : ∀ item ∈ items, key item = (plainKey item).map rename) (seen : List κ) :
    keepFirst same key (seen.map rename) items = keepFirst (· == ·) plainKey seen items := by
  induction items generalizing seen with
  | nil => rfl
  | cons item rest ih =>
    have later := ih fun item member => renamed item (List.mem_cons_of_mem _ member)
    rw [keepFirst, keepFirst, renamed item List.mem_cons_self]
    cases plainKey item with
    | none => exact later seen
    | some k =>
      have seenAlready : (seen.map rename).any (same (rename k)) = seen.any (k == ·) := by
        rw [List.any_map]
        exact congrArg seen.any (funext (apart k))
      dsimp only [Option.map_some]
      rw [seenAlready]
      split
      · exact later seen
      · exact congrArg (item :: ·) (later (k :: seen))

end ScriptDeps
