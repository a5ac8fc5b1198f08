/-!
# The first of each kind

Lists from which whatever repeats an earlier item is left out. Two items repeat each other when
they have the same key; an item without a key is left out as well. What is kept stands in its old
order, as `keepFirst_sublist` says.
-/

namespace ScriptDeps

/-- The items with a key that no item before them has; `seen` holds the keys that are taken
already. -/
def keepFirst {α κ : Type} (same : κ → κ → Bool) (key : α → Option κ) (seen : List κ) :
    List α → List α
  | [] => []
  | item :: rest =>
    match key item with
    | none => keepFirst same key seen rest
    | some k =>
      if seen.any (same k) then keepFirst same key seen rest
      else item :: keepFirst same key (k :: seen) rest

theorem keepFirst_sublist {α κ : Type} (same : κ → κ → Bool) (key : α → Option κ)
    (seen : List κ) (items : List α) : (keepFirst same key seen items).Sublist items := by
  induction items generalizing seen with
  | nil => exact .slnil
  | cons item rest ih =>
    rw [keepFirst]
    split
    · exact (ih _).cons item
    · split
      · exact (ih _).cons item
      · exact (ih _).cons_cons item

def distinct {α : Type} [BEq α] (items : List α) : List α :=
  keepFirst (· == ·) some [] items

/-- The items without those that have the key of an earlier one. -/
def distinctBy {α κ : Type} [BEq κ] (key : α → κ) (items : List α) : List α :=
  keepFirst (· == ·) (some ∘ key) [] items

theorem distinct_sublist {α : Type} [BEq α] (items : List α) :
    (distinct items).Sublist items :=
  keepFirst_sublist _ _ _ _

theorem mem_keepFirst {α : Type} [BEq α] [LawfulBEq α] {seen items : List α} {item : α}
    (member : item ∈ items) : item ∈ seen ∨ item ∈ keepFirst (· == ·) some seen items := by
  induction items generalizing seen with
  | nil => cases member
  | cons first rest ih =>
    simp only [keepFirst]
    split
    · rename_i taken
      rcases List.mem_cons.mp member with rfl | later
      · left
        simpa using taken
      · exact ih later
    · rcases List.mem_cons.mp member with rfl | later
      · exact .inr List.mem_cons_self
      · rcases @ih (first :: seen) later with old | new
        · rcases List.mem_cons.mp old with rfl | old
          · exact .inr List.mem_cons_self
          · exact .inl old
        · exact .inr (List.mem_cons_of_mem _ new)

theorem mem_distinct {α : Type} [BEq α] [LawfulBEq α] {items : List α} {item : α} :
    item ∈ distinct items ↔ item ∈ items :=
  ⟨fun kept => (distinct_sublist items).subset kept,
    fun member => (mem_keepFirst member).resolve_left List.not_mem_nil⟩

end ScriptDeps
