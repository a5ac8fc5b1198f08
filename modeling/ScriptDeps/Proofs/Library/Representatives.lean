import ScriptDeps.Proofs.Library.FirstOfEach

/-!
# One for each key

What `keepFirst` keeps under any comparison of keys. The comparison need not be equality: numbers
that count the same are one name, however they are written. Items that all have keys and are all
different are kept as they are, so keeping the first ones again changes nothing.
-/

namespace ScriptDeps

variable {α κ : Type} {same : κ → κ → Bool} {key : α → Option κ}

/-- Both items have keys, and the key of the first is the same as that of the second. -/
def SameKey (same : κ → κ → Bool) (key : α → Option κ) (a b : α) : Prop :=
  ∃ k ∈ key a, ∃ l ∈ key b, same k l = true

structure KeepsFirst (same : κ → κ → Bool) (key : α → Option κ) (items kept : List α) : Prop where
  sublist : kept.Sublist items
  keyed : ∀ item ∈ kept, (key item).isSome = true
  apart : kept.Pairwise fun earlier later => ¬SameKey same key later earlier
  /-- What is not kept has no key, or comes after an item with the same key that is kept. -/
  covered : ∀ before item after, items = before ++ item :: after → item ∉ kept →
    key item = none ∨ ∃ earlier ∈ before, earlier ∈ kept ∧ SameKey same key item earlier

/-- An item is passed over, or it is the first with its key and is kept. -/
theorem keepFirst_cons (same : κ → κ → Bool) (key : α → Option κ) (seen : List κ) (item : α)
    (rest : List α) :
    (keepFirst same key seen (item :: rest) = keepFirst same key seen rest ∧
        ∀ k ∈ key item, ∃ l ∈ seen, same k l = true) ∨
      ∃ k ∈ key item, (∀ l ∈ seen, same k l = false) ∧
        keepFirst same key seen (item :: rest) = item :: keepFirst same key (k :: seen) rest := by
  rw [keepFirst]
  cases known : key item with
  | none => exact .inl ⟨rfl, fun _ its => by cases its⟩
  | some k =>
    dsimp only
    by_cases taken : seen.any (same k) = true
    · rw [if_pos taken]
      refine .inl ⟨rfl, fun l its => ?_⟩
      rw [← Option.some.inj its]
      exact List.any_eq_true.mp taken
    · rw [if_neg taken]
      exact .inr ⟨k, rfl, by simpa using taken, rfl⟩

theorem keepFirst_unseen {seen : List κ} {items : List α} {item : α}
    (kept : item ∈ keepFirst same key seen items) :
    ∃ k ∈ key item, ∀ l ∈ seen, same k l = false := by
  induction items generalizing seen with
  | nil => cases kept
  | cons first rest ih =>
    obtain ⟨passed, -⟩ | ⟨k, known, new, taken⟩ := keepFirst_cons same key seen first rest
    · rw [passed] at kept
      exact ih kept
    · rw [taken] at kept
      rcases List.mem_cons.mp kept with rfl | later
      · exact ⟨k, known, new⟩
      · obtain ⟨m, its, unseen⟩ := ih later
        exact ⟨m, its, fun l member => unseen l (List.mem_cons_of_mem k member)⟩

theorem keepFirst_apart (seen : List κ) (items : List α) :
    (keepFirst same key seen items).Pairwise fun earlier later =>
      ¬SameKey same key later earlier := by
  induction items generalizing seen with
  | nil => exact .nil
  | cons item rest ih =>
    obtain ⟨passed, -⟩ | ⟨k, known, -, taken⟩ := keepFirst_cons same key seen item rest
    · rw [passed]
      exact ih seen
    · rw [taken]
      refine List.pairwise_cons.mpr ⟨fun later kept => ?_, ih (k :: seen)⟩
      rintro ⟨m, its, l, mine, equal⟩
      obtain ⟨m', its', unseen⟩ := keepFirst_unseen kept
      obtain rfl := Option.some.inj (its.symm.trans its')
      obtain rfl := Option.some.inj (known.symm.trans mine)
      rw [unseen k List.mem_cons_self] at equal
      cases equal

/-- An item with a key that is not kept has a key that was seen, or that of an item kept before. -/
theorem keepFirst_covers {seen : List κ} {before after : List α} {item : α} {k : κ}
    (known : key item = some k)
    (dropped : item ∉ keepFirst same key seen (before ++ item :: after)) :
    (∃ l ∈ seen, same k l = true) ∨
      ∃ earlier ∈ before, earlier ∈ keepFirst same key seen (before ++ item :: after) ∧
        SameKey same key item earlier := by
  induction before generalizing seen with
  | nil =>
    rw [List.nil_append] at dropped
    obtain ⟨-, old⟩ | ⟨_, -, -, taken⟩ := keepFirst_cons same key seen item after
    · exact .inl (old k known)
    · rw [taken] at dropped
      exact absurd List.mem_cons_self dropped
  | cons first before ih =>
    rw [List.cons_append] at dropped ⊢
    obtain ⟨passed, -⟩ | ⟨l, its, -, taken⟩ :=
      keepFirst_cons same key seen first (before ++ item :: after)
    · rw [passed] at dropped ⊢
      refine (ih dropped).imp_right ?_
      rintro ⟨earlier, here, kept⟩
      exact ⟨earlier, List.mem_cons_of_mem first here, kept⟩
    · rw [taken] at dropped ⊢
      obtain ⟨m, member, equal⟩ | ⟨earlier, here, kept, equal⟩ :=
        ih fun kept => dropped (List.mem_cons_of_mem first kept)
      · rcases List.mem_cons.mp member with rfl | old
        · exact .inr ⟨first, List.mem_cons_self, List.mem_cons_self, k, known, m, its, equal⟩
        · exact .inl ⟨m, old, equal⟩
      · exact .inr ⟨earlier, List.mem_cons_of_mem first here, List.mem_cons_of_mem first kept, equal⟩

theorem keepsFirst_keepFirst (same : κ → κ → Bool) (key : α → Option κ) (items : List α) :
    KeepsFirst same key items (keepFirst same key [] items) where
  sublist := keepFirst_sublist same key [] items
  keyed item kept := by
    obtain ⟨k, known, _⟩ := keepFirst_unseen kept
    rw [Option.mem_def.mp known]
    rfl
  apart := keepFirst_apart [] items
  covered before item after split_ dropped := by
    cases known : key item with
    | none => exact .inl rfl
    | some k =>
      subst split_
      exact .inr ((keepFirst_covers known dropped).resolve_left (by simp))

theorem nodup_distinct [BEq α] [LawfulBEq α] (items : List α) : (distinct items).Nodup := by
  refine (keepFirst_apart [] items).imp fun apart equal => apart ?_
  exact ⟨_, rfl, _, rfl, beq_iff_eq.mpr equal.symm⟩

/-! ### Keeping again -/

theorem keepFirst_all {seen : List κ} {items : List α}
    (unseen : ∀ item ∈ items, ∃ k ∈ key item, ∀ l ∈ seen, same k l = false)
    (apart : items.Pairwise fun earlier later => ¬SameKey same key later earlier) :
    keepFirst same key seen items = items := by
  induction items generalizing seen with
  | nil => rfl
  | cons item rest ih =>
    obtain ⟨others, apart⟩ := List.pairwise_cons.mp apart
    obtain ⟨k, known, new⟩ := unseen item List.mem_cons_self
    obtain ⟨-, old⟩ | ⟨l, mine, -, taken⟩ := keepFirst_cons same key seen item rest
    · obtain ⟨l, member, equal⟩ := old k known
      rw [new l member] at equal
      cases equal
    · rw [taken, ih _ apart]
      intro other member
      obtain ⟨m, its, newer⟩ := unseen other (List.mem_cons_of_mem item member)
      refine ⟨m, its, List.forall_mem_cons.mpr ⟨?_, newer⟩⟩
      cases equal : same m l with
      | false => rfl
      | true => exact absurd ⟨m, its, l, mine, equal⟩ (others other member)

theorem keepFirst_congr {other : α → Option κ} {items : List α}
    (agree : ∀ item ∈ items, key item = other item) (seen : List κ) :
    keepFirst same key seen items = keepFirst same other seen items := by
  induction items generalizing seen with
  | nil => rfl
  | cons item rest ih =>
    have later := ih fun item member => agree item (List.mem_cons_of_mem _ member)
    rw [keepFirst, keepFirst, agree item List.mem_cons_self]
    cases other item with
    | none => exact later seen
    | some k => simp only [later]

theorem KeepsFirst.again {items kept : List α} (keeps : KeepsFirst same key items kept) :
    keepFirst same key [] kept = kept := by
  refine keepFirst_all (fun item member => ?_) keeps.apart
  obtain ⟨k, known⟩ := Option.isSome_iff_exists.mp (keeps.keyed item member)
  exact ⟨k, known, by simp⟩

theorem firstOfEach_eq_self_iff [DecidableEq κ] {items : List α} :
    firstOfEach key items = items ↔
      (∀ item ∈ items, (key item).isSome = true) ∧ items.Pairwise fun a b => key a ≠ key b := by
  constructor
  · intro all
    have keeps := keepsFirst_keepFirst (· == ·) key items
    rw [keepFirst_eq_firstOfEach, all] at keeps
    exact ⟨keeps.keyed, all ▸ pairwise_firstOfEach key items⟩
  · rintro ⟨keyed, apart⟩
    rw [← keepFirst_eq_firstOfEach]
    refine keepFirst_all (fun item member => ?_) (apart.imp fun differ => ?_)
    · obtain ⟨k, known⟩ := Option.isSome_iff_exists.mp (keyed item member)
      exact ⟨k, known, by simp⟩
    · rintro ⟨k, mine, l, its, equal⟩
      refine differ ?_
      rw [Option.mem_def.mp mine, Option.mem_def.mp its, eq_of_beq equal]

end ScriptDeps
