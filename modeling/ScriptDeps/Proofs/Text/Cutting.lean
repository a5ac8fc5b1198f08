import ScriptDeps.Text.Segment

/-!
# Cutting texts

When there is nothing to cut: a text that starts and ends with characters to keep is its own
trimmed text, and one without a separator is its own only piece. Then where a text is found in
another, and what stands around it does to that.
-/

namespace ScriptDeps.Text

theorem trimRight_concat {p : Char → Bool} {last : Char} (text : List Char)
    (kept : p last = false) : trimRight p (text ++ [last]) = text ++ [last] := by
  simp [trimRight, kept]

theorem trimBoth_concat {p : Char → Bool} {first last : Char} (text : List Char)
    (begins : p first = false) (ends : p last = false) :
    trimBoth p (first :: text ++ [last]) = first :: text ++ [last] := by
  rw [trimBoth, List.cons_append, List.dropWhile_cons_of_neg (by simp [begins])]
  exact trimRight_concat (first :: text) ends

theorem dropWhile_of_forall {p : Char → Bool} {text : List Char} (kept : ∀ c ∈ text, p c = false) :
    text.dropWhile p = text := by
  cases text with
  | nil => rfl
  | cons c rest => exact List.dropWhile_cons_of_neg (by simp [kept c List.mem_cons_self])

theorem trimBoth_of_forall {p : Char → Bool} {text : List Char} (kept : ∀ c ∈ text, p c = false) :
    trimBoth p text = text := by
  rw [trimBoth, trimRight, dropWhile_of_forall kept, dropWhile_of_forall (by simpa using kept),
    List.reverse_reverse]

theorem takeWhile_append_of_stop {p : Char → Bool} {c : Char} (before after : List Char)
    (stop : p c = false) : (before ++ c :: after).takeWhile p = before.takeWhile p := by
  induction before with
  | nil => exact List.takeWhile_cons_of_neg (by simp [stop])
  | cons d before ih => simp only [List.cons_append, List.takeWhile_cons, ih]

theorem split_of_notMem {separator : Char} {text : List Char} (whole : separator ∉ text) :
    split separator text = [text] := by
  induction text with
  | nil => rfl
  | cons c rest ih =>
    obtain ⟨other, whole⟩ := List.ne_and_not_mem_of_not_mem_cons whole
    rw [split, if_neg (by simpa using Ne.symm other), ih whole]

theorem notMem_of_mem_split {separator : Char} {text piece : List Char}
    (member : piece ∈ split separator text) : separator ∉ piece := by
  induction text generalizing piece with
  | nil =>
    rw [List.mem_singleton.mp member]
    exact List.not_mem_nil
  | cons c rest ih =>
    rw [split] at member
    split at member
    · rcases List.mem_cons.mp member with rfl | member
      · exact List.not_mem_nil
      · exact ih member
    · rename_i other
      have apart : separator ≠ c := fun same => other (by simp [same])
      split at member
      · rename_i first pieces cut
        rw [cut] at ih
        rcases List.mem_cons.mp member with rfl | member
        · exact List.not_mem_cons_of_ne_of_not_mem apart (ih List.mem_cons_self)
        · exact ih (List.mem_cons_of_mem first member)
      · rw [List.mem_singleton.mp member]
        exact List.not_mem_cons_of_ne_of_not_mem apart List.not_mem_nil

theorem cutLast?_some {c : Char} {text stem suffix : List Char}
    (cut : cutLast? c text = some (stem, suffix)) : stem ++ suffix = text := by
  unfold cutLast? at cut
  dsimp only at cut
  split at cut
  · cases cut
  · obtain ⟨rfl, rfl⟩ := Prod.mk.inj (Option.some.inj cut)
    exact List.take_append_drop _ text

theorem mem_of_mem_tails {text tail : List Char} (member : tail ∈ tails text) :
    tail <:+ text := by
  induction text with
  | nil => cases member
  | cons c rest ih =>
    rcases List.mem_cons.mp member with rfl | member
    · exact List.suffix_refl _
    · exact (ih member).trans (List.suffix_cons c rest)

theorem tails_append (first second : List Char) :
    tails (first ++ second) = (tails first).map (· ++ second) ++ tails second := by
  induction first with
  | nil => rfl
  | cons c rest ih => rw [List.cons_append, tails, ih]; rfl

/-! ### Finding a text in another -/

theorem find?_add_le {needle text : List Char} {position : Nat}
    (found : find? needle text = some position) : position + needle.length ≤ text.length := by
  induction text generalizing position with
  | nil =>
    rw [find?] at found
    split at found
    · rename_i empty
      rw [← Option.some.inj found, List.isEmpty_iff.mp empty]
      exact Nat.le_refl 0
    · cases found
  | cons c rest ih =>
    rw [find?] at found
    split at found
    · rename_i here
      rw [← Option.some.inj found, Nat.zero_add]
      exact (List.isPrefixOf_iff_prefix.mp here).length_le
    · obtain ⟨before, later, rfl⟩ := Option.map_eq_some_iff.mp found
      have := ih later
      rw [List.length_cons]
      omega

theorem find?_eq_none_iff {needle text : List Char} :
    find? needle text = none ↔ ¬ needle <:+: text := by
  induction text with
  | nil => simp [find?]
  | cons c rest ih =>
    rw [find?, List.infix_cons_iff, not_or, ← ih]
    split
    · rename_i here
      exact iff_of_false nofun fun apart => apart.1 (List.isPrefixOf_iff_prefix.mp here)
    · rename_i apart
      rw [Option.map_eq_none_iff]
      exact (and_iff_right fun here => apart (List.isPrefixOf_iff_prefix.mpr here)).symm

/-- What follows does not matter to where a text is found first. -/
theorem find?_append_of_some {needle text : List Char} {position : Nat} (rest : List Char)
    (found : find? needle text = some position) : find? needle (text ++ rest) = some position := by
  induction text generalizing position with
  | nil =>
    rw [find?] at found
    split at found
    · rename_i empty
      rw [← Option.some.inj found, List.isEmpty_iff.mp empty]
      cases rest <;> rfl
    · cases found
  | cons c text ih =>
    rw [find?] at found
    rw [List.cons_append, find?]
    split at found
    · rename_i here
      rw [if_pos, found]
      exact List.isPrefixOf_iff_prefix.mpr
        ((List.isPrefixOf_iff_prefix.mp here).trans (List.prefix_append (c :: text) rest))
    · rename_i apart
      obtain ⟨before, later, rfl⟩ := Option.map_eq_some_iff.mp found
      have within := find?_add_le later
      rw [if_neg, ih later, Option.map_some]
      intro here
      refine apart (List.isPrefixOf_iff_prefix.mpr ?_)
      refine List.prefix_of_prefix_length_le (List.isPrefixOf_iff_prefix.mp here)
        (List.prefix_append (c :: text) rest) ?_
      rw [List.length_cons]
      omega

/-- A text in which no occurrence begins only moves the first one further on. -/
theorem find?_append_of_apart {needle before : List Char} {rest : List Char}
    (apart : ∀ tail, tail <:+ before → tail ≠ [] → ¬ needle <+: tail ++ rest) :
    find? needle (before ++ rest) = (find? needle rest).map (· + before.length) := by
  induction before with
  | nil => simp
  | cons c before ih =>
    rw [List.cons_append, find?, if_neg, ih fun tail ends => apart tail (ends.trans (List.suffix_cons c before)),
      Option.map_map]
    · rfl
    · exact fun here => apart (c :: before) List.suffix_rfl (List.cons_ne_nil c before)
        (List.isPrefixOf_iff_prefix.mp here)

end ScriptDeps.Text
