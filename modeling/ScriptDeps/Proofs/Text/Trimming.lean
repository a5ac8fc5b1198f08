import ScriptDeps.Proofs.Text.Cutting

/-!
# Trimming and joining

Characters of the class that is trimmed may be put around a text without a difference, and every
text is its trimmed text with such characters around it. Blanks count for nothing in the words of a
text, and pieces without a separator are what their joined text splits into. Both go piece by piece
through a text that is put together of two around a separator.
-/

namespace ScriptDeps.Text

variable {p : Char → Bool}

/-! ### Trimming -/

theorem dropWhile_append_of_kept {first second : List Char}
    (kept : second.dropWhile p = second) : (first ++ second).dropWhile p = first.dropWhile p ++ second := by
  rw [List.dropWhile_append]
  split
  · rename_i none
    rw [List.isEmpty_iff.mp none, kept, List.nil_append]
  · rfl

theorem trimRight_append_of_forall {text after : List Char} (out : ∀ c ∈ after, p c = true) :
    trimRight p (text ++ after) = trimRight p text := by
  have behind : ∀ c ∈ after.reverse, p c = true := fun c member => out c (List.mem_reverse.mp member)
  rw [trimRight, List.reverse_append, List.dropWhile_append_of_pos behind, trimRight]

theorem trimRight_of_forall {text : List Char} (kept : ∀ c ∈ text, p c = false) :
    trimRight p text = text := by
  rw [trimRight, dropWhile_of_forall (by simpa using kept), List.reverse_reverse]

theorem trimBoth_append {before text after : List Char} (first : ∀ c ∈ before, p c = true)
    (last : ∀ c ∈ after, p c = true) : trimBoth p (before ++ text ++ after) = trimBoth p text := by
  rw [trimBoth, List.append_assoc, List.dropWhile_append_of_pos first, List.dropWhile_append]
  split
  · rename_i none
    have all : (after ++ []).dropWhile p = [].dropWhile p := List.dropWhile_append_of_pos last
    rw [List.append_nil] at all
    rw [trimBoth, List.isEmpty_iff.mp none, all, List.dropWhile_nil]
  · exact trimRight_append_of_forall last

theorem trim_append {after : List Char} (out : ∀ c ∈ after, isBlank c = true) (text : List Char) :
    trim (text ++ after) = trim text := by
  have none : ∀ c ∈ ([] : List Char), isBlank c = true := nofun
  exact trimBoth_append none out

theorem trim_prepend {before : List Char} (out : ∀ c ∈ before, isBlank c = true)
    (text : List Char) : trim (before ++ text) = trim text := by
  have none : ∀ c ∈ ([] : List Char), isBlank c = true := nofun
  rw [← List.append_nil (before ++ text)]
  exact trimBoth_append out none

theorem exists_trimRight (text : List Char) :
    ∃ after, text = trimRight p text ++ after ∧ ∀ c ∈ after, p c = true := by
  refine ⟨(text.reverse.takeWhile p).reverse, ?_, fun c member => ?_⟩
  · rw [trimRight, ← List.reverse_append, List.takeWhile_append_dropWhile, List.reverse_reverse]
  · exact List.all_eq_true.mp List.all_takeWhile c (List.mem_reverse.mp member)

theorem exists_trimBoth (text : List Char) : ∃ before after,
    text = before ++ trimBoth p text ++ after ∧ (∀ c ∈ before, p c = true) ∧
      ∀ c ∈ after, p c = true := by
  obtain ⟨after, cut, out⟩ := exists_trimRight (p := p) (text.dropWhile p)
  refine ⟨text.takeWhile p, after, ?_, fun c member => ?_, out⟩
  · rw [trimBoth, List.append_assoc, ← cut, List.takeWhile_append_dropWhile]
  · exact List.all_eq_true.mp List.all_takeWhile c member

theorem trim_trim (text : List Char) : trim (trim text) = trim text := by
  obtain ⟨before, after, cut, first, last⟩ := exists_trimBoth (p := isBlank) text
  conv => rhs; rw [cut]
  exact (trimBoth_append first last).symm

theorem dropWhile_of_trimmed {text : List Char} (trimmed : trim text = text) :
    text.dropWhile isBlank = text := by
  obtain ⟨after, cut, _⟩ := exists_trimRight (p := isBlank) (text.dropWhile isBlank)
  have whole : trimRight isBlank (text.dropWhile isBlank) = text := trimmed
  have long : text.length ≤ (text.dropWhile isBlank).length := by
    rw [cut, whole, List.length_append]
    omega
  exact (List.dropWhile_suffix isBlank).eq_of_length_le long

theorem trimRight_isInfix (text : List Char) : trimRight p text <:+: text := by
  obtain ⟨after, cut, _⟩ := exists_trimRight (p := p) text
  exact ⟨[], after, cut.symm⟩

theorem trimBoth_isInfix (text : List Char) : trimBoth p text <:+: text :=
  (trimRight_isInfix _).trans (List.dropWhile_suffix p).isInfix

theorem mem_of_mem_trimBoth {text : List Char} {c : Char} (member : c ∈ trimBoth p text) :
    c ∈ text :=
  (trimBoth_isInfix text).subset member

/-! ### Joining -/

variable {separator : Char}

theorem split_append {piece : List Char} (whole : separator ∉ piece) (rest : List Char) :
    split separator (piece ++ separator :: rest) = piece :: split separator rest := by
  induction piece with
  | nil => rw [List.nil_append, split, if_pos (beq_self_eq_true separator)]
  | cons c piece ih =>
    obtain ⟨other, whole⟩ := List.ne_and_not_mem_of_not_mem_cons whole
    rw [List.cons_append, split, if_neg (by simpa using Ne.symm other), ih whole]

theorem split_join {pieces : List (List Char)} (some : pieces ≠ [])
    (whole : ∀ piece ∈ pieces, separator ∉ piece) :
    split separator (join separator pieces) = pieces := by
  induction pieces with
  | nil => exact absurd rfl some
  | cons piece rest ih =>
    obtain ⟨here, later⟩ := List.forall_mem_cons.mp whole
    cases rest with
    | nil => exact split_of_notMem here
    | cons next rest =>
      rw [join, split_append here, ih (List.cons_ne_nil next rest) later]
      exact List.cons_ne_nil next rest

theorem join_append {first second : List (List Char)} (some : first ≠ []) (others : second ≠ []) :
    join separator (first ++ second) = join separator first ++ separator :: join separator second := by
  induction first with
  | nil => exact absurd rfl some
  | cons piece rest ih =>
    cases rest with
    | nil =>
      rw [List.singleton_append, join, join]
      exact others
    | cons next rest =>
      calc join separator (piece :: (next :: rest ++ second))
          = piece ++ separator :: join separator (next :: rest ++ second) := rfl
        _ = (piece ++ separator :: join separator (next :: rest)) ++
              separator :: join separator second := by
            rw [ih (List.cons_ne_nil next rest), List.append_assoc, List.cons_append]
        _ = join separator (piece :: next :: rest) ++ separator :: join separator second := rfl

theorem split_append_cons (first second : List Char) :
    split separator (first ++ separator :: second) =
      split separator first ++ split separator second := by
  have some := split_ne_nil separator first
  have whole : ∀ piece ∈ split separator first ++ split separator second, separator ∉ piece :=
    List.forall_mem_append.mpr ⟨fun _ => notMem_of_mem_split, fun _ => notMem_of_mem_split⟩
  have joined : join separator (split separator first ++ split separator second) =
      first ++ separator :: second := by
    rw [join_append some (split_ne_nil separator second), join_split, join_split]
  rw [← joined, split_join (List.append_ne_nil_of_left_ne_nil some _) whole]

/-! ### Words -/

/-- The runs between blanks, empty ones as well. -/
def runs (text : List Char) : List (List Char) :=
  text.foldr
    (fun c acc => if isBlank c then [] :: acc else match acc with
      | word :: rest => (c :: word) :: rest
      | [] => [[c]]) [[]]

theorem words_eq (text : List Char) : words text = (runs text).filter (· ≠ []) := rfl

theorem runs_blank {c : Char} (blank : isBlank c = true) (rest : List Char) :
    runs (c :: rest) = [] :: runs rest := by
  rw [runs, List.foldr_cons, if_pos blank]
  rfl

theorem runs_append {word : List Char} (kept : ∀ c ∈ word, isBlank c = false) {rest first : List Char}
    {others : List (List Char)} (cut : runs rest = first :: others) :
    runs (word ++ rest) = (word ++ first) :: others := by
  induction word with
  | nil => exact cut
  | cons c word ih =>
    obtain ⟨here, later⟩ := List.forall_mem_cons.mp kept
    have more := ih later
    rw [runs] at more ⊢
    rw [List.cons_append, List.foldr_cons, more, if_neg (by simp [here])]
    rfl

theorem words_blank {c : Char} (blank : isBlank c = true) (rest : List Char) :
    words (c :: rest) = words rest := by
  rw [words_eq, runs_blank blank, List.filter_cons_of_neg (by simp), words_eq]

theorem words_blanks {before : List Char} (out : ∀ c ∈ before, isBlank c = true) (text : List Char) :
    words (before ++ text) = words text := by
  induction before with
  | nil => rfl
  | cons c before ih =>
    obtain ⟨here, later⟩ := List.forall_mem_cons.mp out
    rw [List.cons_append, words_blank here, ih later]

theorem words_word {word : List Char} (kept : ∀ c ∈ word, isBlank c = false) :
    words word = [word].filter (· ≠ []) := by
  have cut : runs [] = [] :: [] := rfl
  have run := runs_append kept cut
  rw [List.append_nil] at run
  rw [words_eq, run]

theorem words_append {word : List Char} (kept : ∀ c ∈ word, isBlank c = false) {c : Char}
    (blank : isBlank c = true) (rest : List Char) :
    words (word ++ c :: rest) = [word].filter (· ≠ []) ++ words rest := by
  have run := runs_append kept (runs_blank blank rest)
  rw [List.append_nil] at run
  rw [words_eq, run, ← List.singleton_append, List.filter_append, words_eq]

theorem runs_ne_nil (text : List Char) : runs text ≠ [] := by
  cases text with
  | nil => exact List.cons_ne_nil _ _
  | cons c rest =>
    rw [runs, List.foldr_cons]
    split
    · exact List.cons_ne_nil _ _
    · split <;> exact List.cons_ne_nil _ _

theorem words_append_blanks {after : List Char} (out : ∀ c ∈ after, isBlank c = true)
    (text : List Char) : words (text ++ after) = words text := by
  have more : ∃ empties, (∀ word ∈ empties, word = []) ∧
      runs (text ++ after) = runs text ++ empties := by
    induction text with
    | nil =>
      have ends : ∀ word ∈ runs after, word = [] := by
        induction after with
        | nil => exact List.forall_mem_singleton.mpr rfl
        | cons c after ih =>
          obtain ⟨here, later⟩ := List.forall_mem_cons.mp out
          rw [runs_blank here]
          exact List.forall_mem_cons.mpr ⟨rfl, ih later⟩
      obtain ⟨first, others, cut⟩ := List.exists_cons_of_ne_nil (runs_ne_nil after)
      rw [cut] at ends
      obtain ⟨rfl, empty⟩ := List.forall_mem_cons.mp ends
      exact ⟨others, empty, cut⟩
    | cons c rest ih =>
      obtain ⟨empties, empty, cut⟩ := ih
      refine ⟨empties, empty, ?_⟩
      by_cases blank : isBlank c = true
      · rw [List.cons_append, runs_blank blank, runs_blank blank, cut, List.cons_append]
      · have kept : ∀ d ∈ [c], isBlank d = false := by simpa using blank
        obtain ⟨first, others, whole⟩ := List.exists_cons_of_ne_nil (runs_ne_nil rest)
        have longer : runs (rest ++ after) = first :: (others ++ empties) := by
          rw [cut, whole, List.cons_append]
        have one := runs_append kept whole
        have both := runs_append kept longer
        rw [List.singleton_append] at one both
        rw [List.cons_append, both, one]
        rfl
  obtain ⟨empties, empty, cut⟩ := more
  have lost : empties.filter (· ≠ []) = [] := by
    rw [List.filter_eq_nil_iff]
    intro word member
    simp [empty word member]
  rw [words_eq, cut, List.filter_append, lost, List.append_nil, words_eq]

end ScriptDeps.Text
