import ScriptDeps.Proofs.Text.Trimming
import ScriptDeps.Script.Comment
import ScriptDeps.Script.Lines

/-!
# Comments line by line

No mark of a comment runs over a line feed. So what is left of a line when comments are blanked
depends on that line, on whether it starts in a comment, and on whether a comment ends on a later
one. When lines are rewritten so that these two stay as they are, every line that is kept is seen as
before.
-/

namespace ScriptDeps.Script

/-- What is left of a line, and whether it ends in a comment; `later` tells that a later line has
the end of one. -/
def blankLine (later : Bool) : Bool → List Char → List Char × Bool
  | inside, [] => ([], inside)
  | true, c :: rest =>
    if c == '*' && rest.head? == some '/' then blankLine later false rest.tail
    else blankLine later true rest
  | false, c :: rest =>
    if c == '/' && rest.head? == some '*' && (hasClose rest.tail || later) then
      blankLine later true rest.tail
    else (blankLine later false rest).map (c :: ·) id
termination_by _ line => line.length

/-- What is left of lines, the first of which starts in a comment if `inside` is true. -/
def visibleLines (inside : Bool) : List (List Char) → List (List Char)
  | [] => []
  | line :: rest =>
    let seen := blankLine (rest.any hasClose) inside line
    seen.1 :: visibleLines seen.2 rest

/-- The lines of a text after its comments are blanked. -/
def visible (text : String) : List (List Char) :=
  lines (blankComments text.toList)

/-! ### Cutting at a line feed -/

/-- The text does not go on with the line before it. -/
def Breaks (text : List Char) : Prop :=
  ∀ c ∈ text.head?, c = '\n'

theorem breaks_nil : Breaks [] := nofun

theorem breaks_cons (rest : List Char) : Breaks ('\n' :: rest) := fun _ head =>
  (Option.some.inj head).symm

theorem hasClose_cons (c : Char) (rest : List Char) :
    hasClose (c :: rest) = (c == '*' && rest.head? == some '/' || hasClose rest) := by
  by_cases ends : c = '*' ∧ rest.head? = some '/'
  · obtain ⟨rfl, slash⟩ := ends
    obtain ⟨after, rfl⟩ := List.head?_eq_some_iff.mp slash
    simp [hasClose]
  · have apart : (c == '*' && rest.head? == some '/') = false := by
      simpa [Bool.and_eq_false_iff, Classical.or_iff_not_imp_left] using ends
    rw [apart, Bool.false_or, hasClose]
    rintro after rfl rfl
    exact ends ⟨rfl, rfl⟩

theorem blankFrom_inside (c : Char) (rest : List Char) :
    blankFrom true (c :: rest) =
      if c == '*' && rest.head? == some '/' then blankFrom false rest.tail
      else if c == '\n' then c :: blankFrom true rest else blankFrom true rest := by
  cases rest with
  | nil => simp [blankFrom]
  | cons d rest => simp [blankFrom]

theorem blankFrom_outside (c : Char) (rest : List Char) :
    blankFrom false (c :: rest) =
      if c == '/' && rest.head? == some '*' && hasClose rest.tail then blankFrom true rest.tail
      else c :: blankFrom false rest := by
  cases rest with
  | nil => simp [blankFrom]
  | cons d rest => simp [blankFrom]

/-- A mark of a comment is not cut by a line feed, so it is seen on its line. -/
theorem Breaks.head? {rest : List Char} (breaks : Breaks rest) {c : Char} (other : c ≠ '\n')
    (line : List Char) : ((line ++ rest).head? == some c) = (line.head? == some c) := by
  cases line with
  | nil =>
    have absent : rest.head? ≠ some c := fun head => other (breaks c head)
    rw [List.nil_append, beq_eq_false_iff_ne.mpr absent]
    rfl
  | cons d line => rfl

theorem hasClose_append {rest : List Char} (breaks : Breaks rest) (line : List Char) :
    hasClose (line ++ rest) = (hasClose line || hasClose rest) := by
  induction line with
  | nil => rfl
  | cons c line ih =>
    rw [List.cons_append, hasClose_cons, hasClose_cons, ih, breaks.head? (by decide),
      Bool.or_assoc]

theorem hasClose_join (pieces : List (List Char)) :
    hasClose (Text.join '\n' pieces) = pieces.any hasClose := by
  induction pieces with
  | nil => rfl
  | cons piece rest ih =>
    cases rest with
    | nil => simp [Text.join]
    | cons next rest =>
      rw [List.any_cons, ← ih]
      exact hasClose_append (breaks_cons _) piece

theorem mem_of_mem_blankLine {later inside : Bool} {line : List Char} {c : Char}
    (member : c ∈ (blankLine later inside line).1) : c ∈ line := by
  fun_induction blankLine later inside line with
  | case1 inside => cases member
  | case2 d rest ends ih => exact List.mem_cons_of_mem d (List.mem_of_mem_tail (ih member))
  | case3 d rest goesOn ih => exact List.mem_cons_of_mem d (ih member)
  | case4 d rest opens ih => exact List.mem_cons_of_mem d (List.mem_of_mem_tail (ih member))
  | case5 d rest plain ih =>
    rcases List.mem_cons.mp member with rfl | member
    · exact List.mem_cons_self
    · exact List.mem_cons_of_mem d (ih member)

theorem tail_append {line : List Char} {c : Char} (marked : (line.head? == some c) = true)
    (rest : List Char) : (line ++ rest).tail = line.tail ++ rest := by
  cases line with
  | nil => cases marked
  | cons d line => rfl

theorem blankFrom_break (inside : Bool) (rest : List Char) :
    blankFrom inside ('\n' :: rest) = '\n' :: blankFrom inside rest := by
  cases inside with
  | true => rw [blankFrom_inside, if_neg (by simp)]; rfl
  | false => rw [blankFrom_outside, if_neg (by simp)]

theorem blankFrom_append {line rest : List Char} (breaks : Breaks rest) (oneLine : '\n' ∉ line)
    (inside : Bool) :
    blankFrom inside (line ++ rest) =
      (blankLine (hasClose rest) inside line).1 ++
        blankFrom (blankLine (hasClose rest) inside line).2 rest := by
  fun_induction blankLine (hasClose rest) inside line with
  | case1 inside => rfl
  | case2 c line ends ih =>
    obtain ⟨_, oneLine⟩ := List.ne_and_not_mem_of_not_mem_cons oneLine
    rw [List.cons_append, blankFrom_inside, breaks.head? (by decide), if_pos ends,
      tail_append (Bool.and_eq_true_iff.mp ends).2, ih fun m => oneLine (List.mem_of_mem_tail m)]
  | case3 c line goesOn ih =>
    obtain ⟨other, oneLine⟩ := List.ne_and_not_mem_of_not_mem_cons oneLine
    rw [List.cons_append, blankFrom_inside, breaks.head? (by decide), if_neg goesOn,
      if_neg (by simpa using other.symm), ih oneLine]
  | case4 c line opens ih =>
    obtain ⟨_, oneLine⟩ := List.ne_and_not_mem_of_not_mem_cons oneLine
    have star := (Bool.and_eq_true_iff.mp (Bool.and_eq_true_iff.mp opens).1).2
    rw [List.cons_append, blankFrom_outside, breaks.head? (by decide), tail_append star,
      hasClose_append breaks, if_pos opens, ih fun m => oneLine (List.mem_of_mem_tail m)]
  | case5 c line plain ih =>
    obtain ⟨_, oneLine⟩ := List.ne_and_not_mem_of_not_mem_cons oneLine
    have same : (c == '/' && (line ++ rest).head? == some '*' && hasClose (line ++ rest).tail) =
        (c == '/' && line.head? == some '*' && (hasClose line.tail || hasClose rest)) := by
      rw [breaks.head? (by decide)]
      cases star : line.head? == some '*' with
      | false => rw [Bool.and_false, Bool.false_and, Bool.false_and]
      | true => rw [tail_append star, hasClose_append breaks]
    rw [List.cons_append, blankFrom_outside, same, if_neg plain, ih oneLine]
    rfl

theorem lines_blankFrom {pieces : List (List Char)} (some : pieces ≠ [])
    (whole : ∀ piece ∈ pieces, '\n' ∉ piece) (inside : Bool) :
    lines (blankFrom inside (Text.join '\n' pieces)) = visibleLines inside pieces := by
  induction pieces generalizing inside with
  | nil => exact absurd rfl some
  | cons piece rest ih =>
    obtain ⟨here, later⟩ := List.forall_mem_cons.mp whole
    have seen (closes : Bool) : '\n' ∉ (blankLine closes inside piece).1 := fun member =>
      here (mem_of_mem_blankLine member)
    cases rest with
    | nil =>
      have alone := blankFrom_append breaks_nil here inside
      rw [List.append_nil, show blankFrom _ [] = [] from rfl, List.append_nil] at alone
      rw [Text.join, alone, lines, Text.split_of_notMem (seen _)]
      rfl
    | cons next rest =>
      have joined : Text.join '\n' (piece :: next :: rest) =
        piece ++ '\n' :: Text.join '\n' (next :: rest) := rfl
      have cut : hasClose ('\n' :: Text.join '\n' (next :: rest)) = (next :: rest).any hasClose :=
        hasClose_join (next :: rest)
      rw [joined, blankFrom_append (breaks_cons _) here, blankFrom_break, cut, lines,
        Text.split_append (seen _), visibleLines]
      exact congrArg _ (ih (List.cons_ne_nil next rest) later _)

theorem visible_eq (text : String) : visible text = visibleLines false (lines text.toList) := by
  have whole := lines_blankFrom (Text.split_ne_nil '\n' text.toList)
    (fun _ => Text.notMem_of_mem_split) false
  rwa [Text.join_split] at whole

theorem length_visibleLines (inside : Bool) (pieces : List (List Char)) :
    (visibleLines inside pieces).length = pieces.length := by
  induction pieces generalizing inside with
  | nil => rfl
  | cons piece rest ih => rw [visibleLines, List.length_cons, ih, List.length_cons]

/-! ### Lines that are rewritten -/

/-- A rewriting of lines that leaves the marks of comments as they are. -/
structure KeepsMarks (f : List Char → List Char) : Prop where
  closes : ∀ line, hasClose (f line) = hasClose line
  ends : ∀ later inside line, (blankLine later inside (f line)).2 = (blankLine later inside line).2

theorem KeepsMarks.id : KeepsMarks id := ⟨fun _ => rfl, fun _ _ _ => rfl⟩

theorem KeepsMarks.comp {f g : List Char → List Char} (second : KeepsMarks g)
    (first : KeepsMarks f) : KeepsMarks fun line => g (f line) where
  closes line := (second.closes _).trans (first.closes line)
  ends later inside line := (second.ends later inside _).trans (first.ends later inside line)

/-- A line that is left alone is seen as before, whatever happens to the others. -/
theorem KeepsMarks.visibleLines {f : List Char → List Char} (keeps : KeepsMarks f)
    {pieces : List (List Char)} {i : Nat} {line : List Char} (there : pieces[i]? = some line)
    (same : f line = line) (inside : Bool) :
    (visibleLines inside (pieces.map f))[i]? = (visibleLines inside pieces)[i]? := by
  induction pieces generalizing i inside with
  | nil => rfl
  | cons piece rest ih =>
    have closes : (rest.map f).any hasClose = rest.any hasClose := by
      rw [List.any_map]
      exact congrArg rest.any (funext keeps.closes)
    rw [List.map_cons, Script.visibleLines, Script.visibleLines, closes, keeps.ends]
    cases i with
    | zero =>
      obtain rfl := Option.some.inj there
      rw [same]
      rfl
    | succ i => exact ih there _

end ScriptDeps.Script
