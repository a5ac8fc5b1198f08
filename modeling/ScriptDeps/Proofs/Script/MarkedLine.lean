import ScriptDeps.Console.Commands
import ScriptDeps.Proofs.Text.Cutting
import Mathlib.Data.List.Induction
import Mathlib.Data.List.TakeWhile

/-!
# The line with the marker

The region that an editor hides is searched for around the first marker, backwards to a break and
forwards to one. `decoration_firstMarked` tells it from the lines instead: it is the first line that
holds the marker, and cutting it out leaves what is around it.
-/

namespace ScriptDeps.Script

/-! ### Lines of an editor -/

/-- The lines of a text as an editor counts them, each with the break that ends it. -/
def endedLines : List Char → List (List Char)
  | [] => []
  | '\r' :: '\n' :: rest => ['\r', '\n'] :: endedLines rest
  | c :: rest =>
    if isBreak c then [c] :: endedLines rest
    else match endedLines rest with
      | [] => [[c]]
      | line :: others => (c :: line) :: others

/-- Whether a text ends with the end of a line. -/
def EndsLine (text : List Char) : Prop :=
  ∃ c ∈ text.getLast?, isBreak c = true

/-- Whether the last break of a text and the first of another are one when they adjoin. -/
def Merge (before after : List Char) : Prop :=
  before.getLast? = some '\r' ∧ after.head? = some '\n'

/-- What ends a line in front of the rest of a text. -/
inductive Ending : List Char → List Char → Prop
  | both (rest : List Char) : Ending ['\r', '\n'] rest
  | one {c : Char} {rest : List Char} (breaks : isBreak c = true) (alone : ¬ Merge [c] rest) :
      Ending [c] rest
  | last : Ending [] []

/-- The first line of a text, cut where it ends. -/
structure LineCut (text line : List Char) (others : List (List Char))
    (run ending rest : List Char) : Prop where
  text_eq : text = run ++ ending ++ rest
  line_eq : line = run ++ ending
  unbroken : ∀ c ∈ run, isBreak c = false
  ends : Ending ending rest
  others_eq : endedLines rest = others

theorem flatten_endedLines (text : List Char) : (endedLines text).flatten = text := by
  fun_induction endedLines text with
  | case1 => rfl
  | case2 rest ih => simp [ih]
  | case3 c rest apart breaks ih => simp [ih]
  | case4 c rest apart inside none ih => simpa [none] using ih
  | case5 c rest apart inside line others lines ih => simpa [lines] using ih

theorem eq_nil_of_endedLines {text : List Char} (none : endedLines text = []) : text = [] := by
  rw [← flatten_endedLines text, none, List.flatten_nil]

theorem lineCut_of_endedLines {text line : List Char} {others : List (List Char)}
    (lines : endedLines text = line :: others) :
    ∃ run ending rest, LineCut text line others run ending rest := by
  fun_induction endedLines text generalizing line others with
  | case1 => cases lines
  | case2 rest ih =>
    cases lines
    exact ⟨[], ['\r', '\n'], rest, rfl, rfl, nofun, .both rest, rfl⟩
  | case3 c rest apart breaks ih =>
    cases lines
    refine ⟨[], [c], rest, rfl, rfl, nofun, .one breaks ?_, rfl⟩
    rintro ⟨carriage, feed⟩
    obtain ⟨after, rfl⟩ := List.head?_eq_some_iff.mp feed
    exact apart after (Option.some.inj carriage) rfl
  | case4 c rest apart inside none ih =>
    cases lines
    cases eq_nil_of_endedLines none
    refine ⟨[c], [], [], rfl, rfl, ?_, .last, rfl⟩
    exact List.forall_mem_singleton.mpr (Bool.eq_false_iff.mpr inside)
  | case5 c rest apart inside first others cut ih =>
    cases lines
    obtain ⟨run, ending, after, found⟩ := ih cut
    refine ⟨c :: run, ending, after, ?_, ?_, ?_, found.ends, found.others_eq⟩
    · rw [found.text_eq]; rfl
    · rw [found.line_eq]; rfl
    · exact List.forall_mem_cons.mpr ⟨Bool.eq_false_iff.mpr inside, found.unbroken⟩

/-! ### Lines of two texts -/

theorem endedLines_cons_break {c : Char} {rest : List Char} (breaks : isBreak c = true)
    (apart : ¬ Merge [c] rest) : endedLines (c :: rest) = [c] :: endedLines rest := by
  rw [endedLines.eq_3, if_pos breaks]
  rintro after rfl rfl
  exact apart ⟨rfl, rfl⟩

theorem endedLines_cons_inside {c : Char} {rest line : List Char} {others : List (List Char)}
    (inside : isBreak c = false) (lines : endedLines rest = line :: others) :
    endedLines (c :: rest) = (c :: line) :: others := by
  rw [endedLines.eq_3, if_neg (Bool.eq_false_iff.mp inside), lines]
  rintro after rfl rfl
  cases inside

theorem endsLine_of_cons {c : Char} {rest : List Char} (ends : EndsLine (c :: rest)) :
    rest = [] ∨ EndsLine rest := by
  cases rest with
  | nil => exact .inl rfl
  | cons d rest => exact .inr (by rwa [EndsLine, List.getLast?_cons_cons] at ends)

theorem merge_cons {c : Char} {before after : List Char} (merge : Merge before after) :
    Merge (c :: before) after := by
  cases before with
  | nil => cases merge.1
  | cons d before => exact ⟨by rw [List.getLast?_cons_cons, merge.1], merge.2⟩

theorem endedLines_append {before after : List Char} (ends : before = [] ∨ EndsLine before)
    (apart : ¬ Merge before after) :
    endedLines (before ++ after) = endedLines before ++ endedLines after := by
  fun_induction endedLines before with
  | case1 => rfl
  | case2 rest ih =>
    have ends := ends.resolve_left (List.cons_ne_nil _ _)
    have later := (endsLine_of_cons ends).resolve_left (List.cons_ne_nil _ _)
    change ['\r', '\n'] :: endedLines (rest ++ after) = _
    rw [ih (endsLine_of_cons later) (mt (merge_cons ∘ merge_cons) apart), List.cons_append]
  | case3 c rest single breaks ih =>
    have ends := endsLine_of_cons (ends.resolve_left (List.cons_ne_nil _ _))
    rw [List.cons_append, endedLines_cons_break breaks, ih ends (mt merge_cons apart),
      List.cons_append]
    rintro ⟨carriage, feed⟩
    cases rest with
    | nil => exact apart ⟨carriage, feed⟩
    | cons d rest =>
      cases carriage
      cases feed
      exact single rest rfl rfl
  | case4 c rest single inside none ih =>
    cases eq_nil_of_endedLines none
    obtain ⟨d, last, breaks⟩ := ends.resolve_left (List.cons_ne_nil _ _)
    cases last
    exact absurd breaks inside
  | case5 c rest single inside line others lines ih =>
    have ends := endsLine_of_cons (ends.resolve_left (List.cons_ne_nil _ _))
    have ih := ih ends (mt merge_cons apart)
    rw [lines] at ih
    exact endedLines_cons_inside (Bool.eq_false_iff.mpr inside) ih

/-! ### How a line ends -/

theorem Ending.breaks {ending rest : List Char} (ends : Ending ending rest) :
    ∀ c ∈ ending, isBreak c = true := by
  cases ends with
  | both => exact List.forall_mem_cons.mpr ⟨rfl, List.forall_mem_singleton.mpr rfl⟩
  | one breaks => exact List.forall_mem_singleton.mpr breaks
  | last => exact nofun

theorem Ending.concat {ending rest : List Char} (ends : Ending ending rest) (more : rest ≠ []) :
    ∃ before c, ending = before ++ [c] ∧ isBreak c = true := by
  cases ends with
  | both => exact ⟨['\r'], '\n', rfl, rfl⟩
  | one breaks => exact ⟨[], _, rfl, breaks⟩
  | last => exact absurd rfl more

theorem Ending.takeWhile {ending rest : List Char} (ends : Ending ending rest) :
    (ending ++ rest).takeWhile (!isBreak ·) = [] := by
  cases ends with
  | both => rfl
  | one breaks => exact List.takeWhile_cons_of_neg (by simp [breaks])
  | last => rfl

theorem Ending.dropWhile {ending rest : List Char} (ends : Ending ending rest) :
    (ending ++ rest).dropWhile (!isBreak ·) = ending ++ rest := by
  cases ends with
  | both => rfl
  | one breaks => exact List.dropWhile_cons_of_neg (by simp [breaks])
  | last => rfl

theorem Ending.breakLength {ending rest : List Char} (ends : Ending ending rest) :
    Script.breakLength (ending ++ rest) = ending.length := by
  cases ends with
  | both => rfl
  | last => rfl
  | @one c _ breaks alone =>
    cases rest with
    | nil => simp [Script.breakLength]
    | cons d rest =>
      unfold Script.breakLength
      split
      · rename_i merged
        cases merged
        exact absurd ⟨rfl, rfl⟩ alone
      · rfl
      · rename_i none
        cases none

/-! ### The marker on a line -/

theorem marker_ne_nil : marker ≠ [] := by decide

theorem isBreak_of_mem_marker {c : Char} (member : c ∈ marker) : isBreak c = false := by
  have unbroken : marker.all (!isBreak ·) = true := by decide
  simpa using List.all_eq_true.mp unbroken c member

/-- The marker does not reach into the breaks that end a line. -/
theorem marker_infix_append_iff {run ending : List Char}
    (breaks : ∀ c ∈ ending, isBreak c = true) : marker <:+: run ++ ending ↔ marker <:+: run := by
  refine ⟨fun within => ?_, fun within => within.trans (List.prefix_append run ending).isInfix⟩
  induction ending using List.reverseRecOn with
  | nil => exact run.append_nil ▸ within
  | append_singleton ending c ih =>
    rw [← List.append_assoc, List.infix_concat_iff] at within
    obtain ⟨before, same⟩ | within := within
    · have last : c ∈ marker := by
        rw [← List.dropLast_concat_getLast marker_ne_nil, ← List.append_assoc] at same
        rw [← List.head_eq_of_cons_eq (List.append_inj' same rfl).2]
        exact List.getLast_mem marker_ne_nil
      exact absurd (breaks c (List.mem_append_right ending List.mem_cons_self))
        (Bool.eq_false_iff.mp (isBreak_of_mem_marker last))
    · exact ih (fun d member => breaks d (List.mem_append_left [c] member)) within

theorem markedRegion?_of_first {text line : List Char} {others : List (List Char)}
    (lines : endedLines text = line :: others) (marked : marker <:+: line) :
    markedRegion? text = some ⟨0, line.length⟩ := by
  obtain ⟨run, ending, rest, cut⟩ := lineCut_of_endedLines lines
  rw [cut.line_eq, marker_infix_append_iff cut.ends.breaks] at marked
  obtain ⟨position, found⟩ :=
    Option.ne_none_iff_exists'.mp (mt Text.find?_eq_none_iff.mp (not_not_intro marked))
  have within : position ≤ run.length := Nat.le_of_add_right_le (Text.find?_add_le found)
  have kept : ∀ part : List Char, part ⊆ run → ∀ c ∈ part, (!isBreak c) = true :=
    fun part sub c member => by rw [cut.unbroken c (sub member)]; rfl
  have before : text.take position = run.take position := by
    rw [cut.text_eq, List.append_assoc, List.take_append_of_le_length within]
  have after : text.drop position = run.drop position ++ (ending ++ rest) := by
    rw [cut.text_eq, List.append_assoc, List.drop_append_of_le_length within]
  have found : Text.find? marker text = some position := by
    rw [cut.text_eq, List.append_assoc]
    exact Text.find?_append_of_some _ found
  rw [markedRegion?, found, Option.map_some]
  dsimp only
  rw [before, after, List.takeWhile_eq_self_iff.mpr, List.takeWhile_append_of_pos,
    List.dropWhile_append_of_pos, cut.ends.takeWhile, cut.ends.dropWhile, cut.ends.breakLength,
    cut.line_eq]
  · simp only [List.length_reverse, List.length_take, List.append_nil, List.length_drop,
      List.length_append]
    congr 2 <;> omega
  · exact kept _ (List.drop_subset position run)
  · exact kept _ (List.drop_subset position run)
  · exact fun c member => kept _ (List.take_subset position run) c (List.mem_reverse.mp member)

/-- A line without the marker only moves the region of what follows. -/
theorem markedRegion?_of_later {text line : List Char} {others : List (List Char)}
    (lines : endedLines text = line :: others) (unmarked : ¬ marker <:+: line) :
    markedRegion? text = (markedRegion? others.flatten).map
      fun region => ⟨line.length + region.offset, region.length⟩ := by
  obtain ⟨run, ending, rest, cut⟩ := lineCut_of_endedLines lines
  rw [← cut.others_eq, flatten_endedLines, cut.text_eq, ← cut.line_eq, markedRegion?, markedRegion?]
  cases rest with
  | nil =>
    rw [List.append_nil, Text.find?_eq_none_iff.mpr unmarked,
      Text.find?_eq_none_iff.mpr (mt List.infix_nil.mp marker_ne_nil)]
    rfl
  | cons d rest =>
    obtain ⟨before, c, rfl, breaks⟩ := cut.ends.concat (List.cons_ne_nil d rest)
    have concat : line = run ++ before ++ [c] := by rw [cut.line_eq, List.append_assoc]
    rw [Text.find?_append_of_apart, Option.map_map, Option.map_map]
    · congr 1
      funext position
      have least := (List.takeWhile_sublist (!isBreak ·)
        (l := ((d :: rest).take position).reverse)).length_le
      rw [List.length_reverse] at least
      have least := Nat.le_trans least (List.length_take_le position (d :: rest))
      -- The search backwards from the marker ends in the rest or at the break of this line.
      have back : ((line ++ d :: rest).take (position + line.length)).reverse.takeWhile
          (!isBreak ·) = ((d :: rest).take position).reverse.takeWhile (!isBreak ·) := by
        rw [Nat.add_comm, List.take_length_add_append, List.reverse_append, concat,
          List.reverse_concat, Text.takeWhile_append_of_stop _ _ (by simp [breaks])]
      simp only [Function.comp_apply]
      rw [back, Nat.add_comm position, List.drop_length_add_append, Nat.add_sub_assoc least]
    · intro tail ends some begins
      obtain within | within :=
        List.prefix_or_prefix_of_prefix begins (List.prefix_append tail (d :: rest))
      · exact unmarked (within.isInfix.trans ends.isInfix)
      · have last : tail.getLast some = c := by
          rw [ends.getLast some]
          simp [concat]
        have reached := isBreak_of_mem_marker (within.subset (List.getLast_mem some))
        rw [last, breaks] at reached
        cases reached

/-! ### The first line with the marker -/

/-- Whether a region is that of the first of some lines that holds the marker. -/
inductive FirstMarked (lines : List (List Char)) : Option Region → Prop
  | nowhere (unmarked : ∀ line ∈ lines, ¬ marker <:+: line) : FirstMarked lines none
  | line {before after : List (List Char)} {line : List Char}
      (split : lines = before ++ line :: after)
      (unmarked : ∀ other ∈ before, ¬ marker <:+: other) (marked : marker <:+: line) :
      FirstMarked lines (some ⟨before.flatten.length, line.length⟩)

theorem markedRegion?_of_unmarked {text : List Char}
    (unmarked : ∀ line ∈ endedLines text, ¬ marker <:+: line) : markedRegion? text = none := by
  generalize read : endedLines text = lines at unmarked
  induction lines generalizing text with
  | nil =>
    rw [eq_nil_of_endedLines read]
    decide
  | cons line others ih =>
    obtain ⟨run, ending, rest, cut⟩ := lineCut_of_endedLines read
    obtain ⟨first, later⟩ := List.forall_mem_cons.mp unmarked
    rw [markedRegion?_of_later read first, ← cut.others_eq, flatten_endedLines,
      ih cut.others_eq later]
    rfl

theorem markedRegion?_of_split {text line : List Char} {before after : List (List Char)}
    (split : endedLines text = before ++ line :: after)
    (unmarked : ∀ other ∈ before, ¬ marker <:+: other) (marked : marker <:+: line) :
    markedRegion? text = some ⟨before.flatten.length, line.length⟩ := by
  induction before generalizing text with
  | nil => exact markedRegion?_of_first split marked
  | cons other before ih =>
    obtain ⟨run, ending, rest, cut⟩ := lineCut_of_endedLines split
    obtain ⟨first, later⟩ := List.forall_mem_cons.mp unmarked
    rw [markedRegion?_of_later split first, ← cut.others_eq, flatten_endedLines,
      ih cut.others_eq later, Option.map_some, List.flatten_cons, List.length_append]

theorem firstMarked_markedRegion? (text : List Char) :
    FirstMarked (endedLines text) (markedRegion? text) := by
  cases first : (endedLines text).find? (decide <| marker <:+: ·) with
  | none =>
    have unmarked : ∀ line ∈ endedLines text, ¬ marker <:+: line := by simpa using first
    rw [markedRegion?_of_unmarked unmarked]
    exact .nowhere unmarked
  | some line =>
    obtain ⟨marked, before, after, split, unmarked⟩ := List.find?_eq_some_iff_append.mp first
    have unmarked : ∀ other ∈ before, ¬ marker <:+: other := by simpa using unmarked
    have marked := of_decide_eq_true marked
    rw [markedRegion?_of_split split unmarked marked]
    exact .line split unmarked marked

/-! ### Cutting the line out -/

/-- A whole line that holds the marker, between what is before it and what is after it. -/
structure MarkedBetween (before line after : List Char) : Prop where
  unmarked : ¬ marker <:+: before
  begins : before = [] ∨ EndsLine before
  whole : endedLines line = [line]
  marked : marker <:+: line
  ends : after = [] ∨ EndsLine line
  apart : ¬ Merge line after

theorem MarkedBetween.not_merge {before line after : List Char}
    (between : MarkedBetween before line after) : ¬ Merge before (line ++ after) := by
  rintro ⟨-, feed⟩
  have whole := between.whole
  have marked := between.marked
  cases line with
  | nil => exact marker_ne_nil (List.infix_nil.mp marked)
  | cons c line =>
    cases feed
    rw [@endedLines_cons_break '\n' line rfl fun merge => absurd merge.1 (by decide)] at whole
    -- The line is a break, and no marker.
    obtain rfl : line = [] := (List.cons.inj (List.cons.inj whole).1).2.symm
    revert marked
    decide

theorem MarkedBetween.lines {before line after : List Char}
    (between : MarkedBetween before line after) :
    endedLines (before ++ (line ++ after)) =
      endedLines before ++ line :: endedLines after := by
  rw [endedLines_append between.begins between.not_merge]
  obtain rfl | ends := between.ends
  · rw [List.append_nil, between.whole]
    rfl
  · rw [endedLines_append (.inr ends) between.apart, between.whole]
    rfl

theorem MarkedBetween.region {before line after : List Char}
    (between : MarkedBetween before line after) :
    markedRegion? (before ++ (line ++ after)) = some ⟨before.length, line.length⟩ := by
  rw [markedRegion?_of_split between.lines _ between.marked, flatten_endedLines]
  refine fun other member within => between.unmarked (within.trans ?_)
  rw [← flatten_endedLines before]
  exact List.infix_of_mem_flatten member

/-- The text without a region of it. -/
def Region.cutFrom (region : Region) (text : List Char) : List Char :=
  text.take region.offset ++ text.drop (region.offset + region.length)

/-- The offset and the length that an editor is told: -1 and 0 if there is no region. -/
def Region.told : Option Region → Int × Int
  | none => (-1, 0)
  | some region => (region.offset, region.length)

/-- An editor is told of the first line that holds the marker, with its break. A text with such a
line between two others loses just that line. -/
theorem decoration_firstMarked (code : String) :
    FirstMarked (endedLines code.toList) (markedRegion? code.toList) ∧
      Console.decorationPrinted .machine code =
        Console.jsonText .machine none (.object
          [("offset", .integer (Region.told (markedRegion? code.toList)).1),
           ("length", .integer (Region.told (markedRegion? code.toList)).2),
           ("needs_autoclass", .bool (asksForClass code))]) ∧
      ∀ before line after, MarkedBetween before line after →
        code.toList = before ++ (line ++ after) →
          markedRegion? code.toList = some ⟨before.length, line.length⟩ ∧
            Region.cutFrom ⟨before.length, line.length⟩ code.toList = before ++ after := by
  refine ⟨firstMarked_markedRegion? _, ?_, fun before line after between same => ?_⟩
  · change Console.jsonText .machine none _ = _
    cases markedRegion? code.toList <;> rfl
  · rw [same]
    exact ⟨between.region, by simp [Region.cutFrom]⟩

theorem decoration_firstMarked_wrapped :
    MarkedBetween "using System;\r\n\r".toList "\t///CS-Script auto-class generation\n".toList
        "class Script { }\r".toList ∧
      markedRegion?
          "using System;\r\n\r\t///CS-Script auto-class generation\nclass Script { }\r".toList =
        some ⟨16, 36⟩ ∧
      Region.cutFrom ⟨16, 36⟩
          "using System;\r\n\r\t///CS-Script auto-class generation\nclass Script { }\r".toList =
        "using System;\r\n\rclass Script { }\r".toList := by
  have between : MarkedBetween "using System;\r\n\r".toList
      "\t///CS-Script auto-class generation\n".toList "class Script { }\r".toList :=
    { unmarked := by decide +kernel
      begins := .inr ⟨'\r', by decide +kernel, rfl⟩
      whole := by decide +kernel
      marked := by decide +kernel
      ends := .inr ⟨'\n', by decide +kernel, rfl⟩
      apart := fun merge => absurd merge.1 (by decide +kernel) }
  exact ⟨between, (decoration_firstMarked _).2.2 _ _ _ between (by decide +kernel)⟩

end ScriptDeps.Script
