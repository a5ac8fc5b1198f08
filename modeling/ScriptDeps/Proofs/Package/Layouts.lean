import ScriptDeps.Package.Store
import ScriptDeps.Proofs.FileSystem.Nulls
import ScriptDeps.Proofs.Text.Trimming
import Mathlib.Data.List.TakeWhile

/-!
# Names of package directories

Which names spell an id and a version, and that no such name is the id itself, in whatever letter
case.
-/

namespace ScriptDeps

namespace Text

theorem bne_of_notMem {separator : Char} {piece : List Char} (whole : separator ∉ piece) :
    ∀ c ∈ piece, (c != separator) = true := by
  intro c member
  exact bne_iff_ne.mpr fun same => whole (same ▸ member)

theorem cutAt_append {separator : Char} {piece : List Char} (whole : separator ∉ piece)
    (rest : List Char) : cutAt separator (piece ++ separator :: rest) = (piece, rest) := by
  have kept := bne_of_notMem whole
  rw [cutAt, List.takeWhile_append_of_pos kept, List.dropWhile_append_of_pos kept,
    List.takeWhile_cons_of_neg (by simp), List.dropWhile_cons_of_neg (by simp), List.append_nil]
  rfl

theorem cutAt_of_notMem {separator : Char} {text : List Char} (whole : separator ∉ text) :
    cutAt separator text = (text, []) := by
  have kept := bne_of_notMem whole
  rw [cutAt, List.takeWhile_eq_self_iff.mpr kept, List.dropWhile_eq_nil_iff.mpr kept]
  rfl

/-! ### Letter case -/

theorem length_lowerChar (before after : List Char) (c : Char) :
    (lowerChar before c after).length = if c = 'İ' then 2 else 1 := by
  by_cases dotted : c = 'İ'
  · subst dotted
    rfl
  · rw [if_neg dotted, lowerChar]
    split
    · rfl
    · split
      · rfl
      · rw [if_neg (by simpa using dotted)]
        split
        · rfl
        · rfl

theorem length_lowerFrom (before text : List Char) :
    (lowerFrom before text).length = (text.map fun c => if c = 'İ' then 2 else 1).sum := by
  induction text generalizing before with
  | nil => rfl
  | cons c rest ih =>
    rw [lowerFrom, List.length_append, length_lowerChar, ih, List.map_cons, List.sum_cons]

/-- A text with more after it is another one in lower case too. -/
theorem lower_ne_of_longer {whole start : String} {c : Char} {rest : List Char}
    (longer : whole.toList = start.toList ++ c :: rest) : lower whole ≠ lower start := by
  intro same
  have lengths := congrArg (fun text => text.toList.length) same
  simp only [lower, String.toList_ofList, length_lowerFrom, longer, List.map_append, List.map_cons,
    List.sum_append, List.sum_cons] at lengths
  split at lengths <;> omega

end Text

namespace PackageStore

/-! ### Versions -/

/-- Decimal numbers with dots between them. -/
def DottedNumbers (text : List Char) : Prop :=
  ∃ parts : List (List Char), parts ≠ [] ∧
    (∀ part ∈ parts, part ≠ [] ∧ ∀ c ∈ part, Text.isDecimal c = true) ∧ text = Text.join '.' parts

/-- Numbers, perhaps with a dash after them and a prerelease of letters, digits, dots and dashes. -/
def VersionText (text : List Char) : Prop :=
  ∃ numbers, DottedNumbers numbers ∧ (text = numbers ∨ ∃ prerelease, prerelease ≠ [] ∧
    (∀ c ∈ prerelease, c.isAlphanum = true ∨ c = '.' ∨ c = '-') ∧ text = numbers ++ '-' :: prerelease)

theorem isDotted_iff {text : List Char} : Package.isDotted text = true ↔ DottedNumbers text := by
  constructor
  · intro dotted
    refine ⟨Text.split '.' text, Text.split_ne_nil '.' text, ?_, (Text.join_split '.' text).symm⟩
    intro part member
    simpa using List.all_eq_true.mp dotted part member
  · rintro ⟨parts, some, each, rfl⟩
    have whole : ∀ part ∈ parts, '.' ∉ part := by
      intro part member dot
      exact absurd ((each part member).2 '.' dot) (by decide +kernel)
    rw [Package.isDotted, Text.split_join some whole]
    refine List.all_eq_true.mpr fun part member => ?_
    simpa using each part member

theorem DottedNumbers.mem {numbers : List Char} (dotted : DottedNumbers numbers) {c : Char}
    (member : c ∈ numbers) : Text.isDecimal c = true ∨ c = '.' := by
  obtain ⟨parts, -, each, rfl⟩ := dotted
  by_cases dot : c = '.'
  · exact .inr dot
  · obtain ⟨part, among, inside⟩ := (Text.mem_join dot).mp member
    exact .inl ((each part among).2 c inside)

theorem VersionText.mem {text : List Char} (version : VersionText text) : '\n' ∉ text := by
  intro lineFeed
  obtain ⟨numbers, dotted, rfl | ⟨prerelease, -, allowed, rfl⟩⟩ := version
  · exact absurd (dotted.mem lineFeed) (by decide +kernel)
  · rcases List.mem_append.mp lineFeed with before | after
    · exact absurd (dotted.mem before) (by decide +kernel)
    · rcases List.mem_cons.mp after with same | after
      · cases same
      · exact absurd (allowed '\n' after) (by decide)

theorem isVersion_iff {text : List Char} : isVersion text = true ↔ VersionText text := by
  constructor
  · intro version
    by_cases dash : '-' ∈ text
    · obtain ⟨numbers, prerelease, rfl, whole⟩ := List.eq_append_cons_of_mem dash
      rw [isVersion, Text.cutAt_append whole] at version
      obtain ⟨dotted, rest⟩ := Bool.and_eq_true_iff.mp version
      exact ⟨numbers, isDotted_iff.mp dotted, .inr ⟨prerelease, by simpa [or_assoc] using rest⟩⟩
    · rw [isVersion, Text.cutAt_of_notMem dash] at version
      exact ⟨text, isDotted_iff.mp (Bool.and_eq_true_iff.mp version).1, .inl rfl⟩
  · rintro ⟨numbers, dotted, rfl | ⟨prerelease, some, allowed, rfl⟩⟩
    · have noDash : '-' ∉ text := fun dash => absurd (dotted.mem dash) (by decide +kernel)
      rw [isVersion, Text.cutAt_of_notMem noDash]
      simp [isDotted_iff.mpr dotted, noDash]
    · have noDash : '-' ∉ numbers := fun dash => absurd (dotted.mem dash) (by decide +kernel)
      rw [isVersion, Text.cutAt_append noDash]
      simpa [isDotted_iff.mpr dotted, some, or_assoc] using allowed

/-! ### Names -/

/-- What is after the dot is a version; a line feed may end it. -/
def Ends (rest version : List Char) : Prop :=
  VersionText version ∧ (rest = version ∨ rest = version ++ ['\n'])

theorem ends_iff {rest version : List Char} :
    Ends rest version ↔ isVersion (Package.dropFinalBreak rest) = true ∧
      version = Package.dropFinalBreak rest := by
  unfold Package.dropFinalBreak
  constructor
  · rintro ⟨spelled, rfl | rfl⟩
    · have noBreak : rest.getLast? ≠ some '\n' := fun last =>
        spelled.mem (List.mem_of_getLast? last)
      rw [if_neg (by simpa using noBreak)]
      exact ⟨isVersion_iff.mpr spelled, rfl⟩
    · simp [isVersion_iff.mpr spelled]
  · rintro ⟨spelled, rfl⟩
    refine ⟨isVersion_iff.mp spelled, ?_⟩
    split
    · rename_i last
      obtain ⟨front, rfl⟩ := List.getLast?_eq_some_iff.mp (by simpa using last)
      exact .inr (by simp)
    · exact .inl rfl

/-- The name is an id, which is not empty and on one line, a dot and a version. -/
structure Joins (name id version : List Char) : Prop where
  some : id ≠ []
  oneLine : '\n' ∉ id
  joined : ∃ rest, name = id ++ '.' :: rest ∧ Ends rest version

/-- The name of a directory spells an id and a version, the id being the shortest that it can be. -/
def Spells (name id version : String) : Prop :=
  Joins name.toList id.toList version.toList ∧
    ∀ other otherVersion, Joins name.toList other otherVersion → id.toList.length ≤ other.length

/-- An id and a version in a text, some of the id having been read already. -/
def Reads (before text id version : List Char) : Prop :=
  ∃ middle rest, id = before.reverse ++ middle ∧ text = middle ++ '.' :: rest ∧ id ≠ [] ∧
    '\n' ∉ middle ∧ Ends rest version

theorem Reads.length_le {before text id version : List Char} (reads : Reads before text id version) :
    before.length ≤ id.length := by
  obtain ⟨middle, rest, rfl, -⟩ := reads
  rw [List.length_append, List.length_reverse]
  exact Nat.le_add_right _ _

theorem reads_cons {before rest id version : List Char} {c : Char} :
    Reads before (c :: rest) id version ↔
      (c = '.' ∧ before ≠ [] ∧ Ends rest version ∧ id = before.reverse) ∨
        (c ≠ '\n' ∧ Reads (c :: before) rest id version) := by
  constructor
  · rintro ⟨middle, after, rfl, split, some, oneLine, ends⟩
    cases middle with
    | nil =>
      obtain ⟨rfl, rfl⟩ := List.cons.inj split
      rw [List.append_nil] at some ⊢
      exact .inl ⟨rfl, fun none => some (by rw [none]; rfl), ends, rfl⟩
    | cons d middle =>
      obtain ⟨rfl, rfl⟩ := List.cons.inj split
      obtain ⟨other, oneLine⟩ := List.ne_and_not_mem_of_not_mem_cons oneLine
      exact .inr ⟨Ne.symm other, middle, after, by simp, rfl, some, oneLine, ends⟩
  · rintro (⟨rfl, some, ends, rfl⟩ | ⟨other, middle, after, rfl, rfl, some, oneLine, ends⟩)
    · exact ⟨[], rest, by simp, rfl, by simpa using some, List.not_mem_nil, ends⟩
    · exact ⟨c :: middle, after, by simp, rfl, some,
        List.not_mem_cons_of_ne_of_not_mem (Ne.symm other) oneLine, ends⟩

theorem splitVersionFrom?_iff {before text id version : List Char} :
    splitVersionFrom? before text = some (id, version) ↔ Reads before text id version ∧
      ∀ other otherVersion, Reads before text other otherVersion → id.length ≤ other.length := by
  induction text generalizing before with
  | nil =>
    refine iff_of_false nofun ?_
    rintro ⟨⟨middle, rest, -, none, -⟩, -⟩
    simp at none
  | cons c rest ih =>
    rw [splitVersionFrom?]
    split
    · rename_i here
      simp only [Bool.and_eq_true, beq_iff_eq, Bool.not_eq_true', List.isEmpty_eq_false_iff] at here
      obtain ⟨⟨dot, some⟩, spelled⟩ := here
      have ends := ends_iff.mpr ⟨spelled, rfl⟩
      have first := reads_cons.mpr (.inl ⟨dot, some, ends, rfl⟩)
      constructor
      · intro same
        obtain ⟨rfl, rfl⟩ := Prod.mk.inj (Option.some.inj same)
        refine ⟨first, fun other otherVersion reads => ?_⟩
        rw [List.length_reverse]
        exact reads.length_le
      · rintro ⟨reads, least⟩
        have short := least _ _ first
        rw [List.length_reverse] at short
        -- an id that goes on beyond this dot is longer
        obtain ⟨-, -, ends, rfl⟩ | ⟨-, later⟩ := reads_cons.mp reads
        · rw [(ends_iff.mp ends).2]
        · have long := later.length_le
          rw [List.length_cons] at long
          omega
    · rename_i notHere
      have later : ∀ {id version}, Reads before (c :: rest) id version ↔
          c ≠ '\n' ∧ Reads (c :: before) rest id version := by
        intro id version
        rw [reads_cons, or_iff_right]
        rintro ⟨dot, some, ends, -⟩
        apply notHere
        simp [dot, some, (ends_iff.mp ends).1]
      simp only [later]
      split
      · rename_i lineFeed
        exact iff_of_false nofun fun reads => reads.1.1 (eq_of_beq lineFeed)
      · rename_i other
        have apart : c ≠ '\n' := by simpa using other
        simp only [apart, ne_eq, not_false_eq_true, true_and]
        exact ih

theorem reads_nil {name id version : List Char} : Reads [] name id version ↔ Joins name id version := by
  constructor
  · rintro ⟨middle, rest, rfl, split, some, oneLine, ends⟩
    exact ⟨some, oneLine, rest, split, ends⟩
  · rintro ⟨some, oneLine, rest, split, ends⟩
    exact ⟨id, rest, rfl, split, some, oneLine, ends⟩

theorem splitVersion?_eq_some_iff {name id version : String} :
    splitVersion? name = some (id, version) ↔ Spells name id version := by
  have cut : splitVersion? name = some (id, version) ↔
      splitVersionFrom? [] name.toList = some (id.toList, version.toList) := by
    rw [splitVersion?, Option.map_eq_some_iff]
    constructor
    · rintro ⟨⟨front, back⟩, found, same⟩
      obtain ⟨rfl, rfl⟩ := Prod.mk.inj same
      rw [found, String.toList_ofList, String.toList_ofList]
    · intro found
      exact ⟨_, found, by simp⟩
  rw [cut, splitVersionFrom?_iff]
  simp only [reads_nil]
  exact Iff.rfl

theorem Spells.unique {name id version other otherVersion : String} (first : Spells name id version)
    (second : Spells name other otherVersion) : id = other ∧ version = otherVersion := by
  have same := (splitVersion?_eq_some_iff.mpr first).symm.trans (splitVersion?_eq_some_iff.mpr second)
  exact Prod.mk.inj (Option.some.inj same)

/-- A name that spells an id is not the id itself in another letter case. -/
theorem Spells.lower_ne {name id version : String} (spelled : Spells name id version) :
    Text.lower name ≠ Text.lower id := by
  obtain ⟨-, -, rest, joined, -⟩ := spelled.1
  exact Text.lower_ne_of_longer joined

end PackageStore

end ScriptDeps
