import Mathlib.Data.List.SplitBy
import ScriptDeps.Proofs.Script.NameParts
import ScriptDeps.Proofs.Script.Renaming

/-!
# Renaming run by run

A run is as many word characters and dots as stand next to each other. A renaming puts the new name
in place of the old one at the start of every run that is the old name or goes on after it with a
dot, and leaves everything else as it is. Nothing is left to rename then, unless one of the two
names leads the other.
-/

namespace ScriptDeps.Script

/-! ### Runs -/

/-- Whether the character may stand in a run. -/
def isRunPart (c : Char) : Bool :=
  Text.isWord c || c == '.'

/-- The longest runs of a text, and each character between them by itself. -/
def cutRuns (text : List Char) : List (List Char) :=
  text.splitBy fun a b => isRunPart a && isRunPart b

structure IsRun (run : List Char) : Prop where
  nonempty : run ≠ []
  parts : ∀ c ∈ run, isRunPart c = true

/-- No run goes on into the text. -/
def StartsApart (text : List Char) : Prop :=
  ∀ c ∈ text.head?, isRunPart c = false

theorem isRunPart_of_isNamePart {c : Char} (part : isNamePart c = true) : isRunPart c = true := by
  unfold isNamePart at part
  unfold isRunPart Text.isWord
  simp only [Bool.or_eq_true] at part ⊢
  exact part.imp_left Or.inl

theorem IsDotted.isRun {name : List Char} (dotted : IsDotted name) : IsRun name :=
  ⟨dotted.nonempty, fun c member => isRunPart_of_isNamePart (dotted.parts c member)⟩

theorem isBoundary_some (c : Char) : isBoundary (some c) = !isRunPart c := rfl

theorem startsApart_cons {c : Char} (gap : isRunPart c = false) (rest : List Char) :
    StartsApart (c :: rest) := fun _ head => Option.some.inj head ▸ gap

theorem StartsApart.startsWithWord {text : List Char} (apart : StartsApart text) :
    Text.startsWithWord text = false := by
  cases text with
  | nil => rfl
  | cons c rest => exact (Bool.or_eq_false_iff.mp (apart c rfl)).1

theorem cutRuns_gap {c : Char} (gap : isRunPart c = false) (rest : List Char) :
    cutRuns (c :: rest) = [c] :: cutRuns rest := by
  refine List.splitBy_append (l := [c]) (m := rest) fun x last y _ => ?_
  have same : c = x := Option.some.inj last
  rw [← same, gap, Bool.false_and]

theorem cutRuns_run {run rest : List Char} (isRun : IsRun run) (apart : StartsApart rest) :
    cutRuns (run ++ rest) = run :: cutRuns rest := by
  have chain : run.IsChain fun a b => isRunPart a && isRunPart b :=
    List.isChain_iff_getElem.mpr fun i bound => by
      rw [isRun.parts _ (List.getElem_mem _), isRun.parts _ (List.getElem_mem _), Bool.and_self]
  rw [cutRuns, List.splitBy_append fun _ _ y head => by rw [apart y head, Bool.and_false],
    List.splitBy_of_isChain isRun.nonempty chain]
  rfl

/-- A text is empty, or begins with a character between runs, or with a run. -/
@[elab_as_elim]
theorem runs_induction {motive : List Char → Prop} (nil : motive [])
    (gap : ∀ c rest, isRunPart c = false → motive rest → motive (c :: rest))
    (run : ∀ run rest, IsRun run → StartsApart rest → motive rest → motive (run ++ rest))
    (text : List Char) : motive text := by
  match text with
  | [] => exact nil
  | c :: rest =>
    cases part : isRunPart c with
    | false => exact gap c rest part (runs_induction nil gap run rest)
    | true =>
      have parts : IsRun (c :: rest.takeWhile isRunPart) :=
        ⟨List.cons_ne_nil _ _, List.forall_mem_cons.mpr
          ⟨part, List.all_eq_true.mp List.all_takeWhile⟩⟩
      have apart : StartsApart (rest.dropWhile isRunPart) := fun d head => by
        have found := List.head?_dropWhile_not isRunPart rest
        rw [Option.mem_def.mp head] at found
        exact found
      have shorter : (rest.dropWhile isRunPart).length ≤ rest.length :=
        (List.dropWhile_suffix isRunPart).length_le
      have whole : c :: rest = (c :: rest.takeWhile isRunPart) ++ rest.dropWhile isRunPart := by
        rw [List.cons_append, List.takeWhile_append_dropWhile]
      rw [whole]
      exact run _ _ parts apart (runs_induction nil gap run _)
termination_by text.length

/-! ### The rewrite of a run -/

/-- The run is the name, or goes on after it with a dot. -/
def Leads (name run : List Char) : Prop :=
  run = name ∨ name ++ ['.'] <+: run

instance (name run : List Char) : Decidable (Leads name run) :=
  inferInstanceAs (Decidable (run = name ∨ name ++ ['.'] <+: run))

def renameRun (old new run : List Char) : List Char :=
  if Leads old run then new ++ run.drop old.length else run

/-- A text with the new name in place of the old one at the start of each run that it leads. -/
def renameRuns (old new text : List Char) : List Char :=
  (cutRuns text).flatMap (renameRun old new)

/-- What follows a name in a run that it leads. -/
def GoesOn (more : List Char) : Prop :=
  more = [] ∨ ∃ later, more = '.' :: later

theorem leads_iff {name run : List Char} :
    Leads name run ↔ ∃ more, run = name ++ more ∧ GoesOn more := by
  constructor
  · rintro (rfl | ⟨later, rfl⟩)
    · exact ⟨[], (List.append_nil run).symm, Or.inl rfl⟩
    · exact ⟨'.' :: later, by simp, Or.inr ⟨later, rfl⟩⟩
  · rintro ⟨_, rfl, rfl | ⟨later, rfl⟩⟩
    · exact Or.inl (List.append_nil name)
    · exact Or.inr ⟨later, by simp⟩

theorem renameRun_append {name more : List Char} (new : List Char) (goesOn : GoesOn more) :
    renameRun name new (name ++ more) = new ++ more := by
  rw [renameRun, if_pos (leads_iff.mpr ⟨more, rfl, goesOn⟩), List.drop_left]

variable {old new : List Char}

theorem GoesOn.startsWithWord {more rest : List Char} (goesOn : GoesOn more)
    (apart : StartsApart rest) : Text.startsWithWord (more ++ rest) = false := by
  rcases goesOn with rfl | ⟨later, rfl⟩
  · exact apart.startsWithWord
  · rw [List.cons_append]
    exact (by decide +kernel : Text.isWord '.' = false)

theorem IsRun.of_prefix {run rest name : List Char} (isName : IsRun name)
    (apart : StartsApart rest) (first : name <+: run ++ rest) : name <+: run := by
  obtain ⟨after, whole⟩ := first
  rcases List.append_eq_append_iff.mp whole with ⟨part, rfl, _⟩ | ⟨beyond, rfl, rfl⟩
  · exact List.prefix_append name part
  · cases beyond with
    | nil => exact (List.append_nil run).symm ▸ List.prefix_rfl
    | cons c beyond =>
      have part := isName.parts c (by simp)
      rw [apart c rfl] at part
      cases part

/-- Looking at what stands before and after a name in the whole text is looking at its run. -/
theorem leads_iff_found {run rest : List Char} (isName : IsRun old) (isRun : IsRun run)
    (apart : StartsApart rest) :
    Leads old run ↔
      old <+: run ++ rest ∧ Text.startsWithWord ((run ++ rest).drop old.length) = false := by
  constructor
  · intro leads
    obtain ⟨more, rfl, goesOn⟩ := leads_iff.mp leads
    rw [List.append_assoc, List.drop_left]
    exact ⟨List.prefix_append _ _, goesOn.startsWithWord apart⟩
  · rintro ⟨first, ends⟩
    obtain ⟨more, rfl⟩ := isName.of_prefix apart first
    rw [List.append_assoc, List.drop_left] at ends
    refine leads_iff.mpr ⟨more, rfl, ?_⟩
    cases more with
    | nil => exact Or.inl rfl
    | cons c more =>
      have part := isRun.parts c (by simp)
      rw [isRunPart, show Text.isWord c = false from ends, Bool.false_or, beq_iff_eq] at part
      exact Or.inr ⟨more, by rw [part]⟩

/-! ### A text, run by run -/

theorem renameRuns_nil (old new : List Char) : renameRuns old new [] = [] := rfl

theorem renameRuns_run {run rest : List Char} (isRun : IsRun run) (apart : StartsApart rest) :
    renameRuns old new (run ++ rest) = renameRun old new run ++ renameRuns old new rest := by
  rw [renameRuns, cutRuns_run isRun apart, List.flatMap_cons, renameRuns]

theorem renameRun_gap (isName : IsRun old) {c : Char} (gap : isRunPart c = false) :
    renameRun old new [c] = [c] := by
  refine if_neg fun leads => ?_
  obtain ⟨more, whole, _⟩ := leads_iff.mp leads
  obtain ⟨d, name, rfl⟩ := List.exists_cons_of_ne_nil isName.nonempty
  obtain ⟨rfl, _⟩ := List.cons.inj whole
  exact absurd (isName.parts c List.mem_cons_self) (by simp [gap])

theorem renameRuns_gap (isName : IsRun old) {c : Char} (gap : isRunPart c = false)
    (rest : List Char) : renameRuns old new (c :: rest) = c :: renameRuns old new rest := by
  rw [renameRuns, cutRuns_gap gap, List.flatMap_cons, renameRun_gap isName gap]
  rfl

theorem replaceFrom_gap (isName : IsRun old) {c : Char} (gap : isRunPart c = false)
    (before : Option Char) (rest : List Char) :
    replaceFrom old new before (c :: rest) = c :: replaceFrom old new (some c) rest := by
  obtain ⟨d, name, rfl⟩ := List.exists_cons_of_ne_nil isName.nonempty
  have other : d ≠ c := by
    rintro rfl
    exact absurd (isName.parts d List.mem_cons_self) (by simp [gap])
  rw [replaceFrom]
  simp [List.isPrefixOf, other]

/-- No name starts within a run. -/
theorem replaceFrom_inside {before : Option Char} (inside : isBoundary before = false)
    {tail : List Char} (parts : ∀ c ∈ tail, isRunPart c = true) (rest : List Char) :
    replaceFrom old new before (tail ++ rest) =
      tail ++ replaceFrom old new (tail.getLast?.or before) rest := by
  induction tail generalizing before with
  | nil => rfl
  | cons c tail ih =>
    obtain ⟨part, parts⟩ := List.forall_mem_cons.mp parts
    have last : (c :: tail).getLast?.or before = tail.getLast?.or (some c) := by
      rw [List.getLast?_cons]
      cases tail.getLast? <;> rfl
    rw [List.cons_append, replaceFrom, inside, Bool.false_and, Bool.false_and,
      if_neg Bool.false_ne_true, ih (by rw [isBoundary_some, part, Bool.not_true]) parts, last]
    rfl

theorem replaceFrom_run (isName : IsRun old) (new : List Char) {before : Option Char}
    (boundary : isBoundary before = true) {run rest : List Char} (isRun : IsRun run)
    (apart : StartsApart rest) :
    ∃ last, replaceFrom old new before (run ++ rest) =
      renameRun old new run ++ replaceFrom old new last rest := by
  obtain ⟨c, tail, rfl⟩ := List.exists_cons_of_ne_nil isRun.nonempty
  have found := leads_iff_found isName isRun apart
  rw [List.cons_append] at found ⊢
  rw [replaceFrom, boundary, Bool.true_and]
  by_cases leads : Leads old (c :: tail)
  · obtain ⟨first, ends⟩ := found.mp leads
    obtain ⟨more, whole, goesOn⟩ := leads_iff.mp leads
    have after : (tail ++ rest).drop (old.length - 1) = more ++ rest := by
      have positive := List.length_pos_iff.mpr isName.nonempty
      rw [show tail ++ rest = (c :: tail ++ rest).drop 1 from rfl, List.drop_drop, whole,
        Nat.add_sub_cancel' positive, List.append_assoc, List.drop_left]
    have inside : isBoundary old.getLast? = false := by
      rw [List.getLast?_eq_some_getLast isName.nonempty, isBoundary_some,
        isName.parts _ (List.getLast_mem _), Bool.not_true]
    have parts : ∀ d ∈ more, isRunPart d = true := fun d member =>
      isRun.parts d (whole ▸ List.mem_append_right old member)
    rw [List.isPrefixOf_iff_prefix.mpr first, ends, if_pos (by rfl),
      if_neg (by simpa using isName.nonempty), after, replaceFrom_inside inside parts, whole,
      renameRun_append new goesOn]
    exact ⟨_, (List.append_assoc _ _ _).symm⟩
  · have missed : ¬ (old.isPrefixOf (c :: (tail ++ rest)) &&
        !Text.startsWithWord ((c :: (tail ++ rest)).drop old.length)) = true := by
      rw [Bool.and_eq_true, List.isPrefixOf_iff_prefix, Bool.not_eq_true']
      exact fun both => leads (found.mpr both)
    obtain ⟨part, parts⟩ := List.forall_mem_cons.mp isRun.parts
    rw [if_neg missed, renameRun, if_neg leads,
      replaceFrom_inside (by rw [isBoundary_some, part, Bool.not_true]) parts]
    exact ⟨_, rfl⟩

/-- Where a run begins, what precedes the text bounds it, so its first name is free. -/
theorem replaceFrom_eq_renameRuns (isName : IsRun old) (new text : List Char)
    {before : Option Char}
    (free : (∃ c ∈ text.head?, isRunPart c = true) → isBoundary before = true) :
    replaceFrom old new before text = renameRuns old new text := by
  induction text using runs_induction generalizing before with
  | nil =>
    rw [replaceFrom, renameRuns_nil]
    simp [isName.nonempty]
  | gap c rest gap ih =>
    rw [replaceFrom_gap isName gap, renameRuns_gap isName gap,
      ih fun _ => by rw [isBoundary_some, gap, Bool.not_false]]
  | run run rest isRun apart ih =>
    have starts : ∃ c ∈ (run ++ rest).head?, isRunPart c = true := by
      obtain ⟨c, tail, rfl⟩ := List.exists_cons_of_ne_nil isRun.nonempty
      exact ⟨c, rfl, isRun.parts c List.mem_cons_self⟩
    obtain ⟨last, renamed⟩ := replaceFrom_run isName new (free starts) isRun apart
    rw [renamed, renameRuns_run isRun apart, ih]
    rintro ⟨c, head, part⟩
    rw [apart c head] at part
    cases part

theorem rename_eq_renameRuns (text : String) {names : Renaming} (isName : IsRun names.1.toList)
    (dotted : IsDotted names.2.toList) :
    rename text names =
      .ok (String.ofList (renameRuns names.1.toList names.2.toList text.toList)) := by
  rw [rename_plain (dotted.notMem rfl), replaceFrom_eq_renameRuns isName _ _ fun _ => rfl]

theorem renameAll_eq_renameRuns (text : String) {renamings : List Renaming}
    (dotted : Dotted renamings) :
    renameAll text renamings = .ok (String.ofList (renamings.foldl
      (fun text names => renameRuns names.1.toList names.2.toList text) text.toList)) := by
  rw [renameAll]
  induction renamings generalizing text with
  | nil => rw [List.foldl_nil, String.ofList_toList]; rfl
  | cons names rest ih =>
    obtain ⟨⟨first, second⟩, later⟩ := List.forall_mem_cons.mp dotted
    rw [List.foldlM_cons, rename_eq_renameRuns text first.isRun second, ok_bind, ih _ later,
      String.toList_ofList, List.foldl_cons]

theorem renameRuns_of_unled {text : List Char} (unled : ∀ run ∈ cutRuns text, ¬ Leads old run)
    (new : List Char) : renameRuns old new text = text := by
  have kept : (cutRuns text).map (renameRun old new) = (cutRuns text).map id :=
    List.map_congr_left fun run member => if_neg (unled run member)
  rw [renameRuns, List.flatMap_def, kept, List.map_id, cutRuns, List.flatten_splitBy]

/-! ### Renaming twice -/

theorem renameRun_isRun (isName : IsRun new) {run : List Char} (isRun : IsRun run) :
    IsRun (renameRun old new run) := by
  rw [renameRun]
  split
  · refine ⟨List.append_ne_nil_of_left_ne_nil isName.nonempty _, fun c member => ?_⟩
    rcases List.mem_append.mp member with inside | after
    · exact isName.parts c inside
    · exact isRun.parts c (List.mem_of_mem_drop after)
  · exact isRun

theorem StartsApart.renameRuns {text : List Char} (isName : IsRun old)
    (apart : StartsApart text) : StartsApart (renameRuns old new text) := by
  cases text with
  | nil => exact apart
  | cons c rest =>
    rw [renameRuns_gap isName (apart c rfl)]
    exact startsApart_cons (apart c rfl) _

/-- If the old name leads what the new one made of a run, then one name leads the other. -/
theorem leads_of_leads_append {more : List Char} (goesOn : GoesOn more)
    (leads : Leads old (new ++ more)) : Leads old new ∨ Leads new old := by
  obtain ⟨after, same, afterGoesOn⟩ := leads_iff.mp leads
  rcases List.append_eq_append_iff.mp same with ⟨part, rfl, rfl⟩ | ⟨part, rfl, rfl⟩
  · refine Or.inr (leads_iff.mpr ⟨part, rfl, ?_⟩)
    cases part with
    | nil => exact Or.inl rfl
    | cons c part =>
      rcases goesOn with none | ⟨later, dot⟩
      · cases none
      · exact Or.inr ⟨part, by rw [(List.cons.inj dot).1]⟩
  · refine Or.inl (leads_iff.mpr ⟨part, rfl, ?_⟩)
    cases part with
    | nil => exact Or.inl rfl
    | cons c part =>
      rcases afterGoesOn with none | ⟨later, dot⟩
      · cases none
      · exact Or.inr ⟨part, by rw [(List.cons.inj dot).1]⟩

theorem renameRun_renameRun (forth : ¬ Leads old new) (back : ¬ Leads new old)
    (run : List Char) : renameRun old new (renameRun old new run) = renameRun old new run := by
  by_cases leads : Leads old run
  · obtain ⟨more, rfl, goesOn⟩ := leads_iff.mp leads
    rw [renameRun_append new goesOn]
    exact if_neg fun again => (leads_of_leads_append goesOn again).elim forth back
  · have kept : renameRun old new run = run := if_neg leads
    rw [kept, kept]

theorem renameRuns_renameRuns (isOld : IsRun old) (isNew : IsRun new) (forth : ¬ Leads old new)
    (back : ¬ Leads new old) (text : List Char) :
    renameRuns old new (renameRuns old new text) = renameRuns old new text := by
  induction text using runs_induction with
  | nil => rfl
  | gap c rest gap ih => rw [renameRuns_gap isOld gap, renameRuns_gap isOld gap, ih]
  | run run rest isRun apart ih =>
    rw [renameRuns_run isRun apart,
      renameRuns_run (renameRun_isRun isNew isRun) (apart.renameRuns isOld),
      renameRun_renameRun forth back, ih]

/-- Renaming rewrites a text run by run, one renaming after the other; a renaming of which neither
name leads the other does nothing the second time. -/
theorem renameAll_runwise (text : String) (renamings : List Renaming)
    (dotted : Dotted renamings) :
    renameAll text renamings = .ok (String.ofList (renamings.foldl
      (fun text names => renameRuns names.1.toList names.2.toList text) text.toList)) ∧
    ∀ names ∈ renamings, ¬ Leads names.1.toList names.2.toList →
      ¬ Leads names.2.toList names.1.toList →
      renameAll text [names, names] = renameAll text [names] := by
  refine ⟨renameAll_eq_renameRuns text dotted, fun names member forth back => ?_⟩
  have both := dotted names member
  have twice : Dotted [names, names] := by simpa [Dotted] using both
  have once : Dotted [names] := by simpa [Dotted] using both
  rw [renameAll_eq_renameRuns text twice, renameAll_eq_renameRuns text once]
  simp only [List.foldl_cons, List.foldl_nil]
  rw [renameRuns_renameRuns both.1.isRun both.2.isRun forth back]

theorem dotted_acme : Dotted [("Acme", "Other")] :=
  List.forall_mem_singleton.mpr ⟨⟨by decide, by decide⟩, ⟨by decide, by decide⟩⟩

theorem renameAll_runwise_prefix :
    Dotted [("Acme", "Other")] ∧
      renameAll "Acme.Io+Acme2+My.Acme+Acme" [("Acme", "Other")] =
        .ok "Other.Io+Acme2+My.Acme+Other" ∧
      renameAll "Acme.Io+Acme2+My.Acme+Acme" [("Acme", "Other"), ("Acme", "Other")] =
        renameAll "Acme.Io+Acme2+My.Acme+Acme" [("Acme", "Other")] := by
  obtain ⟨runwise, twice⟩ := renameAll_runwise "Acme.Io+Acme2+My.Acme+Acme" _ dotted_acme
  refine ⟨dotted_acme, runwise.trans ?_, twice _ List.mem_cons_self (by decide) (by decide)⟩
  decide +kernel

end ScriptDeps.Script
