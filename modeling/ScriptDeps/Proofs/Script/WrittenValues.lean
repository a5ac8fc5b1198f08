import ScriptDeps.Proofs.Script.Comments
import ScriptDeps.Proofs.Script.DirectiveLine

/-!
# Values of directives

What is read back from a value that is written with or without quotes, and from an import with its
renamings. Of the renamings, only one to or from an empty name is not read back.
-/

namespace ScriptDeps.Script

/-! ### Quoted values -/

/-- A value that holds nothing of its surroundings. -/
@[mk_iff]
structure PlainValue (value : String) : Prop extends Harmless value.toList where
  undoubled : '"' ∉ value.toList
  unquoted : '\'' ∉ value.toList
  trimmed : Text.trim value.toList = value.toList

instance (value : String) : Decidable (PlainValue value) :=
  decidable_of_iff' _ (plainValue_iff value)

def wrapped (quote : Option Char) (value : String) : List Char :=
  quote.toList ++ value.toList ++ quote.toList

theorem trimBoth_notMem {c : Char} {text : List Char} (absent : c ∉ text) :
    Text.trimBoth (· == c) text = text := by
  refine Text.trimBoth_of_forall fun d member => ?_
  rw [beq_eq_false_iff_ne]
  rintro rfl
  exact absent member

theorem trimBoth_quotes {c : Char} {text : List Char} (absent : c ∉ text) :
    Text.trimBoth (· == c) ([c] ++ text ++ [c]) = text := by
  have quote : ∀ d ∈ [c], (d == c) = true := by simp
  rw [Text.trimBoth_append quote quote, trimBoth_notMem absent]

theorem trim_wrapped {value : String} (plain : PlainValue value) {quote : Option Char}
    (quotes : ∀ c ∈ quote, c = '"' ∨ c = '\'') :
    Text.trim (wrapped quote value) = wrapped quote value := by
  unfold wrapped
  cases quote with
  | none =>
    rw [Option.toList_none, List.nil_append, List.append_nil]
    exact plain.trimmed
  | some c =>
    have visible : Text.isBlank c = false := by
      rcases quotes c rfl with rfl | rfl
      · decide
      · decide
    exact Text.trimBoth_concat value.toList visible visible

theorem unquote_wrapped {value : String} (plain : PlainValue value) {quote : Option Char}
    (quotes : ∀ c ∈ quote, c = '"' ∨ c = '\'') : unquote (wrapped quote value) = value := by
  have double := trimBoth_notMem plain.undoubled
  have single := trimBoth_notMem plain.unquoted
  rw [unquote, trim_wrapped plain quotes]
  unfold wrapped
  cases quote with
  | none =>
    rw [Option.toList_none, List.nil_append, List.append_nil, double, single, plain.trimmed,
      String.ofList_toList]
  | some c =>
    rw [Option.toList_some]
    rcases quotes c rfl with rfl | rfl
    · rw [trimBoth_quotes plain.undoubled, single, plain.trimmed, String.ofList_toList]
    · have apart : '"' ∉ ['\''] ++ value.toList ++ ['\''] := by
        simp [plain.undoubled]
      rw [trimBoth_notMem apart, trimBoth_quotes plain.unquoted, plain.trimmed,
        String.ofList_toList]

theorem PlainValue.unquote {value : String} (plain : PlainValue value) :
    unquote value.toList = value := by
  have unquoted : ∀ c ∈ (none : Option Char), c = '"' ∨ c = '\'' := nofun
  simpa [wrapped] using unquote_wrapped plain unquoted

theorem harmless_wrapped {value : String} (plain : PlainValue value) {quote : Option Char}
    (quotes : ∀ c ∈ quote, c = '"' ∨ c = '\'') : Harmless (wrapped quote value) := by
  have around : ∀ c ∈ quote.toList, c = '"' ∨ c = '\'' := by simpa using quotes
  have quoting : Harmless quote.toList := harmless_of_forall fun c member => by
    rcases around c member with rfl | rfl <;> decide
  have before : quote.toList.getLast? ≠ some '/' := fun last => by
    rcases around _ (List.mem_of_getLast? last) with same | same <;> cases same
  have after : quote.toList.head? ≠ some '*' := fun head => by
    rcases around _ (List.mem_of_head? head) with same | same <;> cases same
  exact (quoting.append plain.toHarmless (.inl before)).append quoting (.inr after)

/-- A value of name characters only. -/
theorem NameParts.plainValue {name : List Char} (parts : NameParts name) :
    PlainValue (String.ofList name) := by
  have apart : ∀ c, isNamePart c = false → c ∉ name := fun c other member =>
    Bool.false_ne_true (other.symm.trans (parts c member))
  refine ⟨?_, ?_, ?_, ?_⟩ <;> rw [String.toList_ofList]
  · exact parts.harmless
  · exact apart _ (by decide)
  · exact apart _ (by decide)
  · exact Text.trimBoth_of_forall fun c member => isBlank_of_isNamePart (parts c member)

/-! ### Renamings -/

/-- How the option that renames a namespace begins. -/
def optionStart : List Char := "rename_namespace(".toList

/-- A renaming after a comma, with blanks behind the commas. -/
def renamingText (gap : List Char) (names : Renaming) : List Char :=
  ',' :: (gap ++ (optionStart ++ (names.1.toList ++ ',' :: (gap ++ (names.2.toList ++ [')'])))))

/-- The renamings that are read at the characters of a text with another text after it. -/
def renamingsIn (text rest : List Char) : List Renaming :=
  (Text.tails text).filterMap fun tail => renamingAt? (tail ++ rest)

theorem renamingsIn_nil (text : List Char) :
    renamingsIn text [] = (Text.tails text).filterMap renamingAt? := by
  unfold renamingsIn
  simp

theorem renamingsIn_append (first second rest : List Char) :
    renamingsIn (first ++ second) rest =
      renamingsIn first (second ++ rest) ++ renamingsIn second rest := by
  unfold renamingsIn
  rw [Text.tails_append, List.filterMap_append, List.filterMap_map]
  simp

theorem renamingAt?_of_ne {c : Char} (other : c ≠ 'r') (text : List Char) :
    renamingAt? (c :: text) = none := by
  have word : after? "rename_namespace".toList (c :: text) = none := by
    rw [show "rename_namespace".toList = 'r' :: "ename_namespace".toList from rfl, after?,
      if_neg (by simpa using Ne.symm other)]
  rw [renamingAt?, word]
  rfl

theorem renamingsIn_of_notMem {text : List Char} (absent : 'r' ∉ text) (rest : List Char) :
    renamingsIn text rest = [] := by
  induction text with
  | nil => rfl
  | cons c text ih =>
    obtain ⟨other, absent⟩ := List.ne_and_not_mem_of_not_mem_cons absent
    unfold renamingsIn at ih ⊢
    rw [Text.tails, List.filterMap_cons, List.cons_append, renamingAt?_of_ne (Ne.symm other)]
    exact ih absent

/-- No renaming is read within a name, for no bracket follows it. -/
theorem renamingsIn_parts {name : List Char} (parts : NameParts name) {c : Char}
    (ends : isNamePart c = false) (visible : Text.isBlank c = false) (other : c ≠ '(')
    (rest : List Char) : renamingsIn name (c :: rest) = [] := by
  have word : NameParts "rename_namespace".toList := by decide
  refine List.filterMap_eq_nil_iff.mpr fun tail member => ?_
  have tailParts : NameParts tail := fun d among =>
    parts d ((Text.mem_of_mem_tails member).subset among)
  unfold renamingAt?
  cases found : after? "rename_namespace".toList (tail ++ c :: rest) with
  | none => rfl
  | some after =>
    obtain ⟨more, same, rfl⟩ := word.startsName ends found
    have moreParts : NameParts more := fun d among =>
      tailParts d (same ▸ List.mem_append_right _ among)
    have closed : after? ['('] (more ++ c :: rest) = none := by
      cases more with
      | nil => simp [after?, Ne.symm other]
      | cons d more =>
        have apart : d ≠ '(' := by
          rintro rfl
          exact absurd (moreParts _ List.mem_cons_self) (by decide)
        simp [after?, Ne.symm apart]
    simp only [Option.bind_eq_bind, Option.bind_some, moreParts.dropBlanks visible, closed,
      Option.bind_none]

/-- Neither of the names is empty. -/
def isNamed (names : Renaming) : Bool :=
  names.1 ≠ "" && names.2 ≠ ""

theorem isEmpty_toList (name : String) : name.toList.isEmpty = decide (name = "") := by
  by_cases empty : name = ""
  · subst empty
    rfl
  · have some : name.toList ≠ [] := fun none => empty (String.toList_inj.mp none)
    simp [empty, some]

section Renaming

variable {gap : List Char} {names : Renaming}

theorem renamingAt?_written (blank : IsGap gap) (old : NameParts names.1.toList)
    (new : NameParts names.2.toList) (rest : List Char) :
    renamingAt? (optionStart ++
        (names.1.toList ++ ',' :: (gap ++ (names.2.toList ++ ')' :: rest)))) =
      if isNamed names then some names else none := by
  have word : optionStart ++ (names.1.toList ++ ',' :: (gap ++ (names.2.toList ++ ')' :: rest))) =
      "rename_namespace".toList ++
        '(' :: (names.1.toList ++ ',' :: (gap ++ (names.2.toList ++ ')' :: rest))) := rfl
  have visible : ∀ (c : Char) (text : List Char), Text.isBlank c = false →
      (c :: text).dropWhile Text.isBlank = c :: text := fun c text visible =>
    List.dropWhile_cons_of_neg (by rw [visible]; exact Bool.false_ne_true)
  have one : ∀ (c : Char) (text : List Char), after? [c] (c :: text) = some text := fun c text =>
    after?_append [c] text
  have second : (gap ++ (names.2.toList ++ ')' :: rest)).dropWhile Text.isBlank =
      names.2.toList ++ ')' :: rest := by
    rw [List.dropWhile_append_of_pos fun c member => isBlank_of_isSpaceOrTab (blank c member)]
    exact new.dropBlanks (by decide) rest
  obtain ⟨oldTaken, afterOld⟩ :=
    old.takeName (c := ',') (by decide) (gap ++ (names.2.toList ++ ')' :: rest))
  obtain ⟨newTaken, afterNew⟩ := new.takeName (c := ')') (by decide) rest
  rw [word, renamingAt?, after?_append]
  simp only [Option.bind_eq_bind, Option.bind_some, visible '(' _ (by decide),
    visible ',' _ (by decide), visible ')' _ (by decide), one,
    old.dropBlanks (c := ',') (by decide), second, oldTaken, afterOld, newTaken, afterNew,
    isEmpty_toList, isNamed, guard, String.ofList_toList]
  by_cases first : names.1 = ""
  · simp [first]
  · by_cases second : names.2 = ""
    · simp [first, second]
    · simp [first, second]

theorem renamingsIn_renamingText (blank : IsGap gap) (old : NameParts names.1.toList)
    (new : NameParts names.2.toList) (rest : List Char) :
    renamingsIn (renamingText gap names) rest = if isNamed names then [names] else [] := by
  have start : renamingsIn optionStart
      ((names.1.toList ++ ',' :: (gap ++ (names.2.toList ++ [')']))) ++ rest) =
        if isNamed names then [names] else [] := by
    have read := renamingAt?_written blank old new rest
    have later : 'r' ∉ "ename_namespace(".toList := by decide
    have only := renamingsIn_of_notMem later
      ((names.1.toList ++ ',' :: (gap ++ (names.2.toList ++ [')']))) ++ rest)
    have cut : optionStart = 'r' :: "ename_namespace(".toList := rfl
    unfold renamingsIn at only ⊢
    rw [cut, Text.tails, List.filterMap_cons, only, ← cut]
    simp only [List.append_assoc, List.cons_append, List.nil_append] at read ⊢
    rw [read]
    cases isNamed names <;> rfl
  have between : ∀ text, renamingsIn (',' :: gap) text = [] := renamingsIn_of_notMem (by
    intro member
    rcases List.mem_cons.mp member with same | member
    · exact absurd same (by decide)
    · exact absurd (blank _ member) (by decide))
  have first : renamingsIn names.1.toList
      ((',' :: gap) ++ (names.2.toList ++ [')']) ++ rest) = [] :=
    renamingsIn_parts old (by decide) (by decide) (by decide) _
  have second : renamingsIn names.2.toList ([')'] ++ rest) = [] :=
    renamingsIn_parts new (by decide) (by decide) (by decide) rest
  have last : renamingsIn [')'] rest = [] := renamingsIn_of_notMem (by decide) rest
  have pieces : renamingText gap names = (',' :: gap) ++ (optionStart ++ (names.1.toList ++
      ((',' :: gap) ++ (names.2.toList ++ [')'])))) := rfl
  rw [pieces, renamingsIn_append, between, List.nil_append, renamingsIn_append]
  rw [renamingsIn_append, first, renamingsIn_append, between, renamingsIn_append, second, last]
  simpa using start

theorem harmless_renamingText (blank : IsGap gap) (old : NameParts names.1.toList)
    (new : NameParts names.2.toList) : Harmless (renamingText gap names) := by
  have comma : Harmless [','] := by decide
  have start : Harmless optionStart := by decide
  have close : Harmless [')'] := by decide
  have closed := new.harmless.append close (.inr (by decide))
  have second := comma.append (blank.harmless.append closed (.inl blank.last)) (.inl (by decide))
  have both := start.append (old.harmless.append second (.inr nofun)) (.inl (by decide))
  exact comma.append (blank.harmless.append both (.inl blank.last)) (.inl (by decide))

end Renaming

/-! ### Imports -/

/-- The name of an imported file and its renamings, as an import's value has them. -/
def writtenImport (gap : List Char) (name : String) (renamings : List Renaming) : List Char :=
  name.toList ++ renamings.flatMap (renamingText gap)

section Import

variable {gap : List Char} {name : String} {renamings : List Renaming}

theorem renamingsIn_written (blank : IsGap gap)
    (parts : ∀ names ∈ renamings, NameParts names.1.toList ∧ NameParts names.2.toList) :
    renamingsIn (renamings.flatMap (renamingText gap)) [] = renamings.filter isNamed := by
  induction renamings with
  | nil => rfl
  | cons names renamings ih =>
    obtain ⟨⟨old, new⟩, later⟩ := List.forall_mem_cons.mp parts
    rw [List.flatMap_cons, renamingsIn_append, renamingsIn_renamingText blank old new, ih later,
      List.filter_cons]
    cases isNamed names <;> rfl

theorem ofValue_written (blank : IsGap gap) (plain : PlainValue name) (whole : ',' ∉ name.toList)
    (parts : ∀ names ∈ renamings, NameParts names.1.toList ∧ NameParts names.2.toList)
    (file : String) (line : Nat) :
    Import.ofValue (writtenImport gap name renamings) file line =
      ⟨name, file, renamings.filter isNamed, line⟩ := by
  have apart : ∀ c ∈ name.toList, (c != ',') = true := by
    intro c member
    rw [bne_iff_ne]
    rintro rfl
    exact whole member
  unfold Import.ofValue writtenImport Text.cutAt
  rw [List.takeWhile_append_of_pos apart, List.dropWhile_append_of_pos apart]
  cases renamings with
  | nil => simp [plain.unquote, Text.tails]
  | cons names renamings =>
    have spelled := renamingsIn_written blank parts
    obtain ⟨options, cut⟩ : ∃ options,
      (names :: renamings).flatMap (renamingText gap) = ',' :: options := ⟨_, rfl⟩
    have comma : renamingsIn [','] (options ++ []) = [] := renamingsIn_of_notMem (by decide) _
    rw [cut, ← List.singleton_append, renamingsIn_append, comma, List.nil_append,
      renamingsIn_nil] at spelled
    rw [cut]
    simp [plain.unquote, spelled]

theorem writtenImport_eq_nil :
    writtenImport gap name renamings = [] ↔ name = "" ∧ renamings = [] := by
  unfold writtenImport
  rw [List.append_eq_nil_iff, String.toList_eq_nil_iff]
  refine and_congr_right fun _ => ?_
  cases renamings with
  | nil => simp
  | cons names renamings => simp [renamingText]

theorem trim_writtenImport (plain : PlainValue name) :
    Text.trim (writtenImport gap name renamings) = writtenImport gap name renamings := by
  unfold writtenImport
  rcases List.eq_nil_or_concat renamings with rfl | ⟨others, names, rfl⟩
  · simp [plain.trimmed]
  · obtain ⟨options, cut⟩ : ∃ options,
        (others ++ [names]).flatMap (renamingText gap) = options ++ [')'] := by
      refine ⟨others.flatMap (renamingText gap) ++ ',' :: (gap ++ (optionStart ++
        (names.1.toList ++ ',' :: (gap ++ names.2.toList)))), ?_⟩
      simp [renamingText]
    have kept : (options ++ [')']).dropWhile Text.isBlank = options ++ [')'] := by
      have visible : ((others ++ [names]).flatMap (renamingText gap)).head? = some ',' := by
        cases others <;> rfl
      rw [cut] at visible
      cases options with
      | nil => decide
      | cons c options =>
        obtain rfl : c = ',' := Option.some.inj visible
        exact List.dropWhile_cons_of_neg (by decide)
    unfold Text.trim Text.trimBoth
    rw [List.concat_eq_append, cut, Text.dropWhile_append_of_kept kept,
      Text.dropWhile_of_trimmed plain.trimmed, ← List.append_assoc]
    exact Text.trimRight_concat _ (by decide)

theorem harmless_writtenImport (blank : IsGap gap) (plain : PlainValue name)
    (parts : ∀ names ∈ renamings, NameParts names.1.toList ∧ NameParts names.2.toList) :
    Harmless (writtenImport gap name renamings) := by
  have comma : ∀ renamings : List Renaming,
      (renamings.flatMap (renamingText gap)).head? ≠ some '*' := by
    intro renamings
    cases renamings with
    | nil => exact nofun
    | cons names renamings => exact nofun
  have options : Harmless (renamings.flatMap (renamingText gap)) := by
    induction renamings with
    | nil => exact harmless_of_forall nofun
    | cons names renamings ih =>
      obtain ⟨⟨old, new⟩, later⟩ := List.forall_mem_cons.mp parts
      exact (harmless_renamingText blank old new).append (ih later) (.inr (comma renamings))
  exact plain.toHarmless.append options (.inr (comma renamings))

end Import

end ScriptDeps.Script
