import ScriptDeps.Proofs.Script.NameParts
import ScriptDeps.Proofs.Text.Trimming

/-!
# Directive lines

What is read from a line `//css_name value`: the meaning of the name, in whatever letter case it is
written, and the value without the blanks around it. A semicolon and a carriage return may end the
line.
-/

namespace ScriptDeps.Script

/-- How a line is laid out around what it declares. -/
structure Layout where
  indent : List Char
  /-- How a directive is called. -/
  spelling : List Char
  gap : List Char
  /-- What stands around the value of a directive. -/
  quote : Option Char
  semicolon : Bool
  carriageReturn : Bool
  deriving DecidableEq, Repr

/-- Spaces and tabs. -/
def IsGap (text : List Char) : Prop :=
  ∀ c ∈ text, isSpaceOrTab c = true

instance (text : List Char) : Decidable (IsGap text) :=
  decidable_of_iff (text.all isSpaceOrTab = true) List.all_eq_true

@[mk_iff]
structure Layout.Sound (l : Layout) : Prop where
  indent : IsGap l.indent
  gap : IsGap l.gap
  gap_ne_nil : l.gap ≠ []
  quote : l.quote.all (fun c => c == '"' || c == '\'') = true

instance (l : Layout) : Decidable l.Sound :=
  decidable_of_iff' _ (Layout.sound_iff l)

theorem Layout.Sound.quotes {l : Layout} (sound : l.Sound) :
    ∀ c ∈ l.quote, c = '"' ∨ c = '\'' := by
  intro c member
  have quoting := sound.quote
  rw [Option.mem_def.mp member] at quoting
  simpa using quoting

/-- A name of directives of a kind, in any letter case. -/
def Spells (spelling : List Char) (kind : DirectiveKind) : Prop :=
  ∃ entry ∈ spellings, entry.2 = kind ∧ spelling.map Char.toLower = entry.1.toList

instance (spelling : List Char) (kind : DirectiveKind) : Decidable (Spells spelling kind) :=
  inferInstanceAs (Decidable (∃ entry ∈ spellings, _))

namespace Layout

def lineEnd (l : Layout) : List Char :=
  if l.carriageReturn then ['\r'] else []

/-- What follows the value of a directive. -/
def ending (l : Layout) : List Char :=
  (if l.semicolon then [';'] else []) ++ l.lineEnd

def directiveLine (l : Layout) (value : List Char) : List Char :=
  l.indent ++ ("//css_".toList ++ (l.spelling ++ (l.gap ++ (value ++ l.ending))))

end Layout

/-! ### Names -/

theorem spellings_known : ∀ entry ∈ spellings,
    (spellings.find? (·.1 == entry.1)).map (·.2) = some entry.2 := by
  decide +kernel

theorem Spells.kind {spelling : List Char} {kind : DirectiveKind} (spells : Spells spelling kind) :
    DirectiveKind.ofName? spelling = some kind := by
  obtain ⟨entry, known, rfl, written⟩ := spells
  unfold DirectiveKind.ofName?
  rw [written, String.ofList_toList]
  exact spellings_known entry known

def isDirectivePart (c : Char) : Bool :=
  c.isAlpha || c == '_'

theorem isDirectivePart_of_toLower {c : Char} (part : isDirectivePart c.toLower = true) :
    isDirectivePart c = true := by
  unfold Char.toLower at part
  split at part
  · rename_i range
    have upper : c.isUpper = true := by
      unfold Char.isUpper
      simpa using range
    have letter : c.isAlpha = true := by
      change (c.isUpper || c.isLower) = true
      rw [upper, Bool.true_or]
    rw [isDirectivePart, letter, Bool.true_or]
  · exact part

theorem Spells.parts {spelling : List Char} {kind : DirectiveKind} (spells : Spells spelling kind) :
    spelling ≠ [] ∧ ∀ c ∈ spelling, isDirectivePart c = true := by
  obtain ⟨entry, known, -, written⟩ := spells
  have names : ∀ entry ∈ spellings,
      entry.1.toList ≠ [] ∧ entry.1.toList.all isDirectivePart = true := by
    decide +kernel
  obtain ⟨some, parts⟩ := names entry known
  rw [← written] at some parts
  refine ⟨fun none => some (by rw [none]; rfl), fun c member => ?_⟩
  have lowered := List.all_eq_true.mp parts _ (List.mem_map_of_mem member)
  exact isDirectivePart_of_toLower lowered

/-! ### Characters -/

namespace IsGap

variable {text : List Char}

theorem last (gap : IsGap text) : text.getLast? ≠ some '/' := by
  intro slash
  exact absurd (gap _ (List.mem_of_getLast? slash)) (by decide)

theorem harmless (gap : IsGap text) : Harmless text := by
  refine harmless_of_forall fun c member => ?_
  have blank := gap c member
  refine ⟨?_, ?_, ?_⟩ <;> rintro rfl <;> exact absurd blank (by decide)

end IsGap

theorem Layout.Sound.gap_head {l : Layout} (sound : l.Sound) (rest : List Char) :
    (l.gap ++ rest).head? ≠ some '*' := by
  obtain ⟨c, gap, same⟩ := List.exists_cons_of_ne_nil sound.gap_ne_nil
  have blank := sound.gap c (by rw [same]; exact List.mem_cons_self)
  rw [same]
  intro head
  obtain rfl : c = '*' := Option.some.inj head
  exact absurd blank (by decide)

theorem Layout.Sound.directiveLine_quiet {l : Layout} (sound : l.Sound) {kind : DirectiveKind}
    (spells : Spells l.spelling kind) {value : List Char} (quiet : Quiet value) :
    Quiet (l.directiveLine value) := by
  have start : Quiet "//css_".toList := by decide
  have spelled : Quiet l.spelling := by
    refine quiet_of_forall fun c member => ?_
    have part := spells.parts.2 c member
    constructor <;> rintro rfl <;> exact absurd part (by decide)
  have ends : Quiet l.ending ∧ l.ending.head? ≠ some '*' := by
    unfold Layout.ending Layout.lineEnd
    cases l.semicolon <;> cases l.carriageReturn <;> decide
  have named := start.append spelled (.inl (by decide))
  have valued := quiet.append ends.1 (.inr ends.2)
  have gapped := sound.gap.harmless.toQuiet.append valued (.inl sound.gap.last)
  have line := named.append gapped (.inr (sound.gap_head _))
  have whole := sound.indent.harmless.toQuiet.append line (.inr nofun)
  unfold Layout.directiveLine
  simpa only [List.append_assoc] using whole

/-! ### Values -/

theorem isBlank_of_isSpaceOrTab {c : Char} (blank : isSpaceOrTab c = true) :
    Text.isBlank c = true := by
  unfold isSpaceOrTab at blank
  rcases Bool.or_eq_true_iff.mp blank with same | same
  · rw [beq_iff_eq.mp same]
    decide
  · rw [beq_iff_eq.mp same]
    decide

theorem trim_dropWhile {p : Char → Bool} (blank : ∀ c, p c = true → Text.isBlank c = true)
    (value : List Char) : Text.trim (value.dropWhile p) = Text.trim value := by
  have front : ∀ c ∈ value.takeWhile p, Text.isBlank c = true := fun c member =>
    blank c (List.all_eq_true.mp List.all_takeWhile c member)
  have whole := Text.trim_prepend front (value.dropWhile p)
  rw [List.takeWhile_append_dropWhile] at whole
  exact whole.symm

theorem trim_trimRight (value : List Char) :
    Text.trim (Text.trimRight isSpaceOrTab value) = Text.trim value := by
  obtain ⟨after, cut, out⟩ := Text.exists_trimRight (p := isSpaceOrTab) value
  have blank : ∀ c ∈ after, Text.isBlank c = true := fun c member =>
    isBlank_of_isSpaceOrTab (out c member)
  conv => rhs; rw [cut]
  exact (Text.trim_append blank _).symm

theorem trimRight_semicolon {text : List Char} (plain : ';' ∉ text) :
    Text.trimRight (· == ';') text = text := by
  refine Text.trimRight_of_forall fun c member => ?_
  rw [beq_eq_false_iff_ne]
  rintro rfl
  exact plain member

/-- Without a carriage return at the end, a directive's text loses its semicolon. -/
theorem dropTerminator_value {text : List Char} (plain : ';' ∉ text) (semicolon : Bool) :
    dropTerminator (text ++ if semicolon then [';'] else []) =
      Text.trimRight isSpaceOrTab text := by
  cases semicolon with
  | true =>
    have kept : Text.trimRight isSpaceOrTab (text ++ [';']) = text ++ [';'] :=
      Text.trimRight_concat text rfl
    have last : (text ++ [';']).getLast? = some ';' := List.getLast?_concat
    rw [if_pos rfl, dropTerminator, kept, last, if_pos (beq_self_eq_true _), List.dropLast_concat]
  | false =>
    have other : (Text.trimRight isSpaceOrTab text).getLast? ≠ some ';' := by
      intro last
      obtain ⟨after, cut, _⟩ := Text.exists_trimRight (p := isSpaceOrTab) text
      have member := List.mem_append_left after (List.mem_of_getLast? last)
      rw [← cut] at member
      exact plain member
    rw [if_neg Bool.false_ne_true, List.append_nil, dropTerminator,
      if_neg (by simpa using other)]

theorem dropTerminator_carriageReturn (text : List Char) :
    dropTerminator (text ++ ['\r']) = text ++ ['\r'] := by
  have kept : Text.trimRight isSpaceOrTab (text ++ ['\r']) = text ++ ['\r'] :=
    Text.trimRight_concat text rfl
  have last : (text ++ ['\r']).getLast? = some '\r' := List.getLast?_concat
  rw [dropTerminator, kept, last]
  rfl

/-- What is left of a value and what follows it, but for blanks and semicolons. -/
theorem trim_written {value : List Char} (plain : ';' ∉ value) (l : Layout) :
    Text.trim (Text.trimRight (· == ';')
      (Text.trim (dropTerminator ((value ++ l.ending).dropWhile isSpaceOrTab)))) =
        Text.trim value := by
  have ends : l.ending.dropWhile isSpaceOrTab = l.ending := by
    unfold Layout.ending Layout.lineEnd
    cases l.semicolon <;> cases l.carriageReturn <;> rfl
  rw [Text.dropWhile_append_of_kept ends, ← trim_dropWhile (fun c => isBlank_of_isSpaceOrTab) value]
  have plain : ';' ∉ value.dropWhile isSpaceOrTab := fun member =>
    plain ((List.dropWhile_suffix _).subset member)
  generalize value.dropWhile isSpaceOrTab = text at plain ⊢
  have trimmed : Text.trim (Text.trimRight (· == ';') (Text.trim text)) = Text.trim text := by
    have inner : ';' ∉ Text.trim text := fun member => plain (Text.mem_of_mem_trimBoth member)
    rw [trimRight_semicolon inner, Text.trim_trim]
  unfold Layout.ending Layout.lineEnd
  by_cases returns : l.carriageReturn = true
  · have blank : ∀ c ∈ ['\r'], Text.isBlank c = true :=
      List.forall_mem_singleton.mpr (by decide)
    rw [if_pos returns, ← List.append_assoc, dropTerminator_carriageReturn, Text.trim_append blank]
    by_cases closed : l.semicolon = true
    · -- the carriage return hides the semicolon at first
      have shown : Text.trim (text ++ [';']) = text.dropWhile Text.isBlank ++ [';'] := by
        have kept : [';'].dropWhile Text.isBlank = [';'] := by decide
        unfold Text.trim Text.trimBoth
        rw [Text.dropWhile_append_of_kept kept]
        exact Text.trimRight_concat _ (by decide)
      have inner : ';' ∉ text.dropWhile Text.isBlank := fun member =>
        plain ((List.dropWhile_suffix _).subset member)
      have semicolons : ∀ c ∈ [';'], (c == ';') = true := List.forall_mem_singleton.mpr rfl
      rw [if_pos closed, shown, Text.trimRight_append_of_forall semicolons,
        trimRight_semicolon inner, trim_dropWhile fun c => id]
    · rw [if_neg closed, List.append_nil, trimmed]
  · rw [if_neg returns, List.append_nil, dropTerminator_value plain, trim_trimRight, trimmed]

theorem directiveOn?_eq (line : List Char) : directiveOn? line = (do
    let rest ← after? "//css_".toList (line.dropWhile isSpaceOrTab)
    let name := rest.takeWhile isDirectivePart
    let rest := rest.dropWhile isDirectivePart
    guard (!name.isEmpty && !Text.startsWithWord rest)
    let written := Text.trim (dropTerminator (rest.dropWhile isSpaceOrTab))
    let value := Text.trim (Text.trimRight (· == ';') written)
    let kind ← DirectiveKind.ofName? name
    guard (!value.isEmpty)
    return (kind, value)) := rfl

/-- A name that a blank ends is read, and then the value. -/
theorem directiveOn?_named {line spelling gap rest : List Char} {kind : DirectiveKind}
    (spells : Spells spelling kind) (blank : IsGap gap) (apart : gap ≠ [])
    (start : line.dropWhile isSpaceOrTab = "//css_".toList ++ (spelling ++ (gap ++ rest))) :
    directiveOn? line =
      let value := Text.trim (Text.trimRight (· == ';')
        (Text.trim (dropTerminator (rest.dropWhile isSpaceOrTab))))
      if value.isEmpty then none else some (kind, value) := by
  obtain ⟨some, parts⟩ := spells.parts
  obtain ⟨c, more, rfl⟩ := List.exists_cons_of_ne_nil apart
  have ends : isDirectivePart c = false ∧ Text.isWord c = false := by
    have gapped : c = ' ' ∨ c = '\t' := by
      have here := blank c List.mem_cons_self
      unfold isSpaceOrTab at here
      simpa using here
    rcases gapped with rfl | rfl
    · exact ⟨by decide, by decide +kernel⟩
    · exact ⟨by decide, by decide +kernel⟩
  have name : (spelling ++ (c :: more ++ rest)).takeWhile isDirectivePart = spelling := by
    rw [List.takeWhile_append_of_pos parts, List.cons_append,
      List.takeWhile_cons_of_neg (by simp [ends.1]), List.append_nil]
  have left : (spelling ++ (c :: more ++ rest)).dropWhile isDirectivePart = c :: more ++ rest := by
    rw [List.dropWhile_append_of_pos parts, List.cons_append,
      List.dropWhile_cons_of_neg (by simp [ends.1])]
  have word : Text.startsWithWord (c :: more ++ rest) = false := by
    rw [List.cons_append, Text.startsWithWord, ends.2]
  have named : (!spelling.isEmpty) = true := by
    rw [Bool.not_eq_true', List.isEmpty_eq_false_iff]
    exact some
  have after : (c :: more ++ rest).dropWhile isSpaceOrTab = rest.dropWhile isSpaceOrTab :=
    List.dropWhile_append_of_pos blank
  rw [directiveOn?_eq, start, after?_append]
  simp only [Option.bind_eq_bind, Option.bind_some, name, left, named, word, after, spells.kind,
    guard, Bool.not_false, Bool.and_self, if_true]
  generalize Text.trim (Text.trimRight _ _) = value
  cases value.isEmpty <;> rfl

/-- What is read from a line with a directive on it. -/
theorem directiveOn?_directiveLine {l : Layout} (sound : l.Sound) {kind : DirectiveKind}
    (spells : Spells l.spelling kind) {value : List Char} (plain : ';' ∉ value) :
    directiveOn? (l.directiveLine value) =
      if (Text.trim value).isEmpty then none else some (kind, Text.trim value) := by
  have start : (l.directiveLine value).dropWhile isSpaceOrTab =
      "//css_".toList ++ (l.spelling ++ (l.gap ++ (value ++ l.ending))) := by
    unfold Layout.directiveLine
    rw [List.dropWhile_append_of_pos sound.indent]
    rfl
  rw [directiveOn?_named spells sound.gap sound.gap_ne_nil start, trim_written plain]

end ScriptDeps.Script
