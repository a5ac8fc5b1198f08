import ScriptDeps.Proofs.Script.WrittenValues

/-!
# Using declarations

The line `using name;` is a namespace that is used, and no directive; a line with a directive uses
no namespace.
-/

namespace ScriptDeps.Script

/-- A dotted name, the first part of which is not the word for types. -/
@[mk_iff]
structure PlainNamespace (name : String) : Prop where
  starts : name.toList.head?.any isNameStart = true
  parts : NameParts name.toList
  nonstatic : (Text.cutAt '.' name.toList).1 ≠ "static".toList

instance (name : String) : Decidable (PlainNamespace name) :=
  decidable_of_iff' _ (plainNamespace_iff name)

/-- The line of a using declaration. -/
def Layout.usingLine (l : Layout) (name : List Char) : List Char :=
  l.indent ++ ("using".toList ++ (l.gap ++ (name ++ ';' :: l.lineEnd)))

theorem Layout.Sound.usingLine_quiet {l : Layout} (sound : l.Sound) {name : String}
    (parts : NameParts name.toList) : Quiet (l.usingLine name.toList) := by
  have keyword : Quiet "using".toList := by decide
  have ends : Quiet (';' :: l.lineEnd) ∧ (';' :: l.lineEnd).head? ≠ some '*' := by
    unfold Layout.lineEnd
    cases l.carriageReturn <;> decide
  have named := parts.harmless.toQuiet.append ends.1 (.inr ends.2)
  have gapped := sound.gap.harmless.toQuiet.append named (.inl sound.gap.last)
  have line := keyword.append gapped (.inl (by decide))
  exact sound.indent.harmless.toQuiet.append line (.inr nofun)

theorem isWord_of_isNamePart {c : Char} (part : isNamePart c = true) (other : c ≠ '.') :
    Text.isWord c = true := by
  unfold isNamePart at part
  unfold Text.isWord
  simp only [Bool.or_eq_true, beq_iff_eq] at part ⊢
  rcases part with (alphanumeric | underscore) | dot
  · exact .inl (.inl alphanumeric)
  · exact .inl (.inr underscore)
  · exact absurd dot other

/-- The word for types at the start of a name goes on, for it is not the name's first part. -/
theorem PlainNamespace.static {name : String} (plain : PlainNamespace name) (rest : List Char) :
    ((after? "static".toList (name.toList ++ ';' :: rest)).map Text.startsWithWord).getD true =
      true := by
  cases found : after? "static".toList (name.toList ++ ';' :: rest) with
  | none => rfl
  | some after =>
    have word : NameParts "static".toList := by decide
    obtain ⟨more, same, rfl⟩ := word.startsName (by decide) found
    have nonstatic := plain.nonstatic
    have parts := plain.parts
    unfold NameParts at parts
    rw [same] at nonstatic parts
    cases more with
    | nil => exact absurd (by decide) nonstatic
    | cons c more =>
      have part : isNamePart c = true := parts c (by simp)
      have other : c ≠ '.' := by
        rintro rfl
        refine nonstatic ?_
        unfold Text.cutAt
        rw [List.takeWhile_append_of_pos (List.all_eq_true.mp (by decide))]
        rfl
      exact isWord_of_isNamePart part other

theorem usingAt?_usingLine {l : Layout} (sound : l.Sound) {name : String}
    (plain : PlainNamespace name) (rest : List Char) :
    usingAt? (l.usingLine name.toList ++ rest) = some name := by
  obtain ⟨blank, gap, same⟩ := List.exists_cons_of_ne_nil sound.gap_ne_nil
  have blanks : ∀ c ∈ l.gap, Text.isBlank c = true := fun c member =>
    isBlank_of_isSpaceOrTab (sound.gap c member)
  have line : l.usingLine name.toList ++ rest = l.indent ++ ("using".toList ++
      (l.gap ++ (name.toList ++ ';' :: (l.lineEnd ++ rest)))) := by
    unfold Layout.usingLine
    simp only [List.append_assoc, List.cons_append]
  generalize l.lineEnd ++ rest = rest at line
  have start : (l.indent ++ ("using".toList ++ (l.gap ++ (name.toList ++ ';' :: rest)))).dropWhile
      isSpaceOrTab = "using".toList ++ (l.gap ++ (name.toList ++ ';' :: rest)) := by
    rw [List.dropWhile_append_of_pos sound.indent]
    rfl
  have shared : after? "global".toList
      ("using".toList ++ (l.gap ++ (name.toList ++ ';' :: rest))) = none := rfl
  have gapped : afterBlanks? (l.gap ++ (name.toList ++ ';' :: rest)) =
      some (name.toList ++ ';' :: rest) := by
    have later : ∀ c ∈ gap, Text.isBlank c = true := fun c member =>
      blanks c (by rw [same]; exact List.mem_cons_of_mem blank member)
    rw [same, List.cons_append, afterBlanks?,
      if_pos (blanks blank (by rw [same]; exact List.mem_cons_self)),
      List.dropWhile_append_of_pos later, plain.parts.dropBlanks (by decide)]
  obtain ⟨taken, left⟩ := plain.parts.takeName (c := ';') (by decide) rest
  have starts : (name.toList ++ ';' :: rest).head?.any isNameStart = true := by
    have begins := plain.starts
    cases chars : name.toList with
    | nil =>
      rw [chars] at begins
      cases begins
    | cons c more =>
      rw [chars] at begins
      exact begins
  have closes : (';' :: rest).dropWhile Text.isBlank = ';' :: rest :=
    List.dropWhile_cons_of_neg (by decide)
  have one : after? [';'] (';' :: rest) = some rest := after?_append [';'] rest
  rw [line, usingAt?, start]
  simp only [shared, Option.bind_none, Option.getD_none, after?_append, Option.bind_eq_bind,
    Option.bind_some, gapped, plain.static, starts, taken, left, closes, one, guard, if_true,
    String.ofList_toList]
  rfl

theorem usingAt?_directiveLine {l : Layout} (sound : l.Sound) (value rest : List Char) :
    usingAt? (l.directiveLine value ++ rest) = none := by
  have start : (l.directiveLine value ++ rest).dropWhile isSpaceOrTab = "//css_".toList ++
      (l.spelling ++ (l.gap ++ (value ++ l.ending)) ++ rest) := by
    unfold Layout.directiveLine
    rw [List.append_assoc, List.dropWhile_append_of_pos sound.indent, List.append_assoc]
    rfl
  rw [usingAt?, start]
  rfl

theorem directiveOn?_usingLine {l : Layout} (sound : l.Sound) (name : List Char) :
    directiveOn? (l.usingLine name) = none := by
  have start : (l.usingLine name).dropWhile isSpaceOrTab =
      "using".toList ++ (l.gap ++ (name ++ ';' :: l.lineEnd)) := by
    unfold Layout.usingLine
    rw [List.dropWhile_append_of_pos sound.indent]
    rfl
  rw [directiveOn?, start]
  rfl

end ScriptDeps.Script
