import Mathlib.Data.List.Infix
import ScriptDeps.SearchPath.Expansion

/-!
# Texts with references

A text can be put together from literal pieces and references to variables, which are spelled in
three ways. Expanding it puts the value in the place of each reference whose variable is set, and
looks at nothing twice. A text stays as it is if none of the variables that it mentions is set.
-/

namespace ScriptDeps.SearchPath

/-- A variable's name: letters, digits and underscores, the first of them no digit. -/
def IsVariable (name : List Char) : Prop :=
  (∃ c ∈ name.head?, isVariableStart c = true) ∧ ∀ c ∈ name, isVariablePart c = true

/-- No variable's name goes on in the text. -/
def EndsName (text : List Char) : Prop :=
  ∀ c ∈ text.head?, isVariablePart c = false

/-- The ways to refer to a variable. -/
inductive Spelling
  | percent
  | braced
  | bare
  deriving DecidableEq, Repr

namespace Spelling

def write : Spelling → List Char → List Char
  | percent, name => '%' :: (name ++ ['%'])
  | braced, name => '$' :: '\x7b' :: (name ++ ['\x7d'])
  | bare, name => '$' :: name

/-- What a reference is replaced by: the variable's value, or the reference if it is not set. -/
def value (spelling : Spelling) (environment : Environment) (name : List Char) : List Char :=
  ((environment.get? (String.ofList name)).map String.toList).getD (spelling.write name)

/-- The text begins with a reference, which `after` follows. -/
structure Begins (spelling : Spelling) (name after text : List Char) : Prop where
  isVariable : IsVariable name
  text_eq : text = spelling.write name ++ after
  /-- Only what follows a bare reference could be taken for a part of its name. -/
  ends : spelling = bare → EndsName after

end Spelling

/-- A reference to the variable stands somewhere in the text. -/
def Mentions (text name : List Char) : Prop :=
  ∃ rest, rest <:+ text ∧ ∃ (spelling : Spelling) (after : List Char), spelling.Begins name after rest

/-! ### Reading a reference -/

theorem isVariablePart_of_start {c : Char} (starts : isVariableStart c = true) :
    isVariablePart c = true := by
  simp only [isVariableStart, isVariablePart, Char.isAlphanum, Bool.or_eq_true] at starts ⊢
  exact starts.imp_left Or.inl

theorem isVariable_letter {c : Char} (starts : isVariableStart c = true) : IsVariable [c] :=
  ⟨⟨c, rfl, starts⟩, List.forall_mem_singleton.mpr (isVariablePart_of_start starts)⟩

theorem nameLength_append {name after : List Char} (isVariable : IsVariable name)
    (ends : EndsName after) : nameLength (name ++ after) = name.length := by
  obtain ⟨⟨c, first, starts⟩, parts⟩ := isVariable
  obtain ⟨rest, rfl⟩ := List.head?_eq_some_iff.mp first
  obtain ⟨-, parts⟩ := List.forall_mem_cons.mp parts
  have stop : after.takeWhile isVariablePart = [] := by
    cases after with
    | nil => rfl
    | cons d after => exact List.takeWhile_cons_of_neg (by simp [ends d rfl])
  rw [List.cons_append, nameLength, if_pos starts, List.takeWhile_append_of_pos parts, stop,
    List.append_nil, List.length_cons]

theorem exists_name {text : List Char} (some : nameLength text ≠ 0) :
    ∃ name after, text = name ++ after ∧ IsVariable name ∧ EndsName after ∧
      name.length = nameLength text := by
  cases text with
  | nil => exact absurd rfl some
  | cons c rest =>
    rw [nameLength] at some ⊢
    split at some
    · rename_i starts
      refine ⟨c :: rest.takeWhile isVariablePart, rest.dropWhile isVariablePart, ?_, ⟨⟨c, rfl, starts⟩, ?_⟩,
        ?_, ?_⟩
      · rw [List.cons_append, List.takeWhile_append_dropWhile]
      · exact List.forall_mem_cons.mpr
          ⟨isVariablePart_of_start starts, List.all_eq_true.mp List.all_takeWhile⟩
      · intro d head
        have found := List.head?_dropWhile_not isVariablePart rest
        rwa [Option.mem_def.mp head] at found
      · rw [if_pos starts, List.length_cons]
    · exact absurd rfl some

theorem not_isVariablePart_mark :
    isVariablePart '%' = false ∧ isVariablePart '$' = false ∧ isVariablePart '\x7d' = false := by
  decide

theorem endsName_cons {c : Char} (other : isVariablePart c = false) (rest : List Char) :
    EndsName (c :: rest) := by
  intro d head
  obtain rfl := Option.some.inj head
  exact other

theorem referenceAt?_of_begins {spelling : Spelling} {name after text : List Char}
    (begins : spelling.Begins name after text) :
    referenceAt? text = some (name, (spelling.write name).length) := by
  obtain ⟨isVariable, rfl, ends⟩ := begins
  obtain ⟨percent, -, brace⟩ := not_isVariablePart_mark
  obtain ⟨c, rest, rfl⟩ : ∃ c rest, name = c :: rest := by
    obtain ⟨⟨c, first, -⟩, -⟩ := isVariable
    exact ⟨c, List.head?_eq_some_iff.mp first⟩
  cases spelling with
  | percent =>
    have length := nameLength_append isVariable (endsName_cons percent after)
    simp only [Spelling.write, List.cons_append, List.append_assoc, List.nil_append] at length ⊢
    rw [referenceAt?]
    simp [length]
  | braced =>
    have length := nameLength_append isVariable (endsName_cons brace after)
    simp only [Spelling.write, List.cons_append, List.append_assoc, List.nil_append] at length ⊢
    rw [referenceAt?]
    simp [length]
  | bare =>
    have length := nameLength_append isVariable (ends rfl)
    have unbraced : ∀ more, c :: (rest ++ after) ≠ '\x7b' :: more := by
      rintro more same
      obtain ⟨rfl, -⟩ := List.cons.inj same
      obtain ⟨⟨_, first, starts⟩, -⟩ := isVariable
      obtain rfl := Option.some.inj first
      exact absurd starts (by decide)
    simp only [Spelling.write, List.cons_append] at length ⊢
    rw [referenceAt?]
    · simp [length]
    · exact unbraced

/-- A name, and a mark right after it. -/
theorem exists_name_marked {text : List Char} {mark : Char}
    (marked : (nameLength text != 0 && (text.drop (nameLength text)).head? == some mark) = true) :
    ∃ name after, text = name ++ mark :: after ∧ IsVariable name ∧
      text.take (nameLength text) = name ∧ nameLength text = name.length := by
  rw [Bool.and_eq_true, bne_iff_ne, beq_iff_eq] at marked
  obtain ⟨name, rest, whole, isVariable, -, length⟩ := exists_name marked.1
  have next : rest.head? = some mark := by
    rw [← marked.2, ← length, whole, List.drop_left]
  obtain ⟨after, rfl⟩ := List.head?_eq_some_iff.mp next
  refine ⟨name, after, whole, isVariable, ?_, length.symm⟩
  rw [← length, whole, List.take_left]

theorem begins_of_referenceAt? {text name : List Char} {n : Nat}
    (found : referenceAt? text = some (name, n)) :
    ∃ (spelling : Spelling) (after : List Char),
      spelling.Begins name after text ∧ n = (spelling.write name).length := by
  unfold referenceAt? at found
  split at found
  · rename_i rest
    obtain ⟨marked, same⟩ := Option.ite_none_right_eq_some.mp found
    obtain ⟨written, after, whole, isVariable, taken, length⟩ := exists_name_marked marked
    obtain ⟨rfl, rfl⟩ := Prod.mk.inj (Option.some.inj same)
    rw [taken]
    refine ⟨.percent, after, ⟨isVariable, by simp [whole, Spelling.write], nofun⟩, ?_⟩
    simp [length, Spelling.write]
  · rename_i rest
    obtain ⟨marked, same⟩ := Option.ite_none_right_eq_some.mp found
    obtain ⟨written, after, whole, isVariable, taken, length⟩ := exists_name_marked marked
    obtain ⟨rfl, rfl⟩ := Prod.mk.inj (Option.some.inj same)
    rw [taken]
    refine ⟨.braced, after, ⟨isVariable, by simp [whole, Spelling.write], nofun⟩, ?_⟩
    simp [length, Spelling.write]
  · rename_i rest _
    obtain ⟨named, same⟩ := Option.ite_none_right_eq_some.mp found
    obtain ⟨written, after, whole, isVariable, ends, length⟩ := exists_name (by simpa using named)
    obtain ⟨rfl, rfl⟩ := Prod.mk.inj (Option.some.inj same)
    rw [← length, whole, List.take_left]
    exact ⟨.bare, after, ⟨isVariable, rfl, fun _ => ends⟩, rfl⟩
  · cases found

theorem mentions_iff {text name : List Char} :
    Mentions text name ↔ ∃ rest ∈ text.tails, (referenceAt? rest).map (·.1) = some name := by
  constructor
  · rintro ⟨rest, within, spelling, after, begins⟩
    refine ⟨rest, (List.mem_tails rest text).mpr within, ?_⟩
    rw [referenceAt?_of_begins begins]
    rfl
  · rintro ⟨rest, within, found⟩
    obtain ⟨⟨_, n⟩, read, rfl⟩ := Option.map_eq_some_iff.mp found
    obtain ⟨spelling, after, begins, -⟩ := begins_of_referenceAt? read
    exact ⟨rest, (List.mem_tails rest text).mp within, spelling, after, begins⟩

instance (text name : List Char) : Decidable (Mentions text name) :=
  decidable_of_iff _ mentions_iff.symm

/-! ### Expanding piece by piece -/

variable {environment : Environment}

theorem expandFrom_drop (n : Nat) (text : List Char) :
    expandFrom environment n text = expandFrom environment 0 (text.drop n) := by
  induction text generalizing n with
  | nil => cases n <;> rfl
  | cons c rest ih =>
    cases n with
    | zero => rfl
    | succ n =>
      rw [expandFrom]
      exact ih n

theorem expandFrom_begins {spelling : Spelling} {name after text : List Char}
    (begins : spelling.Begins name after text) :
    expandFrom environment 0 text =
      spelling.value environment name ++ expandFrom environment 0 after := by
  have found := referenceAt?_of_begins begins
  have taken : text.take (spelling.write name).length = spelling.write name := by
    rw [begins.text_eq, List.take_left]
  have dropped : text.drop (spelling.write name).length = after := by
    rw [begins.text_eq, List.drop_left]
  cases text with
  | nil => cases found
  | cons c rest =>
    have positive : (spelling.write name).length ≠ 0 := by
      cases spelling <;> simp [Spelling.write]
    obtain ⟨n, length⟩ := Nat.exists_eq_succ_of_ne_zero positive
    rw [expandFrom, found]
    dsimp only
    rw [expandFrom_drop, taken, Spelling.value]
    rw [length] at dropped ⊢
    rw [List.drop_succ_cons] at dropped
    rw [Nat.succ_sub_one, dropped]
    cases environment.get? (String.ofList name) <;> rfl

theorem expandFrom_other {c : Char} {rest : List Char} (none : referenceAt? (c :: rest) = none) :
    expandFrom environment 0 (c :: rest) = c :: expandFrom environment 0 rest := by
  rw [expandFrom, none]

theorem referenceAt?_of_unsigned {c : Char} (unsigned : c ≠ '%' ∧ c ≠ '$') (rest : List Char) :
    referenceAt? (c :: rest) = none := by
  unfold referenceAt?
  split
  · rename_i same
    exact absurd (List.cons.inj same).1 unsigned.1
  · rename_i same
    exact absurd (List.cons.inj same).1 unsigned.2
  · rename_i same
    exact absurd (List.cons.inj same).1 unsigned.2
  · rfl

theorem expandFrom_literal {literal : List Char} (unsigned : '%' ∉ literal ∧ '$' ∉ literal)
    (after : List Char) :
    expandFrom environment 0 (literal ++ after) = literal ++ expandFrom environment 0 after := by
  induction literal with
  | nil => rfl
  | cons c literal ih =>
    obtain ⟨percent, percents⟩ := List.ne_and_not_mem_of_not_mem_cons unsigned.1
    obtain ⟨dollar, dollars⟩ := List.ne_and_not_mem_of_not_mem_cons unsigned.2
    have none := referenceAt?_of_unsigned ⟨percent.symm, dollar.symm⟩ (literal ++ after)
    rw [List.cons_append, expandFrom_other none, ih ⟨percents, dollars⟩, List.cons_append]

/-- A piece of a text. -/
inductive Piece
  | literal (text : List Char)
  | reference (spelling : Spelling) (name : List Char)
  deriving DecidableEq, Repr

namespace Piece

def write : Piece → List Char
  | literal text => text
  | reference spelling name => spelling.write name

/-- What comes of the piece when the text is expanded. -/
def value (environment : Environment) : Piece → List Char
  | literal text => text
  | reference spelling name => spelling.value environment name

end Piece

/-- Literal pieces hold no sign of a reference, and nothing after a bare reference could be taken for a
part of its name. -/
inductive Composed : List Piece → Prop
  | nil : Composed []
  | literal {text : List Char} {rest : List Piece} (unsigned : '%' ∉ text ∧ '$' ∉ text)
      (composed : Composed rest) : Composed (.literal text :: rest)
  | reference {spelling : Spelling} {name : List Char} {rest : List Piece}
      (isVariable : IsVariable name) (ends : spelling = .bare → EndsName (rest.flatMap Piece.write))
      (composed : Composed rest) : Composed (.reference spelling name :: rest)

theorem expandFrom_pieces {pieces : List Piece} (composed : Composed pieces) :
    expandFrom environment 0 (pieces.flatMap Piece.write) =
      pieces.flatMap (Piece.value environment) := by
  induction composed with
  | nil => rfl
  | literal unsigned composed ih =>
    rw [List.flatMap_cons, List.flatMap_cons, ← ih]
    exact expandFrom_literal unsigned _
  | reference isVariable ends composed ih =>
    rw [List.flatMap_cons, List.flatMap_cons, ← ih]
    exact expandFrom_begins ⟨isVariable, rfl, ends⟩

/-! ### Variables that are not set -/

theorem Mentions.mono {text later name : List Char} (mentions : Mentions later name)
    (within : later <:+ text) : Mentions text name := by
  obtain ⟨rest, inside, begins⟩ := mentions
  exact ⟨rest, inside.trans within, begins⟩

theorem expandFrom_unset (text : List Char)
    (unset : ∀ name, Mentions text name → environment.get? (String.ofList name) = none) :
    expandFrom environment 0 text = text := by
  -- a reference takes more than one character, so the induction is on the length
  induction length : text.length using Nat.strongRecOn generalizing text with
  | ind n ih =>
    subst length
    have later : ∀ rest, rest <:+ text → rest.length < text.length →
        expandFrom environment 0 rest = rest := fun rest within shorter =>
      ih _ shorter rest (fun name mentions => unset name (mentions.mono within)) rfl
    cases text with
    | nil => rfl
    | cons c rest =>
      cases found : referenceAt? (c :: rest) with
      | none => rw [expandFrom_other found, later rest (List.suffix_cons c rest) (by simp)]
      | some reference =>
        obtain ⟨spelling, after, begins, -⟩ := begins_of_referenceAt? found
        have known := unset _ ⟨_, List.suffix_rfl, spelling, after, begins⟩
        have within : after <:+ c :: rest := ⟨_, begins.text_eq.symm⟩
        have shorter : after.length < (c :: rest).length := by
          rw [begins.text_eq, List.length_append]
          cases spelling <;> simp [Spelling.write]
        rw [expandFrom_begins begins, later after within shorter, Spelling.value, known]
        exact begins.text_eq.symm

/-- A text put together from pieces becomes what its pieces become, and a text stays as it is if no
variable that it mentions is set. -/
theorem expand_pieces (environment : Environment) :
    (∀ pieces, Composed pieces →
      expand environment (String.ofList (pieces.flatMap Piece.write)) =
        String.ofList (pieces.flatMap (Piece.value environment))) ∧
      ∀ text : String,
        (∀ name, Mentions text.toList name → environment.get? (String.ofList name) = none) →
        expand environment text = text := by
  refine ⟨fun pieces composed => ?_, fun text unset => ?_⟩
  · rw [expand, String.toList_ofList, expandFrom_pieces composed]
  · rw [expand, expandFrom_unset text.toList unset, String.ofList_toList]

/-- Values that look like references. -/
def engineVariables : Environment := [("A", "%B%"), ("B", "$A")]

/-- The pieces of the text `%A%%B%$A${C}/lib`. -/
def adjoiningPieces : List Piece :=
  [.reference .percent ['A'], .reference .percent ['B'], .reference .bare ['A'],
   .reference .braced ['C'], .literal "/lib".toList]

theorem composed_adjoiningPieces : Composed adjoiningPieces :=
  .reference (isVariable_letter (by decide)) nofun <|
    .reference (isVariable_letter (by decide)) nofun <|
      .reference (isVariable_letter (by decide))
          (fun _ => endsName_cons not_isVariablePart_mark.2.1 _) <|
        .reference (isVariable_letter (by decide)) nofun <| .literal (by decide) .nil

theorem engineVariables_keys {name : String} (other : name ≠ "A" ∧ name ≠ "B") :
    engineVariables.get? name = none := by
  simp [engineVariables, Environment.get?, other.1.symm, other.2.symm]

theorem expand_pieces_adjoining :
    (Composed adjoiningPieces ∧
      expand engineVariables "%A%%B%$A$\x7bC\x7d/lib" = "%B%$A%B%$\x7bC\x7d/lib") ∧
      (∀ name, Mentions "5% of %A or $\x7bB, $5 %C% $".toList name →
        engineVariables.get? (String.ofList name) = none) ∧
      expand engineVariables "5% of %A or $\x7bB, $5 %C% $" = "5% of %A or $\x7bB, $5 %C% $" := by
  obtain ⟨pieces, kept⟩ := expand_pieces engineVariables
  have unset : ∀ name, Mentions "5% of %A or $\x7bB, $5 %C% $".toList name →
      engineVariables.get? (String.ofList name) = none := fun name mentions => by
    refine engineVariables_keys ⟨fun same => ?_, fun same => ?_⟩
    all_goals
      have letters := congrArg String.toList same
      rw [String.toList_ofList] at letters
      subst letters
      exact absurd mentions (by decide)
  have expanded := pieces _ composed_adjoiningPieces
  rw [(by decide +kernel : String.ofList (adjoiningPieces.flatMap Piece.write) = "%A%%B%$A$\x7bC\x7d/lib"),
    (by decide +kernel : String.ofList (adjoiningPieces.flatMap (Piece.value engineVariables)) =
      "%B%$A%B%$\x7bC\x7d/lib")] at expanded
  exact ⟨⟨composed_adjoiningPieces, expanded⟩, unset, kept _ unset⟩

end ScriptDeps.SearchPath
