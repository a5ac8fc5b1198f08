import ScriptDeps.Proofs.Script.Declarations

/-!
# Two kinds of comments

A compiler knows two kinds of comments: one that runs to the end of its line, in which `/*` means
nothing, and one that runs from `/*` to `*/`. Blanking knows only the second kind. The two see the same
block comments exactly if no line comment holds a `/*` that a `*/` follows, and then what is declared
is what the compiler's block comments leave. Texts are taken to have no literals.
-/

namespace ScriptDeps.Script

/-! ### Two readings of a text -/

/-- What a character of a script belongs to. -/
inductive Part
  | code
  | lineComment
  | blockComment
  deriving DecidableEq, Repr

/-- Whether a declaration cannot stand there. -/
def Part.hides : Part → Bool
  | code | lineComment => false
  | blockComment => true

/-- Whether the character ends a line for a compiler. -/
def endsLine (c : Char) : Bool :=
  c == '\n' || c == '\r' || c == '\u0085' || c == '\u2028' || c == '\u2029'

/-- What each character of a text belongs to, if the text starts in a part. A block comment that is
not closed is none. -/
def partsFrom : Part → List Char → List Part
  | _, [] => []
  | .code, [_] => [.code]
  | .code, c :: d :: rest =>
    if c == '/' && d == '*' && hasClose rest then
      .blockComment :: .blockComment :: partsFrom .blockComment rest
    else if c == '/' && d == '/' then .lineComment :: partsFrom .lineComment (d :: rest)
    else .code :: partsFrom .code (d :: rest)
  | .lineComment, c :: rest =>
    if endsLine c then .code :: partsFrom .code rest
    else .lineComment :: partsFrom .lineComment rest
  | .blockComment, [_] => [.blockComment]
  | .blockComment, c :: d :: rest =>
    if c == '*' && d == '/' then .blockComment :: .blockComment :: partsFrom .code rest
    else .blockComment :: partsFrom .blockComment (d :: rest)

def parts (text : List Char) : List Part :=
  partsFrom .code text

/-- Which characters a block comment hides for a compiler. -/
def commented (text : List Char) : List Bool :=
  (parts text).map Part.hides

/-- Which characters blanking hides; `inside` tells that the text starts in a comment. -/
def blankedFrom : Bool → List Char → List Bool
  | _, [] => []
  | inside, [_] => [inside]
  | true, c :: d :: rest =>
    if c == '*' && d == '/' then true :: true :: blankedFrom false rest
    else true :: blankedFrom true (d :: rest)
  | false, c :: d :: rest =>
    if c == '/' && d == '*' && hasClose rest then true :: true :: blankedFrom true rest
    else false :: blankedFrom false (d :: rest)

def blanked (text : List Char) : List Bool :=
  blankedFrom false text

/-- A text without its hidden characters, but with all line feeds. -/
def remaining : List Char → List Bool → List Char
  | c :: text, hidden :: marks =>
    if hidden && c != '\n' then remaining text marks else c :: remaining text marks
  | _, _ => []

theorem remaining_blanked (inside : Bool) (text : List Char) :
    remaining text (blankedFrom inside text) = blankFrom inside text := by
  fun_induction blankedFrom inside text with
  | case1 inside => rfl
  | case2 inside c =>
    cases inside with
    | false => rfl
    | true => by_cases feed : c = '\n' <;> simp [remaining, blankFrom, feed]
  | case3 c d rest ends ih =>
    obtain ⟨rfl, rfl⟩ : c = '*' ∧ d = '/' := by simpa using ends
    simpa [remaining, blankFrom] using ih
  | case4 c d rest goesOn ih =>
    by_cases feed : c = '\n' <;> simp_all [remaining, blankFrom]
  | case5 c d rest opens ih =>
    obtain ⟨⟨rfl, rfl⟩, closes⟩ : (c = '/' ∧ d = '*') ∧ hasClose rest = true := by simpa using opens
    simpa [remaining, blankFrom, closes] using ih
  | case6 c d rest plain ih => simpa [remaining, blankFrom, plain] using ih

/-! ### Where they part -/

/-- Whether a text starts with the start of a block comment that is closed later. -/
def opens : List Char → Bool
  | c :: d :: rest => c == '/' && d == '*' && hasClose rest
  | _ => false

/-- A line comment holds the start of a block comment that is closed later. -/
def Misleads (parts : List Part) (text : List Char) : Prop :=
  ∃ i, parts[i]? = some .lineComment ∧ opens (text.drop i) = true

theorem misleads_cons (part : Part) (parts : List Part) (c : Char) (text : List Char) :
    Misleads (part :: parts) (c :: text) ↔
      part = .lineComment ∧ opens (c :: text) = true ∨ Misleads parts text := by
  constructor
  · rintro ⟨_ | i, here, starts⟩
    · exact .inl ⟨Option.some.inj here, starts⟩
    · exact .inr ⟨i, here, starts⟩
  · rintro (⟨rfl, starts⟩ | ⟨i, here, starts⟩)
    · exact ⟨0, rfl, starts⟩
    · exact ⟨i + 1, here, starts⟩

theorem not_misleads_nil (parts : List Part) : ¬Misleads parts [] := by
  rintro ⟨i, -, starts⟩
  rw [List.drop_nil] at starts
  cases starts

theorem blankedFrom_outside (c : Char) (rest : List Char) :
    blankedFrom false (c :: rest) =
      if opens (c :: rest) then true :: true :: blankedFrom true rest.tail
      else false :: blankedFrom false rest := by
  cases rest with
  | nil => rfl
  | cons d rest => rfl

theorem opens_of_endsLine {c : Char} (ends : endsLine c = true) (rest : List Char) :
    opens (c :: rest) = false := by
  have other : c ≠ '/' := by
    rintro rfl
    exact absurd ends (by decide)
  cases rest with
  | nil => rfl
  | cons d rest => simp [opens, other]

/-- From where the two readings agree on what they are in, they hide the same exactly if no line
comment misleads. -/
theorem blankedFrom_eq_iff (part : Part) (text : List Char) :
    blankedFrom part.hides text = (partsFrom part text).map Part.hides ↔
      ¬Misleads (partsFrom part text) text := by
  fun_induction partsFrom part text with
  | case1 part => exact iff_of_true (by cases part <;> rfl) (not_misleads_nil [])
  | case2 c => simp [blankedFrom, Part.hides, misleads_cons, not_misleads_nil]
  | case3 c d rest starts ih =>
    have opened : opens (c :: d :: rest) = true := starts
    simpa [Part.hides, blankedFrom_outside, opened, misleads_cons] using ih
  | case4 c d rest other starts ih =>
    have closed : opens (c :: d :: rest) = false := eq_false_of_ne_true other
    simpa [Part.hides, blankedFrom_outside c, closed, misleads_cons .lineComment _ c] using ih
  | case5 c d rest other plain ih =>
    have closed : opens (c :: d :: rest) = false := eq_false_of_ne_true other
    simpa [Part.hides, blankedFrom_outside c, closed, misleads_cons .code _ c] using ih
  | case6 c rest ends ih =>
    have closed : opens (c :: rest) = false := opens_of_endsLine ends rest
    simpa [Part.hides, blankedFrom_outside c, closed, misleads_cons .code _ c] using ih
  | case7 c rest goesOn ih =>
    rw [List.map_cons, misleads_cons, Part.hides, blankedFrom_outside]
    split
    · rename_i misled
      exact iff_of_false (by simp) (by simp [misled])
    · rename_i closed
      simpa [Part.hides, closed] using ih
  | case8 c => simp [blankedFrom, Part.hides, misleads_cons, not_misleads_nil]
  | case9 c d rest ends ih => simpa [blankedFrom, Part.hides, ends, misleads_cons] using ih
  | case10 c d rest goesOn ih => simpa [blankedFrom, Part.hides, goesOn, misleads_cons] using ih

/-! ### What is declared -/

/-- What a script declares in what is seen of it. -/
def Directives.ofSeen (seen : List Char) (file : String) : Directives :=
  addLines file
    { namespaces := ((lineTails seen).filterMap usingAt?).foldl addNew []
      autoClass := asksForClass (String.ofList seen) } 1 (lines seen)

theorem addLine_autoClass (file : String) (d : Directives) (asks : Bool) (number : Nat)
    (text : List Char) :
    addLine file { d with autoClass := asks } number text =
      { addLine file d number text with autoClass := asks } := by
  unfold addLine
  cases directiveOn? text with
  | none => rfl
  | some directive =>
    obtain ⟨kind, value⟩ := directive
    cases kind <;> simp only [Directives.add]

theorem addLines_autoClass (file : String) (d : Directives) (asks : Bool) (number : Nat)
    (texts : List (List Char)) :
    Directives.addLines file { d with autoClass := asks } number texts =
      { Directives.addLines file d number texts with autoClass := asks } := by
  induction texts generalizing d number with
  | nil => rfl
  | cons text rest ih => rw [addLines_cons, addLines_cons, addLine_autoClass, ih]

/-- Only the request to be wrapped is looked for in what blanking hides as well. -/
theorem ofText_eq_ofSeen (text file : String) :
    Directives.ofText text file =
      { Directives.ofSeen (blankComments text.toList) file with autoClass := asksForClass text } := by
  rw [Directives.ofSeen, ← addLines_autoClass]
  rfl

/-- What a compiler's block comments leave of a text. -/
def shown (text : List Char) : List Char :=
  remaining text (commented text)

/-- Blanking leaves what it does not hide. It hides what a compiler's block comments hide exactly if
no line comment holds the start of a block comment that is closed later. Then what is declared, the
request to be wrapped apart, is what is declared outside of them. -/
theorem blanked_eq_commented_iff (text : String) :
    blankComments text.toList = remaining text.toList (blanked text.toList) ∧
      (blanked text.toList = commented text.toList ↔ ¬Misleads (parts text.toList) text.toList) ∧
      (¬Misleads (parts text.toList) text.toList → ∀ file,
        Directives.ofText text file =
          { Directives.ofSeen (shown text.toList) file with autoClass := asksForClass text }) := by
  have hidden := blankedFrom_eq_iff .code text.toList
  have left : blankComments text.toList = remaining text.toList (blanked text.toList) :=
    (remaining_blanked false text.toList).symm
  refine ⟨left, hidden, fun leads file => ?_⟩
  have same : blanked text.toList = commented text.toList := hidden.mpr leads
  rw [ofText_eq_ofSeen, left, same, shown]

theorem blanked_eq_commented_mixed :
    ¬Misleads (parts "// a */ b\n/* using B; // */ using A; // c".toList)
        "// a */ b\n/* using B; // */ using A; // c".toList ∧
      Directives.ofText "// a */ b\n/* using B; // */ using A; // c" "" =
        .ofSeen "// a */ b\n using A; // c".toList "" := by
  obtain ⟨-, agrees, reads⟩ :=
    blanked_eq_commented_iff "// a */ b\n/* using B; // */ using A; // c"
  have leads := agrees.mp (by decide +kernel)
  refine ⟨leads, (reads leads "").trans ?_⟩
  decide +kernel

/-- A directory that is given by a pattern opens a comment, and the next pattern closes it. -/
theorem blanked_pattern :
    Misleads (parts "//css_dir lib/*\nusing A;\n//css_dir x*/".toList)
        "//css_dir lib/*\nusing A;\n//css_dir x*/".toList ∧
      blanked "//css_dir lib/*\nusing A;\n//css_dir x*/".toList ≠
        commented "//css_dir lib/*\nusing A;\n//css_dir x*/".toList ∧
      Directives.ofText "//css_dir lib/*\nusing A;\n//css_dir x*/" "" =
        { searchDirs := ["lib"] } ∧
      Directives.ofSeen (shown "//css_dir lib/*\nusing A;\n//css_dir x*/".toList) "" =
        { namespaces := ["A"], searchDirs := ["lib/*", "x*/"] } :=
  ⟨⟨13, by decide +kernel, by decide +kernel⟩, by decide +kernel, by decide +kernel,
    by decide +kernel⟩

end ScriptDeps.Script
