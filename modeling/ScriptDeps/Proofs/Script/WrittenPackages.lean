import ScriptDeps.Proofs.Script.WrittenValues

/-!
# Values of package directives

The options and the names that are read back from the value of a package directive. The options
hold for all names, and only empty names and an empty version are not read back.
-/

namespace ScriptDeps.Script

/-- The name or the version of a package. -/
@[mk_iff]
structure PlainWord (word : String) : Prop extends PlainValue word where
  blankless : word.toList.any Text.isBlank = false
  single : ',' ∉ word.toList

instance (word : String) : Decidable (PlainWord word) :=
  decidable_of_iff' _ (plainWord_iff word)

theorem PlainWord.unbroken {word : String} (plain : PlainWord word) :
    ∀ c ∈ word.toList, Text.isBlank c = false := by
  simpa using plain.blankless

/-- A text with blanks for commas. -/
def spaced (text : List Char) : List Char :=
  text.map fun c => if c == ',' then ' ' else c

theorem spaced_append (first second : List Char) :
    spaced (first ++ second) = spaced first ++ spaced second :=
  List.map_append

theorem spaced_of_notMem {text : List Char} (absent : ',' ∉ text) : spaced text = text := by
  refine (List.map_congr_left fun c member => ?_).trans (List.map_id text)
  have other : c ≠ ',' := by
    rintro rfl
    exact absent member
  simp [other]

theorem spaced_blanks {text : List Char} (blanks : ∀ c ∈ text, Text.isBlank c = true) :
    ∀ c ∈ spaced text, Text.isBlank c = true := by
  intro c member
  obtain ⟨d, among, rfl⟩ := List.mem_map.mp member
  split
  · decide
  · exact blanks d among

theorem words_spaced_trim (text : List Char) :
    Text.words (spaced (Text.trim text)) = Text.words (spaced text) := by
  obtain ⟨before, after, cut, first, last⟩ := Text.exists_trimBoth (p := Text.isBlank) text
  conv => rhs; rw [cut, spaced_append, spaced_append]
  rw [Text.words_append_blanks (spaced_blanks last), Text.words_blanks (spaced_blanks first)]
  rfl

/-- The options and the names of packages, as a package directive's value has them. -/
def writtenPackages (names : List String) (version : Option String) (noReference : Bool) :
    List Char :=
  (if noReference then "-noref ".toList else []) ++
    (version.toList.flatMap fun version => "-ver:".toList ++ version.toList ++ [' ']) ++
      ", ".toList.intercalate (names.map String.toList)

theorem harmless_names {names : List String} (plain : ∀ name ∈ names, PlainWord name) :
    Harmless (", ".toList.intercalate (names.map String.toList)) := by
  have comma : Harmless ", ".toList := by decide
  induction names with
  | nil => exact harmless_of_forall nofun
  | cons name names ih =>
    obtain ⟨here, later⟩ := List.forall_mem_cons.mp plain
    cases names with
    | nil =>
      rw [List.map_cons, List.map_nil, List.intercalate_singleton]
      exact here.toHarmless
    | cons next names =>
      have last : (name.toList ++ ", ".toList).getLast? = some ' ' := by
        rw [List.getLast?_append]
        rfl
      have first := here.toHarmless.append comma (.inr (by decide))
      rw [List.map_cons, List.map_cons, List.intercalate_cons_cons, ← List.map_cons]
      exact first.append (ih later) (.inl (by rw [last]; decide))

theorem harmless_writtenPackages {names : List String} (plain : ∀ name ∈ names, PlainWord name)
    {version : Option String} (versioned : ∀ v ∈ version, PlainWord v) (noReference : Bool) :
    Harmless (writtenPackages names version noReference) := by
  have listed := harmless_names plain
  have dash : Harmless (if noReference then "-noref ".toList else []) := by
    cases noReference <;> decide
  have dashed : (if noReference then "-noref ".toList else []).getLast? ≠ some '/' := by
    cases noReference <;> decide
  have space : Harmless [' '] := by decide
  have start : Harmless "-ver:".toList := by decide
  unfold writtenPackages
  cases version with
  | none =>
    rw [Option.toList_none, List.flatMap_nil, List.append_nil]
    exact dash.append listed (.inl dashed)
  | some version =>
    have option : Harmless ("-ver:".toList ++ version.toList ++ [' ']) :=
      (start.append (versioned version rfl).toHarmless (.inl (by decide))).append space
        (.inr (by decide))
    have last : ((if noReference then "-noref ".toList else []) ++
        ("-ver:".toList ++ version.toList ++ [' '])).getLast? = some ' ' := by
      rw [← List.append_assoc, List.getLast?_concat]
    rw [Option.toList_some, List.flatMap_singleton]
    exact (dash.append option (.inl dashed)).append listed (.inl (by rw [last]; decide))

theorem words_names {names : List String} (plain : ∀ name ∈ names, PlainWord name) :
    Text.words (spaced (", ".toList.intercalate (names.map String.toList))) =
      (names.map String.toList).filter (· ≠ []) := by
  induction names with
  | nil => rfl
  | cons name names ih =>
    obtain ⟨here, later⟩ := List.forall_mem_cons.mp plain
    have word := spaced_of_notMem here.single
    cases names with
    | nil =>
      rw [List.map_cons, List.map_nil, List.intercalate_singleton, word,
        Text.words_word here.unbroken]
    | cons next names =>
      have gap : spaced ", ".toList = ' ' :: [' '] := by decide
      have blank : Text.isBlank ' ' = true := by decide
      rw [List.map_cons, List.map_cons, List.intercalate_cons_cons, ← List.map_cons, spaced_append,
        spaced_append, word, gap, List.append_assoc, List.cons_append,
        Text.words_append here.unbroken blank, List.singleton_append, Text.words_blank blank,
        ih later, ← List.filter_append, List.singleton_append]

/-- The options as they are written. -/
def writtenOptions (version : Option String) (noReference : Bool) : List (List Char) :=
  (if noReference then ["-noref".toList] else []) ++
    version.toList.map fun version => "-ver:".toList ++ version.toList

theorem words_written {names : List String} (plain : ∀ name ∈ names, PlainWord name)
    {version : Option String} (versioned : ∀ v ∈ version, PlainWord v) (noReference : Bool) :
    Text.words (spaced (writtenPackages names version noReference)) =
      writtenOptions version noReference ++ (names.map String.toList).filter (· ≠ []) := by
  have blank : Text.isBlank ' ' = true := by decide
  have rest : Text.words (spaced ((version.toList.flatMap fun version =>
      "-ver:".toList ++ version.toList ++ [' ']) ++
        ", ".toList.intercalate (names.map String.toList))) =
      (version.toList.map fun version => "-ver:".toList ++ version.toList) ++
        (names.map String.toList).filter (· ≠ []) := by
    cases version with
    | none => exact words_names plain
    | some version =>
      have word := versioned version rfl
      have unbroken : ∀ c ∈ "-ver:".toList ++ version.toList, Text.isBlank c = false := by
        have start : "-ver:".toList.any Text.isBlank = false := by decide
        exact List.forall_mem_append.mpr ⟨by simpa using start, word.unbroken⟩
      have whole : ',' ∉ "-ver:".toList ++ version.toList := by
        simp [word.single]
      have gap : spaced [' '] = [' '] := by decide
      rw [Option.toList_some, List.flatMap_singleton, spaced_append, spaced_append,
        spaced_of_notMem whole, gap, List.append_assoc, List.singleton_append,
        Text.words_append unbroken blank, words_names plain]
      rfl
  unfold writtenPackages writtenOptions
  rw [List.append_assoc]
  cases noReference with
  | false => exact rest
  | true =>
    have unbroken : ∀ c ∈ "-noref".toList, Text.isBlank c = false := by
      have none : "-noref".toList.any Text.isBlank = false := by decide
      simpa using none
    have cut : spaced "-noref ".toList = "-noref".toList ++ ' ' :: [] := by decide
    rw [if_pos rfl, if_pos rfl, spaced_append, cut, List.append_assoc, List.cons_append,
      List.nil_append, Text.words_append unbroken blank, rest]
    rfl

def readOption (options : PackageOptions) : List Char → PackageOptions
  | '-' :: option => options.read option
  | _ => options

theorem readOption_dash (options : PackageOptions) (option : List Char) :
    readOption options ('-' :: option) = options.read option := rfl

theorem packagesOfValue_eq (value : List Char) : packagesOfValue value =
    ((((Text.words (spaced value)).filter fun token => token.head? != some '-').map unquote).filter
        (!·.isEmpty)).map fun name =>
      ⟨name, ((Text.words (spaced value)).foldl readOption {}).version,
        ((Text.words (spaced value)).foldl readOption {}).noReference⟩ := by
  rfl

theorem read_noReference (options : PackageOptions) :
    options.read "noref".toList = { options with noReference := true } := by
  have lowered : (Text.lower (String.ofList "noref".toList)).toList = "noref".toList := by
    decide +kernel
  unfold PackageOptions.read
  dsimp only
  rw [lowered]
  rfl

theorem read_version (options : PackageOptions) {version : String} (plain : PlainWord version) :
    options.read ("ver:".toList ++ version.toList) =
      { options with version := (some version).filter (· ≠ "") } := by
  have lowered : (Text.lower (String.ofList ("ver:".toList ++ version.toList))).toList =
      "ver:".toList ++ Text.lowerFrom [':', 'r', 'e', 'v'] version.toList := by
    unfold Text.lower
    rw [String.toList_ofList, String.toList_ofList]
    rfl
  have other : ("ver:".toList ++ Text.lowerFrom [':', 'r', 'e', 'v'] version.toList ==
      "noref".toList) = false := by
    rw [beq_eq_false_iff_ne]
    intro same
    cases (List.cons_eq_cons.mp same).1
  have starts : "ver:".toList.isPrefixOf
      ("ver:".toList ++ Text.lowerFrom [':', 'r', 'e', 'v'] version.toList) = true :=
    List.isPrefixOf_iff_prefix.mpr (List.prefix_append _ _)
  have value : ("ver:".toList ++ version.toList).drop 4 = version.toList := rfl
  unfold PackageOptions.read
  dsimp only
  rw [lowered, other, starts, value, plain.unquote]
  by_cases empty : version = ""
  · simp [empty, Option.filter_some]
  · simp [empty, Option.filter_some]

theorem foldl_writtenOptions {version : Option String} (versioned : ∀ v ∈ version, PlainWord v)
    (noReference : Bool) : (writtenOptions version noReference).foldl readOption {} =
      ⟨version.filter (· ≠ ""), noReference⟩ := by
  have ofVersion : ∀ options : PackageOptions, options.version = none →
      (version.toList.map fun version => "-ver:".toList ++ version.toList).foldl readOption options =
        ⟨version.filter (· ≠ ""), options.noReference⟩ := by
    intro options unversioned
    cases version with
    | none =>
      obtain ⟨_, noReference⟩ := options
      obtain rfl : _ = none := unversioned
      rfl
    | some version =>
      have dash : "-ver:".toList ++ version.toList = '-' :: ("ver:".toList ++ version.toList) := rfl
      rw [Option.toList_some, List.map_singleton, List.foldl_cons, List.foldl_nil, dash,
        readOption_dash, read_version options (versioned version rfl)]
  unfold writtenOptions
  rw [List.foldl_append]
  cases noReference with
  | false => exact ofVersion {} rfl
  | true =>
    have dash : "-noref".toList = '-' :: "noref".toList := rfl
    rw [if_pos rfl, List.foldl_cons, List.foldl_nil, dash, readOption_dash, read_noReference]
    exact ofVersion { noReference := true } rfl

theorem foldl_names {tokens : List (List Char)} (named : ∀ token ∈ tokens, token.head? ≠ some '-')
    (options : PackageOptions) : tokens.foldl readOption options = options := by
  induction tokens with
  | nil => rfl
  | cons token tokens ih =>
    obtain ⟨here, later⟩ := List.forall_mem_cons.mp named
    have skipped : readOption options token = options := by
      unfold readOption
      split
      · exact absurd rfl here
      · rfl
    rw [List.foldl_cons, skipped, ih later]

/-- Every name is a package, and the options hold for all of them. -/
theorem packagesOfValue_written {names : List String}
    (plain : ∀ name ∈ names, PlainWord name ∧ name.toList.head? ≠ some '-')
    {version : Option String} (versioned : ∀ v ∈ version, PlainWord v) (noReference : Bool) :
    packagesOfValue (Text.trim (writtenPackages names version noReference)) =
      (names.filter (· ≠ "")).map fun name => ⟨name, version.filter (· ≠ ""), noReference⟩ := by
  have words := words_written (fun name member => (plain name member).1) versioned noReference
  have tokens : (names.map String.toList).filter (· ≠ []) =
      (names.filter (· ≠ "")).map String.toList := by
    rw [List.filter_map]
    congr 1
    refine List.filter_congr fun name _ => ?_
    by_cases empty : name = ""
    · simp [empty]
    · have some : name.toList ≠ [] := fun none => empty (String.toList_inj.mp none)
      simp [empty, some]
  have named : ∀ token ∈ (names.filter (· ≠ "")).map String.toList,
      token.head? ≠ some '-' := by
    intro token member
    obtain ⟨name, kept, rfl⟩ := List.mem_map.mp member
    exact (plain name (List.mem_filter.mp kept).1).2
  have options : (writtenOptions version noReference).filter
      (fun token => token.head? != some '-') = [] := by
    unfold writtenOptions
    cases noReference <;> cases version <;> rfl
  have kept : ((names.filter (· ≠ "")).map String.toList).filter
      (fun token => token.head? != some '-') = (names.filter (· ≠ "")).map String.toList :=
    List.filter_eq_self.mpr fun token member => bne_iff_ne.mpr (named token member)
  have read : ((names.filter (· ≠ "")).map String.toList).map unquote = names.filter (· ≠ "") := by
    rw [List.map_map]
    refine (List.map_congr_left fun name member => ?_).trans (List.map_id _)
    exact (plain name (List.mem_filter.mp member).1).1.unquote
  have some : (names.filter (· ≠ "")).filter (!·.isEmpty) = names.filter (· ≠ "") := by
    refine List.filter_eq_self.mpr fun name member => ?_
    have nonempty := (List.mem_filter.mp member).2
    simpa [String.isEmpty_iff] using nonempty
  rw [packagesOfValue_eq, words_spaced_trim, words, tokens, List.filter_append, options,
    List.nil_append, kept, read, some, List.foldl_append, foldl_writtenOptions versioned,
    foldl_names named]

end ScriptDeps.Script
