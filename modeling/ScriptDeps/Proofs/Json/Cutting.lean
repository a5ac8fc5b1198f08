import ScriptDeps.Json.Reader
import ScriptDeps.Json.Writer

/-!
# Cutting written values

A value that is written in any layout is cut into its own tokens again: `Textual.cutsAs` says so of
the values without numbers whose texts have no half of a surrogate pair standing alone. A half that
stands alone joins the one written after it, if there is one to join: `joined` is the text that is
read where any other was written.
-/

namespace ScriptDeps

theorem LooseText.ofString_injective {a b : String} (same : ofString a = ofString b) : a = b :=
  Option.some.inj (((toString?_ofString a).symm.trans (congrArg toString? same)).trans
    (toString?_ofString b))

namespace Json

/-! ### Values that are written exactly -/

/-- Values made of texts, truth values and null, with no name twice in an object. -/
inductive Textual : Json → Prop
  | null : Textual .null
  | bool (value : Bool) : Textual (.bool value)
  | text (value : String) : Textual (.text (.ofString value))
  | list {items : List Json} (each : ∀ item ∈ items, Textual item) : Textual (.list items)
  | object {members : List (LooseText × Json)} (unique : (members.map (·.1)).Nodup)
      (names : ∀ member ∈ members, ∃ name : String, member.1 = .ofString name)
      (each : ∀ member ∈ members, Textual member.2) : Textual (.object members)

theorem textual_ofTexts (texts : List String) : Textual (.ofTexts texts) := by
  refine .list fun item member => ?_
  obtain ⟨text, _, rfl⟩ := List.mem_map.mp member
  exact .text text

mutual

/-- The tokens of a value. -/
def tokens : Json → List Token
  | list [] => [.openList, .closeList]
  | list (item :: rest) => .openList :: (tokens item ++ itemTokens rest ++ [.closeList])
  | object [] => [.openObject, .closeObject]
  | object ((name, value) :: rest) =>
    .openObject :: .value (.text name) :: .colon ::
      (tokens value ++ memberTokens rest ++ [.closeObject])
  | value => [.value value]

def itemTokens : List Json → List Token
  | [] => []
  | item :: rest => .comma :: (tokens item ++ itemTokens rest)

def memberTokens : List (LooseText × Json) → List Token
  | [] => []
  | (name, value) :: rest =>
    .comma :: .value (.text name) :: .colon :: (tokens value ++ memberTokens rest)

end

/-! ### Texts -/

theorem tokensFrom_cons (cutter : Cutter) (c : Char) (rest : List Char) :
    tokensFrom cutter (c :: rest) = (feed c cutter).1 ++ tokensFrom (feed c cutter).2 rest := rfl

theorem hexDigits_four {n : Nat} (small : n < 0x10000) :
    Text.hexDigits 4 n = [Nat.digitChar (n / 16 / 16 / 16), Nat.digitChar (n / 16 / 16 % 16),
      Nat.digitChar (n / 16 % 16), Nat.digitChar (n % 16)] := by
  have digits : ∀ m, Nat.toDigits 16 m =
      if m < 16 then [m.digitChar] else Nat.toDigits 16 (m / 16) ++ [(m % 16).digitChar] :=
    fun m => Nat.toDigits_eq_if (by decide)
  have zero : ∀ {m}, m = 0 → Nat.digitChar m = '0' := fun same => same ▸ rfl
  have short : ∀ {m}, m < 16 → Nat.digitChar m = Nat.digitChar (m % 16) := fun less => by
    rw [Nat.mod_eq_of_lt less]
  rw [Text.hexDigits]
  by_cases one : n < 16
  · rw [digits n, if_pos one, zero (by omega : n / 16 / 16 / 16 = 0),
      zero (by omega : n / 16 / 16 % 16 = 0), zero (by omega : n / 16 % 16 = 0), short one]
    rfl
  rw [digits n, if_neg one]
  by_cases two : n / 16 < 16
  · rw [digits (n / 16), if_pos two, zero (by omega : n / 16 / 16 / 16 = 0),
      zero (by omega : n / 16 / 16 % 16 = 0), short two]
    rfl
  rw [digits (n / 16), if_neg two]
  by_cases three : n / 16 / 16 < 16
  · rw [digits (n / 16 / 16), if_pos three, zero (by omega : n / 16 / 16 / 16 = 0), short three]
    rfl
  rw [digits (n / 16 / 16), if_neg three, digits (n / 16 / 16 / 16), if_pos (by omega)]
  rfl

theorem hexValue?_digitChar {n : Nat} (small : n < 16) : hexValue? n.digitChar = some n := by
  have all : ∀ n < 16, hexValue? n.digitChar = some n := by decide
  exact all n small

theorem tokensFrom_unitEscape {n : Nat} (small : n < 0x10000) (read : List CodePoint)
    (high : Option (Fin 1024)) (rest : List Char) :
    tokensFrom (.inText read high) (unitEscape n ++ rest) =
      tokensFrom (.inText (addUnit read high n).1 (addUnit read high n).2) rest := by
  have whole : ((n / 16 / 16 / 16 * 16 + n / 16 / 16 % 16) * 16 + n / 16 % 16) * 16 + n % 16 = n := by
    omega
  rw [unitEscape, hexDigits_four small]
  simp only [List.cons_append, List.nil_append, tokensFrom_cons, feed, beq_self_eq_true, if_true,
    hexValue?_digitChar (by omega : n / 16 / 16 / 16 < 16),
    hexValue?_digitChar (by omega : n / 16 / 16 % 16 < 16),
    hexValue?_digitChar (by omega : n / 16 % 16 < 16), hexValue?_digitChar (by omega : n % 16 < 16),
    whole]

section Texts

variable {read : List CodePoint} {high : Option (Fin 1024)} {rest : List Char}

theorem addUnit_char (c : Char) (small : c.toNat < 0x10000) :
    addUnit read high c.toNat = (.char c :: settle read high, none) := by
  have valid : c.toNat < 0xD800 ∨ 0xDFFF < c.toNat ∧ c.toNat < 0x110000 := c.valid
  unfold addUnit
  rw [if_neg (by simp only [Bool.and_eq_true, decide_eq_true_eq]; omega),
    if_neg (by simp only [Bool.and_eq_true, decide_eq_true_eq]; omega), Char.ofNat_toNat]

/-- The first unit of a character beyond the first plane waits for the second. -/
theorem addUnit_first (c : Char) :
    addUnit read high (0xD800 + (c.toNat - 0x10000) / 0x400) =
      (settle read high, some (Fin.ofNat 1024 ((c.toNat - 0x10000) / 0x400))) := by
  have valid : c.toNat < 0xD800 ∨ 0xDFFF < c.toNat ∧ c.toNat < 0x110000 := c.valid
  have same : (Fin.ofNat 1024 (0xD800 + (c.toNat - 0x10000) / 0x400)) =
      Fin.ofNat 1024 ((c.toNat - 0x10000) / 0x400) := Fin.ext (by simp only [Fin.val_ofNat]; omega)
  unfold addUnit
  rw [if_pos (by simp only [Bool.and_eq_true, decide_eq_true_eq]; omega), same]

/-- The two units of a character beyond the first plane are put together. -/
theorem addUnit_second (c : Char) (large : ¬ c.toNat < 0x10000) :
    addUnit read (some (Fin.ofNat 1024 ((c.toNat - 0x10000) / 0x400)))
      (0xDC00 + (c.toNat - 0x10000) % 0x400) = (.char c :: read, none) := by
  have valid : c.toNat < 0xD800 ∨ 0xDFFF < c.toNat ∧ c.toNat < 0x110000 := c.valid
  rw [addUnit, if_neg (by simp only [Bool.and_eq_true, decide_eq_true_eq]; omega),
    if_pos (by simp only [Bool.and_eq_true, decide_eq_true_eq]; omega), Fin.val_ofNat,
    show 0x10000 + (c.toNat - 0x10000) / 0x400 % 1024 * 0x400 +
      (0xDC00 + (c.toNat - 0x10000) % 0x400 - 0xDC00) = c.toNat by omega, Char.ofNat_toNat]

theorem tokensFrom_escapeChar (c : Char) :
    tokensFrom (.inText read high) (escapeChar c ++ rest) =
      tokensFrom (.inText (.char c :: settle read high) none) rest := by
  by_cases named : c ∈ ['"', '\\', '\n', '\r', '\t', '\x08', '\x0c']
  · simp only [List.mem_cons, List.not_mem_nil, or_false] at named
    rcases named with rfl | rfl | rfl | rfl | rfl | rfl | rfl <;> rfl
  simp only [List.mem_cons, List.not_mem_nil, or_false, not_or] at named
  obtain ⟨quote, slash, feed_, return_, tab, back, form⟩ := named
  simp only [escapeChar, beq_iff_eq, Bool.or_eq_true, quote, slash, feed_, return_, tab, back, form,
    or_self, if_false]
  split
  · rename_i printed
    rw [Bool.and_eq_true, decide_eq_true_eq] at printed
    rw [List.singleton_append, tokensFrom_cons, feed, if_neg (by simpa using slash),
      if_neg (by simpa using quote), if_neg (Nat.not_lt.mpr printed.1)]
    rfl
  split
  · rename_i small
    rw [tokensFrom_unitEscape small, addUnit_char c small]
  · rename_i large
    have valid : c.toNat < 0xD800 ∨ 0xDFFF < c.toNat ∧ c.toNat < 0x110000 := c.valid
    rw [List.append_assoc, tokensFrom_unitEscape (by omega), addUnit_first c,
      tokensFrom_unitEscape (by omega), addUnit_second c large]

/-- What has been read, and the first half of a pair that waits for its second, after a point. -/
def addPoint (state : List CodePoint × Option (Fin 1024)) :
    CodePoint → List CodePoint × Option (Fin 1024)
  | .char c => (.char c :: settle state.1 state.2, none)
  | .half offset => addUnit state.1 state.2 (0xD800 + offset)

/-- The text that is read where a text was written. The halves of a pair that stood side by side are
one character. -/
def joined (text : LooseText) : LooseText :=
  let (read, high) := text.points.foldl addPoint ([], none)
  ⟨(settle read high).reverse⟩

theorem tokensFrom_escapePoint (state : List CodePoint × Option (Fin 1024)) (point : CodePoint) :
    tokensFrom (.inText state.1 state.2) (escapePoint point ++ rest) =
      tokensFrom (.inText (addPoint state point).1 (addPoint state point).2) rest := by
  cases point with
  | char c => exact tokensFrom_escapeChar c
  | half offset => exact tokensFrom_unitEscape (by omega) state.1 state.2 rest

theorem tokensFrom_escapeText (text : LooseText) (rest : List Char) :
    tokensFrom .between (escapeText text ++ rest) =
      .value (.text (joined text)) :: tokensFrom .between rest := by
  have inside : ∀ (points : List CodePoint) (state : List CodePoint × Option (Fin 1024)),
      tokensFrom (.inText state.1 state.2) (points.flatMap escapePoint ++ '"' :: rest) =
        .value (.text ⟨(settle (points.foldl addPoint state).1
          (points.foldl addPoint state).2).reverse⟩) :: tokensFrom .between rest := by
    intro points
    induction points with
    | nil => exact fun state => rfl
    | cons point points ih =>
      intro state
      rw [List.flatMap_cons, List.append_assoc, tokensFrom_escapePoint, ih]
      rfl
  rw [escapeText, List.append_assoc, List.singleton_append, List.cons_append]
  exact inside text.points ([], none)

theorem joined_ofString (text : String) : joined (.ofString text) = .ofString text := by
  have reads : ∀ (chars : List Char) (read : List CodePoint),
      (chars.map CodePoint.char).foldl addPoint (read, none) =
        ((chars.map CodePoint.char).reverse ++ read, none) := by
    intro chars
    induction chars with
    | nil => exact fun read => rfl
    | cons c chars ih =>
      intro read
      rw [List.map_cons, List.foldl_cons, addPoint, ih, List.reverse_cons, List.append_assoc]
      rfl
  rw [joined, LooseText.ofString, reads]
  exact congrArg LooseText.mk (by rw [settle, List.append_nil, List.reverse_reverse])

/-- The characters that stand for what has been read. -/
def written (state : List CodePoint × Option (Fin 1024)) : List Char :=
  (settle state.1 state.2).reverse.flatMap escapePoint

theorem escapeChar_large {c : Char} (large : ¬ c.toNat < 0x10000) :
    escapeChar c = unitEscape (0xD800 + (c.toNat - 0x10000) / 0x400) ++
      unitEscape (0xDC00 + (c.toNat - 0x10000) % 0x400) := by
  have early : ['"', '\\', '\n', '\r', '\t', '\x08', '\x0c'].all (·.toNat < 0x10000) = true := by decide
  have other : ∀ d ∈ ['"', '\\', '\n', '\r', '\t', '\x08', '\x0c'], c ≠ d := by
    rintro d member rfl
    exact large (of_decide_eq_true (List.all_eq_true.mp early c member))
  simp only [List.forall_mem_cons] at other
  obtain ⟨quote, slash, feed_, return_, tab, back, form, -⟩ := other
  have shown : ¬(32 ≤ c.toNat ∧ c.toNat < 127) := by omega
  simp only [escapeChar, beq_iff_eq, Bool.or_eq_true, Bool.and_eq_true, decide_eq_true_eq, quote,
    slash, feed_, return_, tab, back, form, shown, large, or_self, if_false]

/-- The character that the halves of a pair make is written as they are. -/
theorem escapeChar_pair {first second : Nat} (one : first < 0x400) (two : second < 0x400) :
    escapeChar (Char.ofNat (0x10000 + first * 0x400 + second)) =
      unitEscape (0xD800 + first) ++ unitEscape (0xDC00 + second) := by
  have valid : (0x10000 + first * 0x400 + second).isValidChar := Or.inr (by omega)
  have number : (Char.ofNat (0x10000 + first * 0x400 + second)).toNat =
      0x10000 + first * 0x400 + second := by
    rw [Char.ofNat, dif_pos valid]
    rfl
  rw [escapeChar_large (by omega), number,
    show (0x10000 + first * 0x400 + second - 0x10000) / 0x400 = first by omega,
    show (0x10000 + first * 0x400 + second - 0x10000) % 0x400 = second by omega]

theorem written_addPoint (state : List CodePoint × Option (Fin 1024)) (point : CodePoint) :
    written (addPoint state point) = written state ++ escapePoint point := by
  obtain ⟨read, high⟩ := state
  have after : ∀ point, (point :: settle read high).reverse.flatMap escapePoint =
      (settle read high).reverse.flatMap escapePoint ++ escapePoint point := fun point => by
    rw [List.reverse_cons, List.flatMap_append, List.flatMap_singleton]
  cases point with
  | char c => exact after (.char c)
  | half offset =>
    rw [addPoint]
    unfold addUnit
    split
    · rename_i early
      simp only [Bool.and_eq_true, decide_eq_true_eq] at early
      have same : (Fin.ofNat 1024 (0xD800 + offset.val)).castLE (by decide) = offset :=
        Fin.ext (by simp only [Fin.val_castLE, Fin.val_ofNat]; omega)
      rw [written, settle, same]
      exact after (.half offset)
    rename_i late
    simp only [Bool.and_eq_true, decide_eq_true_eq] at late
    rw [if_pos (by simp only [Bool.and_eq_true, decide_eq_true_eq]; omega)]
    cases high with
    | none =>
      have same : Fin.ofNat 2048 (0xD800 + offset.val) = offset :=
        Fin.ext (by simp only [Fin.val_ofNat]; omega)
      rw [same]
      exact after (.half offset)
    | some first =>
      have pair := @escapeChar_pair first (0xD800 + offset - 0xDC00) first.isLt (by omega)
      rw [show 0xDC00 + (0xD800 + offset.val - 0xDC00) = 0xD800 + offset by omega] at pair
      simp only [written, settle, List.reverse_cons, List.flatMap_append, List.flatMap_singleton,
        escapePoint, pair, List.append_assoc]
      rfl

theorem escapeText_joined (text : LooseText) : escapeText (joined text) = escapeText text := by
  have writes : ∀ (points : List CodePoint) (state : List CodePoint × Option (Fin 1024)),
      written (points.foldl addPoint state) = written state ++ points.flatMap escapePoint := by
    intro points
    induction points with
    | nil => exact fun state => (List.append_nil _).symm
    | cons point points ih =>
      intro state
      rw [List.foldl_cons, ih, written_addPoint, List.append_assoc, List.flatMap_cons]
  have whole := writes text.points ([], none)
  rw [escapeText, escapeText]
  exact congrArg (fun inner => '"' :: inner ++ ['"']) whole

end Texts

/-! ### Words and marks -/

/-- Nothing that a word could go on with comes next. -/
def EndsWord (rest : List Char) : Prop :=
  ∀ c more, rest = c :: more → isWordPart c = false

theorem tokensFrom_inWord {rest : List Char} (ends : EndsWord rest) (word : List Char)
    (parts : ∀ c ∈ word, isWordPart c = true) (read : List Char) :
    tokensFrom (.inWord read) (word ++ rest) =
      wordTokens (read.reverse ++ word) ++ tokensFrom .between rest := by
  induction word generalizing read with
  | nil =>
    rw [List.nil_append, List.append_nil]
    cases rest with
    | nil => exact (List.append_nil _).symm
    | cons c more =>
      rw [tokensFrom_cons, feed, ends c more rfl, if_neg Bool.false_ne_true, tokensFrom_cons]
      exact List.append_assoc _ _ _
  | cons c word ih =>
    rw [List.cons_append, tokensFrom_cons, feed, if_pos (parts c List.mem_cons_self), List.nil_append,
      ih (fun d member => parts d (List.mem_cons_of_mem c member)), List.reverse_cons,
      List.append_assoc]
    rfl

theorem tokensFrom_wholeWord {word rest : List Char} (some : word ≠ [])
    (parts : ∀ c ∈ word, isWordPart c = true) (ends : EndsWord rest) :
    tokensFrom .between (word ++ rest) = wordTokens word ++ tokensFrom .between rest := by
  obtain ⟨first, others, rfl⟩ := List.exists_cons_of_ne_nil some
  have start : startToken first = ([], .inWord [first]) := by
    have part := parts first List.mem_cons_self
    have apart : [' ', '\t', '\n', '\r', '"'].all (!isWordPart ·) = true := by decide
    have other : ∀ c ∈ [' ', '\t', '\n', '\r', '"'], first ≠ c := by
      rintro c among rfl
      have blank := List.all_eq_true.mp apart first among
      rw [part] at blank
      cases blank
    simp only [List.forall_mem_cons] at other
    obtain ⟨space, tab, feed_, return_, quote, -⟩ := other
    simp only [startToken, beq_iff_eq, Bool.or_eq_true, space, tab, feed_, return_, quote, part,
      or_self, if_false, if_true]
  rw [List.cons_append, tokensFrom_cons, feed, start]
  exact tokensFrom_inWord ends others (fun c member => parts c (List.mem_cons_of_mem _ member)) [first]

/-- The three words that are values, each followed by something else. -/
theorem tokensFrom_word {rest : List Char} (ends : EndsWord rest) :
    tokensFrom .between ("null".toList ++ rest) = .value .null :: tokensFrom .between rest ∧
      ∀ value, tokensFrom .between ((if value then "true" else "false").toList ++ rest) =
        .value (.bool value) :: tokensFrom .between rest := by
  have word : ∀ word : String, word ≠ "" → word.toList.all isWordPart = true →
      tokensFrom .between (word.toList ++ rest) =
        wordTokens word.toList ++ tokensFrom .between rest := fun word some parts =>
    tokensFrom_wholeWord (mt String.toList_eq_nil_iff.mp some) (List.all_eq_true.mp parts) ends
  refine ⟨word "null" (by decide) (by decide), fun value => ?_⟩
  cases value with
  | true => exact word "true" (by decide) (by decide)
  | false => exact word "false" (by decide) (by decide)

theorem tokensFrom_lead (layout : Layout) (depth : Nat) (rest : List Char) :
    tokensFrom .between (layout.lead depth ++ rest) = tokensFrom .between rest := by
  cases layout with
  | dense => rfl
  | spaced => rfl
  | indented =>
    change tokensFrom .between (List.replicate (2 * depth) ' ' ++ rest) = _
    induction 2 * depth with
    | zero => rfl
    | succ n ih => exact ih

theorem tokensFrom_comma (layout : Layout) (rest : List Char) :
    tokensFrom .between (layout.comma ++ rest) = .comma :: tokensFrom .between rest := by
  cases layout <;> rfl

theorem tokensFrom_colon (layout : Layout) (rest : List Char) :
    tokensFrom .between (layout.colon ++ rest) = .colon :: tokensFrom .between rest := by
  cases layout <;> rfl

theorem endsWord_lead (layout : Layout) (depth : Nat) {c : Char} (rest : List Char)
    (other : isWordPart c = false) : EndsWord (layout.lead depth ++ c :: rest) := by
  rintro first more same
  cases layout with
  | indented =>
    rw [← (List.cons.inj same).1]
    rfl
  | _ =>
    rw [← (List.cons.inj same).1]
    exact other

theorem endsWord_comma (layout : Layout) (rest : List Char) : EndsWord (layout.comma ++ rest) := by
  rintro first more same
  cases layout <;>
  · rw [← (List.cons.inj same).1]
    rfl

/-! ### Values -/

section Values

variable {layout : Layout} {depth : Nat} {rest : List Char}

/-- A value is cut into its tokens wherever it stands. -/
def CutsAs (layout : Layout) (value : Json) : Prop :=
  ∀ (depth : Nat) (rest : List Char), EndsWord rest →
    tokensFrom .between (writeAt layout depth value ++ rest) =
      tokens value ++ tokensFrom .between rest

theorem endsWord_writeItems (items : List Json) (outer : Nat) :
    EndsWord (writeItems layout depth items ++ (layout.lead outer ++ ']' :: rest)) := by
  cases items with
  | nil => exact endsWord_lead layout outer rest rfl
  | cons item items =>
    rw [writeItems]
    simp only [List.append_assoc]
    exact endsWord_comma layout _

theorem tokensFrom_writeItems {items : List Json} (each : ∀ item ∈ items, CutsAs layout item)
    (outer : Nat) :
    tokensFrom .between (writeItems layout depth items ++ (layout.lead outer ++ ']' :: rest)) =
      itemTokens items ++ .closeList :: tokensFrom .between rest := by
  induction items with
  | nil =>
    rw [writeItems, List.nil_append, tokensFrom_lead]
    rfl
  | cons item items ih =>
    rw [writeItems]
    simp only [List.append_assoc]
    rw [tokensFrom_comma, tokensFrom_lead, each item List.mem_cons_self depth _
      (endsWord_writeItems items outer), ih fun item member => each item (List.mem_cons_of_mem _ member),
      itemTokens, List.cons_append, List.append_assoc]

theorem endsWord_writeMembers (members : List (LooseText × Json)) (outer : Nat) :
    EndsWord (writeMembers layout depth members ++ (layout.lead outer ++ '\x7d' :: rest)) := by
  cases members with
  | nil => exact endsWord_lead layout outer rest rfl
  | cons member members =>
    rw [writeMembers]
    simp only [List.append_assoc]
    exact endsWord_comma layout _

theorem tokensFrom_writeMembers {members : List (LooseText × Json)}
    (names : ∀ member ∈ members, ∃ name : String, member.1 = .ofString name)
    (each : ∀ member ∈ members, CutsAs layout member.2) (outer : Nat) :
    tokensFrom .between (writeMembers layout depth members ++ (layout.lead outer ++ '\x7d' :: rest)) =
      memberTokens members ++ .closeObject :: tokensFrom .between rest := by
  induction members with
  | nil =>
    rw [writeMembers, List.nil_append, tokensFrom_lead]
    rfl
  | cons member members ih =>
    obtain ⟨looseName, value⟩ := member
    obtain ⟨name, rfl⟩ := names _ List.mem_cons_self
    rw [writeMembers]
    simp only [List.append_assoc]
    rw [tokensFrom_comma, tokensFrom_lead, tokensFrom_escapeText, joined_ofString, tokensFrom_colon,
      each _ List.mem_cons_self depth _ (endsWord_writeMembers members outer),
      ih (fun member here => names member (List.mem_cons_of_mem _ here))
        fun member here => each member (List.mem_cons_of_mem _ here), memberTokens]
    simp only [List.cons_append, List.append_assoc]

theorem cutsAs_list {items : List Json} (each : ∀ item ∈ items, CutsAs layout item) :
    CutsAs layout (.list items) := by
  intro depth rest _
  cases items with
  | nil => rfl
  | cons item items =>
    rw [writeAt, tokens]
    simp only [List.cons_append, List.append_assoc, List.nil_append]
    rw [tokensFrom_cons]
    change .openList :: tokensFrom .between _ = _
    rw [tokensFrom_lead, each item List.mem_cons_self _ _ (endsWord_writeItems items depth),
      tokensFrom_writeItems (fun item member => each item (List.mem_cons_of_mem _ member)) depth]

theorem cutsAs_object {members : List (LooseText × Json)}
    (names : ∀ member ∈ members, ∃ name : String, member.1 = .ofString name)
    (each : ∀ member ∈ members, CutsAs layout member.2) : CutsAs layout (.object members) := by
  intro depth rest _
  cases members with
  | nil => rfl
  | cons member members =>
    obtain ⟨looseName, value⟩ := member
    obtain ⟨name, rfl⟩ := names _ List.mem_cons_self
    rw [writeAt, tokens]
    simp only [List.cons_append, List.append_assoc, List.nil_append]
    rw [tokensFrom_cons]
    change .openObject :: tokensFrom .between _ = _
    rw [tokensFrom_lead, tokensFrom_escapeText, joined_ofString, tokensFrom_colon,
      each _ List.mem_cons_self _ _ (endsWord_writeMembers members depth),
      tokensFrom_writeMembers (fun member here => names member (List.mem_cons_of_mem _ here))
        (fun member here => each member (List.mem_cons_of_mem _ here)) depth]

theorem cutsAs_joined (text : LooseText) : CutsAs layout (.text (joined text)) := by
  intro depth rest _
  rw [writeAt, escapeText_joined, tokensFrom_escapeText]
  rfl

theorem Textual.cutsAs {value : Json} (textual : Textual value) (layout : Layout) :
    CutsAs layout value := by
  induction textual with
  | null => exact fun depth rest ends => (tokensFrom_word ends).1
  | bool value => exact fun depth rest ends => (tokensFrom_word ends).2 value
  | text value => exact joined_ofString value ▸ cutsAs_joined _
  | list _ ih => exact cutsAs_list ih
  | object _ names _ ih => exact cutsAs_object names ih

end Values

end Json

end ScriptDeps
