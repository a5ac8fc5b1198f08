import ScriptDeps.Library.Identity
import ScriptDeps.Proofs.Failing
import ScriptDeps.Proofs.Json.RoundTrip
import ScriptDeps.Proofs.Library.Representatives

/-!
# Reports

What a JSON value says when it is taken for an answer of the worker. It is gone through item by
item; every item has to be an object with a path, and the last report on a path gives its name.
-/

namespace ScriptDeps

/-! ### Texts in JSON -/

theorem LooseText.toString?_eq_some {text : LooseText} {plain : String} :
    text.toString? = some plain ↔ text = .ofString plain := by
  constructor
  · intro whole
    obtain ⟨chars, spelled, rfl⟩ := Option.map_eq_some_iff.mp whole
    have points : ∀ {points : List CodePoint} {chars : List Char},
        points.mapM CodePoint.char? = some chars → points = chars.map .char := by
      intro points
      induction points with
      | nil =>
        intro chars spelled
        rw [← Option.some.inj spelled]
        rfl
      | cons point points ih =>
        intro chars spelled
        rw [List.mapM_cons] at spelled
        obtain ⟨c, first, spelled⟩ := Option.bind_eq_some_iff.mp spelled
        obtain ⟨others, rest, made⟩ := Option.bind_eq_some_iff.mp spelled
        cases point with
        | half offset => cases first
        | char d => rw [← Option.some.inj made, ih rest, ← Option.some.inj first, List.map_cons]
    rw [ofString, String.toList_ofList, ← points spelled]
  · rintro rfl
    exact toString?_ofString plain

theorem LooseText.escaped_ofString (text : String) : (ofString text).escaped = text := by
  rw [escaped, ofString, List.flatMap_map]
  change String.ofList (text.toList.flatMap fun c => [c]) = text
  rw [List.flatMap_singleton', String.ofList_toList]

theorem Json.text?_eq_some {value : Json} {plain : String} :
    value.text? = some plain ↔ value = .text (.ofString plain) := by
  cases value with
  | text value => exact LooseText.toString?_eq_some.trans ⟨congrArg _, fun same => Json.text.inj same⟩
  | _ => exact ⟨nofun, nofun⟩

/-- Whether the file names are to do when asking the worker fails for this. -/
def Failure.isCaught : Failure → Bool
  | .worker _ => true
  | .file _ _ => true
  | _ => false

/-- JSON that is read, but does not have the shape of an answer. -/
inductive Failure.OfShape : Failure → Prop
  | notAList : OfShape .notAList
  | notAnObject : OfShape .reportNotObject
  | withoutPath : OfShape .reportWithoutPath
  | notAtomic : OfShape .notAtomic

theorem Failure.OfShape.uncaught {failure : Failure} (shape : failure.OfShape) :
    failure.isCaught = false := by
  cases shape <;> rfl

namespace Library

/-! ### Reports -/

def reportedPath? (report : Json) : Option String :=
  (report.get? "path").bind Json.text?

/-- The name that a report gives; none if it is null. -/
def givenName? (report : Json) : Option Json :=
  (report.get? "name").filter fun
    | .null => false
    | _ => true

/-- The name that the last report on a path gives. -/
def reportedName? (reports : List Json) (path : String) : Option Json :=
  (reports.reverse.find? fun report => reportedPath? report == some path).bind givenName?

/-- The value is an object with a path, which is neither a list nor an object. -/
def IsReport (report : Json) : Prop :=
  ∃ path, report.get? "path" = some path ∧ path.isAtomic = true

/-- An answer consists of reports, and no path of a list gets a list or an object for a name. -/
structure Tells (answer : Json) (paths : List String) (reports : List Json) : Prop where
  listed : answer.listed = .ok reports
  wellFormed : ∀ report ∈ reports, IsReport report
  named : ∀ path ∈ paths, ∀ name ∈ reportedName? reports path, name.isAtomic = true

namespace Names

variable {names later : Names} {report : Json} {reports : List Json}

/-! ### One report -/

theorem sameAtom_text {a b : Json} (equal : a.sameAtom b = true) (path : String) :
    a.text? = some path ↔ b.text? = some path := by
  rw [Json.text?_eq_some, Json.text?_eq_some]
  cases a with
  | text a =>
    cases b with
    | text b =>
      rw [Json.sameAtom, beq_iff_eq] at equal
      rw [equal]
    | _ => cases equal
  | _ =>
    cases b with
    | text b => simp [Json.sameAtom, Json.whole?] at equal
    | _ => simp

/-- What a path is bound to. -/
def bound? (names : Names) (path : String) : Option Json :=
  (names.find? fun entry => entry.1.text? == some path).map (·.2)

theorem bound?_cons (entry : Json × Json) (rest : Names) (path : String) :
    bound? (entry :: rest) path =
      if entry.1.text? = some path then some entry.2 else rest.bound? path := by
  unfold bound?
  by_cases here : entry.1.text? = some path
  · rw [List.find?_cons_of_pos (by simpa using here), if_pos here, Option.map_some]
  · rw [List.find?_cons_of_neg (by simpa using here), if_neg here]

theorem bound?_put (names : Names) (path name : Json) (other : String) :
    (names.put path name).bound? other =
      if path.text? = some other then some name else names.bound? other := by
  induction names with
  | nil =>
    rw [put, bound?_cons]
  | cons entry rest ih =>
    obtain ⟨bound, old⟩ := entry
    rw [put]
    by_cases equal : path.sameAtom bound = true
    · rw [if_pos equal, bound?_cons, bound?_cons]
      by_cases here : path.text? = some other
      · rw [if_pos here, if_pos ((sameAtom_text equal other).mp here)]
      · rw [if_neg here, if_neg fun there => here ((sameAtom_text equal other).mpr there),
          if_neg fun there => here ((sameAtom_text equal other).mpr there)]
    · rw [if_neg equal, bound?_cons, bound?_cons, ih]
      by_cases there : bound.text? = some other
      · have apart : path.text? ≠ some other := by
          intro here
          rw [Json.text?_eq_some] at here there
          rw [here, there] at equal
          exact equal (beq_self_eq_true _)
        rw [if_pos there, if_pos there, if_neg apart]
      · rw [if_neg there, if_neg there]

theorem add_ok_iff (names : Names) (report : Json) :
    (∃ later, names.add report = .ok later) ↔ IsReport report := by
  unfold IsReport
  cases report with
  | object members =>
    rw [add, Json.get?]
    cases Json.lookup? "path" members with
    | none => simp
    | some path => by_cases atomic : path.isAtomic = true <;> simp [atomic]
  | _ => simp [add, Json.get?]

theorem name?_add (added : names.add report = .ok later) (path : String) :
    later.name? path =
      if reportedPath? report = some path then givenName? report else names.name? path := by
  cases report with
  | object members =>
    rw [add] at added
    change (later.bound? path).filter _ = if (Json.lookup? "path" members).bind Json.text? = some path
      then (Json.lookup? "name" members).filter _ else (names.bound? path).filter _
    cases on : Json.lookup? "path" members with
    | none =>
      rw [on] at added
      cases added
    | some place =>
      rw [on] at added
      dsimp only at added
      split at added
      · rw [← Except.ok.inj added, bound?_put, Option.bind_some]
        by_cases here : place.text? = some path
        · rw [if_pos here, if_pos here]
          cases Json.lookup? "name" members <;> rfl
        · rw [if_neg here, if_neg here]
      · cases added
  | _ => cases added

/-! ### All reports -/

theorem foldlM_add_ok_iff (reports : List Json) (names : Names) :
    (∃ later, reports.foldlM add names = .ok later) ↔ ∀ report ∈ reports, IsReport report := by
  induction reports generalizing names with
  | nil => exact ⟨fun _ => nofun, fun _ => ⟨names, rfl⟩⟩
  | cons report rest ih =>
    rw [List.foldlM_cons, List.forall_mem_cons, ← add_ok_iff names report]
    constructor
    · rintro ⟨later, ran⟩
      obtain ⟨next, added, ran⟩ := bind_ok ran
      exact ⟨⟨next, added⟩, (ih next).mp ⟨later, ran⟩⟩
    · rintro ⟨⟨next, added⟩, others⟩
      rw [added, ok_bind]
      exact (ih next).mpr others

theorem name?_foldlM (ran : reports.foldlM add names = .ok later) (path : String) :
    later.name? path =
      ((reports.reverse.find? fun report => reportedPath? report == some path).map givenName?).getD
        (names.name? path) := by
  induction reports generalizing names with
  | nil => rw [pure_ok ran]; rfl
  | cons report rest ih =>
    rw [List.foldlM_cons] at ran
    obtain ⟨next, added, ran⟩ := bind_ok ran
    rw [ih ran, name?_add added, List.reverse_cons, List.find?_append]
    cases rest.reverse.find? fun report => reportedPath? report == some path with
    | some found => rfl
    | none =>
      by_cases here : reportedPath? report = some path <;> simp [here]

theorem ofAnswer_eq (answer : Json) :
    ofAnswer answer = answer.listed >>= fun reports => reports.foldlM add [] := by
  cases answer with
  | text value =>
    rw [ofAnswer, Json.listed, ok_bind, LooseText.isEmpty]
    cases value.points <;> rfl
  | object members =>
    rw [ofAnswer, Json.listed, ok_bind]
    cases members <;> rfl
  | _ => rfl

theorem ofAnswer_ok {answer : Json} (ran : ofAnswer answer = .ok names) :
    ∃ reports, answer.listed = .ok reports ∧ (∀ report ∈ reports, IsReport report) ∧
      ∀ path, names.name? path = reportedName? reports path := by
  rw [ofAnswer_eq] at ran
  obtain ⟨reports, listed, ran⟩ := bind_ok ran
  refine ⟨reports, listed, (foldlM_add_ok_iff reports []).mp ⟨names, ran⟩, fun path => ?_⟩
  rw [name?_foldlM ran, reportedName?]
  cases reports.reverse.find? fun report => reportedPath? report == some path <;> rfl

theorem ofAnswer_fails (answer : Json) : FailsIn Failure.OfShape (ofAnswer answer) := by
  unfold ofAnswer
  split
  · refine failsIn_foldlM (fun names report => ?_) _ _
    unfold add
    split
    · split
      · exact failsIn_error .withoutPath
      · split
        · exact failsIn_ok _
        · exact failsIn_error .notAtomic
    · exact failsIn_error .notAnObject
  · split
    · exact failsIn_ok _
    · exact failsIn_error .notAnObject
  · split
    · exact failsIn_ok _
    · exact failsIn_error .notAnObject
  · exact failsIn_error .notAList

/-! ### What is kept by reports -/

theorem firstByDeclaredName_congr {key : String → Option Json} {paths : List String}
    (told : ∀ path, names.name? path = key path) :
    firstByDeclaredName names paths =
      if ∀ path ∈ paths, ∀ name ∈ key path, name.isAtomic = true then
        .ok (keepFirst Json.sameAtom key [] paths)
      else .error .notAtomic := by
  obtain rfl : names.name? = key := funext told
  rw [firstByDeclaredName]
  refine if_congr ?_ rfl rfl
  rw [List.all_eq_true]
  refine forall₂_congr fun path _ => ?_
  cases names.name? path <;> simp

end Names

end Library

end ScriptDeps
