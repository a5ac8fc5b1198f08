import ScriptDeps.Proofs.FileSystem.Faults
import ScriptDeps.Proofs.Library.Answers
import Mathlib.Data.List.Forall2

/-!
# One report for each path

The worker answers a list of paths with as many reports, whatever the files are, as long as every path
can be spelled for the file system. A path that cannot takes all the others with it.
-/

namespace ScriptDeps

theorem mapM_ok_iff {ε α β : Type} {f : α → Except ε β} {items : List α} {results : List β} :
    items.mapM f = .ok results ↔ List.Forall₂ (fun a b => f a = .ok b) items results := by
  constructor
  · intro ran
    induction items generalizing results with
    | nil =>
      rw [pure_ok ran]
      exact .nil
    | cons item rest ih =>
      rw [List.mapM_cons] at ran
      obtain ⟨first, one, ran⟩ := bind_ok ran
      obtain ⟨others, later, ran⟩ := bind_ok ran
      rw [pure_ok ran]
      exact .cons one (ih later)
  · intro each
    induction each with
    | nil => rfl
    | cons one _ ih =>
      rw [List.mapM_cons, one, ok_bind, ih]
      rfl

namespace LooseText

/-- The text is one of characters, none of them null. -/
def IsPlain (text : LooseText) : Prop :=
  ∃ path, text = ofString path ∧ '\x00' ∉ path.toList

/-- The text holds a null character, or half of a surrogate pair that no byte is read as. The halves
from U+DC80 to U+DCFF stand for bytes that are not UTF-8. -/
def IsUnspeakable (text : LooseText) : Prop :=
  .char '\x00' ∈ text.points ∨
    ∃ offset, .half offset ∈ text.points ∧ ¬(0x480 ≤ offset.val ∧ offset.val < 0x500)

theorem half_not_mem_ofString (text : String) (offset : Fin 2048) :
    .half offset ∉ (ofString text).points := by
  intro member
  obtain ⟨c, _, half⟩ := List.mem_map.mp member
  cases half

theorem char_mem_ofString {text : String} {c : Char} :
    .char c ∈ (ofString text).points ↔ c ∈ text.toList := by
  constructor
  · intro member
    obtain ⟨other, among, same⟩ := List.mem_map.mp member
    exact CodePoint.char.inj same ▸ among
  · exact List.mem_map_of_mem

end LooseText

namespace Library

variable {fs : FileSystem}

/-! ### One path -/

theorem append_ne_empty {first : String} (some : first ≠ "") (rest : String) : first ++ rest ≠ "" := by
  intro none
  rw [String.append_eq_empty_iff] at none
  exact some none.1

theorem message_ne_empty (fault : Assembly.Fault) : fault.message ≠ "" := by
  cases fault with
  | unknownMagic magic =>
    unfold Assembly.Fault.message
    exact append_ne_empty (by decide) _
  | outsideSections address =>
    unfold Assembly.Fault.message
    exact append_ne_empty (append_ne_empty (by decide) _) _
  | _ => decide

theorem fileMessage_ne_empty (fault : FileFault) (path : String) : fault.message path ≠ "" := by
  intro none
  rw [FileFault.message, String.append_eq_empty_iff, String.append_eq_empty_iff] at none
  exact absurd none.1.2 (by decide)

/-- There is a name and no error, or no name and an error that says something. -/
def Report.IsEither (r : Report) : Prop :=
  (∃ name, r.name = some name ∧ r.error = none) ∨
    (r.name = none ∧ ∃ error, r.error = some error ∧ error ≠ "")

theorem report_isEither {path : String} {r : Report} (reported : report fs path = .ok r) :
    r.path = path ∧ r.IsEither := by
  unfold report at reported
  split at reported
  · split at reported
    · cases reported
      exact ⟨rfl, .inl ⟨_, rfl, rfl⟩⟩
    · cases reported
      exact ⟨rfl, .inr ⟨rfl, _, rfl, message_ne_empty _⟩⟩
  · cases reported
    exact ⟨rfl, .inr ⟨rfl, _, rfl, fileMessage_ne_empty _ _⟩⟩
  · cases reported

theorem report_null {path : String} (null : '\x00' ∈ path.toList) :
    report fs path = .error .nullInPath := by
  rw [report, (fs.readBytes_checked path).null null]

/-- What the worker says about an item of its input. -/
def reportOn (fs : FileSystem) (item : Json) : Except Failure Report :=
  match item.shown.toString? with
  | some path => report fs path
  | none => .error .unspeakablePath

/-- The report carries the text unchanged, it is the one on this path alone, and it has either a name
or an error. -/
def Answers (fs : FileSystem) (text : LooseText) (r : Report) : Prop :=
  text = .ofString r.path ∧ report fs r.path = .ok r ∧ r.IsEither

theorem reportOn_ok {text : LooseText} {r : Report} (reported : reportOn fs (.text text) = .ok r) :
    Answers fs text r := by
  rw [reportOn, Json.shown] at reported
  split at reported
  · rename_i path spelled
    obtain ⟨rfl, either⟩ := report_isEither reported
    exact ⟨LooseText.toString?_eq_some.mp spelled, reported, either⟩
  · cases reported

theorem reportOn_plain {text : LooseText} (plain : text.IsPlain) :
    ∃ r, reportOn fs (.text text) = .ok r := by
  obtain ⟨path, rfl, spoken⟩ := plain
  obtain ⟨error, reported⟩ := report_ok fs spoken
  rw [reportOn, Json.shown, LooseText.toString?_ofString]
  exact ⟨_, reported⟩

theorem reportOn_unspeakable {text : LooseText} (unspeakable : text.IsUnspeakable) :
    ∃ failure, reportOn fs (.text text) = .error failure := by
  rw [reportOn, Json.shown]
  cases spelled : text.toString? with
  | none => exact ⟨_, rfl⟩
  | some path =>
    obtain rfl := LooseText.toString?_eq_some.mp spelled
    rcases unspeakable with null | ⟨offset, half, _⟩
    · exact ⟨_, report_null (LooseText.char_mem_ofString.mp null)⟩
    · exact absurd half (LooseText.half_not_mem_ofString path offset)

/-! ### All paths -/

theorem work_of_list {input : String} {items : List Json} (given : Json.read input = .ok (.list items)) :
    work fs input = (do
      let reports ← items.mapM (reportOn fs)
      return ⟨0, (Json.list (reports.map Report.toJson)).write .spaced, ""⟩) := by
  rw [work, readJson, given]
  rfl

/-- The worker ends well on the input, with one report for each text in their order. -/
def AnswersEach (fs : FileSystem) (input : String) (texts : List LooseText) : Prop :=
  ∃ (reports : List Report) (output : String), work fs input = .ok ⟨0, output, ""⟩ ∧
    Json.read output = .ok (.list (reports.map Report.toJson)) ∧
    List.Forall₂ (Answers fs) texts reports

theorem answersEach_of_plain {input : String} {texts : List LooseText}
    (given : Json.read input = .ok (.list (texts.map .text))) (plain : ∀ text ∈ texts, text.IsPlain) :
    AnswersEach fs input texts := by
  have returns : ∃ reports, (texts.map Json.text).mapM (reportOn fs) = .ok reports := by
    apply mapM_returns
    intro item member
    obtain ⟨text, among, rfl⟩ := List.mem_map.mp member
    exact reportOn_plain (plain text among)
  obtain ⟨reports, ran⟩ := returns
  refine ⟨reports, _, by rw [work_of_list given, ran]; rfl, read_reports reports, ?_⟩
  exact (List.forall₂_map_left_iff.mp (mapM_ok_iff.mp ran)).imp fun _ _ => reportOn_ok

theorem work_fails_of_unspeakable {input : String} {texts : List LooseText}
    (given : Json.read input = .ok (.list (texts.map .text)))
    (some : ∃ text ∈ texts, text.IsUnspeakable) : ∃ failure, work fs input = .error failure := by
  obtain ⟨text, member, unspeakable⟩ := some
  rw [work_of_list given]
  exact bind_fails (mapM_fails (List.mem_map_of_mem member) (reportOn_unspeakable unspeakable)) _

/-- Every path has its answer as long as all of them are plain, and none has one if a null character
or a half that is no byte is in one of them. -/
theorem work_answers_or_fails (fs : FileSystem) {input : String} {texts : List LooseText}
    (given : Json.read input = .ok (.list (texts.map .text))) :
    ((∀ text ∈ texts, text.IsPlain) → AnswersEach fs input texts) ∧
      ((∃ text ∈ texts, text.IsUnspeakable) → ∃ failure, work fs input = .error failure) :=
  ⟨answersEach_of_plain given, work_fails_of_unspeakable given⟩

/-- A list of a library, a file that is none, a path of nothing and the library again. -/
theorem work_answers_copies :
    AnswersEach Deduplicator.copiesHost.files ((Json.ofTexts Deduplicator.copiesPaths).write .spaced)
        (Deduplicator.copiesPaths.map .ofString) ∧
      ∃ failure, work Deduplicator.copiesHost.files
        ((Json.ofTexts ("/w\x00.dll" :: Deduplicator.copiesPaths)).write .spaced) = .error failure := by
  have given : ∀ paths, Json.read ((Json.ofTexts paths).write .spaced) =
      .ok (.list ((paths.map LooseText.ofString).map Json.text)) := by
    intro paths
    rw [read_paths, Json.ofTexts, List.map_map]
    rfl
  refine ⟨(work_answers_or_fails _ (given _)).1 ?_, (work_answers_or_fails _ (given _)).2 ?_⟩
  · intro text member
    obtain ⟨path, among, rfl⟩ := List.mem_map.mp member
    exact ⟨path, rfl, (by decide : ∀ path ∈ Deduplicator.copiesPaths, '\x00' ∉ path.toList) path among⟩
  · exact ⟨_, List.mem_cons_self, .inl (by decide)⟩

/-- A path with a null character takes the answer for another path away. -/
theorem work_null_takes_all :
    work { nodes := [], workingDirectory := [] } "[\"/w/a.dll\", \"/w\\u0000/b.dll\"]" =
        .error .nullInPath ∧
      ¬AnswersEach { nodes := [], workingDirectory := [] } "[\"/w/a.dll\", \"/w\\u0000/b.dll\"]"
        [.ofString "/w/a.dll", .ofString "/w\x00/b.dll"] ∧
      ∃ r, report { nodes := [], workingDirectory := [] } "/w/a.dll" = .ok r ∧ r.IsEither := by
  have failed : work { nodes := [], workingDirectory := [] }
      "[\"/w/a.dll\", \"/w\\u0000/b.dll\"]" = .error .nullInPath := by
    decide +kernel
  refine ⟨failed, ?_, ?_⟩
  · intro ⟨reports, output, worked, _⟩
    cases failed.symm.trans worked
  · obtain ⟨error, reported⟩ := report_ok { nodes := [], workingDirectory := [] }
      (by decide : '\x00' ∉ "/w/a.dll".toList)
    exact ⟨_, reported, (report_isEither reported).2⟩

end Library

end ScriptDeps
