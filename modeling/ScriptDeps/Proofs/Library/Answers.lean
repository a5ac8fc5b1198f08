import ScriptDeps.Proofs.Assembly.Naming
import ScriptDeps.Proofs.FileSystem.Texts
import ScriptDeps.Proofs.Library.Reports

/-!
# Answers of the worker

What the worker says about the libraries at some paths comes back unchanged: each path gets the name
that the file at it declares, whatever characters either has. `dedupe_declared` says what is kept
when the worker answers.
-/

namespace ScriptDeps

namespace Library

/-! ### The worker's side -/

/-- The name that the file at a path declares, if there is one. -/
def declaredName? (fs : FileSystem) (path : String) : Option String :=
  match fs.readBytes path with
  | .ok image => (Assembly.Image.assemblyName image).toOption
  | .error _ => none

theorem readBytes_fault {fs : FileSystem} {path : String} (spoken : '\x00' ∉ path.toList)
    {failure : Failure} (failed : fs.readBytes path = .error failure) :
    ∃ fault refused, failure = .file fault refused := by
  rw [FileSystem.readBytes, FileSystem.checkPath_ok spoken, ok_bind] at failed
  cases found : fs.stat path with
  | error fault =>
    rw [found] at failed
    exact ⟨fault, path, (Except.error.inj failed).symm⟩
  | ok node =>
    rw [found] at failed
    cases node with
    | file content modified denied =>
      cases denied with
      | false => cases failed
      | true => exact ⟨_, _, (Except.error.inj failed).symm⟩
    | directory denied => exact ⟨_, _, (Except.error.inj failed).symm⟩
    | link target => exact ⟨_, _, (Except.error.inj failed).symm⟩

theorem report_ok (fs : FileSystem) {path : String} (spoken : '\x00' ∉ path.toList) :
    ∃ error, report fs path = .ok ⟨path, declaredName? fs path, error⟩ := by
  rw [report, declaredName?]
  cases read : fs.readBytes path with
  | ok image =>
    dsimp only
    cases Assembly.Image.assemblyName image with
    | ok name => exact ⟨none, rfl⟩
    | error fault => exact ⟨some fault.message, rfl⟩
  | error failure =>
    obtain ⟨fault, refused, rfl⟩ := readBytes_fault spoken read
    exact ⟨some (fault.message refused), rfl⟩

theorem textual_textOrNull (text : Option String) : Json.Textual (textOrNull text) := by
  cases text with
  | none => exact .null
  | some text => exact .text text

theorem Report.textual (r : Report) : Json.Textual r.toJson := by
  have unique : ["path", "name", "error"].map LooseText.ofString |>.Nodup := by decide
  refine .object unique (fun member here => ?_) fun member here => ?_
  all_goals
    simp only [List.mem_cons, List.not_mem_nil, or_false] at here
    rcases here with rfl | rfl | rfl
  · exact ⟨_, rfl⟩
  · exact ⟨_, rfl⟩
  · exact ⟨_, rfl⟩
  · exact .text r.path
  · exact textual_textOrNull r.name
  · exact textual_textOrNull r.error

theorem depth_textOrNull (text : Option String) : (textOrNull text).depth = 0 := by
  cases text <;> rfl

theorem Report.depth (r : Report) : r.toJson.depth = 1 := by
  rw [Report.toJson, Json.depth, Json.depthOfMembers, Json.depthOfMembers, Json.depthOfMembers,
    Json.depthOfMembers, depth_textOrNull, depth_textOrNull]
  rfl

theorem reports_ok (fs : FileSystem) {paths : List String}
    (spoken : ∀ path ∈ paths, '\x00' ∉ path.toList) :
    ∃ reports, (paths.map fun path => Json.text (.ofString path)).mapM (fun item =>
        match item.shown.toString? with
        | some path => report fs path
        | none => .error .unspeakablePath) = .ok reports ∧
      reports.map (fun r => (r.path, r.name)) = paths.map fun path => (path, declaredName? fs path) := by
  induction paths with
  | nil => exact ⟨[], rfl, rfl⟩
  | cons path rest ih =>
    obtain ⟨error, first⟩ := report_ok fs (spoken path List.mem_cons_self)
    obtain ⟨others, later, same⟩ := ih fun path member => spoken path (List.mem_cons_of_mem _ member)
    refine ⟨⟨path, declaredName? fs path, error⟩ :: others, ?_, ?_⟩
    · rw [List.map_cons, List.mapM_cons, Json.shown, LooseText.toString?_ofString]
      dsimp only
      rw [first, ok_bind, later]
      rfl
    · rw [List.map_cons, List.map_cons, same]

theorem read_paths (paths : List String) :
    Json.read ((Json.ofTexts paths).write .spaced) = .ok (.ofTexts paths) :=
  Json.read_write (Json.textual_ofTexts paths)
    (Nat.le_trans (Json.depth_ofTexts paths) (by decide)) .spaced

/-- The worker reports on every path that it is given, in order. -/
theorem work_ok (fs : FileSystem) {paths : List String}
    (spoken : ∀ path ∈ paths, '\x00' ∉ path.toList) :
    ∃ reports : List Report, work fs ((Json.ofTexts paths).write .spaced) =
        .ok ⟨0, (Json.list (reports.map Report.toJson)).write .spaced, ""⟩ ∧
      reports.map (fun r => (r.path, r.name)) = paths.map fun path => (path, declaredName? fs path) := by
  obtain ⟨reports, ran, same⟩ := reports_ok fs spoken
  refine ⟨reports, ?_, same⟩
  rw [work, readJson, read_paths, ok_bind]
  exact congrArg (fun read : Except Failure (List Report) => read >>= fun reports =>
    pure (Outcome.mk 0 ((Json.list (reports.map Report.toJson)).write .spaced) "")) ran

/-! ### The asking side -/

/-- The name that a file declares, as an identity. -/
def nameIn (declared : Option String) : Option Json :=
  declared.map fun name => .text (.ofString name)

theorem sameAtom_ofString (a b : String) :
    (Json.text (.ofString a)).sameAtom (.text (.ofString b)) = (a == b) := by
  rw [Json.sameAtom, Bool.eq_iff_iff, beq_iff_eq, beq_iff_eq]
  exact ⟨fun same => LooseText.ofString_injective same, congrArg LooseText.ofString⟩

theorem isAtomic_of_nameIn {declared : Option String} {name : Json} (given : name ∈ nameIn declared) :
    name.isAtomic = true := by
  obtain ⟨text, -, rfl⟩ := Option.map_eq_some_iff.mp given
  rfl

theorem isReport_report (r : Report) : IsReport r.toJson :=
  ⟨_, rfl, rfl⟩

theorem reportedPath?_report (r : Report) : reportedPath? r.toJson = some r.path :=
  LooseText.toString?_ofString r.path

theorem givenName?_report (r : Report) : givenName? r.toJson = nameIn r.name := by
  obtain ⟨path, name, error⟩ := r
  cases name <;> rfl

/-- Each path that is reported on has the name that was reported, and no other path has one. -/
theorem reportedName?_reports {declared : String → Option String} {reports : List Report}
    (told : ∀ r ∈ reports, r.name = declared r.path) (path : String) :
    reportedName? (reports.map Report.toJson) path =
      if path ∈ reports.map (·.path) then nameIn (declared path) else none := by
  unfold reportedName?
  cases found : (reports.map Report.toJson).reverse.find? fun report =>
      reportedPath? report == some path with
  | none =>
    rw [if_neg]
    · rfl
    · intro member
      obtain ⟨r, here, rfl⟩ := List.mem_map.mp member
      have other := List.find?_eq_none.mp found r.toJson
        (List.mem_reverse.mpr (List.mem_map_of_mem here))
      exact other (by rw [reportedPath?_report, beq_self_eq_true])
  | some report =>
    obtain ⟨r, here, rfl⟩ := List.mem_map.mp (List.mem_reverse.mp (List.mem_of_find?_eq_some found))
    have on := List.find?_some found
    rw [reportedPath?_report, beq_iff_eq, Option.some.injEq] at on
    rw [Option.bind_some, givenName?_report, told r here, on,
      if_pos (on ▸ List.mem_map_of_mem here)]

theorem read_reports (reports : List Report) :
    Json.read ((Json.list (reports.map Report.toJson)).write .spaced) =
      .ok (.list (reports.map Report.toJson)) := by
  refine Json.read_write (.list fun item member => ?_) ?_ .spaced
  · obtain ⟨r, _, rfl⟩ := List.mem_map.mp member
    exact r.textual
  · refine Nat.le_trans (Nat.succ_le_succ (Json.depthOfItems_le 1 fun item member => ?_))
      (by decide)
    obtain ⟨r, _, rfl⟩ := List.mem_map.mp member
    exact Nat.le_of_eq r.depth

namespace Deduplicator

variable {host : Host} {paths : List String}

/-- The worker tells of each path the name that its file declares. -/
theorem worker_tells (fs : FileSystem) (spoken : ∀ path ∈ paths, '\x00' ∉ path.toList) :
    ∃ reports : List Report,
      work fs ((Json.ofTexts paths).write .spaced) =
        .ok ⟨0, (Json.list (reports.map Report.toJson)).write .spaced, ""⟩ ∧
      Tells (.list (reports.map Report.toJson)) paths (reports.map Report.toJson) ∧
      ∀ path, reportedName? (reports.map Report.toJson) path =
        if path ∈ paths then nameIn (declaredName? fs path) else none := by
  obtain ⟨reports, worked, same⟩ := work_ok fs spoken
  have reportedPaths : reports.map (·.path) = paths := by
    have firsts := congrArg (List.map Prod.fst) same
    rwa [List.map_map, List.map_map, show (Prod.fst ∘ fun path => (path, declaredName? fs path))
      = id from rfl, List.map_id] at firsts
  have told : ∀ r ∈ reports, r.name = declaredName? fs r.path := by
    intro r member
    have pair : (r.path, r.name) ∈ paths.map fun path => (path, declaredName? fs path) :=
      same ▸ List.mem_map_of_mem member
    obtain ⟨path, _, equal⟩ := List.mem_map.mp pair
    obtain ⟨rfl, named⟩ := Prod.mk.inj equal
    exact named.symm
  have names := reportedName?_reports told
  rw [reportedPaths] at names
  refine ⟨reports, worked, ⟨rfl, fun report member => ?_, fun path asked name given => ?_⟩, names⟩
  · obtain ⟨r, _, rfl⟩ := List.mem_map.mp member
    exact isReport_report r
  · rw [names, if_pos asked] at given
    exact isAtomic_of_nameIn given

/-- When the worker answers, each path that was asked about has the name that its file declares, and
no other path has a name. -/
theorem askWorker_answers (answering : host.worker = .answers)
    (spoken : ∀ path ∈ paths, '\x00' ∉ path.toList) (timeout : Json) :
    ∃ names, askWorker timeout paths host = .ok names ∧
      ∀ path, names.name? path =
        if path ∈ paths then nameIn (declaredName? host.files path) else none := by
  obtain ⟨reports, worked, tells, told⟩ := worker_tells host.files spoken
  obtain ⟨names, ran⟩ := (Names.foldlM_add_ok_iff _ []).mpr tells.wellFormed
  have answered : Names.ofAnswer (.list (reports.map Report.toJson)) = .ok names := ran
  obtain ⟨_, listed, -, named⟩ := Names.ofAnswer_ok answered
  obtain rfl := Except.ok.inj listed
  refine ⟨names, ?_, fun path => (named path).trans (told path)⟩
  have started : Probe.start { timeout } .answers = .ok { timeout, running := some .answers } := rfl
  rw [askWorker, answering, started, ok_bind, Probe.identities]
  dsimp only
  rw [outcome?, worked]
  dsimp only [Except.toOption, Option.getD_some]
  rw [if_neg (by decide), read_reports]
  exact answered

/-- When the worker answers, the first path for each declared name is kept, and what tells libraries
apart is what they declare. -/
theorem recordByWorker_answers (answering : host.worker = .answers)
    (spoken : ∀ path ∈ paths, '\x00' ∉ path.toList) (timeout : Json) (recorded : Strategy) :
    recordByWorker timeout paths host recorded =
      (.ok (firstOfEach (declaredName? host.files) paths), .load) := by
  cases paths with
  | nil => rfl
  | cons path rest =>
    obtain ⟨names, asked, answers⟩ := askWorker_answers answering spoken timeout
    have named : ∀ other ∈ path :: rest,
        names.name? other = nameIn (declaredName? host.files other) := fun other member => by
      rw [answers, if_pos member]
    have atomic : (path :: rest).all (fun path => (names.name? path).all Json.isAtomic) = true := by
      refine List.all_eq_true.mpr fun other member => ?_
      rw [named other member]
      cases declaredName? host.files other <;> rfl
    have kept := keepFirst_rename (fun name : String => Json.text (.ofString name))
      sameAtom_ofString named []
    rw [recordByWorker, run_bind]
    change (if (path :: rest).isEmpty = true then _ else _ : Recording (List String)) .load = _
    rw [if_neg (by simp), asked]
    dsimp only
    rw [firstByDeclaredName, if_pos atomic, ← keepFirst_eq_firstOfEach, ← kept]
    rfl

theorem shown_paths (paths : List String) :
    (paths.map fun path => Json.text (.ofString path)).map (·.shown.escaped) = paths := by
  rw [List.map_map]
  exact (List.map_congr_left fun path _ => LooseText.escaped_ofString path).trans (List.map_id _)

/-- What is kept when the worker answers: the first path for each name that a file declares, in the
order given. Every path gets its own answer, and the strategy recorded is that of declared names. -/
theorem dedupe_declared (answering : host.worker = .answers)
    (spoken : ∀ path ∈ paths, '\x00' ∉ path.toList) (timeout : Json) :
    (byDeclaredName timeout).dedupe (paths.map fun path => .text (.ofString path)) host =
        .ok ⟨firstOfEach (declaredName? host.files) paths, .load⟩ ∧
      ∃ names, askWorker timeout paths host = .ok names ∧ ∀ path, names.name? path =
        if path ∈ paths then nameIn (declaredName? host.files path) else none := by
  refine ⟨?_, askWorker_answers answering spoken timeout⟩
  rw [dedupe, record, shown_paths, recordByWorker_answers answering spoken]
  rfl

/-- A library with a copy of it, and a file that is none. -/
def copiesHost : Host where
  files := {
    nodes := [
      (["w"], .directory false),
      (["é.dll", "w"], .file (Assembly.sampleImage "Lib") 0 false),
      (["copy.dll", "w"], .file (Assembly.sampleImage "Lib") 0 false),
      (["notes.txt", "w"], .file "text".toUTF8 0 false)]
    workingDirectory := ["w"] }
  environment := []
  modules := []
  worker := .answers

def copiesPaths : List String :=
  ["/w/none.dll", "/w/notes.txt", "/w/é.dll", "/w/copy.dll", "/w/é.dll"]

theorem dedupe_declared_copies :
    (byDeclaredName (.integer 30)).dedupe (copiesPaths.map fun path => .text (.ofString path))
        copiesHost = .ok ⟨["/w/é.dll"], .load⟩ ∧
      ∃ names, askWorker (.integer 30) copiesPaths copiesHost = .ok names ∧
        names.name? "/w/copy.dll" = some (.text (.ofString "Lib")) ∧
        names.name? "/w/notes.txt" = none := by
  obtain ⟨kept, copy, notes⟩ :
      firstOfEach (declaredName? copiesHost.files) copiesPaths = ["/w/é.dll"] ∧
        declaredName? copiesHost.files "/w/copy.dll" = some "Lib" ∧
        declaredName? copiesHost.files "/w/notes.txt" = none := by
    decide +kernel
  obtain ⟨deduped, names, asked, answers⟩ :=
    @dedupe_declared copiesHost copiesPaths rfl (by decide) (.integer 30)
  refine ⟨kept ▸ deduped, names, asked, ?_, ?_⟩
  · rw [answers, if_pos (by decide), copy]
    rfl
  · rw [answers, if_pos (by decide), notes]
    rfl

end Deduplicator

end Library

end ScriptDeps
