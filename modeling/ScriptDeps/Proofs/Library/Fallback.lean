import ScriptDeps.Proofs.Library.Answers

/-!
# When the worker fails

The worker delivers names, or it garbles them, or it is not heard. The file names do in its place
when it is not heard. `dedupe_returns_iff` says that only garbled names make a deduplicator fail, and
a worker that does its own work never gives those.
-/

namespace ScriptDeps.Library.Deduplicator

variable {host : Host} {paths : List String}

/-! ### What comes of the worker -/

/-- What the worker that is started for some paths has written, if it ends well. -/
def written? (host : Host) (paths : List String) : Option String :=
  ((outcome? host.files ((Json.ofTexts paths).write .spaced) host.worker).filter
    fun outcome => outcome.code == 0).map (·.output)

/-- The worker gives an answer that tells the names of the paths. -/
def Delivers (host : Host) (paths : List String) (reports : List Json) : Prop :=
  ∃ output ∈ written? host paths, ∃ answer, Json.read output = .ok answer ∧
    Tells answer paths reports

/-- The worker ends well, but what it has written is nested too deeply or tells no names. -/
def Garbles (host : Host) (paths : List String) : Prop :=
  ∃ output ∈ written? host paths, Json.read output = .error .tooDeep ∨
    ∃ answer, Json.read output = .ok answer ∧ ∀ reports, ¬Tells answer paths reports

/-- The worker does not end well, or what it has written is no JSON. -/
def Unheard (host : Host) (paths : List String) : Prop :=
  ∀ output ∈ written? host paths, ∃ fault, Json.read output = .error fault ∧ fault ≠ .tooDeep

theorem unheard_of_none (nothing : written? host paths = none) : Unheard host paths := by
  intro output wrote
  rw [nothing] at wrote
  cases wrote

theorem delivers_or_garbles_or_unheard (host : Host) (paths : List String) :
    (∃ reports, Delivers host paths reports) ∨ Garbles host paths ∨ Unheard host paths := by
  cases wrote : written? host paths with
  | none => exact .inr (.inr (unheard_of_none wrote))
  | some output =>
    cases read : Json.read output with
    | ok answer =>
      by_cases tells : ∃ reports, Tells answer paths reports
      · obtain ⟨reports, tells⟩ := tells
        exact .inl ⟨reports, output, wrote, answer, read, tells⟩
      · exact .inr (.inl ⟨output, wrote, .inr ⟨answer, read, fun reports told => tells ⟨reports, told⟩⟩⟩)
    | error fault =>
      by_cases deep : fault = .tooDeep
      · exact .inr (.inl ⟨output, wrote, .inl (deep ▸ read)⟩)
      · refine .inr (.inr fun other member => ?_)
        rw [← Option.some.inj (wrote.symm.trans member)]
        exact ⟨fault, read, deep⟩

theorem Unheard.not_delivers (unheard : Unheard host paths) (reports : List Json) :
    ¬Delivers host paths reports := by
  rintro ⟨output, wrote, answer, read, -⟩
  obtain ⟨fault, failed, -⟩ := unheard output wrote
  rw [read] at failed
  cases failed

theorem Unheard.not_garbles (unheard : Unheard host paths) : ¬Garbles host paths := by
  rintro ⟨output, wrote, garbled⟩
  obtain ⟨fault, failed, shallow⟩ := unheard output wrote
  rw [failed] at garbled
  obtain deep | ⟨answer, read, -⟩ := garbled
  · exact shallow (Except.error.inj deep)
  · cases read

theorem Delivers.not_garbles {reports : List Json} (delivers : Delivers host paths reports) :
    ¬Garbles host paths := by
  obtain ⟨output, wrote, answer, read, tells⟩ := delivers
  rintro ⟨other, again, garbled⟩
  obtain rfl := Option.some.inj (wrote.symm.trans again)
  rw [read] at garbled
  obtain deep | ⟨same, equal, silent⟩ := garbled
  · cases deep
  · obtain rfl := Except.ok.inj equal
    exact silent reports tells

/-! ### Asking -/

theorem askWorker_started (timeout : Json) (paths : List String) (startable : host.worker ≠ .missing) :
    askWorker timeout paths host =
      Probe.identities { timeout, running := some host.worker } host.files (.ofTexts paths) := by
  have started : Probe.start { timeout } host.worker =
      .ok { timeout, running := some host.worker } := by
    cases mode : host.worker with
    | missing => exact absurd mode startable
    | _ => rfl
  rw [askWorker, started, ok_bind]

theorem askWorker_silent (silent : written? host paths = none) (timeout : Json) :
    ∃ failure, failure.isCaught = true ∧ askWorker timeout paths host = .error failure := by
  by_cases startable : host.worker = .missing
  · refine ⟨.file .missing "python", rfl, ?_⟩
    rw [askWorker, startable]
    rfl
  rw [askWorker_started timeout paths startable, Probe.identities]
  dsimp only
  unfold written? at silent
  cases ended : outcome? host.files ((Json.ofTexts paths).write .spaced) host.worker with
  | none => exact ⟨_, rfl, rfl⟩
  | some outcome =>
    rw [ended] at silent
    by_cases well : outcome.code = 0
    · simp [Option.filter, well] at silent
    · dsimp only
      rw [if_pos (by simpa using well)]
      exact ⟨_, rfl, rfl⟩

theorem askWorker_wrote {output : String} (wrote : written? host paths = some output)
    (timeout : Json) :
    ∃ errors, askWorker timeout paths host = match Json.read output with
      | .ok answer => Names.ofAnswer answer
      | .error .tooDeep => .error (.json .tooDeep)
      | .error _ => .error (.worker (.unreadable errors)) := by
  obtain ⟨outcome, ended, rfl⟩ := Option.map_eq_some_iff.mp wrote
  obtain ⟨ended, well⟩ := Option.filter_eq_some_iff.mp ended
  have startable : host.worker ≠ .missing := by
    intro missing
    rw [missing] at ended
    cases ended
  refine ⟨outcome.errors, ?_⟩
  rw [askWorker_started timeout paths startable, Probe.identities]
  dsimp only
  rw [ended]
  dsimp only
  exact if_neg (by simpa using well)

theorem recordByWorker_asked (asked : paths ≠ []) (timeout : Json) (recorded : Strategy) :
    recordByWorker timeout paths host recorded = match askWorker timeout paths host with
      | .ok names => (firstByDeclaredName names paths, .load)
      | .error failure =>
        if failure.isCaught then (.ok (firstByFileName paths), .filename)
        else (.error failure, .load) := by
  rw [recordByWorker, run_bind]
  change (if paths.isEmpty = true then _ else _ : Recording (List String)) .load = _
  rw [if_neg (by simpa using asked)]
  cases askWorker timeout paths host with
  | ok names => rfl
  | error failure => cases failure <;> rfl

/-! ### What is recorded -/

theorem recordByWorker_delivers (asked : paths ≠ []) {reports : List Json}
    (delivers : Delivers host paths reports) (timeout : Json) (recorded : Strategy) :
    recordByWorker timeout paths host recorded =
      (.ok (keepFirst Json.sameAtom (reportedName? reports) [] paths), .load) := by
  obtain ⟨output, wrote, answer, read, tells⟩ := delivers
  obtain ⟨errors, asking⟩ := askWorker_wrote wrote timeout
  obtain ⟨names, ran⟩ := (Names.foldlM_add_ok_iff reports []).mpr tells.wellFormed
  have answered : Names.ofAnswer answer = .ok names := by
    rw [Names.ofAnswer_eq, tells.listed, ok_bind, ran]
  obtain ⟨_, listed, -, told⟩ := Names.ofAnswer_ok answered
  obtain rfl := Except.ok.inj (tells.listed.symm.trans listed)
  rw [read] at asking
  rw [recordByWorker_asked asked, asking]
  dsimp only
  rw [answered]
  dsimp only
  rw [Names.firstByDeclaredName_congr told, if_pos tells.named]

theorem recordByWorker_garbles (asked : paths ≠ []) (garbles : Garbles host paths) (timeout : Json)
    (recorded : Strategy) :
    ∃ failure, recordByWorker timeout paths host recorded = (.error failure, .load) := by
  obtain ⟨output, wrote, garbled⟩ := garbles
  obtain ⟨errors, asking⟩ := askWorker_wrote wrote timeout
  rw [recordByWorker_asked asked, asking]
  obtain deep | ⟨answer, read, silent⟩ := garbled
  · rw [deep]
    exact ⟨_, rfl⟩
  · rw [read]
    dsimp only
    cases answered : Names.ofAnswer answer with
    | error failure =>
      dsimp only
      have shape := Names.ofAnswer_fails answer failure answered
      rw [if_neg (by simp [shape.uncaught])]
      exact ⟨failure, rfl⟩
    | ok names =>
      obtain ⟨reports, listed, wellFormed, told⟩ := Names.ofAnswer_ok answered
      dsimp only
      rw [Names.firstByDeclaredName_congr told,
        if_neg fun named => silent reports ⟨listed, wellFormed, named⟩]
      exact ⟨_, rfl⟩

theorem recordByWorker_unheard (asked : paths ≠ []) (unheard : Unheard host paths) (timeout : Json)
    (recorded : Strategy) :
    recordByWorker timeout paths host recorded = (.ok (firstByFileName paths), .filename) := by
  rw [recordByWorker_asked asked]
  cases wrote : written? host paths with
  | none =>
    obtain ⟨failure, caught, asking⟩ := askWorker_silent wrote timeout
    rw [asking]
    dsimp only
    rw [if_pos caught]
  | some output =>
    obtain ⟨errors, asking⟩ := askWorker_wrote wrote timeout
    obtain ⟨fault, failed, shallow⟩ := unheard output wrote
    rw [asking, failed]
    cases fault with
    | tooDeep => exact absurd rfl shallow
    | _ => rfl

/-! ### How the worker behaves -/

theorem work_fails {path : String} (member : path ∈ paths) (silent : '\x00' ∈ path.toList)
    (fs : FileSystem) : ∃ failure, work fs ((Json.ofTexts paths).write .spaced) = .error failure := by
  have refused : report fs path = .error .nullInPath := by
    rw [report, FileSystem.readBytes, FileSystem.checkPath, if_pos (by simpa using silent)]
    rfl
  rw [work, readJson, read_paths, ok_bind]
  refine bind_fails (mapM_fails (List.mem_map_of_mem member) ?_) _
  rw [Json.shown, LooseText.toString?_ofString]
  exact ⟨_, refused⟩

theorem delivers_of_answers (answering : host.worker = .answers)
    (spoken : ∀ path ∈ paths, '\x00' ∉ path.toList) :
    ∃ reports, Delivers host paths reports ∧ ∀ path ∈ paths,
      reportedName? reports path = nameIn (declaredName? host.files path) := by
  obtain ⟨reports, worked, tells, told⟩ := worker_tells host.files spoken
  refine ⟨_, ⟨_, ?_, _, read_reports reports, tells⟩, fun path asked => ?_⟩
  · unfold written?
    rw [answering, outcome?, worked]
    rfl
  · rw [told, if_pos asked]

/-- The worker dies of a path with a null character. -/
theorem unheard_of_null (answering : host.worker = .answers) {path : String} (member : path ∈ paths)
    (silent : '\x00' ∈ path.toList) : Unheard host paths := by
  obtain ⟨failure, failed⟩ := work_fails member silent host.files
  refine unheard_of_none ?_
  unfold written?
  rw [answering, outcome?, failed]
  rfl

/-- Only a worker that answers is heard, and only on paths without null characters. -/
theorem unheard_of_own (own : ∀ output, host.worker ≠ .writes output)
    (silent : ¬(host.worker = .answers ∧ ∀ path ∈ paths, '\x00' ∉ path.toList)) :
    Unheard host paths := by
  cases mode : host.worker with
  | writes output => exact absurd mode (own output)
  | answers =>
    simp only [mode, true_and, not_forall, not_not] at silent
    obtain ⟨path, member, silent⟩ := silent
    exact unheard_of_null mode member silent
  | missing =>
    refine unheard_of_none ?_
    rw [written?, mode]
    rfl
  | hangs =>
    refine unheard_of_none ?_
    rw [written?, mode]
    rfl
  | exits code =>
    intro output wrote
    rw [written?, mode, outcome?, Option.filter] at wrote
    split at wrote
    · rw [← Option.some.inj wrote]
      refine ⟨.malformed, rfl, ?_⟩
      rintro ⟨⟩
    · cases wrote

/-- Only a worker that writes something else than it should can garble the names. -/
theorem garbles_writes (garbles : Garbles host paths) : ∃ output, host.worker = .writes output := by
  by_contra own
  rw [not_exists] at own
  by_cases answering : host.worker = .answers ∧ ∀ path ∈ paths, '\x00' ∉ path.toList
  · obtain ⟨reports, delivers, -⟩ := delivers_of_answers answering.1 answering.2
    exact delivers.not_garbles garbles
  · exact (unheard_of_own own answering).not_garbles garbles

/-! ### What is kept -/

/-- Paths as a deduplicator is given them. -/
abbrev itemsOf (paths : List String) : List Json :=
  paths.map fun path => .text (.ofString path)

theorem dedupe_of_record {d : Deduplicator} {items : List Json} {result : Except Failure (List String)}
    {recorded : Strategy} (ran : d.record items host .load = (result, recorded)) :
    d.dedupe items host = result.map fun kept => ⟨kept, d.used recorded⟩ := by
  rw [dedupe, ran]
  cases result <;> rfl

theorem dedupe_byFileName (paths : List String) (host : Host) :
    byFileName.dedupe (itemsOf paths) host =
      .ok ⟨firstByFileName paths, .filename⟩ := by
  have texts : (itemsOf paths).filterMap Json.text? = paths := by
    rw [List.filterMap_map, show Json.text? ∘ (fun path => Json.text (.ofString path)) = some from
      funext LooseText.toString?_ofString, List.filterMap_some]
  rw [dedupe, record, texts]
  rfl

theorem dedupe_byDeclaredName {timeout : Json} {result : Except Failure (List String)}
    {recorded : Strategy} (ran : recordByWorker timeout paths host .load = (result, recorded)) :
    (byDeclaredName timeout).dedupe (itemsOf paths) host =
      result.map fun kept => ⟨kept, recorded⟩ := by
  refine dedupe_of_record (d := byDeclaredName timeout) ?_
  rw [record, shown_paths, ran]

theorem byDeclaredName_returns_iff (timeout : Json) (paths : List String) (host : Host) :
    (∃ deduped, (byDeclaredName timeout).dedupe (itemsOf paths) host = .ok deduped) ↔
      (Garbles host paths → paths = []) := by
  constructor
  · rintro ⟨deduped, done⟩ garbles
    by_contra asked
    obtain ⟨failure, ran⟩ := recordByWorker_garbles asked garbles timeout .load
    rw [dedupe_byDeclaredName ran] at done
    cases done
  · intro clear
    by_cases asked : paths = []
    · subst asked
      exact ⟨_, rfl⟩
    · obtain ⟨reports, delivers⟩ | garbles | unheard := delivers_or_garbles_or_unheard host paths
      · exact ⟨_, dedupe_byDeclaredName (recordByWorker_delivers asked delivers timeout .load)⟩
      · exact absurd (clear garbles) asked
      · exact ⟨_, dedupe_byDeclaredName (recordByWorker_unheard asked unheard timeout .load)⟩

/-- Asking the worker gives an answer for all paths and however the worker behaves, unless it garbles
the names of at least one path. When it does not deliver any, the answer is that of the file names.
A worker that writes nothing but its own reports never garbles them. -/
theorem dedupe_returns_iff (timeout : Json) (paths : List String) (host : Host) :
    ((∃ deduped, (byDeclaredName timeout).dedupe (itemsOf paths) host = .ok deduped) ↔
        (Garbles host paths → paths = [])) ∧
      (paths ≠ [] → ¬Garbles host paths → (∀ reports, ¬Delivers host paths reports) →
        (byDeclaredName timeout).dedupe (itemsOf paths) host =
            byFileName.dedupe (itemsOf paths) host ∧
          (byDeclaredName timeout).dedupe (itemsOf paths) host =
            .ok ⟨firstByFileName paths, .filename⟩) ∧
      (Garbles host paths → ∃ output, host.worker = .writes output) := by
  refine ⟨byDeclaredName_returns_iff timeout paths host, fun asked clear silent => ?_, garbles_writes⟩
  obtain ⟨reports, delivers⟩ | garbles | unheard := delivers_or_garbles_or_unheard host paths
  · exact absurd delivers (silent reports)
  · exact absurd garbles clear
  · have fellBack := dedupe_byDeclaredName (recordByWorker_unheard asked unheard timeout .load)
    exact ⟨fellBack.trans (dedupe_byFileName paths host).symm, fellBack⟩

/-- A host whose worker writes a text of its own. -/
def strayHost (output : String) : Host where
  files := { nodes := [], workingDirectory := [] }
  environment := []
  modules := []
  worker := .writes output

/-- A number is read, but tells no names: instead of going by the file names, the deduplicator
fails. -/
theorem dedupe_number :
    (byDeclaredName (.integer 30)).dedupe (itemsOf ["/w/a.dll"]) (strayHost "5") =
        .error .notAList ∧
      byFileName.dedupe (itemsOf ["/w/a.dll"]) (strayHost "5") = .ok ⟨["/w/a.dll"], .filename⟩ := by
  decide +kernel

end ScriptDeps.Library.Deduplicator
