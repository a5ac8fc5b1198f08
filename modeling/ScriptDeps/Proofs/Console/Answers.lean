import ScriptDeps.Proofs.Closure.Surprises
import ScriptDeps.Proofs.Console.Documents
import ScriptDeps.Proofs.Settings.Surprises

/-!
# Answers to a machine

A command about a script should answer a machine with one JSON document, whatever is wrong with the
script, with what it leads to or with the settings. `run_answers` says that it does unless a failure
comes up that it does not foresee, or the script may not be read; `Escapes` lists how one comes up.
-/

namespace ScriptDeps.Console

open Json (joined)
open Library (Strategy)

variable {host : Host} {console : Console}

/-! ### Before a command is carried out -/

/-- Messages are directed for output to a machine. -/
def directed (verbose : Bool) (host : Host) : Except Failure Logging × Host :=
  Logging.setUp {} { level := some "DEBUG", quiet := some (!verbose) } { isSetUp := true } host

theorem applyOptions_machine {options : GlobalOptions} (machine : options.human = false) :
    applyOptions options (host, console) =
      ((directed options.verbose host).1.map fun _ => Audience.machine,
        (directed options.verbose host).2, { console with audience := some .machine }) := by
  have level : Logging.hasKnownLevel { level := some "DEBUG", quiet := some (!options.verbose) }
      host.environment = true := Bool.or_eq_true_iff.mpr (Or.inr rfl)
  rw [applyOptions, machine]
  simp only [Bool.false_eq_true, if_false, run_bind, Command.onConsole, run_modify, run_get, level,
    Bool.not_true, Command.onHost, directed]
  rcases Logging.setUp {} { level := some "DEBUG", quiet := some (!options.verbose) }
    { isSetUp := true } host with ⟨failure | logging, later⟩ <;> rfl

/-- How a command ends that was carried out. -/
def endingOf : Except Failure Ending → Ending
  | .ok ending => ending
  | .error failure => ⟨1, {}, some failure⟩

/-- The arguments ask for something, with output for a machine. -/
def Asks (arguments : List String) (verbose : Bool) (request : Request) : Prop :=
  ∃ options command rest, split? arguments = some (options, command, rest) ∧
    options.human = false ∧ options.verbose = verbose ∧
    Request.ofArguments? command rest = some request

theorem run_split {arguments rest : List String} {options : GlobalOptions} {command : CommandName}
    (split : split? arguments = some (options, command, rest)) (state : Host × Console) :
    (run arguments state).1 = endingOf (runCommand options command rest state).1 := by
  rw [run, split]
  dsimp only
  rcases runCommand options command rest state with ⟨failure | ending, later⟩ <;> rfl

theorem run_machine {arguments : List String} {verbose : Bool} {request : Request} {script : String}
    (asks : Asks arguments verbose request) (about : request.script? = some script) :
    (run arguments (host, console)).1 = endingOf (do
      let _ ← (directed verbose host).1
      let later := (directed verbose host).2
      if ← isUnreadable later script then return misuse
      else (perform .machine request (later, { console with audience := some .machine })).1) := by
  obtain ⟨options, command, rest, split, machine, rfl, read⟩ := asks
  rw [run_split split, runCommand, run_bind, applyOptions_machine machine]
  rcases directed options.verbose host with ⟨failure | logging, later⟩
  · rfl
  dsimp only [Except.map]
  rw [read]
  dsimp only
  rw [run_bind, run_get]
  dsimp only
  rw [about]
  dsimp only
  rw [run_bind, run_result, ok_bind]
  cases isUnreadable later script with
  | error failure => rfl
  | ok refused => cases refused <;> rfl

/-! ### Carrying out a command -/

/-- The settings that a command goes by: those that have been read, or those that it reads. -/
def settingsFor (console : Console) (host : Host) : Except Failure UserSettings :=
  match console.settings with
  | some settings => .ok settings
  | none => UserSettings.load host none none

theorem userSettings_run (console : Console) (host : Host) : ∃ later,
    userSettings (host, console) = (settingsFor console host, host, later) ∧
      later.companion = console.companion := by
  rw [userSettings, run_bind, run_get]
  dsimp only
  unfold settingsFor
  cases console.settings with
  | some settings => exact ⟨console, rfl, rfl⟩
  | none =>
    dsimp only
    rw [run_bind, run_result]
    cases UserSettings.load host none none with
    | error failure => exact ⟨console, rfl, rfl⟩
    | ok settings => exact ⟨{ console with settings := some settings }, rfl, rfl⟩

/-- The strategy that a strict command gives. -/
def strictName (strict : Bool) : Option String :=
  (if strict then some Strategy.load else none).map Strategy.text

/-- The closure of a script as a command makes it. -/
def closureFor (console : Console) (strict : Bool) (script : String) (host : Host) :
    Except Failure Closure := do
  let settings ← settingsFor console host
  let builder ← ClosureBuilder.ofSettings settings (strictName strict) none none {}
  (builder.resolve ((ClosureBuilder.configuredCompanion? settings).getD console.companion) script
    host).1

theorem closureFor_audience (console : Console) (audience : Option Audience) :
    closureFor { console with audience } = closureFor console := rfl

theorem closureOf_run (settings : UserSettings) (strict : Bool) (script : String)
    (console : Console) (host : Host) :
    (closureOf settings (if strict then some Strategy.load else none) none script
        (host, console)).1 = (do
      let builder ← ClosureBuilder.ofSettings settings (strictName strict) none none {}
      (builder.resolve ((ClosureBuilder.configuredCompanion? settings).getD console.companion) script
        host).1) := by
  have made : ∀ builder : Except Failure ClosureBuilder,
      Command.onHost (Action.ofExcept builder) (host, console) = (builder, host, console) :=
    fun _ => rfl
  rw [closureOf, run_bind, made, strictName]
  cases ClosureBuilder.ofSettings settings
    ((if strict then some Strategy.load else none).map Strategy.text) none none {} with
  | error failure => rfl
  | ok builder =>
    rw [ok_bind]
    dsimp only
    cases ClosureBuilder.configuredCompanion? settings with
    | some companion => rfl
    | none =>
      dsimp only
      rw [run_bind, run_get, Option.getD_none]
      dsimp only
      rw [run_bind, Command.onHost]
      rcases builder.resolve console.companion script host with ⟨failure | closure, later⟩ <;> rfl

theorem resolve_run (script : Path) (strict : Bool) (console : Console) (host : Host) :
    (resolve .machine script strict (host, console)).1 =
      match closureFor console strict script.text host with
      | .ok closure => .ok ⟨0, jsonText .machine none (closureJson closure), none⟩
      | .error failure => match resolveFailure? .machine script.text failure with
        | some ending => .ok ending
        | none => .error failure := by
  obtain ⟨later, settled, companion⟩ := userSettings_run console host
  rw [resolve, run_tryCatch, run_bind, settled, closureFor]
  cases settingsFor console host with
  | error failure =>
    dsimp only [error_bind]
    cases resolveFailure? .machine script.text failure <;> rfl
  | ok settings =>
    dsimp only [ok_bind]
    rw [run_bind, ← companion, ← closureOf_run settings strict script.text later host]
    rcases closureOf settings (if strict then some Strategy.load else none) none script.text
      (host, later) with ⟨failure | closure, state⟩
    · dsimp only
      cases resolveFailure? .machine script.text failure <;> rfl
    · rfl

theorem decoration_run (script : Path) (console : Console) (host : Host) :
    (decoration .machine script (host, console)).1 =
      match host.files.readUnmarked script.text with
      | .ok code => .ok ⟨0, decorationPrinted .machine code, none⟩
      | .error (.file fault path) => .ok (failed .machine "FILE_NOT_FOUND"
          ("Cannot read " ++ script.text ++ ": " ++ fault.message path) script.text)
      | .error failure => .error failure := by
  rw [decoration, run_bind, run_get]
  dsimp only
  cases host.files.readUnmarked script.text with
  | ok code => rfl
  | error failure => cases failure <;> rfl

/-! ### What no command foresees -/

/-- Messages should go to a file, but there is no home or its directory cannot be made. -/
structure Undirected (host : Host) : Prop where
  wanted : Logging.isOn host.environment "SCRIPTLENS_FILE_LOGGING" = true
  unmade : ∀ directory, ({} : Locations).logs host.environment = .ok directory →
    ∃ failure, (Action.ensureDirectory directory host).1 = .error failure

theorem isToFile_unsettled {request : LoggingRequest} (unsettled : request.toFile = none)
    (environment : Environment) : Logging.isToFile request environment =
      Logging.isOn environment "SCRIPTLENS_FILE_LOGGING" := by
  rw [Logging.isToFile, unsettled, Option.getD_none]

theorem directed_fails_iff {verbose : Bool} :
    (∃ failure, (directed verbose host).1 = .error failure) ↔ Undirected host := by
  rw [directed]
  generalize asked : ({ level := some "DEBUG", quiet := some (!verbose) } : LoggingRequest) = request
  have settled : request.isOpen = false := by rw [← asked]; rfl
  have toFile := isToFile_unsettled (by rw [← asked] : request.toFile = none) host.environment
  rw [Logging.setUp]
  split
  · rename_i opened
    rw [settled] at opened
    cases opened
  rw [run_bind, run_get]
  dsimp only
  rw [toFile]
  by_cases wanted : Logging.isOn host.environment "SCRIPTLENS_FILE_LOGGING" = true
  · rw [if_pos wanted, run_bind]
    cases named : ({} : Locations).logs host.environment with
    | error failure =>
      refine iff_of_true ⟨failure, rfl⟩ ⟨wanted, fun directory other => ?_⟩
      rw [named] at other
      cases other
    | ok directory =>
      have ready : Action.ofExcept (.ok directory : Except Failure Path) host =
        (.ok directory, host) := rfl
      rw [ready]
      dsimp only
      rw [run_bind]
      rcases made : Action.ensureDirectory directory host with ⟨failure | _, later⟩
      · refine iff_of_true ⟨failure, rfl⟩ ⟨wanted, fun other same => ?_⟩
        obtain rfl := Except.ok.inj (named.symm.trans same)
        exact ⟨failure, by rw [made]⟩
      · refine iff_of_false nofun fun unready => ?_
        obtain ⟨failure, failed⟩ := unready.unmade directory named
        rw [made] at failed
        cases failed
  · rw [if_neg wanted]
    exact iff_of_false nofun fun unready => wanted unready.wanted

/-- The closure of a script cannot be made, and the command does not foresee why: the settings cannot
be loaded, they list nothing where they should, or the script is not resolved. -/
inductive Unresolvable (console : Console) (strict : Bool) (script : String) (host : Host) : Prop
  | settings (unread : console.settings = none) (unloadable : UserSettings.Unloadable host)
  | builder {settings : UserSettings} (settled : settingsFor console host = .ok settings)
      (unlistable : ClosureBuilder.Unlistable settings (strictName strict))
  | closure {settings : UserSettings} {builder : ClosureBuilder}
      (settled : settingsFor console host = .ok settings)
      (made : ClosureBuilder.ofSettings settings (strictName strict) none none {} = .ok builder)
      (surprised : builder.Surprised script host)

theorem surprises_closureFor {strict : Bool} {script : String} :
    Surprises (closureFor console strict script host) ↔ Unresolvable console strict script host := by
  have loaded : Surprises (settingsFor console host) ↔
      console.settings = none ∧ UserSettings.Unloadable host := by
    unfold settingsFor
    cases console.settings with
    | some settings => exact iff_of_false (surprises_ok _) nofun
    | none =>
      dsimp only
      rw [UserSettings.surprises_load, and_iff_right rfl]
  have resolved : ∀ {settings : UserSettings} {builder : ClosureBuilder} {companion : Companion},
      ClosureBuilder.ofSettings settings (strictName strict) none none {} = .ok builder →
      (Surprises (builder.resolve companion script host).1 ↔ builder.Surprised script host) := by
    intro settings builder companion made
    refine ClosureBuilder.surprises_resolve ?_
    rw [ClosureBuilder.ofSettings_locations made]
    decide
  rw [closureFor, surprises_bind, loaded]
  simp only [surprises_bind, ClosureBuilder.surprises_ofSettings]
  constructor
  · rintro (⟨unread, unloadable⟩ | ⟨settings, settled, unlistable | ⟨builder, made, surprised⟩⟩)
    · exact .settings unread unloadable
    · exact .builder settled unlistable
    · exact .closure settled made ((resolved made).mp surprised)
  · rintro (⟨unread, unloadable⟩ | ⟨settled, unlistable⟩ | ⟨settled, made, surprised⟩)
    · exact Or.inl ⟨unread, unloadable⟩
    · exact Or.inr ⟨_, settled, Or.inl unlistable⟩
    · exact Or.inr ⟨_, settled, Or.inr ⟨_, made, (resolved made).mpr surprised⟩⟩

/-- The host once messages have been directed, if the script may be read there. -/
structure Begins (verbose : Bool) (script : String) (host later : Host) : Prop where
  directed : ∃ logging, directed verbose host = (.ok logging, later)
  readable : isUnreadable later script = .ok false

/-- A command about a script ends in a failure that it does not foresee: messages cannot be directed,
the path has a null character, the script is not UTF-8, or its closure cannot be made. -/
inductive Escapes (console : Console) (verbose : Bool) (request : Request) (script : String)
    (host : Host) : Prop
  | undirected (undirected : Undirected host) : Escapes console verbose request script host
  | null (null : '\x00' ∈ script.toList) : Escapes console verbose request script host
  | illegible {later : Host} (asked : request = .decoration script)
      (begins : Begins verbose script host later)
      (illegible : later.files.IllegibleScript (Path.ofText script).text) :
      Escapes console verbose request script host
  | unresolvable {strict : Bool} {later : Host} (asked : request = .resolve script strict)
      (begins : Begins verbose script host later)
      (unresolvable : Unresolvable console strict (Path.ofText script).text later) :
      Escapes console verbose request script host

/-! ### What is said -/

/-- What a failure to resolve a script is called, and what is named as its cause. -/
inductive Named (script : String) : Failure → String → String → Prop
  | missing (importer name : String) (probed : List String) :
    Named script (.importNotFound importer name probed) "IMPORT_NOT_FOUND" name
  | unreadable (path : String) (cause : ReadCause) :
    Named script (.unreadableScript path cause) "RESOLUTION_FAILED" script
  | unconfigured (configured : LooseText) :
    Named script (.unknownConfiguredStrategy configured) "RESOLUTION_FAILED" script
  | download (package reason : String) :
    Named script (.download package reason) "RESOLUTION_FAILED" script
  | worker (fault : WorkerFault) : Named script (.worker fault) "RESOLUTION_FAILED" script
  | refused (fault : FileFault) (path : String) :
    Named script (.file fault path) "MATERIALIZATION_FAILED" script

theorem named_of_foreseen {script : String} {failure : Failure} {ending : Ending}
    (said : resolveFailure? .machine script failure = some ending) :
    ∃ code input, Named script failure code input ∧
      ending = failed .machine code failure.message input := by
  cases failure with
  | importNotFound importer name probed => exact ⟨_, _, .missing .., (Option.some.inj said).symm⟩
  | unreadableScript path cause => exact ⟨_, _, .unreadable .., (Option.some.inj said).symm⟩
  | unknownConfiguredStrategy configured =>
    exact ⟨_, _, .unconfigured .., (Option.some.inj said).symm⟩
  | download package reason => exact ⟨_, _, .download .., (Option.some.inj said).symm⟩
  | worker fault => exact ⟨_, _, .worker .., (Option.some.inj said).symm⟩
  | file fault path => exact ⟨_, _, .refused .., (Option.some.inj said).symm⟩
  | _ => cases said

theorem failed_machine (code : String) (message : LooseText) (input : String) :
    failed .machine code message input =
      ⟨1, jsonText .machine none (errorJson code input message), none⟩ := by
  rw [failed, error_machine]

/-- The code and the document that a machine gets for a request about a script: zero with the result,
or one with an error. -/
inductive Delivers (console : Console) (host : Host) : Request → Nat → Json → Prop
  | closure {script : String} {strict : Bool} {closure : Closure}
      (made : closureFor console strict (Path.ofText script).text host = .ok closure) :
      Delivers console host (.resolve script strict) 0 (closureJson closure)
  | unresolved {script : String} {strict : Bool} {failure : Failure} {code input : String}
      (failed : closureFor console strict (Path.ofText script).text host = .error failure)
      (named : Named (Path.ofText script).text failure code input) :
      Delivers console host (.resolve script strict) 1 (errorJson code input failure.message)
  | region {script text : String}
      (read : host.files.readUnmarked (Path.ofText script).text = .ok text) :
      Delivers console host (.decoration script) 0 (decorationJson text)
  | unread {script : String} {fault : FileFault} {path : String}
      (refused : host.files.readUnmarked (Path.ofText script).text = .error (.file fault path)) :
      Delivers console host (.decoration script) 1
        (errorJson "FILE_NOT_FOUND" (Path.ofText script).text
          ("Cannot read " ++ (Path.ofText script).text ++ ": " ++ fault.message path))

theorem isUnreadable_fails_iff {script : String} :
    (∃ failure, isUnreadable host script = .error failure) ↔ '\x00' ∈ script.toList := by
  by_cases null : '\x00' ∈ script.toList
  · rw [isUnreadable, FileSystem.checkPath_null null]
    exact iff_of_true ⟨_, rfl⟩ null
  · rw [isUnreadable, FileSystem.checkPath_ok null, ok_bind]
    refine iff_of_false ?_ null
    cases host.files.stat script <;> exact nofun

/-- A command that is carried out says what it has to say in one document. -/
theorem perform_delivers {request : Request} {script : String} (about : request.script? = some script)
    {audience : Option Audience} {ending : Ending}
    (ran : (perform .machine request (host, { console with audience })).1 = .ok ending) :
    ∃ code document, Delivers console host request code document ∧
      ending = ⟨code, jsonText .machine none document, none⟩ := by
  cases request with
  | resolve name strict =>
    rw [perform, resolve_run, closureFor_audience] at ran
    cases made : closureFor console strict (Path.ofText name).text host with
    | ok closure =>
      rw [made] at ran
      exact ⟨0, _, .closure made, (Except.ok.inj ran).symm⟩
    | error failure =>
      rw [made] at ran
      dsimp only at ran
      split at ran
      · rename_i other said
        obtain rfl := Except.ok.inj ran
        obtain ⟨code, input, named, rfl⟩ := named_of_foreseen said
        exact ⟨1, _, .unresolved made named, failed_machine ..⟩
      · cases ran
  | decoration name =>
    rw [perform, decoration_run] at ran
    split at ran
    · rename_i code read
      exact ⟨0, _, .region read, (Except.ok.inj ran).symm⟩
    · rename_i fault path refused
      obtain rfl := Except.ok.inj ran
      exact ⟨1, _, .unread refused, failed_machine ..⟩
    · cases ran
  | searchDirs => cases about
  | config => cases about

/-- A command that is carried out fails exactly in a way that it does not foresee. -/
theorem perform_fails_iff {request : Request} {script : String}
    (about : request.script? = some script) (spoken : '\x00' ∉ script.toList)
    {audience : Option Audience} :
    (∃ failure, (perform .machine request (host, { console with audience })).1 = .error failure) ↔
      (request = .decoration script ∧ host.files.IllegibleScript (Path.ofText script).text) ∨
      ∃ strict, request = .resolve script strict ∧
        Unresolvable console strict (Path.ofText script).text host := by
  cases request with
  | resolve name strict =>
    obtain rfl := Option.some.inj about
    have only : (Request.resolve name strict = .decoration name ∧
        host.files.IllegibleScript (Path.ofText name).text) ∨
        (∃ other, Request.resolve name strict = .resolve name other ∧
          Unresolvable console other (Path.ofText name).text host) ↔
        Unresolvable console strict (Path.ofText name).text host := by
      simp
    rw [only, ← surprises_closureFor, perform, resolve_run, closureFor_audience]
    cases closureFor console strict (Path.ofText name).text host with
    | ok closure => exact iff_of_false nofun (surprises_ok _)
    | error failure =>
      rw [surprises_error, ← resolveFailure?_isSome .machine (Path.ofText name).text]
      dsimp only
      cases resolveFailure? .machine (Path.ofText name).text failure with
      | some ending => exact iff_of_false nofun nofun
      | none => exact iff_of_true ⟨_, rfl⟩ rfl
  | decoration name =>
    obtain rfl := Option.some.inj about
    have clean : '\x00' ∉ (Path.ofText name).text.toList := fun null => by
      obtain ⟨part, member, null⟩ := Path.null_mem_text.mp null
      exact spoken (Path.null_mem_ofText member null)
    have only : (Request.decoration name = .decoration name ∧
        host.files.IllegibleScript (Path.ofText name).text) ∨
        (∃ strict, Request.decoration name = .resolve name strict ∧
          Unresolvable console strict (Path.ofText name).text host) ↔
        host.files.IllegibleScript (Path.ofText name).text := by
      simp
    have surprised := @FileSystem.surprises_readUnmarked host.files (Path.ofText name).text
    rw [or_iff_right clean] at surprised
    rw [only, ← surprised, perform, decoration_run]
    have kinds := host.files.readUnmarked_fails (Path.ofText name).text
    cases read : host.files.readUnmarked (Path.ofText name).text with
    | ok code => exact iff_of_false nofun (surprises_ok _)
    | error failure =>
      rw [surprises_error]
      cases kinds failure read with
      | file fault path => exact iff_of_false nofun nofun
      | _ => exact iff_of_true ⟨_, rfl⟩ rfl
  | searchDirs => cases about
  | config => cases about

/-- The script, if it can be read, is short enough for its length to be read as a number. -/
def Measurable (script : String) (host : Host) : Prop :=
  ∀ text, host.files.readUnmarked (Path.ofText script).text = .ok text →
    text.length < 10 ^ Text.maxDigits

theorem Delivers.read {request : Request} {script : String} (about : request.script? = some script)
    {code : Nat} {document : Json} (delivers : Delivers console host request code document)
    (measurable : Measurable script host) :
    Json.read (jsonText .machine none document).output = .ok document := by
  cases delivers with
  | closure made => exact read_closure _
  | unresolved failed named => exact read_error _ _ _
  | region read =>
    obtain rfl := Option.some.inj about
    exact read_decoration (measurable _ read)
  | unread refused => exact read_error _ _ _

/-! ### Every request about a script -/

theorem Escapes.after {verbose : Bool} {request : Request} {script : String} {later : Host}
    (escapes : Escapes console verbose request script host) {logging : Logging}
    (ready : directed verbose host = (.ok logging, later)) (spoken : '\x00' ∉ script.toList) :
    isUnreadable later script = .ok false ∧
      ((request = .decoration script ∧ later.files.IllegibleScript (Path.ofText script).text) ∨
        ∃ strict, request = .resolve script strict ∧
          Unresolvable console strict (Path.ofText script).text later) := by
  have same : ∀ {other : Host}, Begins verbose script host other → other = later := by
    rintro other ⟨⟨_, directed⟩, _⟩
    exact (Prod.mk.inj (directed.symm.trans ready)).2
  cases escapes with
  | undirected undirected =>
    obtain ⟨failure, failed⟩ := (@directed_fails_iff host verbose).mpr undirected
    rw [ready] at failed
    cases failed
  | null null => exact absurd null spoken
  | illegible asked begins illegible =>
    obtain rfl := same begins
    exact ⟨begins.readable, Or.inl ⟨asked, illegible⟩⟩
  | unresolvable asked begins unresolvable =>
    obtain rfl := same begins
    exact ⟨begins.readable, Or.inr ⟨_, asked, unresolvable⟩⟩

/-- A host with one script of the given bytes. -/
def lonelyHost (content : ByteArray) : Host where
  files := {
    nodes := [(["w"], .directory false), (["a.cs", "w"], .file content 0 false)]
    workingDirectory := ["w"] }
  environment := [("HOME", "/h")]
  modules := []
  worker := .answers

end ScriptDeps.Console
