import ScriptDeps.Proofs.Library.FirstOfEach
import ScriptDeps.Proofs.Package.Obstacles

/-!
# Packages that are downloaded

What becomes of packages with any downloader, one that changes the files as it likes and keeps what it
likes for itself. A run is told as turns, one for each package, in which a package is handed over
exactly if it is missing then and may be fetched. The deliveries of a store are one such downloader.
-/

namespace ScriptDeps

/-- Why a downloader does not deliver a package. -/
inductive Mishap
  /-- Something is refused to it by the system. -/
  | system (reason : String)
  | other (failure : Failure)

/-- What the system refuses to a downloader is the package's failure. -/
def Mishap.failure (package : PackageReference) : Mishap → Failure
  | system reason => .download package.name reason
  | other failure => failure

/-- A downloader is handed a package. It works on the files and on whatever else it sees and keeps. -/
abbrev Downloader (μ : Type) :=
  PackageReference → FileSystem → μ → Except Mishap Unit × FileSystem × μ

/-- Where packages are looked for, who may be asked for them, and whether that is to be left. -/
structure Resolver (μ : Type) where
  roots : List Path
  downloader? : Option (Downloader μ)
  suppress : Bool

/-- The files, what the downloader keeps, and the packages that were handed to it, the last first. -/
structure Progress (μ : Type) where
  files : FileSystem
  memory : μ
  handed : List PackageReference

abbrev Fetching (μ α : Type) := ExceptT Failure (StateM (Progress μ)) α

namespace Resolver

open PackageStore

variable {μ α β : Type}

def ofFiles (f : FileSystem → Except Failure α) : Fetching μ α := fun progress =>
  (f progress.files, progress)

def handOver (downloader : Downloader μ) (package : PackageReference) : Fetching μ Unit :=
  fun progress =>
    let (outcome, files, memory) := downloader package progress.files progress.memory
    let after := ⟨files, memory, package :: progress.handed⟩
    match outcome with
    | .ok () => (.ok (), after)
    | .error mishap => (.error (mishap.failure package), after)

variable (resolver : Resolver μ)

/-- The directory of a package, fetched if it is not there and may be. -/
def obtain (package : PackageReference) : Fetching μ (Option Path) := do
  match ← ofFiles (findIn · package resolver.roots) with
  | some directory => return some directory
  | none =>
    match resolver.downloader? with
    | some downloader =>
      if resolver.suppress then return none
      handOver downloader package
      ofFiles (findIn · package resolver.roots)
    | none => return none

def librariesOf (package : PackageReference) : Fetching μ (List String) := do
  if package.noReference then return []
  match ← resolver.obtain package with
  | none => return []
  | some directory => ofFiles (libraries · directory)

def resolve (packages : List PackageReference) : Fetching μ (List String) := do
  return distinct (← packages.mapM resolver.librariesOf).flatten

/-! ### Turns -/

/-- What comes of one package: how it is met and left, and the directory and the libraries that are
found for it. -/
structure Turn (μ : Type) where
  package : PackageReference
  before : Progress μ
  after : Progress μ
  directory : Option Path
  libraries : List String

def isMissing (fs : FileSystem) (package : PackageReference) : Bool :=
  match findIn fs package resolver.roots with
  | .ok none => true
  | _ => false

/-- A package is handed over if it is to give libraries, is missing at its turn and may be fetched. -/
def hands (package : PackageReference) (fs : FileSystem) : Bool :=
  !package.noReference && resolver.isMissing fs package && !resolver.suppress &&
    resolver.downloader?.isSome

structure Handles (turn : Turn μ) : Prop where
  handed : resolver.hands turn.package turn.before.files = true →
    ∃ downloader, resolver.downloader? = some downloader ∧
      downloader turn.package turn.before.files turn.before.memory =
        (.ok (), turn.after.files, turn.after.memory) ∧
      turn.after.handed = turn.package :: turn.before.handed
  kept : resolver.hands turn.package turn.before.files = false → turn.after = turn.before
  skipped : turn.package.noReference = true → turn.directory = none
  found : turn.package.noReference = false →
    findIn turn.after.files turn.package resolver.roots = .ok turn.directory
  absent : turn.directory = none → turn.libraries = []
  listed : ∀ directory, turn.directory = some directory →
    libraries turn.after.files directory = .ok turn.libraries

/-- Each turn begins where the one before it ends. -/
def Follow : Progress μ → List (Turn μ) → Progress μ → Prop
  | start, [], finish => finish = start
  | start, turn :: rest, finish => turn.before = start ∧ Follow turn.after rest finish

/-- The turns of packages, in their order, from one state to another. -/
structure Turns (packages : List PackageReference) (start : Progress μ) (turns : List (Turn μ))
    (finish : Progress μ) : Prop where
  packages : turns.map Turn.package = packages
  follow : Follow start turns finish
  handled : ∀ turn ∈ turns, resolver.Handles turn

variable {resolver} {package : PackageReference} {before after : Progress μ}

theorem isMissing_iff {fs : FileSystem} :
    resolver.isMissing fs package = true ↔ findIn fs package resolver.roots = .ok none := by
  unfold isMissing
  split <;> simp_all

theorem hands_iff {fs : FileSystem} : resolver.hands package fs = true ↔
    package.noReference = false ∧ findIn fs package resolver.roots = .ok none ∧
      resolver.suppress = false ∧ ∃ downloader, resolver.downloader? = some downloader := by
  rw [← isMissing_iff, ← Option.isSome_iff_exists]
  simp [hands, and_assoc]

theorem handOver_ok_iff {downloader : Downloader μ} :
    handOver downloader package before = (.ok (), after) ↔
      downloader package before.files before.memory = (.ok (), after.files, after.memory) ∧
        after.handed = package :: before.handed := by
  constructor
  · intro ran
    unfold handOver at ran
    generalize downloader package before.files before.memory = outcome at ran ⊢
    obtain ⟨mishap | done, files, memory⟩ := outcome
    · cases (Prod.mk.inj ran).1
    · obtain ⟨-, rfl⟩ := Prod.mk.inj ran
      exact ⟨rfl, rfl⟩
  · rintro ⟨delivered, logged⟩
    rw [handOver, delivered, ← logged]

theorem ofFiles_ok_iff {f : FileSystem → Except Failure α} {a : α} :
    ofFiles f before = (.ok a, after) ↔ after = before ∧ f after.files = .ok a := by
  rw [ofFiles, Prod.mk.injEq]
  exact ⟨fun ⟨ran, same⟩ => same ▸ ⟨rfl, ran⟩, fun ⟨same, ran⟩ => ⟨same ▸ ran, same.symm⟩⟩

theorem obtain_handed {downloader : Downloader μ} (hands : resolver.hands package before.files = true)
    (given : resolver.downloader? = some downloader) :
    resolver.obtain package before = (do
      handOver downloader package
      ofFiles (findIn · package resolver.roots)) before := by
  obtain ⟨-, missing, allowed, -⟩ := hands_iff.mp hands
  rw [obtain, run_bind, ofFiles, missing]
  simp [given, allowed]

theorem obtain_kept (own : package.noReference = false)
    (kept : resolver.hands package before.files = false) :
    resolver.obtain package before = (findIn before.files package resolver.roots, before) := by
  rw [obtain, run_bind, ofFiles]
  cases found : findIn before.files package resolver.roots with
  | error failure => rfl
  | ok answer =>
    cases answer with
    | some directory => rfl
    | none =>
      cases given : resolver.downloader? with
      | none => rfl
      | some downloader =>
        have missing := isMissing_iff.mpr found
        have suppressed : resolver.suppress = true := by
          simpa [hands, own, missing, given] using kept
        simp [suppressed]

theorem obtain_ok_iff {directory : Option Path} (own : package.noReference = false) :
    resolver.obtain package before = (.ok directory, after) ↔
      (resolver.hands package before.files = true → ∃ downloader,
        resolver.downloader? = some downloader ∧
        downloader package before.files before.memory = (.ok (), after.files, after.memory) ∧
        after.handed = package :: before.handed) ∧
      (resolver.hands package before.files = false → after = before) ∧
      findIn after.files package resolver.roots = .ok directory := by
  cases hands : resolver.hands package before.files with
  | true =>
    obtain ⟨-, -, -, downloader, given⟩ := hands_iff.mp hands
    -- the first look-up has found nothing, so it is the renewed one that counts
    rw [obtain_handed hands given]
    constructor
    · intro ran
      obtain ⟨done, middle, delivered, searched⟩ := run_ok ran
      obtain ⟨rfl, found⟩ := ofFiles_ok_iff.mp searched
      exact ⟨fun _ => ⟨downloader, given, handOver_ok_iff.mp delivered⟩, nofun, found⟩
    · rintro ⟨delivered, -, found⟩
      obtain ⟨other, same, delivered⟩ := delivered rfl
      obtain rfl := Option.some.inj (given.symm.trans same)
      rw [run_bind, handOver_ok_iff.mpr delivered]
      exact ofFiles_ok_iff.mpr ⟨rfl, found⟩
  | false =>
    rw [obtain_kept own hands, Prod.mk.injEq]
    constructor
    · rintro ⟨found, rfl⟩
      exact ⟨nofun, fun _ => rfl, found⟩
    · rintro ⟨-, kept, found⟩
      obtain rfl := kept rfl
      exact ⟨found, rfl⟩

/-- What comes of one package is a turn. -/
theorem librariesOf_ok_iff {found : List String} :
    resolver.librariesOf package before = (.ok found, after) ↔
      ∃ directory, resolver.Handles ⟨package, before, after, directory, found⟩ := by
  unfold librariesOf
  cases own : package.noReference with
  | true =>
    rw [if_pos rfl, run_pure, Prod.mk.injEq, Except.ok.injEq]
    have keeps : resolver.hands package before.files = false := by simp [hands, own]
    constructor
    · rintro ⟨rfl, rfl⟩
      refine ⟨none, ?_, fun _ => rfl, fun _ => rfl, ?_, fun _ => rfl, nofun⟩
      · exact fun hands => absurd (keeps.symm.trans hands) Bool.false_ne_true
      · exact fun other => absurd (other.symm.trans own) Bool.false_ne_true
    · rintro ⟨directory, handles⟩
      exact ⟨(handles.absent (handles.skipped own)).symm, (handles.kept keeps).symm⟩
  | false =>
    rw [if_neg Bool.false_ne_true]
    constructor
    · intro ran
      obtain ⟨directory, middle, obtained, listed⟩ := run_ok ran
      -- to list libraries changes nothing
      have same : after = middle := by
        cases directory with
        | none => exact (Prod.mk.inj listed).2.symm
        | some directory => exact (ofFiles_ok_iff.mp listed).1
      subst same
      obtain ⟨handed, kept, looked⟩ := (obtain_ok_iff own).mp obtained
      refine ⟨directory, handed, kept, ?_, fun _ => looked, ?_, ?_⟩
      · exact fun other => absurd (own.symm.trans other) Bool.false_ne_true
      · rintro rfl
        exact (Except.ok.inj (Prod.mk.inj listed).1).symm
      · rintro directory rfl
        exact (ofFiles_ok_iff.mp listed).2
    · rintro ⟨directory, handles⟩
      rw [run_bind, (obtain_ok_iff own).mpr ⟨handles.handed, handles.kept, handles.found own⟩]
      cases directory with
      | none => rw [← handles.absent rfl]; rfl
      | some directory => exact ofFiles_ok_iff.mpr ⟨rfl, handles.listed directory rfl⟩

/-! ### Runs -/

theorem mapM_ok_iff {packages : List PackageReference} {start finish : Progress μ}
    {lists : List (List String)} :
    packages.mapM resolver.librariesOf start = (.ok lists, finish) ↔
      ∃ turns, resolver.Turns packages start turns finish ∧ lists = turns.map Turn.libraries := by
  -- each package is met in the state that the ones before it have left
  induction packages generalizing start lists with
  | nil =>
    rw [List.mapM_nil, run_pure, Prod.mk.injEq, Except.ok.injEq]
    constructor
    · rintro ⟨rfl, rfl⟩
      exact ⟨[], ⟨rfl, rfl, nofun⟩, rfl⟩
    · rintro ⟨turns, ran, rfl⟩
      obtain rfl := List.map_eq_nil_iff.mp ran.packages
      exact ⟨rfl, ran.follow.symm⟩
  | cons package rest ih =>
    rw [List.mapM_cons]
    constructor
    · intro ran
      obtain ⟨found, middle, one, ran⟩ := run_ok ran
      obtain ⟨others, last, later, ran⟩ := run_ok ran
      obtain ⟨same, rfl⟩ := Prod.mk.inj ran
      obtain ⟨directory, handles⟩ := librariesOf_ok_iff.mp one
      obtain ⟨turns, taken, rfl⟩ := ih.mp later
      refine ⟨⟨package, start, middle, directory, found⟩ :: turns,
        ⟨?_, ⟨rfl, taken.follow⟩, ?_⟩, ?_⟩
      · rw [List.map_cons, taken.packages]
      · exact List.forall_mem_cons.mpr ⟨handles, taken.handled⟩
      · exact (Except.ok.inj same).symm
    · rintro ⟨turns, ran, rfl⟩
      obtain ⟨turn, later, rfl, rfl, rfl⟩ := List.map_eq_cons_iff.mp ran.packages
      obtain ⟨rfl, follow⟩ := ran.follow
      obtain ⟨handles, handled⟩ := List.forall_mem_cons.mp ran.handled
      rw [run_bind, librariesOf_ok_iff.mpr ⟨turn.directory, handles⟩]
      dsimp only
      rw [run_bind, ih.mpr ⟨later, ⟨rfl, follow, handled⟩, rfl⟩]
      rfl

theorem resolve_ok_iff {packages : List PackageReference} {start finish : Progress μ}
    {found : List String} : resolver.resolve packages start = (.ok found, finish) ↔
      ∃ turns, resolver.Turns packages start turns finish ∧
        found = firstOfEach some (turns.flatMap Turn.libraries) := by
  have gathered : ∀ turns : List (Turn μ), distinct (turns.map Turn.libraries).flatten =
      firstOfEach some (turns.flatMap Turn.libraries) := fun turns => by
    rw [← List.flatMap_def, distinct, keepFirst_eq_firstOfEach]
  constructor
  · intro ran
    obtain ⟨lists, last, each, ran⟩ := run_ok ran
    obtain ⟨same, rfl⟩ := Prod.mk.inj ran
    obtain ⟨turns, taken, rfl⟩ := mapM_ok_iff.mp each
    exact ⟨turns, taken, (Except.ok.inj same).symm.trans (gathered turns)⟩
  · rintro ⟨turns, taken, rfl⟩
    rw [resolve, run_bind, mapM_ok_iff.mpr ⟨turns, taken, rfl⟩, ← gathered]
    rfl

theorem Handles.handed_eq {turn : Turn μ} (handles : resolver.Handles turn) : turn.after.handed =
    if resolver.hands turn.package turn.before.files then turn.package :: turn.before.handed
    else turn.before.handed := by
  split
  · rename_i hands
    obtain ⟨downloader, -, -, logged⟩ := handles.handed hands
    exact logged
  · rename_i keeps
    rw [handles.kept (Bool.eq_false_iff.mpr keeps)]

theorem handed_of_follow {turns : List (Turn μ)} {start finish : Progress μ}
    (follow : Follow start turns finish) (handled : ∀ turn ∈ turns, resolver.Handles turn) :
    finish.handed.reverse = start.handed.reverse ++
      (turns.filter fun turn => resolver.hands turn.package turn.before.files).map Turn.package := by
  induction turns generalizing start with
  | nil =>
    obtain rfl := follow
    simp
  | cons turn rest ih =>
    obtain ⟨rfl, follow⟩ := follow
    obtain ⟨handles, handled⟩ := List.forall_mem_cons.mp handled
    rw [ih follow handled, handles.handed_eq, List.filter_cons]
    split <;> simp

theorem librariesOf_refused {downloader : Downloader μ} {mishap : Mishap} {files : FileSystem}
    {memory : μ} (hands : resolver.hands package before.files = true)
    (given : resolver.downloader? = some downloader)
    (refused : downloader package before.files before.memory = (.error mishap, files, memory)) :
    resolver.librariesOf package before =
      (.error (mishap.failure package), ⟨files, memory, package :: before.handed⟩) := by
  obtain ⟨own, -⟩ := hands_iff.mp hands
  rw [librariesOf, own, if_neg Bool.false_ne_true, run_bind, obtain_handed hands given, run_bind,
    handOver, refused]

/-- A failure at one package ends the run, whatever comes after it. -/
theorem resolve_stops {earlier later : List PackageReference} {start middle last : Progress μ}
    {turns : List (Turn μ)} {failure : Failure} (taken : resolver.Turns earlier start turns middle)
    (fails : resolver.librariesOf package middle = (.error failure, last)) :
    resolver.resolve (earlier ++ package :: later) start = (.error failure, last) := by
  rw [resolve, run_bind, List.mapM_append, run_bind, mapM_ok_iff.mpr ⟨turns, taken, rfl⟩]
  dsimp only
  rw [run_bind, List.mapM_cons, run_bind, fails]

end Resolver

/-! ### Deliveries -/

namespace PackageStore

open Resolver

variable {α β : Type}

/-- What can be fetched, by name, as a downloader that keeps nothing. -/
def deliver (deliveries : List (String × Delivery)) : Downloader Unit := fun package files memory =>
  match deliveries.find? (·.1 == package.name) with
  | none => (.ok (), files, memory)
  | some (_, .refuses) => (.error (.other .downloadRefused), files, memory)
  | some (_, .fails reason) => (.error (.system reason), files, memory)
  | some (_, .files paths) => (.ok (), paths.foldl (fun fs path =>
      fs.plant (Path.ofText path).names.reverse (.file .empty 1000000000 false)) files, memory)

def resolver (store : PackageStore) (suppress : Bool) : Resolver Unit :=
  ⟨store.roots, store.deliveries.map deliver, suppress⟩

/-- The files of a host and its list of fetched packages, worked on. -/
def onHost (x : Fetching Unit α) : Action α := fun host =>
  let (result, progress) := x ⟨host.files, (), host.fetched⟩
  (result, { host with files := progress.files, fetched := progress.handed })

theorem onHost_bind (x : Fetching Unit α) (f : α → Fetching Unit β) :
    onHost (x >>= f) = onHost x >>= fun a => onHost (f a) := by
  funext host
  rw [run_bind]
  unfold onHost
  rw [run_bind]
  obtain ⟨_ | a, progress⟩ := x ⟨host.files, (), host.fetched⟩ <;> rfl

theorem onHost_mapM (f : α → Fetching Unit β) (items : List α) :
    onHost (items.mapM f) = items.mapM fun item => onHost (f item) := by
  induction items with
  | nil => rfl
  | cons item rest ih =>
    rw [List.mapM_cons, List.mapM_cons, onHost_bind, ← ih]
    exact bind_congr fun first => onHost_bind (rest.mapM f) _

theorem onHost_handOver (deliveries : List (String × Delivery)) (package : PackageReference) :
    onHost (handOver (deliver deliveries) package) = fetch deliveries package := by
  funext host
  rw [fetch, run_bind]
  unfold onHost handOver deliver
  cases deliveries.find? (·.1 == package.name) with
  | none => rfl
  | some entry =>
    obtain ⟨name, delivery⟩ := entry
    cases delivery <;> rfl

variable (store : PackageStore) (suppress : Bool)

theorem obtain_eq_onHost (package : PackageReference) :
    store.obtain suppress package = onHost ((store.resolver suppress).obtain package) := by
  rw [obtain, Resolver.obtain, onHost_bind]
  refine bind_congr fun found => ?_
  obtain _ | directory := found
  · obtain ⟨roots, _ | deliveries⟩ := store
    · rfl
    · cases suppress with
      | true => rfl
      | false =>
        have handed := onHost_bind (handOver (deliver deliveries) package) fun _ =>
          ofFiles (findIn · package roots)
        rw [onHost_handOver] at handed
        exact handed.symm
  · rfl

theorem librariesOf_eq_onHost (package : PackageReference) :
    store.librariesOf suppress package = onHost ((store.resolver suppress).librariesOf package) := by
  rw [librariesOf, Resolver.librariesOf]
  split
  · rfl
  · rw [onHost_bind, obtain_eq_onHost]
    refine bind_congr fun found => ?_
    cases found <;> rfl

/-- Resolving from a store is resolving with its deliveries as the downloader. -/
theorem resolve_eq_onHost (packages : List PackageReference) :
    store.resolve suppress packages = onHost ((store.resolver suppress).resolve packages) := by
  rw [resolve, Resolver.resolve, onHost_bind, onHost_mapM,
    funext (librariesOf_eq_onHost store suppress)]
  rfl

end PackageStore

namespace Resolver

open PackageStore

variable {μ : Type}

/-- Packages that are resolved give the libraries of the directories that are found for them at their
turns, each once. Exactly the packages that are missing at their turn and may be fetched are handed to
the downloader, once and in their order, and what it does is there when they are looked for again and
for the packages after them. If the system refuses something to it, that is the package's failure and
nothing is done after it. Resolving from a store is an instance of this. -/
theorem resolve_with_downloader (resolver : Resolver μ) (packages : List PackageReference)
    (start finish : Progress μ) :
    (∀ found, resolver.resolve packages start = (.ok found, finish) ↔
      ∃ turns, resolver.Turns packages start turns finish ∧
        found = firstOfEach some (turns.flatMap Turn.libraries)) ∧
    (∀ turns, resolver.Turns packages start turns finish →
      finish.handed.reverse = start.handed.reverse ++
        (turns.filter fun turn => resolver.hands turn.package turn.before.files).map Turn.package) ∧
    (∀ earlier package later turns middle downloader reason files memory,
      packages = earlier ++ package :: later → resolver.Turns earlier start turns middle →
      resolver.hands package middle.files = true → resolver.downloader? = some downloader →
      downloader package middle.files middle.memory = (.error (.system reason), files, memory) →
      resolver.resolve packages start = (.error (.download package.name reason),
        ⟨files, memory, package :: middle.handed⟩)) ∧
    ∀ (store : PackageStore) (suppress : Bool),
      store.resolve suppress packages = onHost ((store.resolver suppress).resolve packages) := by
  refine ⟨fun found => resolve_ok_iff, ?logged, ?refused, fun store suppress =>
    resolve_eq_onHost store suppress packages⟩
  case logged =>
    exact fun turns taken => handed_of_follow taken.follow taken.handled
  case refused =>
    rintro earlier package later turns middle downloader reason files memory rfl taken hands given
      refused
    exact resolve_stops taken (librariesOf_refused hands given refused)

section

open FileSystem

/-- A shelf with a package that has a library. -/
def stocked : FileSystem where
  nodes := (shelf ["1.0"]).nodes ++ [(["lib", "1.0", "foo", "r"], .directory false),
    (["a.dll", "lib", "1.0", "foo", "r"], .file .empty 0 false)]
  workingDirectory := []

/-- A downloader that stocks the shelf, whatever it is handed, and counts how often it is asked. -/
def restock : Downloader Nat := fun _ _ count => (.ok (), stocked, count + 1)

/-- A downloader that finds the disk full. -/
def diskFull : Downloader Nat := fun _ files count => (.error (.system "disk full"), files, count + 1)

theorem findIn_empty : findIn (shelf []) foo [shelfRoot 0] = .ok none := by
  obtain ⟨top, folder, within⟩ := shelf_folder [] (by decide : 5 * 0 + 6 ≤ maxPathBytes)
  have none : (shelf []).namesIn ["foo", "r"] = [] := by decide +kernel
  rw [none] at within
  simp [findIn, versionsIn, listOrNone, offered, top, folder, within, foo, directoriesUntilFault]

theorem findIn_stocked : findIn stocked foo [shelfRoot 0] =
    .ok (some (inside (inside (shelfRoot 0) "foo") "1.0")) := by
  have top : stocked.list (shelfRoot 0).text = .ok ["foo"] := by decide +kernel
  have within : stocked.list (inside (shelfRoot 0) "foo").text = .ok ["1.0"] := by decide +kernel
  have folder : stocked.isDirectory (inside (shelfRoot 0) "foo").text = .ok true := by
    decide +kernel
  have version : stocked.isDirectory (inside (inside (shelfRoot 0) "foo") "1.0").text = .ok true := by
    decide +kernel
  have key : Package.VersionKey.ofText "1.0" = .ok ⟨[1, 0], true, ""⟩ := by decide +kernel
  simp [findIn_cons, versionsIn, listOrNone, offered, top, folder, within, version, foo, fitting,
    directoriesUntilFault, highest?, key, Package.sortDown]

theorem libraries_stocked : libraries stocked (inside (inside (shelfRoot 0) "foo") "1.0") =
    .ok ["/r/foo/1.0/lib/a.dll"] := by
  have lib : (inside (inside (shelfRoot 0) "foo") "1.0").child "lib" = Path.ofText "/r/foo/1.0/lib" := by
    decide +kernel
  have library : (inside (Path.ofText "/r/foo/1.0/lib") "a.dll").text = "/r/foo/1.0/lib/a.dll" := by
    decide +kernel
  have folder : stocked.isDirectory (Path.ofText "/r/foo/1.0/lib").text = .ok true := by
    decide +kernel
  have within : stocked.list (Path.ofText "/r/foo/1.0/lib").text = .ok ["a.dll"] := by decide +kernel
  have noFolder : stocked.isDirectory "/r/foo/1.0/lib/a.dll" = .ok false := by decide +kernel
  have isFile : stocked.isFile "/r/foo/1.0/lib/a.dll" = .ok true := by decide +kernel
  have suffix : (Text.lower (inside (Path.ofText "/r/foo/1.0/lib") "a.dll").suffix == ".dll") =
      true := by
    decide +kernel
  simp [libraries, lib, library, folder, within, noFolder, isFile, suffix, librariesIn,
    Package.sortFrameworks, Package.sortDown, List.filterM, List.filterAuxM, pure, Except.pure]

/-- A package that is needed twice is fetched once, and then found; with a full disk it fails, and the
other package is not looked at. -/
theorem resolve_stocks_once :
    resolve ⟨[shelfRoot 0], some restock, false⟩ [foo, foo] ⟨shelf [], 0, []⟩ =
        (.ok ["/r/foo/1.0/lib/a.dll"], ⟨stocked, 1, [foo]⟩) ∧
      resolve ⟨[shelfRoot 0], some diskFull, false⟩ [foo, bar] ⟨shelf [], 0, []⟩ =
        (.error (.download "foo" "disk full"), ⟨shelf [], 1, [foo]⟩) := by
  have hands : ∀ downloader : Downloader Nat,
      hands ⟨[shelfRoot 0], some downloader, false⟩ foo (shelf []) = true := fun downloader =>
    hands_iff.mpr ⟨rfl, findIn_empty, rfl, downloader, rfl⟩
  have keeps : Resolver.hands ⟨[shelfRoot 0], some restock, false⟩ foo stocked = false := by
    simp [Resolver.hands, isMissing, findIn_stocked]
  let directory := inside (inside (shelfRoot 0) "foo") "1.0"
  let first : Turn Nat := ⟨foo, ⟨shelf [], 0, []⟩, ⟨stocked, 1, [foo]⟩, some directory,
    ["/r/foo/1.0/lib/a.dll"]⟩
  let second : Turn Nat := { first with before := first.after }
  have found : ∀ other, first.directory = some other →
      libraries stocked other = .ok ["/r/foo/1.0/lib/a.dll"] := by
    rintro other same
    obtain rfl := Option.some.inj same
    exact libraries_stocked
  have turns : Turns ⟨[shelfRoot 0], some restock, false⟩ [foo, foo] ⟨shelf [], 0, []⟩
      [first, second] ⟨stocked, 1, [foo]⟩ := by
    refine ⟨rfl, ⟨rfl, rfl, rfl⟩, List.forall_mem_cons.mpr ⟨?first, List.forall_mem_singleton.mpr ?second⟩⟩
    case first =>
      exact ⟨fun _ => ⟨restock, rfl, rfl, rfl⟩, fun kept => absurd ((hands restock).symm.trans kept)
        (by decide), nofun, fun _ => findIn_stocked, nofun, found⟩
    case second =>
      exact ⟨fun handed => absurd (keeps.symm.trans handed) (by decide), fun _ => rfl, nofun,
        fun _ => findIn_stocked, nofun, found⟩
  have none : Turns ⟨[shelfRoot 0], some diskFull, false⟩ [] ⟨shelf [], 0, []⟩ [] ⟨shelf [], 0, []⟩ :=
    ⟨rfl, rfl, nofun⟩
  obtain ⟨returns, -⟩ := resolve_with_downloader ⟨[shelfRoot 0], some restock, false⟩
    [foo, foo] ⟨shelf [], 0, []⟩ ⟨stocked, 1, [foo]⟩
  obtain ⟨-, -, fails, -⟩ := resolve_with_downloader ⟨[shelfRoot 0], some diskFull, false⟩
    [foo, bar] ⟨shelf [], 0, []⟩ ⟨shelf [], 0, []⟩
  exact ⟨(returns _).mpr ⟨[first, second], turns, by decide⟩,
    fails [] foo [bar] [] _ diskFull "disk full" _ _ rfl none (hands diskFull) rfl rfl⟩

end

end Resolver

end ScriptDeps
